import Barometer.Proofs.Compilation.StoredTexts
import Barometer.Proofs.Store.Outcomes

/-!
# Matches and the case of letters

The text of a cell is lowered before it is matched, and the pattern is not: literals are in lower
case already, but a column or a calculation may be a pattern too. So the outcome of a match is that
of a match without regard to case, except that a pattern with a capital outside of ASCII matches
nothing, not even its own text.
-/

namespace Barometer

open Sql (Expr)
open Store (Context Value)

namespace Expression

mutual

/-- Whether all texts that an operand joins on a row can be joined before or after they are
lowered. -/
def JoinsPlainly (ctx : Context) : Operand → Prop
  | .literal _ => True
  | .column _ => True
  | .operation op args =>
    (op = .concat → ∀ v ∈ values Empty.elim ctx args, v.JoinsPlainly) ∧ AllJoinPlainly ctx args
  | .aggregate _ => True

def AllJoinPlainly (ctx : Context) : List Operand → Prop
  | [] => True
  | arg :: rest => JoinsPlainly ctx arg ∧ AllJoinPlainly ctx rest

end

end Expression

variable {ctx ctx' : Context}

/-- The name of a truth value may be that of a column. -/
theorem Scalar.recased_value (h : ctx.Lowered ctx') (value : Scalar) :
    Value.Recased (value.value ctx) (value.value ctx') := by
  cases value with
  | bool b => exact h.lookup _
  | _ => exact .refl _

namespace Expression

mutual

/-- Where texts can be joined before or after they are lowered, values differ in case at most. -/
theorem recased_value (h : ctx.Lowered ctx') (e : Operand) (he : e.JoinsPlainly ctx) :
    Value.Recased (value Empty.elim ctx e) (value Empty.elim ctx' e) := by
  cases e with
  | literal value => exact value.recased_value h
  | column name => exact h.read _
  | operation op args =>
    rw [JoinsPlainly] at he
    exact .operateAll (recased_values h args he.2) he.1
  | aggregate a => exact a.elim

theorem recased_values (h : ctx.Lowered ctx') (args : List Operand)
    (hargs : AllJoinPlainly ctx args) :
    List.Forall₂ Value.Recased (values Empty.elim ctx args) (values Empty.elim ctx' args) := by
  cases args with
  | nil => exact .nil
  | cons arg rest =>
    rw [AllJoinPlainly] at hargs
    exact .cons (recased_value h arg hargs.1) (recased_values h rest hargs.2)

end

end Expression

namespace Operand

variable {e : Operand}

/-- So do the values of patterns. -/
theorem recased_pattern (h : ctx.Lowered ctx') (he : Expression.JoinsPlainly ctx e) :
    Value.Recased (e.pattern ctx) (e.pattern ctx') := by
  cases e with
  | literal value => exact .refl _
  | column name => exact Expression.recased_value h (.column name) he
  | operation op args => exact Expression.recased_value h (.operation op args) he
  | aggregate a => exact a.elim

/-- A pattern that is written as a literal is in lower case. -/
theorem not_hasCapital_pattern {v : Sql.Literal} (h : e.toPattern = .literal v) (ctx : Context) :
    ¬ (e.pattern ctx).HasCapital := by
  cases e with
  | literal value =>
    rw [pattern]
    cases hform : value.canonicalText? with
    | none =>
      rintro ⟨p, hp, -⟩
      cases hp
    | some form => exact Store.not_hasCapital_of_lower_eq (Scalar.lower_of_canonicalText? hform)
  | column name => cases h
  | operation op args => cases h
  | aggregate a => exact a.elim

/-- Only a literal has a wildcard, and its pattern is a literal again. -/
theorem exists_literal_of_hasWildcard (h : e.hasWildcard = true) :
    ∃ v : Sql.Literal, e.toPattern = .literal v := by
  cases e with
  | literal value =>
    cases value with
    | text s =>
      obtain ⟨v, htext, -⟩ := Scalar.toSql_text s
      exact ⟨v, (toPattern_text s).trans htext⟩
    | _ => cases h
  | _ => cases h

end Operand

namespace Comparison

variable {op : Comparison} {left right : Operand}

/-- A match takes one of the two operands as its pattern; for an equality this is a text with a
wildcard. -/
theorem exists_of_toSql_eq_like {operand pattern : Expr} {negated : Bool}
    (h : op.toSql left right = .like operand pattern negated) :
    ∃ e p : Operand, operand = e.toSql ∧ pattern = p.toPattern ∧
      (e = left ∧ p = right ∨ e = right ∧ p = left) ∧
        (op.isEquality = true → p.hasWildcard = true) := by
  unfold toSql at h
  split at h
  · cases h
  · split at h
    · cases h
      exact ⟨left, right, rfl, rfl, .inl ⟨rfl, rfl⟩, nofun⟩
    · cases h
      exact ⟨left, right, rfl, rfl, .inl ⟨rfl, rfl⟩, nofun⟩
    · split at h
      · rename_i hright
        cases h
        exact ⟨left, right, rfl, rfl, .inl ⟨rfl, rfl⟩, fun _ ↦ (Bool.and_eq_true_iff.mp hright).2⟩
      · split at h
        · rename_i hleft
          cases h
          exact ⟨right, left, rfl, rfl, .inr ⟨rfl, rfl⟩, fun _ ↦ (Bool.and_eq_true_iff.mp hleft).2⟩
        · cases h

/-- A column matches itself on a row exactly if its text has no capital of its own. -/
theorem value_like_self {column t : String} (h : ctx.read (.ofColumn none column) = .text t) :
    (like.toSql (.column column) (.column column)).value ctx = .ofBool true ↔
      ¬ Store.Pattern.HasCapital t := by
  have htruth : like.truth ctx (.column column) (.column column) =
      Store.likeTruth false (.text t) (.text t) := by
    rw [← h]
    rfl
  rw [value_toSql, htruth, ← Store.likeTruth_self_iff]
  exact Value.ofTruth_eq_ofBool_iff

end Comparison

/-- Whatever cells are lowered, as long as the texts that are joined hold no capital sigma: the
outcome of a match without regard to case stays as it is, and a match has this outcome unless it
holds and the pattern has a capital outside of ASCII. Patterns that are written as literals have
none, and so have the texts with a wildcard that make an equality a match. A match with a missing
value asks whether the operand is missing. A text matches itself exactly if it has no such
capital. -/
theorem matches_in_another_case (hcells : ctx.Lowered ctx') {left right : Operand}
    (hleft : left.JoinsPlainly ctx) (hright : right.JoinsPlainly ctx) (op : Comparison) :
    (right.isAbsent = true →
      (op.toSql left right).value ctx' = (op.toSql left right).value ctx) ∧
    (∀ operand pattern negated, op.toSql left right = .like operand pattern negated →
      let holds := Store.caselessTruth false (operand.value ctx) (pattern.value ctx) = some true
      Store.caselessTruth negated (operand.value ctx') (pattern.value ctx') =
          Store.caselessTruth negated (operand.value ctx) (pattern.value ctx) ∧
        ((op.toSql left right).value ctx =
            .ofTruth (Store.caselessTruth negated (operand.value ctx) (pattern.value ctx)) ↔
          (holds → ¬ (pattern.value ctx).HasCapital)) ∧
        ((op.toSql left right).value ctx' = (op.toSql left right).value ctx ↔
          (holds → ((pattern.value ctx).HasCapital ↔ (pattern.value ctx').HasCapital))) ∧
        (op.isEquality = true ∨ (∃ v, pattern = .literal v) →
          ¬ (pattern.value ctx).HasCapital ∧ ¬ (pattern.value ctx').HasCapital)) ∧
    ∀ column, isBlankName column = false →
      ∃ condition,
        Condition.read (pairNode "like" (columnNode column) (columnNode column)) = .ok condition ∧
          ∀ ctx t, Context.read ctx (.ofColumn none column) = .text t →
            (condition.toSql.value ctx = .ofBool true ↔ ¬ Store.Pattern.HasCapital t) := by
  refine ⟨fun habsent ↦ ?_, fun operand pattern negated h ↦ ?_, fun column hblank ↦ ?_⟩
  · have hnull := (Expression.recased_value hcells left hleft).isNull
    have hsql : op.toSql left right = .isNull left.toSql (op != .eq) := if_pos habsent
    rw [hsql, Expr.value, Expr.value, Operand.value_toSql, Operand.value_toSql, Operand.value,
      Operand.value, hnull]
  · obtain ⟨e, p, rfl, rfl, hsides, hwildcard⟩ := Comparison.exists_of_toSql_eq_like h
    have hboth : e.JoinsPlainly ctx ∧ p.JoinsPlainly ctx := by
      rcases hsides with ⟨rfl, rfl⟩ | ⟨rfl, rfl⟩
      · exact ⟨hleft, hright⟩
      · exact ⟨hright, hleft⟩
    have hvalue : Value.Recased (e.value ctx) (e.value ctx') :=
      Expression.recased_value hcells e hboth.1
    have hpattern := Operand.recased_pattern hcells hboth.2
    simp only [h, Operand.value_like, Operand.matchTruth, Operand.value_toSql,
      Operand.value_toPattern, Value.ofTruth_inj]
    refine ⟨Store.caselessTruth_recased hvalue hpattern negated,
      Store.likeTruth_eq_caselessTruth_iff, Store.likeTruth_recased_iff hvalue hpattern,
      fun hliteral ↦ ?_⟩
    obtain ⟨v, hv⟩ : ∃ v, p.toPattern = .literal v :=
      hliteral.elim (fun hop ↦ Operand.exists_literal_of_hasWildcard (hwildcard hop)) id
    exact ⟨Operand.not_hasCapital_pattern hv ctx, Operand.not_hasCapital_pattern hv ctx'⟩
  · have hcolumn : Operand.read (columnNode column) = .ok (.column column) :=
      (Operand.read_columnNode column).trans (if_neg (by simp [hblank]))
    exact ⟨_, Condition.read_likeNode hcolumn hcolumn, fun ctx t ht ↦
      Comparison.value_like_self ht⟩

namespace Places

open Store (Level Row Table)

def street : Row := [.text "Rue", .text "ROYALE", .text "Rue%"]

def accented : Row := [.text "Rue", .text "É", .text "%"]

/-- Two parts of the name of a place, and a pattern for it. -/
def places : Table where
  name := "lieux"
  columns := ["type", "nom", "motif"]
  rows := [street, accented]

/-- A row of places at work. -/
def onRow (row : Row) : Context := [{ header := places.header, group := [], row }]

theorem lowered_onRow (row : Row) : (onRow row).Lowered (onRow (row.map Value.inLowerCase)) := by
  refine .cons ⟨rfl, fun i ↦ ?_⟩ .nil
  simp only [List.getD_eq_getElem?_getD, List.getElem?_map]
  cases row[i]? with
  | none => exact .inl rfl
  | some v => exact .inr rfl

def address : Operand := .operation .concat [.column "type", .column "nom"]

/-- The parts of an address can be joined before or after they are lowered. -/
theorem joinsPlainly_address : Expression.JoinsPlainly (onRow street) address := by
  have hvalues : Expression.values Empty.elim (onRow street) [.column "type", .column "nom"] =
      [.text "Rue", .text "ROYALE"] := rfl
  refine ⟨fun _ v hv ↦ ?_, trivial, trivial, trivial⟩
  rw [hvalues] at hv
  have hsigma : ∀ s ∈ ["Rue", "ROYALE"], 'Σ' ∉ s.toList := by decide
  rcases List.mem_cons.mp hv with rfl | hv
  · exact ⟨fun octets ↦ nofun, fun s hs ↦ Option.some.inj hs ▸ hsigma "Rue" (by decide)⟩
  · rw [List.mem_singleton.mp hv]
    exact ⟨fun octets ↦ nofun, fun s hs ↦ Option.some.inj hs ▸ hsigma "ROYALE" (by decide)⟩

/-- A pattern whose letters are all in ASCII finds the same address in either case. -/
theorem matches_in_another_case_places :
    (Comparison.like.toSql address (.column "motif")).value (onRow (street.map Value.inLowerCase)) =
      (Comparison.like.toSql address (.column "motif")).value (onRow street) := by
  have hmotif : Expression.JoinsPlainly (onRow street) (.column "motif") := trivial
  obtain ⟨-, hmatches, -⟩ :=
    matches_in_another_case (lowered_onRow street) joinsPlainly_address hmotif .like
  obtain ⟨-, -, hsame, -⟩ := hmatches _ _ _ rfl
  have hpattern : ¬ Value.HasCapital (.text "Rue%") := by
    rintro ⟨p, hp, c, hc, hcapital⟩
    cases hp
    have hascii : ∀ c ∈ Store.Pattern.visible "Rue%", c.toNat < 128 :=
      List.all_iff_forall_prop.mp (by decide)
    exact hcapital (.inl (hascii c hc))
  have hlower : ¬ Value.HasCapital (.text (Text.lower "Rue%")) :=
    Store.not_hasCapital_of_lower_eq (Text.lower_lower _)
  exact hsame.mpr fun _ ↦ iff_of_false hpattern hlower

/-- A letter with an accent matches itself in lower case only. -/
theorem not_matches_in_another_case :
    (¬ ∀ (op : Comparison) (left right : Operand) (ctx ctx' : Context), ctx.Lowered ctx' →
      ∀ operand pattern negated, op.toSql left right = .like operand pattern negated →
        (op.toSql left right).value ctx' = (op.toSql left right).value ctx) ∧
    ¬ ∀ (column : String) (ctx : Context) (t : String),
      Context.read ctx (.ofColumn none column) = .text t →
        (Comparison.like.toSql (.column column) (.column column)).value ctx = .ofBool true := by
  have hcapital : (Comparison.like.toSql (.column "nom") (.column "nom")).holds (onRow accented) =
      false := by
    decide +kernel
  have hnot : (Comparison.like.toSql (.column "nom") (.column "nom")).value (onRow accented) ≠
      .ofBool true := by
    intro h
    rw [Expr.holds, h] at hcapital
    cases hcapital
  refine ⟨fun hall ↦ hnot ?_, fun hall ↦ hnot (hall "nom" (onRow accented) "É" rfl)⟩
  have hsame := hall .like (.column "nom") (.column "nom") _ _ (lowered_onRow accented) _ _ _ rfl
  rw [← hsame, Comparison.value_like_self (t := Text.lower "É") rfl]
  intro h
  exact Store.not_hasCapital_of_lower_eq (Text.lower_lower "É") ⟨_, rfl, h⟩

end Places

end Barometer
