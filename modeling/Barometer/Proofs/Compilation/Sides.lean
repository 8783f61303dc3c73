import Barometer.Proofs.Compilation.StoredTexts

/-!
# The sides of equalities

An equality asks the same in either order of its operands, and so does an inequality, as long as
neither operand stands for a missing value, or both do. A missing value is looked for on the right
side only: there it asks whether the other operand is missing, while on the left side it makes the
outcome unknown.
-/

namespace Barometer

open Sql (Expr)
open Store (Affinity Value Truth Context Level Header Table)

namespace Store

/-- Whether two values are equal does not depend on their order. -/
theorem Value.orderOf_beq_eq_comm {α : Type} [DecidableEq α] [LT α] [DecidableLT α] (a b : α) :
    (Value.orderOf a b == .eq) = (Value.orderOf b a == .eq) := by
  have hne {a b : α} (h : a ≠ b) : (Value.orderOf a b == .eq) = false := by
    unfold Value.orderOf
    rw [if_neg h]
    split <;> rfl
  by_cases h : a = b
  · rw [h]
  · rw [hne h, hne (Ne.symm h)]

/-- Between an integer and a real it does not, either. -/
theorem Value.Point.compare_beq_eq_comm (p q : Point) :
    (p.compare q == .eq) = (q.compare p == .eq) := by
  cases p with
  | «at» n shift =>
    cases q with
    | «at» m other =>
      have hswap (a b : Int) : Ord.compare a b = (Ord.compare b a).swap := Std.OrientedCmp.eq_swap
      rw [Point.compare, Point.compare, hswap]
      cases Ord.compare (m * (Nat.pow 2 shift : Nat)) (n * (Nat.pow 2 other : Nat)) <;> rfl
    | below => rfl
    | above => rfl
  | below => cases q <;> rfl
  | above => cases q <;> rfl

theorem Value.compare_beq_eq_comm (v w : Value) : (v.compare w == .eq) = (w.compare v == .eq) := by
  rw [Value.compare, Value.compare]
  generalize v.key = k, w.key = l
  cases k with
  | null => cases l <;> rfl
  | number p =>
    cases l with
    | number q => exact p.compare_beq_eq_comm q
    | _ => rfl
  | text s =>
    cases l with
    | text t => exact Value.orderOf_beq_eq_comm s t
    | _ => rfl
  | blob s =>
    cases l with
    | blob t => exact Value.orderOf_beq_eq_comm s t
    | _ => rfl

/-- Two sides of a comparison are brought to one type, whichever stands first. -/
theorem Affinity.joint_comm (a b : Affinity) : a.joint b = b.joint a := by
  cases a <;> cases b <;> rfl

@[simp] theorem Affinity.convert_null (affinity : Affinity) : affinity.convert .null = .null := by
  cases affinity <;> rfl

/-- Nothing is known about a match with a missing pattern. -/
theorem likeTruth_null (negated : Bool) (value : Value) : likeTruth negated value .null = none := by
  unfold likeTruth
  cases value.lowered? <;> rfl

end Store

theorem Scalar.value_of_isAbsent {value : Scalar} (h : value.isAbsent = true) (ctx : Context) :
    value.value ctx = .null := by
  cases value with
  | null => rfl
  | text s =>
    rw [isAbsent, Option.isNone_iff_eq_none] at h
    rw [Scalar.value, h]
    rfl
  | _ => cases h

namespace Operand

variable {e : Operand}

/-- Columns and calculations are never absent, even where they have no value. -/
theorem exists_literal_of_isAbsent (h : e.isAbsent = true) :
    ∃ value : Scalar, e = .literal value ∧ value.isAbsent = true := by
  cases e with
  | literal value => exact ⟨value, rfl, h⟩
  | _ => cases h

theorem value_of_isAbsent (h : e.isAbsent = true) (ctx : Context) : e.value ctx = .null := by
  obtain ⟨value, rfl, hvalue⟩ := exists_literal_of_isAbsent h
  exact value.value_of_isAbsent hvalue ctx

/-- An absent side is a missing value as a pattern, too. -/
theorem pattern_of_isAbsent (h : e.isAbsent = true) (ctx : Context) : e.pattern ctx = .null := by
  obtain ⟨value, rfl, hvalue⟩ := exists_literal_of_isAbsent h
  have hform : value.canonicalText? = none := by
    cases value with
    | null => rfl
    | text s => exact Option.isNone_iff_eq_none.mp hvalue
    | _ => cases hvalue
  rw [pattern, hform]
  rfl

end Operand

namespace Comparison

variable {op : Comparison} {left right : Operand} {ctx : Context}

/-- An equality without wildcards can be turned around. -/
theorem plainTruth_comm (hop : op.isEquality = true) (left right : Operand) (ctx : Context) :
    op.plainTruth ctx left right = op.plainTruth ctx right left := by
  unfold plainTruth Sql.Relation.truth
  rw [Affinity.joint_comm]
  dsimp only
  generalize Affinity.convert _ (left.value ctx) = v, Affinity.convert _ (right.value ctx) = w
  have hadmits : op.relation.admits (v.compare w) = op.relation.admits (w.compare v) := by
    have hcompare := Value.compare_beq_eq_comm v w
    cases op with
    | eq => exact hcompare
    | ne => exact congrArg not hcompare
    | _ => cases hop
  rw [hadmits, Bool.or_comm]

/-- The side of the wildcard does not matter, unless there is one on either side. -/
theorem equalityTruth_comm (hop : op.isEquality = true)
    (hwildcard : ¬ (left.hasWildcard = true ∧ right.hasWildcard = true)) (ctx : Context) :
    op.equalityTruth ctx left right = op.equalityTruth ctx right left := by
  unfold equalityTruth
  cases hleft : left.hasWildcard with
  | true =>
    have hright : right.hasWildcard = false :=
      Bool.eq_false_iff.mpr fun hright ↦ hwildcard ⟨hleft, hright⟩
    simp only [hright, Bool.false_eq_true, if_false, if_true]
  | false =>
    cases hright : right.hasWildcard with
    | true => simp only [Bool.false_eq_true, if_false, if_true]
    | false => simp only [Bool.false_eq_true, if_false, plainTruth_comm hop left right]

/-- What is compared with a missing value is unknown. -/
theorem equalityTruth_of_isAbsent (hleft : left.isAbsent = true) :
    op.equalityTruth ctx left right = none := by
  have hvalue := Operand.value_of_isAbsent hleft ctx
  unfold equalityTruth
  split
  · rw [Operand.matchTruth, hvalue]
    rfl
  · split
    · rw [Operand.matchTruth, Operand.pattern_of_isAbsent hleft, Store.likeTruth_null]
    · unfold plainTruth
      rw [hvalue]
      exact congrArg (op.relation.truth · _) (Affinity.convert_null _)

theorem truth_of_isEquality (hop : op.isEquality = true) (hright : right.isAbsent = false) :
    op.truth ctx left right = op.equalityTruth ctx left right := by
  unfold truth
  rw [if_neg (by simp [hright])]
  cases op <;> first | rfl | cases hop

/-- An equality with an absent right side is a test, and so never unknown. -/
theorem truth_of_isAbsent (hright : right.isAbsent = true) :
    op.truth ctx left right = some ((left.value ctx).isNull == (op == .eq)) := by
  unfold truth
  rw [if_pos hright]
  cases op <;> cases (left.value ctx).isNull <;> rfl

/-- Operands of which both are missing, or none, can change sides. -/
theorem truth_comm (hop : op.isEquality = true)
    (hwildcard : ¬ (left.hasWildcard = true ∧ right.hasWildcard = true))
    (habsent : left.isAbsent = right.isAbsent) (ctx : Context) :
    op.truth ctx left right = op.truth ctx right left := by
  cases hright : right.isAbsent with
  | true =>
    rw [hright] at habsent
    rw [truth_of_isAbsent hright, truth_of_isAbsent habsent,
      Operand.value_of_isAbsent hright, Operand.value_of_isAbsent habsent]
  | false =>
    rw [hright] at habsent
    rw [truth_of_isEquality hop hright, truth_of_isEquality hop habsent,
      equalityTruth_comm hop hwildcard]

end Comparison

namespace Sql.Expr

theorem isAdmitted_compare (headers : List Header) (relation : Sql.Relation) (left right : Expr) :
    (compare relation left right).isAdmitted headers =
      (left.isAdmitted headers && right.isAdmitted headers) := by
  simp only [isAdmitted, isScalar, readings, List.all_append]
  ac_rfl

theorem isAdmitted_like (headers : List Header) (operand pattern : Expr) (negated : Bool) :
    (like operand pattern negated).isAdmitted headers =
      (operand.isAdmitted headers && pattern.isAdmitted headers) := by
  simp only [isAdmitted, isScalar, readings, List.all_append]
  ac_rfl

end Sql.Expr

namespace Operand

variable {e : Operand}

theorem isAdmitted_of_isAbsent (h : e.isAbsent = true) (headers : List Header) :
    e.toSql.isAdmitted headers = true := by
  obtain ⟨value, rfl, hvalue⟩ := exists_literal_of_isAbsent h
  cases value with
  | null => rfl
  | text s =>
    obtain ⟨v, htext, hreading⟩ := Scalar.toSql_text s
    have hsql : Operand.toSql (.literal (.text s)) = .literal v := htext
    simp [hsql, Expr.isAdmitted, Expr.isScalar, Expr.readings, hreading]
  | _ => cases hvalue

/-- A text with a wildcard is the same as a pattern. -/
theorem toPattern_of_hasWildcard (h : e.hasWildcard = true) : e.toPattern = e.toSql := by
  cases e with
  | literal value =>
    cases value with
    | text s => exact toPattern_text s
    | _ => cases h
  | _ => cases h

end Operand

/-- An equality is admitted where both operands are, in whatever way it is compiled. -/
theorem Comparison.isAdmitted_toSql_of_isEquality {op : Comparison} (hop : op.isEquality = true)
    (left right : Operand) (headers : List Header) :
    (op.toSql left right).isAdmitted headers =
      (left.toSql.isAdmitted headers && right.toSql.isAdmitted headers) := by
  have hlike : op ≠ .like ∧ op ≠ .notLike := by
    cases op <;> first | exact ⟨by decide, by decide⟩ | cases hop
  unfold toSql
  split
  · rename_i habsent
    rw [Operand.isAdmitted_of_isAbsent habsent, Bool.and_true]
    rfl
  · split
    · exact absurd rfl hlike.1
    · exact absurd rfl hlike.2
    · rw [hop, Bool.true_and, Bool.true_and]
      split
      · rename_i hright
        rw [Sql.Expr.isAdmitted_like, Operand.toPattern_of_hasWildcard hright]
      · split
        · rename_i hleft
          rw [Sql.Expr.isAdmitted_like, Operand.toPattern_of_hasWildcard hleft, Bool.and_comm]
        · rw [Sql.Expr.isAdmitted_compare]

/-- The names of equalities and of inequalities. -/
def equalities : List (String × Comparison) :=
  [("=", .eq), ("==", .eq), ("!=", .ne), ("<>", .ne)]

/-- The signs of equalities are read as such, and not as junctions. -/
theorem equalities_sound {sign : String} {op : Comparison} (h : (sign, op) ∈ equalities) :
    Condition.junctionOfKey? sign = none ∧ Comparison.ofName? sign = some op ∧
      op.isEquality = true := by
  have hall : ∀ entry ∈ equalities, Condition.junctionOfKey? entry.1 = none ∧
      Comparison.ofName? entry.1 = some entry.2 ∧ entry.2.isEquality = true := by
    decide
  have hentry := hall (sign, op) h
  exact hentry

/-- Two operands, at most one of which has a wildcard, are compared alike in either order if both
are missing or none is: what compares them is admitted under the same names, and it has the same
value on every row. If one of the two is missing, the comparison with it on the left is unknown, and
that with it on the right says whether the other operand is missing. -/
theorem equality_sides {left right : Json} {a b : Operand} (hleft : Operand.read left = .ok a)
    (hright : Operand.read right = .ok b)
    (hwildcard : ¬ (a.hasWildcard = true ∧ b.hasWildcard = true)) {sign : String}
    {op : Comparison} (hsign : (sign, op) ∈ equalities) :
    ∃ forth back, Condition.read (pairNode sign left right) = .ok forth ∧
      Condition.read (pairNode sign right left) = .ok back ∧
      (∀ headers, forth.toSql.isAdmitted headers = back.toSql.isAdmitted headers) ∧
      (a.isAbsent = b.isAbsent → ∀ ctx, forth.toSql.value ctx = back.toSql.value ctx) ∧
      (a.isAbsent = true → b.isAbsent = false → ∀ ctx,
        forth.toSql.value ctx = .null ∧
          back.toSql.value ctx = .ofBool ((b.toSql.value ctx).isNull == (op == .eq))) := by
  obtain ⟨hkey, hname, hop⟩ := equalities_sound hsign
  refine ⟨_, _, Condition.read_pairNode hkey hname hleft hright,
    Condition.read_pairNode hkey hname hright hleft, fun headers ↦ ?_, fun habsent ctx ↦ ?_,
    fun ha hb ctx ↦ ⟨?_, ?_⟩⟩
  · rw [Condition.toSql, Condition.toSql, Comparison.isAdmitted_toSql_of_isEquality hop,
      Comparison.isAdmitted_toSql_of_isEquality hop, Bool.and_comm]
  · rw [Condition.value_toSql, Condition.value_toSql]
    exact congrArg Value.ofTruth (Comparison.truth_comm hop hwildcard habsent ctx)
  · rw [Condition.value_toSql, Condition.truth, Comparison.truth_of_isEquality hop hb,
      Comparison.equalityTruth_of_isAbsent ha]
    rfl
  · rw [Condition.value_toSql, Condition.truth, Comparison.truth_of_isAbsent ha,
      Operand.value_toSql]
    rfl

namespace Origins

/-- Students, one of them of an unknown country. -/
def students : Table where
  name := "etudiants"
  columns := ["id", "pays"]
  rows := [[.int 1, .text "france"], [.int 2, .null]]

/-- The second student at work. -/
def unknown : Context := [students.level [] [] [.int 2, .null] 2 []]

theorem read_pays : Operand.read (columnNode "pays") = .ok (.column "pays") :=
  (Operand.read_columnNode "pays").trans
    (if_neg (Bool.eq_false_iff.mp (isBlankName_of_letter (by decide))))

theorem read_france : Operand.read (.string "%france%") = .ok (.literal (.text "%france%")) :=
  Operand.read_of_ofJson? rfl

theorem isAbsent_france : Expression.isAbsent (.literal (.text "%france%") : Operand) = false := by
  have hform : Text.Canonical.text? "%france%" = some "%france%" :=
    Text.Canonical.text?_of_isPlain (by decide) (by decide) (by decide)
  rw [Expression.isAbsent, Scalar.isAbsent, hform]
  rfl

theorem read_null : Operand.read .null = .ok (.literal .null) :=
  Operand.read_of_ofJson? rfl

/-- A match with a wildcard in either order, and a country that is missing. -/
theorem equality_sides_origins :
    (∃ forth back,
      Condition.read (pairNode "!=" (columnNode "pays") (.string "%france%")) = .ok forth ∧
      Condition.read (pairNode "!=" (.string "%france%") (columnNode "pays")) = .ok back ∧
      ∀ ctx, forth.toSql.value ctx = back.toSql.value ctx) ∧
    ∃ forth back,
      Condition.read (pairNode "=" .null (columnNode "pays")) = .ok forth ∧
      Condition.read (pairNode "=" (columnNode "pays") .null) = .ok back ∧
      forth.toSql.value unknown = .null ∧ back.toSql.value unknown = .ofBool true := by
  refine ⟨?_, ?_⟩
  · obtain ⟨forth, back, hforth, hback, -, hsame, -⟩ :=
      equality_sides read_pays read_france (by decide)
        (by decide : ("!=", Comparison.ne) ∈ equalities)
    exact ⟨forth, back, hforth, hback, hsame isAbsent_france.symm⟩
  · obtain ⟨forth, back, hforth, hback, -, -, hmissing⟩ :=
      equality_sides read_null read_pays (by decide) (by decide : ("=", Comparison.eq) ∈ equalities)
    obtain ⟨hunknown, hnull⟩ := hmissing rfl rfl unknown
    have hcell : ((Operand.toSql (.column "pays")).value unknown).isNull = true := by
      decide
    rw [hcell] at hnull
    exact ⟨forth, back, hforth, hback, hunknown, hnull⟩

/-- A missing value on the left side finds nobody, and on the right side the second student. -/
theorem not_equality_sides :
    ¬ ∀ (left right : Json) (a b : Operand), Operand.read left = .ok a →
      Operand.read right = .ok b → ¬ (a.hasWildcard = true ∧ b.hasWildcard = true) →
      ∀ (sign : String) (op : Comparison), (sign, op) ∈ equalities →
      ∃ forth back, Condition.read (pairNode sign left right) = .ok forth ∧
        Condition.read (pairNode sign right left) = .ok back ∧
        ∀ ctx, forth.toSql.holds ctx = back.toSql.holds ctx := by
  intro hall
  have hsign : ("=", Comparison.eq) ∈ equalities := by decide
  obtain ⟨forth, back, hforth, hback, hsame⟩ :=
    hall _ _ _ _ read_null read_pays (by decide) "=" .eq hsign
  obtain ⟨hkey, hname, -⟩ := equalities_sound hsign
  cases hforth.symm.trans (Condition.read_pairNode hkey hname read_null read_pays)
  cases hback.symm.trans (Condition.read_pairNode hkey hname read_pays read_null)
  have hpays : (Condition.compare .eq (.literal .null) (.column "pays")).toSql.holds unknown =
      false := by
    decide
  have hnull : (Condition.compare .eq (.column "pays") (.literal .null)).toSql.holds unknown =
      true := by
    decide
  exact absurd (hpays.symm.trans ((hsame unknown).trans hnull)) (by decide)

end Origins

end Barometer
