import Barometer.Proofs.Compilation.StoredTexts
import Barometer.Proofs.Sql.Comparisons
import Barometer.Proofs.Text.Signs

/-!
# Wildcards in equalities

An equality with a wildcard in one of its texts is compiled to a pattern match. Wildcards are looked
for in the text as it is written, and what is compiled is its canonical form. So an equality that
compares with a wildcard comes from a text that has none, but gets one in compatibility form, and
from no other.
-/

namespace Barometer

open Sql (Expr Compared)

/-- Only texts are compiled to texts. -/
theorem Scalar.toSql_eq_text_iff {value : Scalar} {form : String} :
    value.toSql = .literal (.text form) ↔
      ∃ s, value = .text s ∧ Text.Canonical.text? s = some form := by
  cases value with
  | text s =>
    rw [toSql]
    cases htext : Text.Canonical.text? s with
    | none => simp [htext]
    | some other => simp [htext, textExpr]
  | real x =>
    rw [toSql]
    split <;> simp
  | _ => simp [toSql]

namespace Operand

/-- Whether an operand is a text that has a wildcard in its compatibility form. -/
def MeansWildcard (e : Operand) : Prop :=
  ∃ s, e = .literal (.text s) ∧ '%' ∈ Text.Compatibility.normalForm s.toList

/-- Of all operands only texts are compiled to texts. -/
theorem toSql_eq_text_iff {e : Operand} {form : String} :
    e.toSql = .literal (.text form) ↔
      ∃ s, e = .literal (.text s) ∧ Text.Canonical.text? s = some form := by
  cases e with
  | literal value =>
    rw [toSql, Expression.toSql, Scalar.toSql_eq_text_iff]
    simp
  | column name => simp [toSql, Expression.toSql, columnExpr]
  | operation op args => simp [toSql, Expression.toSql]
  | aggregate a => exact a.elim

/-- What a side means is told by its compiled literal. -/
theorem meansWildcard_iff {e : Operand} :
    e.MeansWildcard ↔ ∃ form, e.toSql = .literal (.text form) ∧ '%' ∈ form.toList := by
  constructor
  · rintro ⟨s, rfl, hwildcard⟩
    obtain ⟨form, hform⟩ := Text.Canonical.exists_text?_of_wildcard_mem hwildcard
    exact ⟨form, toSql_eq_text_iff.mpr ⟨s, rfl, hform⟩,
      (Text.Canonical.wildcard_mem_iff hform).mpr hwildcard⟩
  · rintro ⟨form, htext, hwildcard⟩
    obtain ⟨s, rfl, hform⟩ := toSql_eq_text_iff.mp htext
    exact ⟨s, rfl, (Text.Canonical.wildcard_mem_iff hform).mp hwildcard⟩

end Operand

namespace Expression

variable {α : Type}

mutual

theorem comparisons_toSql {leaf : α → Expr} (hleaf : ∀ a, (leaf a).comparisons = [])
    (e : Expression α) : (toSql leaf e).comparisons = [] := by
  cases e with
  | literal value =>
    rw [toSql]
    cases value with
    | text s =>
      rw [Scalar.toSql]
      cases Text.Canonical.text? s <;> rfl
    | _ => rfl
  | column name => rfl
  | operation op args => exact comparisonsAll_toSqlAll hleaf args
  | aggregate a => exact hleaf a

theorem comparisonsAll_toSqlAll {leaf : α → Expr} (hleaf : ∀ a, (leaf a).comparisons = [])
    (args : List (Expression α)) : Expr.comparisonsAll (toSqlAll leaf args) = [] := by
  cases args with
  | nil => rfl
  | cons arg rest =>
    rw [toSqlAll, Expr.comparisonsAll, comparisons_toSql hleaf arg,
      comparisonsAll_toSqlAll hleaf rest]
    rfl

end

end Expression

namespace Operand

theorem comparisons_toSql (e : Operand) : e.toSql.comparisons = [] :=
  Expression.comparisons_toSql (fun a ↦ a.elim) e

theorem comparisons_toPattern (e : Operand) : e.toPattern.comparisons = [] := by
  cases e with
  | literal value =>
    rw [toPattern]
    cases value.canonicalText? with
    | none => exact comparisons_toSql (.literal value)
    | some form => rfl
  | column name => rfl
  | operation op args => exact comparisons_toSql (.operation op args)
  | aggregate a => exact a.elim

end Operand

/-- A comparison of an indicator, with its operands. -/
structure OperandComparison where
  op : Comparison
  left : Operand
  right : Operand

namespace OperandComparison

/-- Whether a comparison stays one: its right operand is present, and it is neither a pattern match
nor an equality with a wildcard in a text as it is written. -/
structure IsPlain (c : OperandComparison) : Prop where
  present : c.right.isAbsent = false
  ne_like : c.op ≠ .like
  ne_notLike : c.op ≠ .notLike
  unseen : c.op.isEquality = true → c.left.hasWildcard = false ∧ c.right.hasWildcard = false

/-- What a comparison is compiled to. -/
def compared (c : OperandComparison) : Compared where
  relation := c.op.relation
  left := c.left.toSql
  right := c.right.toSql

/-- A compiled comparison compares its sides, unless it is written as a match or as a test. -/
theorem mem_comparisons_iff {c : OperandComparison} {d : Compared} :
    d ∈ (c.op.toSql c.left c.right).comparisons ↔ c.IsPlain ∧ d = c.compared := by
  have hnot {e : Expr} (hcomparisons : e.comparisons = []) (hplain : ¬ c.IsPlain) :
      d ∈ e.comparisons ↔ c.IsPlain ∧ d = c.compared := by
    rw [hcomparisons]
    exact ⟨fun h ↦ absurd h List.not_mem_nil, fun h ↦ absurd h.1 hplain⟩
  have hmatch (a b : Operand) (negated : Bool) :
      (Expr.like a.toSql b.toPattern negated).comparisons = [] := by
    rw [Expr.comparisons, a.comparisons_toSql, b.comparisons_toPattern]
    rfl
  unfold Comparison.toSql
  split
  · rename_i habsent
    refine hnot c.left.comparisons_toSql fun hplain ↦ ?_
    rw [hplain.present] at habsent
    cases habsent
  · rename_i hpresent
    split
    · rename_i hop
      exact hnot (hmatch _ _ _) fun hplain ↦ hplain.ne_like hop
    · rename_i hop
      exact hnot (hmatch _ _ _) fun hplain ↦ hplain.ne_notLike hop
    · rename_i hlike hnotLike
      split
      · rename_i hright
        rw [Bool.and_eq_true] at hright
        refine hnot (hmatch _ _ _) fun hplain ↦ ?_
        rw [(hplain.unseen hright.1).2] at hright
        cases hright.2
      · rename_i hright
        split
        · rename_i hleft
          rw [Bool.and_eq_true] at hleft
          refine hnot (hmatch _ _ _) fun hplain ↦ ?_
          rw [(hplain.unseen hleft.1).1] at hleft
          cases hleft.2
        · rename_i hleft
          have hplain : c.IsPlain :=
            { present := Bool.not_eq_true _ ▸ hpresent
              ne_like := hlike
              ne_notLike := hnotLike
              unseen := fun hop ↦ by simpa [hop] using And.intro hleft hright }
          rw [Expr.comparisons, c.left.comparisons_toSql, c.right.comparisons_toSql,
            List.append_nil, List.mem_singleton]
          exact (and_iff_right hplain).symm

/-- Whether an equality gets a wildcard by compilation that is not seen in it before. -/
structure HidesWildcard (c : OperandComparison) : Prop where
  equality : c.op.isEquality = true
  present : c.right.isAbsent = false
  unseen : c.left.hasWildcard = false ∧ c.right.hasWildcard = false
  meant : c.left.MeansWildcard ∨ c.right.MeansWildcard

theorem HidesWildcard.isPlain {c : OperandComparison} (h : c.HidesWildcard) : c.IsPlain where
  present := h.present
  ne_like := by
    intro hop
    have hequality := h.equality
    rw [hop] at hequality
    cases hequality
  ne_notLike := by
    intro hop
    have hequality := h.equality
    rw [hop] at hequality
    cases hequality
  unseen := fun _ ↦ h.unseen

/-- A comparison that stays one is blind exactly if a wildcard comes up in it by compilation. -/
theorem isBlind_compared_iff {c : OperandComparison} (hplain : c.IsPlain) :
    c.compared.IsBlind ↔ c.HidesWildcard := by
  have hrelation : (c.op.relation = .eq ∨ c.op.relation = .ne) ↔ c.op.isEquality = true := by
    have hlike := hplain.ne_like
    have hnotLike := hplain.ne_notLike
    cases hop : c.op <;> simp_all [Comparison.relation, Comparison.isEquality]
  have hmeant : (∃ s, (c.compared.left = .literal (.text s) ∨
      c.compared.right = .literal (.text s)) ∧ '%' ∈ s.toList) ↔
        c.left.MeansWildcard ∨ c.right.MeansWildcard := by
    simp only [or_and_right, exists_or, Operand.meansWildcard_iff, compared]
  constructor
  · rintro ⟨hequality, hwildcard⟩
    have hop := hrelation.mp hequality
    exact ⟨hop, hplain.present, hplain.unseen hop, hmeant.mp hwildcard⟩
  · rintro ⟨hop, -, -, hwildcard⟩
    exact ⟨hrelation.mpr hop, hmeant.mpr hwildcard⟩

end OperandComparison

namespace Condition

mutual

/-- The comparisons of a condition, at any depth. -/
def comparisons : Condition → List OperandComparison
  | .empty => []
  | .junction _ children => comparisonsAll children
  | .compare op left right => [{ op, left, right }]

def comparisonsAll : List Condition → List OperandComparison
  | [] => []
  | child :: rest => child.comparisons ++ comparisonsAll rest

end

mutual

/-- Compilation adds no comparison, at any depth, and keeps those that are plain. -/
theorem mem_comparisons_toSql (d : Compared) (condition : Condition) :
    d ∈ condition.toSql.comparisons ↔
      ∃ c ∈ condition.comparisons, c.IsPlain ∧ d = c.compared := by
  cases condition with
  | empty => simp [toSql, comparisons, Expr.comparisons]
  | junction kind children =>
    rcases children with _ | ⟨child, rest⟩
    · cases kind <;> simp [toSql, comparisons, comparisonsAll, Expr.comparisons]
    · have hchild := mem_comparisons_toSql d child
      have hrest := mem_comparisonsAll_toSqlAll d rest
      have hall : d ∈ child.toSql.comparisons ++ Expr.comparisonsAll (toSqlAll rest) ↔
          ∃ c ∈ comparisons (.junction kind (child :: rest)), c.IsPlain ∧ d = c.compared := by
        simp only [comparisons, comparisonsAll, List.mem_append, or_and_right, exists_or, hchild,
          hrest]
      rcases rest with _ | ⟨second, rest⟩
      · cases kind with
        | list =>
          rw [toSqlAll, Expr.comparisonsAll, List.append_nil] at hall
          exact hall
        | and => exact hall
        | or => exact hall
      · cases kind <;> exact hall
  | compare op left right =>
    rw [toSql, comparisons]
    simp only [List.mem_singleton, exists_eq_left]
    exact OperandComparison.mem_comparisons_iff (c := { op, left, right })

/-- Among compiled conditions there are no comparisons but theirs. -/
theorem mem_comparisonsAll_toSqlAll (d : Compared) (conditions : List Condition) :
    d ∈ Expr.comparisonsAll (toSqlAll conditions) ↔
      ∃ c ∈ comparisonsAll conditions, c.IsPlain ∧ d = c.compared := by
  cases conditions with
  | nil => simp [toSqlAll, comparisonsAll, Expr.comparisonsAll]
  | cons child rest =>
    simp only [toSqlAll, comparisonsAll, Expr.comparisonsAll, List.mem_append, or_and_right,
      exists_or, mem_comparisons_toSql d child, mem_comparisonsAll_toSqlAll d rest]

end

/-- A compiled condition compares for equality with a wildcard, anywhere in it, if and only if the
condition has an equality whose texts show no wildcard, while one of them has a wildcard in
compatibility form. -/
theorem isBlind_iff_hidesWildcard (condition : Condition) :
    (∃ d ∈ condition.toSql.comparisons, d.IsBlind) ↔
      ∃ c ∈ condition.comparisons, c.HidesWildcard := by
  constructor
  · rintro ⟨d, hd, hblind⟩
    obtain ⟨c, hc, hplain, rfl⟩ := (mem_comparisons_toSql d condition).mp hd
    exact ⟨c, hc, (OperandComparison.isBlind_compared_iff hplain).mp hblind⟩
  · rintro ⟨c, hc, hhides⟩
    exact ⟨c.compared, (mem_comparisons_toSql _ condition).mpr ⟨c, hc, hhides.isPlain, rfl⟩,
      (OperandComparison.isBlind_compared_iff hhides.isPlain).mpr hhides⟩

end Condition

namespace Countries

def text : String := "％france％"

theorem wildcard_mem_normalForm : '%' ∈ Text.Compatibility.normalForm text.toList := by
  decide +kernel

/-- A country between wide percent signs, which are percent signs in compatibility form. -/
theorem not_forall_not_isBlind :
    ¬ ∀ node condition, Condition.read node = .ok condition →
      ∀ d ∈ condition.toSql.comparisons, ¬ d.IsBlind := by
  intro hall
  have hread : Condition.read (comparisonNode "=" "pays" text) =
      .ok (.compare .eq (.column "pays") (.literal (.text text))) :=
    (Condition.read_comparisonNode (by decide) (by decide) "pays" text).trans
      (if_neg (by decide))
  have hhides : OperandComparison.HidesWildcard
      { op := .eq, left := .column "pays", right := .literal (.text text) } :=
    { equality := rfl
      present := by
        obtain ⟨form, hform⟩ := Text.Canonical.exists_text?_of_wildcard_mem wildcard_mem_normalForm
        rw [Expression.isAbsent, Scalar.isAbsent, hform]
        rfl
      unseen := ⟨rfl, by decide⟩
      meant := .inr ⟨text, rfl, wildcard_mem_normalForm⟩ }
  have hmem := (Condition.mem_comparisons_toSql _
    (.compare .eq (.column "pays") (.literal (.text text)))).mpr
      ⟨_, List.mem_singleton_self _, hhides.isPlain, rfl⟩
  exact hall _ _ hread _ hmem ((OperandComparison.isBlind_compared_iff hhides.isPlain).mpr hhides)

end Countries

end Barometer
