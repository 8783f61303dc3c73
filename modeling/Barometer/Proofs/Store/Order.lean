import Barometer.Store.Value

/-!
# The order of values

Values are in one order, whatever their types: any two are comparable, and the order is transitive.
Numbers are fractions over powers of two there, and such a fraction is written in many ways, so two
values may be equal in the order and not the same. Lists are in the order of their first difference.
-/

namespace Barometer.Store.Value

/-- Fractions over powers of two are in one order. -/
theorem Point.le_trans_of_le {n m k : Int} {s t u : Nat}
    (hnm : n * Nat.pow 2 t ≤ m * Nat.pow 2 s) (hmk : m * Nat.pow 2 u ≤ k * Nat.pow 2 t) :
    n * Nat.pow 2 u ≤ k * Nat.pow 2 s := by
  have hpos (i : Nat) : (0 : Int) < Nat.pow 2 i := Int.natCast_pos.mpr (Nat.two_pow_pos i)
  apply Int.le_of_mul_le_mul_right _ (hpos t)
  calc
    n * Nat.pow 2 u * Nat.pow 2 t = n * Nat.pow 2 t * Nat.pow 2 u := Int.mul_right_comm _ _ _
    _ ≤ m * Nat.pow 2 s * Nat.pow 2 u := Int.mul_le_mul_of_nonneg_right hnm (Int.le_of_lt (hpos u))
    _ = m * Nat.pow 2 u * Nat.pow 2 s := Int.mul_right_comm _ _ _
    _ ≤ k * Nat.pow 2 t * Nat.pow 2 s := Int.mul_le_mul_of_nonneg_right hmk (Int.le_of_lt (hpos s))
    _ = k * Nat.pow 2 s * Nat.pow 2 t := Int.mul_right_comm _ _ _

instance : Std.OrientedCmp Point.compare where
  eq_swap {p q} := by
    cases p <;> cases q
    case at.at => exact Std.OrientedOrd.eq_swap
    all_goals rfl

instance : Std.TransCmp Point.compare where
  isLE_trans {p q r} hpq hqr := by
    cases p <;> cases q <;> cases r
    case at.at.at =>
      rw [Point.compare, Int.isLE_compare] at *
      exact Point.le_trans_of_le hpq hqr
    all_goals first
      | rfl
      | exact absurd hpq Bool.false_ne_true
      | exact absurd hqr Bool.false_ne_true

instance : Std.TransCmp (orderOf : String → String → Ordering) :=
  Std.TransOrd.compareOfLessAndEq_of_antisymm_of_trans_of_total_of_not_le String.le_antisymm
    String.le_trans String.le_total String.not_le

instance : Std.TransCmp (orderOf : List UInt8 → List UInt8 → Ordering) :=
  Std.TransOrd.compareOfLessAndEq_of_antisymm_of_trans_of_total_of_not_le List.le_antisymm
    List.le_trans List.le_total List.not_le

instance : Std.OrientedCmp Key.compare where
  eq_swap {a b} := by
    cases a <;> cases b
    case number.number p q => exact (Std.OrientedCmp.eq_swap : p.compare q = _)
    case text.text s t => exact (Std.OrientedCmp.eq_swap : orderOf s t = _)
    case blob.blob s t => exact (Std.OrientedCmp.eq_swap : orderOf s t = _)
    all_goals rfl

instance : Std.TransCmp Key.compare where
  isLE_trans {a b c} hab hbc := by
    cases a <;> cases b <;> cases c
    case number.number.number p q r =>
      exact (Std.TransCmp.isLE_trans : (p.compare q).isLE → _) hab hbc
    case text.text.text s t u =>
      exact (Std.TransCmp.isLE_trans : (orderOf s t).isLE → _) hab hbc
    case blob.blob.blob s t u =>
      exact (Std.TransCmp.isLE_trans : (orderOf s t).isLE → _) hab hbc
    -- of different types, only the ranks count
    all_goals first
      | rfl
      | exact absurd hab Bool.false_ne_true
      | exact absurd hbc Bool.false_ne_true

instance : Std.TransCmp compare where
  eq_swap {a b} := (Std.OrientedCmp.eq_swap : a.key.compare b.key = _)
  isLE_trans {a b _} := (Std.TransCmp.isLE_trans : (a.key.compare b.key).isLE → _)

theorem compareAll_eq_compareLex : compareAll = List.compareLex compare := by
  funext as bs
  induction as generalizing bs with
  | nil => cases bs <;> rfl
  | cons a as ih =>
    cases bs with
    | nil => rfl
    | cons b bs =>
      rw [compareAll, ih, List.compareLex]
      cases compare a b <;> rfl

instance : Std.TransCmp compareAll := by
  rw [compareAll_eq_compareLex]
  infer_instance

/-- Keys are equal if they are equal one by one. -/
theorem compareAll_map_eq_iff {α : Type} (keys : List α) (f g : α → Value) :
    compareAll (keys.map f) (keys.map g) = .eq ↔ ∀ key ∈ keys, (f key).compare (g key) = .eq := by
  induction keys with
  | nil => simp [compareAll]
  | cons key rest ih =>
    rw [List.map_cons, List.map_cons, compareAll, Ordering.then_eq_eq, ih, List.forall_mem_cons]

end Barometer.Store.Value
