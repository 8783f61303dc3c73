import Barometer.Proofs.Decimal.Whole
import Barometer.Store.Value

/-!
# Equal numbers

An integer and a real are equal if they have as many units of the least positive double, and so are
two reals. What is equal to a finite number is a finite number.
-/

namespace Barometer.Store.Value

open Decimal (Binary)

/-- A finite number in units of the least positive double. -/
def units? : Value → Option Int
  | .int n => some (n * Binary.unitsOfOne)
  | .real x => (Binary.ofFloat? x).map Binary.signedUnits
  | _ => none

/-- A finite real is counted in the smallest unit of all. -/
theorem units?_real {x : Float} {b : Binary} (h : Binary.ofFloat? x = some b) :
    units? (.real x) = some b.signedUnits := by
  rw [units?, h]
  rfl

/-- A real as a point: a number of parts, of which some power of two makes up one. -/
theorem Point.exists_ofReal {x : Float} {b : Binary} (h : Binary.ofFloat? x = some b) :
    ∃ (n : Int) (shift : Nat), ofReal x = .at n shift ∧
      n * Binary.unitsOfOne = b.signedUnits * 2 ^ shift := by
  have hleast := (Binary.isDouble_of_ofFloat? h).least_le
  have hunits : b.signedUnits = (if b.negative then -(b.mantissa : Int) else b.mantissa) *
      2 ^ (b.exponent + Binary.leastPlace).toNat := by
    unfold Binary.signedUnits Binary.units
    split <;> simp
  rw [ofReal, h, hunits, Binary.unitsOfOne]
  dsimp only
  generalize (if b.negative then -(b.mantissa : Int) else b.mantissa) = m
  by_cases hexponent : 0 ≤ b.exponent
  · obtain ⟨e, he⟩ := Int.eq_ofNat_of_zero_le hexponent
    have hsum : (b.exponent + Binary.leastPlace).toNat = e + Binary.leastPlace := by omega
    refine ⟨m * 2 ^ e, 0, ?_, ?_⟩
    · simp only [he, Int.natCast_nonneg, if_true, Int.toNat_natCast, Nat.pow_eq]
      push_cast
      rfl
    · rw [hsum]
      push_cast
      ring
  · have hsum : Binary.leastPlace =
        (b.exponent + Binary.leastPlace).toNat + (-b.exponent).toNat := by
      omega
    refine ⟨m, (-b.exponent).toNat, by simp only [if_neg hexponent], ?_⟩
    calc
      m * ((2 ^ Binary.leastPlace : Nat) : Int) =
          m * 2 ^ ((b.exponent + Binary.leastPlace).toNat + (-b.exponent).toNat) := by
        rw [← hsum]
        push_cast
        rfl
      _ = _ := by ring

/-- Units and points on the line of numbers come to the same, up to scale. -/
theorem exists_key_of_units? {v : Value} {u : Int} (h : v.units? = some u) :
    ∃ (n : Int) (shift : Nat), v.key = .number (.at n shift) ∧
      n * Binary.unitsOfOne = u * 2 ^ shift := by
  cases v with
  | int n =>
    cases h
    exact ⟨n, 0, rfl, by rw [Int.pow_zero, Int.mul_one]⟩
  | real x =>
    obtain ⟨b, hb, rfl⟩ := Option.map_eq_some_iff.mp h
    obtain ⟨n, shift, hpoint, hunits⟩ := Point.exists_ofReal hb
    exact ⟨n, shift, by rw [key, hpoint], hunits⟩
  | _ => cases h

/-- Integers and reals are compared exactly, so equal values have equally many units. -/
theorem compare_eq_iff_units {v w : Value} {u t : Int} (hv : v.units? = some u)
    (hw : w.units? = some t) : v.compare w = .eq ↔ u = t := by
  obtain ⟨n, shift, hkey, hunits⟩ := exists_key_of_units? hv
  obtain ⟨m, other, hkey', hunits'⟩ := exists_key_of_units? hw
  have hone : (Binary.unitsOfOne : Int) ≠ 0 := by exact_mod_cast Binary.unitsOfOne_pos.ne'
  have hpow (k : Nat) : (2 : Int) ^ k ≠ 0 := pow_ne_zero k (by decide)
  have hpoints : v.compare w = .eq ↔ n * 2 ^ other = m * 2 ^ shift := by
    rw [compare, hkey, hkey', Key.compare, Point.compare, Int.compare_eq_eq]
    push_cast [Nat.pow_eq]
    rfl
  have hscaled (a b : Int) : a = b ↔ a * Binary.unitsOfOne = b * Binary.unitsOfOne :=
    ⟨fun h ↦ by rw [h], fun h ↦ mul_right_cancel₀ hone h⟩
  calc
    v.compare w = .eq ↔ n * 2 ^ other = m * 2 ^ shift := hpoints
    _ ↔ u * (2 ^ shift * 2 ^ other) = t * (2 ^ shift * 2 ^ other) := by
      rw [hscaled]
      have hleft : n * 2 ^ other * Binary.unitsOfOne = u * (2 ^ shift * 2 ^ other) := by
        rw [mul_right_comm, hunits, mul_assoc]
      have hright : m * 2 ^ shift * Binary.unitsOfOne = t * (2 ^ shift * 2 ^ other) := by
        rw [mul_right_comm, hunits', mul_assoc, mul_comm (2 ^ other)]
      rw [hleft, hright]
    _ ↔ u = t := ⟨fun h ↦ mul_right_cancel₀ (mul_ne_zero (hpow _) (hpow _)) h, fun h ↦ by rw [h]⟩

/-- Values of other types are never equal to a number, and infinities only to themselves. -/
theorem exists_units?_of_compare_eq {v w : Value} {t : Int} (hw : w.units? = some t)
    (h : v.compare w = .eq) : ∃ u, v.units? = some u := by
  obtain ⟨m, other, hkey, -⟩ := exists_key_of_units? hw
  rw [compare, hkey] at h
  cases v with
  | int n => exact ⟨_, rfl⟩
  | real x =>
    cases hx : Binary.ofFloat? x with
    | some b => exact ⟨b.signedUnits, units?_real hx⟩
    | none =>
      rw [key, Key.compare, Point.ofReal, hx] at h
      dsimp only at h
      split at h <;> cases h
  | null => cases h
  | text s => cases h
  | blob octets => cases h

theorem compare_int_eq_iff (n m : Int) : (int n).compare (.int m) = .eq ↔ n = m := by
  have hone : (Binary.unitsOfOne : Int) ≠ 0 := by exact_mod_cast Binary.unitsOfOne_pos.ne'
  rw [compare_eq_iff_units (v := .int n) (w := .int m) rfl rfl]
  exact ⟨fun h ↦ mul_right_cancel₀ hone h, fun h ↦ by rw [h]⟩

/-- A real that is a whole number below `2 ^ 53` is written as that integer. -/
theorem plainText_of_compare_int {y : Float} {n : Int} (h : (real y).compare (.int n) = .eq)
    (hn : n ≠ 0) (hsmall : n.natAbs < 2 ^ 53) : Decimal.plainText y = toString n := by
  obtain ⟨u, hu⟩ := exists_units?_of_compare_eq (w := .int n) rfl h
  obtain ⟨b, hb, rfl⟩ := Option.map_eq_some_iff.mp hu
  have hunits : b.signedUnits = n * Binary.unitsOfOne :=
    (compare_eq_iff_units hu rfl).mp h
  have hsign : b.negative = decide (n < 0) ∧ b.units = n.natAbs * Binary.unitsOfOne := by
    obtain ⟨magnitude, hmagnitude⟩ : ∃ m, n.natAbs * Binary.unitsOfOne = m := ⟨_, rfl⟩
    have hpos : 0 < magnitude := by
      rw [← hmagnitude]
      exact Nat.mul_pos (Int.natAbs_pos.mpr hn) Binary.unitsOfOne_pos
    have hproduct : n * Binary.unitsOfOne = if n < 0 then -(magnitude : Int) else magnitude := by
      rw [← hmagnitude]
      push_cast
      split
      · rw [← Int.neg_mul, abs_of_neg (by assumption), Int.neg_neg]
      · rw [abs_of_nonneg (Int.not_lt.mp (by assumption))]
    rw [hproduct, Binary.signedUnits] at hunits
    rw [hmagnitude]
    cases hnegative : b.negative <;> by_cases hneg : n < 0 <;>
      simp [hneg, hnegative] at hunits ⊢ <;> omega
  have hwhole : b.IsWhole n.natAbs :=
    { Binary.isDouble_of_ofFloat? hb with
      pos := Int.natAbs_pos.mpr hn
      small := hsmall
      units_eq := hsign.2 }
  rw [← String.toList_inj, Decimal.toList_toString_int, Decimal.plainText, Decimal.format?, hb,
    Option.map_some, Decimal.Layout.signed, String.toList_ofList, hwhole.text_shortest, hsign.1]
  simp

end Barometer.Store.Value
