import Barometer.Decimal.Binary
import Mathlib.Logic.Basic

/-!
# Finite doubles

A double has a magnitude in exact integers when it is finite, and only then: both are read off the
bits of its exponent.
-/

namespace Barometer.Decimal.Binary

open Float.Model

/-- The exponent of a double as a number. -/
theorem toNat_unpackExponent (b : BitVec Format.binary64.numBits) :
    (UnpackedFloat.unpackExponent b).toNat = b.toNat / Nat.pow 2 52 % Nat.pow 2 11 := by
  simp [UnpackedFloat.unpackExponent, Nat.shiftRight_eq_div_pow]

theorem isFinite_unpack (b : BitVec Format.binary64.numBits) :
    (UnpackedFloat.unpack Format.binary64 b).isFinite =
      decide (b.toNat / Nat.pow 2 52 % Nat.pow 2 11 ≠ 2047) := by
  have hexponent : UnpackedFloat.unpackExponent b = -1#_ ↔
      b.toNat / Nat.pow 2 52 % Nat.pow 2 11 = 2047 := by
    rw [← toNat_unpackExponent, ← BitVec.toNat_inj]
    rfl
  unfold UnpackedFloat.unpack
  by_cases hall : b.toNat / Nat.pow 2 52 % Nat.pow 2 11 = 2047
  · have hinfinite := hexponent.mpr hall
    rw [decide_eq_false (not_not.mpr hall)]
    dsimp only
    rw [if_pos hinfinite]
    by_cases hmantissa : UnpackedFloat.unpackMantissa b = 0#_
    · rw [if_pos hmantissa]
      rfl
    · rw [if_neg hmantissa]
      rfl
  · have hfinite := mt hexponent.mp hall
    rw [decide_eq_true hall]
    dsimp only
    rw [if_neg hfinite]
    by_cases hsubnormal : UnpackedFloat.unpackExponent b = 0#_
    · rw [if_pos hsubnormal]
      by_cases hmantissa : UnpackedFloat.unpackMantissa b = 0#_
      · rw [dif_pos hmantissa]
        rfl
      · rw [dif_neg hmantissa]
        rfl
    · rw [if_neg hsubnormal]
      rfl

/-- The numbers that have parts are the finite ones. -/
theorem ofFloat?_isSome (x : Float) : (ofFloat? x).isSome = x.isFinite := by
  have hfinite : x.isFinite = decide (x.toBits.toNat / Nat.pow 2 52 % Nat.pow 2 11 ≠ 2047) :=
    isFinite_unpack x.toModel.toBits.toBitVec
  rw [hfinite]
  unfold ofFloat?
  by_cases hall : x.toBits.toNat / Nat.pow 2 52 % Nat.pow 2 11 = 2047
  · rw [decide_eq_false (not_not.mpr hall)]
    simp only [Nat.pow_eq, if_pos hall]
    rfl
  · rw [decide_eq_true hall]
    simp only [Nat.pow_eq, if_neg hall]
    split <;> rfl

end Barometer.Decimal.Binary
