import Barometer.Decimal.Binary

/-!
# Decimal digits of a double

The shortest digits of a double are those of the coarsest decimal grid that has a point rounding to
it; of two such points the nearer one is taken and, at equal distance, the even one.  Digits can
also be cut to a given number.
-/

namespace Barometer.Decimal

/-- A positive decimal number `d₁.d₂d₃… * 10 ^ exponent`. -/
structure Digits where
  digits : List Char
  exponent : Int
deriving DecidableEq, Repr

/-- The exponent of the first decimal digit of `n / d`, for positive `n` and `d`. -/
def leadingExponent (n d : Nat) : Int :=
  if d ≤ n then ((Nat.toDigits 10 (n / d)).length : Int) - 1
  else -((Nat.toDigits 10 ((d - 1) / n)).length : Int)

/-- A point `index * 10 ^ exponent` of a decimal grid, as a quotient. -/
def gridPoint (index : Nat) (exponent : Int) : Nat × Nat :=
  if 0 ≤ exponent then (index * Nat.pow 10 exponent.toNat, 1)
  else (index, Nat.pow 10 (-exponent).toNat)

/-- The greatest index of a grid point that is not above `n / d`. -/
def gridFloor (n d : Nat) (exponent : Int) : Nat :=
  if 0 ≤ exponent then n / (d * Nat.pow 10 exponent.toNat)
  else n * Nat.pow 10 (-exponent).toNat / d

/-- Whether a quotient lies in the rounding interval of a double. -/
def roundsTo (b : Binary) (q : Nat × Nat) : Bool :=
  let low := b.lowerEnd
  let high := b.upperEnd
  if b.endsIncluded then
    decide (low.1 * q.2 ≤ q.1 * low.2) && decide (q.1 * high.2 ≤ high.1 * q.2)
  else decide (low.1 * q.2 < q.1 * low.2) && decide (q.1 * high.2 < high.1 * q.2)

/-- Drops zeros at the end. -/
def trimZeros (digits : List Char) : List Char :=
  match (digits.reverse.dropWhile (· == '0')).reverse with
  | [] => ['0']
  | rest => rest

/-- The digits of the grid point `index * 10 ^ exponent`. -/
def pointDigits (index : Nat) (exponent : Int) : Digits :=
  let all := Nat.toDigits 10 index
  { digits := trimZeros all, exponent := exponent + (all.length : Int) - 1 }

/-- Of the two grid neighbours of the value, the index of the one that rounds back. -/
def neighbour? (b : Binary) (exponent : Int) : Option Nat :=
  let v := b.value
  let floor := gridFloor v.1 v.2 exponent
  let below := roundsTo b (gridPoint floor exponent) && decide (floor ≠ 0)
  let above := roundsTo b (gridPoint (floor + 1) exponent)
  let middle := gridPoint (2 * floor + 1) exponent
  if below && above then
    let twice := 2 * v.1 * middle.2
    let centre := middle.1 * v.2
    if twice < centre ∨ twice = centre ∧ floor % 2 = 0 then some floor else some (floor + 1)
  else if below then some floor
  else if above then some (floor + 1)
  else none

/-- The coarsest of the next `count` grids that has a point rounding back. -/
def shortestFrom (b : Binary) (exponent : Int) : Nat → Option Digits
  | 0 => none
  | count + 1 =>
    match neighbour? b exponent with
    | some index => some (pointDigits index exponent)
    | none => shortestFrom b (exponent - 1) count

/-- The fewest digits that round back; seventeen always suffice. -/
def shortest (b : Binary) : Digits :=
  if b.mantissa = 0 then { digits := ['0'], exponent := 0 }
  else
    let v := b.value
    (shortestFrom b (leadingExponent v.1 v.2) 17).getD { digits := ['0'], exponent := 0 }

/-- The value rounded to `count` digits, a half going up. -/
def rounded (count : Nat) (b : Binary) : Digits :=
  if b.mantissa = 0 then { digits := ['0'], exponent := 0 }
  else
    let v := b.value
    let exponent := leadingExponent v.1 v.2 - ((count : Int) - 1)
    let doubled := gridFloor (2 * v.1) v.2 exponent
    pointDigits ((doubled + 1) / 2) exponent

end Barometer.Decimal
