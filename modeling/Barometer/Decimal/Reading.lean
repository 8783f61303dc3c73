/-!
# Doubles from decimal numbers

Two ways to turn `significand * 10 ^ exponent` into a double: the nearest one, and the one got by
scaling the significand, rounded to a double, by rounded powers of ten.
-/

namespace Barometer.Decimal

/-- The double nearest to `significand * 10 ^ exponent`. -/
def nearest (significand : Nat) (exponent : Int) : Float :=
  if significand = 0 then 0
  else
    let leading := ((Nat.toDigits 10 significand).length : Int) + exponent
    if 400 < leading then Float.ofScientific 1 false 400
    else if leading < -400 then 0
    else if 0 ≤ exponent then Float.ofScientific significand false exponent.toNat
    else Float.ofScientific significand true (-exponent).toNat

/-- The double nearest to a power of ten. -/
def powerOfTen (n : Nat) : Float := Float.ofScientific 1 false n

/-- Divides by powers of ten up to `10 ^ 308` at a time. -/
def scaleDown (x : Float) (exponent : Nat) : Float :=
  if exponent ≤ 308 then x / powerOfTen exponent
  else if x == 0 then x
  else scaleDown (x / powerOfTen 308) (exponent - 308)
termination_by exponent

/-- A significand scaled by a power of ten; none when the result is not finite. -/
def scale? (significand : Nat) (exponent : Int) : Option Float :=
  let x := Float.ofNat significand
  if exponent < 0 then some (scaleDown x (-exponent).toNat)
  else if exponent ≤ 308 then
    let y := x * powerOfTen exponent.toNat
    if y.isInf then none else some y
  else if x == 0 then some x
  else none

end Barometer.Decimal
