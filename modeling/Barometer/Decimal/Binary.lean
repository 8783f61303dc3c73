/-!
# Finite doubles as integers times powers of two

A finite double is `± mantissa * 2 ^ exponent`, and the reals that round to it form an interval
around it.  Both are given here in exact integers, so that decimal texts need no floating-point
arithmetic.
-/

namespace Barometer.Decimal

/-- The magnitude `mantissa * 2 ^ exponent` and whether the number has a minus sign. -/
structure Binary where
  negative : Bool
  mantissa : Nat
  exponent : Int
deriving DecidableEq, Repr

namespace Binary

/-- The parts of a double; none for infinities and for what is not a number. -/
def ofFloat? (x : Float) : Option Binary :=
  let bits : Nat := x.toBits.toNat
  let fraction : Nat := bits % Nat.pow 2 52
  let biased : Nat := bits / Nat.pow 2 52 % Nat.pow 2 11
  let negative := decide (Nat.pow 2 63 ≤ bits)
  if biased = 2047 then none
  else if biased = 0 then some { negative, mantissa := fraction, exponent := -1074 }
  else some { negative, mantissa := Nat.pow 2 52 + fraction, exponent := (biased : Int) - 1075 }

/-- Below a power of two the doubles lie twice as dense. -/
def narrowBelow (b : Binary) : Bool :=
  decide (b.mantissa = Nat.pow 2 52) && decide (-1074 < b.exponent)

/-- Whether the ends of the rounding interval round to the double too. -/
def endsIncluded (b : Binary) : Bool :=
  decide (b.mantissa % 2 = 0)

/-- Four times the magnitude as a quotient of integers. -/
def scaled (b : Binary) (units : Nat) : Nat × Nat :=
  if 0 ≤ b.exponent then (units * Nat.pow 2 b.exponent.toNat, 4)
  else (units, 4 * Nat.pow 2 (-b.exponent).toNat)

/-- The magnitude as a quotient. -/
def value (b : Binary) : Nat × Nat := b.scaled (4 * b.mantissa)

/-- The lower end of the rounding interval. -/
def lowerEnd (b : Binary) : Nat × Nat :=
  b.scaled (4 * b.mantissa - if b.narrowBelow then 1 else 2)

/-- The upper end of the rounding interval. -/
def upperEnd (b : Binary) : Nat × Nat := b.scaled (4 * b.mantissa + 2)

end Binary

end Barometer.Decimal
