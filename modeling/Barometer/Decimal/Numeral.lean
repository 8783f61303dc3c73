import Barometer.Decimal.Reading

/-!
# Written numbers

A number is written as a sign, digits with a point somewhere among them, and an exponent, of which
only one digit is required.
-/

namespace Barometer.Decimal

/-- A text after its sign. -/
def withoutSign (s : List Char) : List Char :=
  match s with
  | '+' :: rest => rest
  | '-' :: rest => rest
  | _ => s

/-- The value of a hexadecimal digit. -/
def hexValue (c : Char) : Nat :=
  if c.isDigit then c.toNat - 48 else c.toLower.toNat - 87

/-- `± significand * 10 ^ exponent`, and whether it was written without point and exponent. -/
structure Numeral where
  negative : Bool
  significand : Nat
  exponent : Int
  integral : Bool
deriving DecidableEq, Repr

namespace Numeral

/-- The number that digits stand for. -/
def ofDigits (digits : List Char) : Nat :=
  digits.foldl (fun n c ↦ 10 * n + (c.toNat - 48)) 0

/-- The value and the rest of an exponent, if there is one. -/
def readExponent? (s : List Char) : Option (Int × List Char) :=
  match s with
  | [] => none
  | letter :: signed =>
    if letter != 'e' && letter != 'E' then none
    else
      let digits := withoutSign signed
      match digits.takeWhile Char.isDigit with
      | [] => none
      | ds =>
        let n : Int := ofDigits ds
        some (if signed.head? = some '-' then -n else n, digits.dropWhile Char.isDigit)

/-- The digits after a point, whether there is a point, and the text after them. -/
def fractionOf (s : List Char) : List Char × Bool × List Char :=
  match s with
  | '.' :: rest => (rest.takeWhile Char.isDigit, true, rest.dropWhile Char.isDigit)
  | _ => ([], false, s)

/-- The longest number that a text begins with, and the text after it. -/
def read? (s : List Char) : Option (Numeral × List Char) :=
  let whole := (withoutSign s).takeWhile Char.isDigit
  let (fraction, pointed, afterFraction) := fractionOf ((withoutSign s).dropWhile Char.isDigit)
  if whole.isEmpty && fraction.isEmpty then none
  else
    let negative := s.head? == some '-'
    let significand := ofDigits (whole ++ fraction)
    let shift : Int := -(fraction.length : Int)
    match readExponent? afterFraction with
    | some (e, rest) =>
      some ({ negative, significand, exponent := shift + e, integral := false }, rest)
    | none =>
      some ({ negative, significand, exponent := shift, integral := !pointed }, afterFraction)

/-- The double nearest to the number. -/
def toFloat (n : Numeral) : Float :=
  let x := nearest n.significand n.exponent
  if n.negative then -x else x

/-- The integer that was written. -/
def toInt (n : Numeral) : Int :=
  if n.negative then -(n.significand : Int) else n.significand

end Numeral

/-- The double that a whole text stands for. -/
def ofText? (text : String) : Option Float :=
  match text with
  | "NaN" => some (0.0 / 0.0)
  | "inf" => some (1.0 / 0.0)
  | "-inf" => some (-1.0 / 0.0)
  | _ =>
    match Numeral.read? text.toList with
    | some (n, []) => some n.toFloat
    | _ => none

end Barometer.Decimal
