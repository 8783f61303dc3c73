import Barometer.Decimal.Shortest

/-!
# Written forms of doubles

A layout says which numbers are written in positional notation and how the others carry their
exponent.  The forms used by the program differ in nothing else.
-/

namespace Barometer.Decimal

structure Layout where
  /-- Least and greatest exponent of the first digit in positional notation; none for every one. -/
  positional : Option (Int × Int)
  /-- Whether integral values keep a fraction `.0`. -/
  keepFraction : Bool
  /-- Whether the mantissa of the exponential form keeps a fraction. -/
  keepMantissaFraction : Bool
  /-- Whether a positive exponent has a sign. -/
  signedExponent : Bool
  /-- The least number of digits of the exponent. -/
  exponentWidth : Nat

namespace Layout

/-- Numbers in JSON texts: `0.00001`, `1.5`, `1e+16`. -/
def json : Layout where
  positional := some (-5, 15)
  keepFraction := true
  keepMantissaFraction := false
  signedExponent := true
  exponentWidth := 1

/-- Numbers in SQL texts: `0.00001`, `1.5`, `1e16`. -/
def sql : Layout := { json with signedExponent := false }

/-- Numbers as plain text: `15`, `0.5`, never with an exponent. -/
def plain : Layout where
  positional := none
  keepFraction := false
  keepMantissaFraction := false
  signedExponent := false
  exponentWidth := 1

/-- Numbers that a database turns into text: `15.0`, `1.0e+15`. -/
def stored : Layout where
  positional := some (-4, 14)
  keepFraction := true
  keepMantissaFraction := true
  signedExponent := true
  exponentWidth := 2

/-- A point and the digits after it; a lone zero, or nothing, for an integral value. -/
def fraction (keep : Bool) : List Char → List Char
  | [] => if keep then ['.', '0'] else []
  | digits => '.' :: digits

/-- Digits in positional notation. -/
def positionalText (layout : Layout) (d : Digits) : List Char :=
  if d.exponent < 0 then
    '0' :: fraction false (List.replicate (-d.exponent - 1).toNat '0' ++ d.digits)
  else
    let width := d.exponent.toNat + 1
    d.digits.take width ++ List.replicate (width - d.digits.length) '0' ++
      fraction layout.keepFraction (d.digits.drop width)

def exponentText (layout : Layout) (exponent : Int) : List Char :=
  let digits := Nat.toDigits 10 exponent.natAbs
  'e' :: (if exponent < 0 then ['-'] else if layout.signedExponent then ['+'] else []) ++
    List.replicate (layout.exponentWidth - digits.length) '0' ++ digits

/-- Digits with an exponent. -/
def exponentialText (layout : Layout) (d : Digits) : List Char :=
  d.digits.take 1 ++ fraction layout.keepMantissaFraction (d.digits.drop 1) ++
    layout.exponentText d.exponent

def inRange (layout : Layout) (exponent : Int) : Bool :=
  match layout.positional with
  | none => true
  | some (least, greatest) => decide (least ≤ exponent) && decide (exponent ≤ greatest)

def text (layout : Layout) (d : Digits) : List Char :=
  if layout.inRange d.exponent then layout.positionalText d else layout.exponentialText d

/-- The text of a signed number. -/
def signed (layout : Layout) (negative : Bool) (d : Digits) : String :=
  String.ofList ((if negative then ['-'] else []) ++ layout.text d)

end Layout

/-- The shortest text of a finite double in a layout. -/
def format? (layout : Layout) (x : Float) : Option String :=
  (Binary.ofFloat? x).map fun b ↦ layout.signed b.negative (shortest b)

/-- The text of any double without an exponent. -/
def plainText (x : Float) : String :=
  match format? Layout.plain x with
  | some text => text
  | none => if x.isNaN then "NaN" else if x < 0 then "-inf" else "inf"

end Barometer.Decimal
