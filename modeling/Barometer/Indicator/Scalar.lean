import Barometer.Json.Printer
import Barometer.Text.Canonical

/-!
# Scalars

The literal values of an indicator.  An integer beyond 64 signed bits counts as a real number.  Text
is compared in canonical form, so text without words stands for a missing value.
-/

namespace Barometer

inductive Scalar where
  | null
  | int (value : Int)
  | real (value : Float)
  | bool (value : Bool)
  | text (value : String)

namespace Scalar

/-- The scalar of a number. -/
def ofNumber : Json.Number → Scalar
  | .integer n => if n < Nat.pow 2 63 then .int n else .real (Float.ofInt n)
  | .real x => .real x

/-- The scalar of a JSON value; arrays and objects are none. -/
def ofJson? : Json → Option Scalar
  | .null => some .null
  | .bool b => some (.bool b)
  | .number n => some (ofNumber n)
  | .string s => some (.text s)
  | .array _ => none
  | .object _ => none

/-- The canonical text of a number or a truth value is that of its JSON text. -/
def canonicalText? : Scalar → Option String
  | .null => none
  | .int n => Text.Canonical.text? (Json.Number.integer n).text
  | .real x => (Decimal.format? .json x).bind Text.Canonical.text?
  | .bool b => Text.Canonical.text? (if b then "true" else "false")
  | .text s => Text.Canonical.text? s

/-- Whether the scalar stands for a missing value. -/
def isAbsent : Scalar → Bool
  | .null => true
  | .text s => (Text.Canonical.text? s).isNone
  | _ => false

/-- Whether the scalar is a text with a wildcard. -/
def hasWildcard : Scalar → Bool
  | .text s => s.toList.contains '%'
  | _ => false

end Scalar

/-- The canonical text of a JSON scalar, numbers with their own digits. -/
def Json.canonicalText? : Json → Option String
  | .string s => Text.Canonical.text? s
  | .bool b => Text.Canonical.text? (if b then "true" else "false")
  | .number n => Text.Canonical.text? n.text
  | _ => none

end Barometer
