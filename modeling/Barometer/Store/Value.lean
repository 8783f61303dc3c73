import Barometer.Decimal.Layout
import Barometer.Decimal.Numeral
import Barometer.Json.Basic
import Barometer.Text.Base64
import Barometer.Text.Case
import Barometer.Text.Utf8

/-!
# Stored values

A cell holds a value of any type, whatever its column.  Values of different types are comparable:
missing values come first, then numbers, texts and octets.  Numbers are compared exactly, also an
integer with a real.
-/

namespace Barometer.Store

inductive Value where
  | null
  | int (value : Int)
  | real (value : Float)
  | text (value : String)
  | blob (octets : List UInt8)
deriving Inhabited

abbrev Row := List Value

/-- The outcome of a condition; none when it is unknown. -/
abbrev Truth := Option Bool

/-- The ends of the integers of 64 bits. -/
def leastInteger : Int := -9223372036854775808

def greatestInteger : Int := 9223372036854775807

/-- Whether an integer has at most 64 bits. -/
def fits (n : Int) : Bool := decide (leastInteger ≤ n) && decide (n ≤ greatestInteger)

namespace Value

def isNull : Value → Bool
  | .null => true
  | _ => false

/-- A real as it is stored: what is not a number is missing. -/
def ofReal (x : Float) : Value := if x.isNaN then .null else .real x

/-- A number as a quotient whose denominator is a power of two; infinities lie at the ends. -/
inductive Point where
  | below
  | at (numerator : Int) (shift : Nat)
  | above
deriving DecidableEq, Repr

def Point.ofReal (x : Float) : Point :=
  match Decimal.Binary.ofFloat? x with
  | none => if x < 0 then .below else .above
  | some b =>
    let n : Int := if b.negative then -(b.mantissa : Int) else b.mantissa
    if 0 ≤ b.exponent then .at (n * Nat.pow 2 b.exponent.toNat) 0 else .at n (-b.exponent).toNat

def Point.compare : Point → Point → Ordering
  | .at n shift, .at m other => Ord.compare (n * Nat.pow 2 other) (m * Nat.pow 2 shift)
  | .below, .below => .eq
  | .below, _ => .lt
  | _, .below => .gt
  | .above, .above => .eq
  | .above, _ => .gt
  | _, .above => .lt

/-- What values are sorted by: their type first. -/
inductive Key where
  | null
  | number (point : Point)
  | text (value : String)
  | blob (octets : List UInt8)
deriving DecidableEq

def key : Value → Key
  | .null => .null
  | .int n => .number (.at n 0)
  | .real x => .number (.ofReal x)
  | .text s => .text s
  | .blob octets => .blob octets

def Key.rank : Key → Nat
  | .null => 0
  | .number _ => 1
  | .text _ => 2
  | .blob _ => 3

/-- The order of a linearly ordered type. -/
def orderOf [DecidableEq α] [LT α] [DecidableLT α] (a b : α) : Ordering :=
  if a < b then .lt else if a = b then .eq else .gt

def Key.compare : Key → Key → Ordering
  | .number p, .number q => p.compare q
  | .text s, .text t => orderOf s t
  | .blob s, .blob t => orderOf s t
  | a, b => Ord.compare a.rank b.rank

/-- The order of values. -/
def compare (a b : Value) : Ordering := a.key.compare b.key

/-- The order of lists of values of one length. -/
def compareAll : List Value → List Value → Ordering
  | a :: as, b :: bs => (compare a b).then (compareAll as bs)
  | [], [] => .eq
  | [], _ => .lt
  | _, [] => .gt

inductive Number where
  | int (value : Int)
  | real (value : Float)

namespace Number

def toFloat : Number → Float
  | .int n => Float.ofInt n
  | .real x => x

/-- A written number; integers beyond 64 bits are reals. -/
def ofNumeral (n : Decimal.Numeral) : Number :=
  if n.integral && fits n.toInt then .int n.toInt else .real n.toFloat

def toValue : Number → Value
  | .int n => .int n
  | .real x => .real x

end Number

/-- The blanks that may stand around a written number. -/
def isGap (c : Char) : Bool := c == ' ' || decide (9 ≤ c.toNat) && decide (c.toNat ≤ 13)

/-- The number that a text begins with, and whether there is nothing else. -/
def leadingNumber (s : String) : Number × Bool :=
  match Decimal.Numeral.read? (s.toList.dropWhile isGap) with
  | none => (.int 0, false)
  | some (n, rest) => (.ofNumeral n, rest.all isGap)

/-- What a value counts as in calculations: the integer that it is, if it is one, and in any case a
real and an integer that it can be taken for. -/
structure Quantity where
  exact : Option Int
  real : Float
  whole : Int

namespace Quantity

def ofInt (n : Int) : Quantity := { exact := some n, real := Float.ofInt n, whole := n }

/-- A real without its fraction is kept within 64 bits. -/
def ofReal (x : Float) : Quantity := { exact := none, real := x, whole := x.toInt64.toInt }

/-- The integer that digits begin with, kept within 64 bits. -/
def leadingInteger (s : List Char) : Int :=
  let n : Int := Decimal.Numeral.ofDigits ((Decimal.withoutSign s).takeWhile Char.isDigit)
  if s.head? = some '-' then max (-n) leastInteger else min n greatestInteger

/-- A text counts as the number that it begins with, and as zero without one. -/
def ofText (s : String) : Quantity :=
  let body := s.toList.dropWhile isGap
  match Decimal.Numeral.read? body with
  | none => ofInt 0
  | some (n, _) =>
    { exact := if n.integral && fits n.toInt then some n.toInt else none
      real := n.toFloat
      whole := leadingInteger body }

end Quantity

/-- The quantity of a value; none for a missing value. -/
def quantity? : Value → Option Quantity
  | .null => none
  | .int n => some (.ofInt n)
  | .real x => some (.ofReal x)
  | .text s => some (.ofText s)
  | .blob octets => some (.ofText (Text.Utf8.decode octets))

/-- The number that a value adds to a sum: an integer only if it is one as a whole. -/
def summand? : Value → Option Number
  | .null => none
  | .int n => some (.int n)
  | .real x => some (.real x)
  | .text s =>
    let (n, whole) := leadingNumber s
    some (if whole then n else .real n.toFloat)
  | .blob octets => some (.real (leadingNumber (Text.Utf8.decode octets)).1.toFloat)

def ofBool (b : Bool) : Value := .int (if b then 1 else 0)

def ofTruth : Truth → Value
  | none => .null
  | some b => ofBool b

/-- Numbers other than zero are true. -/
def truth (v : Value) : Truth :=
  v.quantity?.map fun q ↦
    match q.exact with
    | some n => n != 0
    | none => q.real != 0

/-- Whether a condition is met: it must be known to be true. -/
def holds (v : Value) : Bool := v.truth == some true

/-- A real as text, with fifteen digits at most and no sign for a zero. -/
def realText (x : Float) : String :=
  match Decimal.Binary.ofFloat? x with
  | some b =>
    Decimal.Layout.stored.signed (b.negative && b.mantissa != 0) (Decimal.rounded 15 b)
  | none => if x < 0 then "-Inf" else "Inf"

/-- A value as text; none for a missing one. -/
def text? : Value → Option String
  | .null => none
  | .int n => some (toString n)
  | .real x => some (realText x)
  | .text s => some s
  | .blob octets => some (Text.Utf8.decode octets)

/-- A value as text in lower case, reals without an exponent; none for a missing one. -/
def lowered? : Value → Option String
  | .null => none
  | .int n => some (toString n)
  | .real x => some (Decimal.plainText x)
  | .text s => some (Text.lower s)
  | .blob octets => some (Text.lower (Text.Utf8.decode octets))

/-- A value as JSON: octets in base 64, and nothing in place of an infinity. -/
def toJson : Value → Json
  | .null => .null
  | .int n => .number (.integer n)
  | .real x => if x.isFinite then .number (.real x) else .null
  | .text s => .string s
  | .blob octets => .string (Text.Base64.encode octets)

end Value

end Barometer.Store
