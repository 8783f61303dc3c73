import Barometer.Decimal.Numeral
import Barometer.Imports.Timestamp
import Barometer.Toml.Basic

/-!
# Numbers, truth values and dates in TOML

These are written without quotes, so a value ends where a character stands that cannot belong to it,
and what stands before is classified as a whole.
-/

namespace Barometer.Toml

/-- Whether a character can belong to a value without quotes. -/
def isBare (c : Char) : Bool :=
  c.isAlphanum || c == '_' || c == '-' || c == '+' || c == '.' || c == ':'

/-- Digits between which single underscores may stand, without the underscores. -/
def digits? (isDigit : Char → Bool) : List Char → Option (List Char)
  | [] => none
  | [c] => if isDigit c then some [c] else none
  | c :: '_' :: rest => if isDigit c then (digits? isDigit rest).map (c :: ·) else none
  | c :: rest => if isDigit c then (digits? isDigit rest).map (c :: ·) else none

/-- Decimal digits without a zero in front. -/
def decimal? (s : List Char) : Option Nat :=
  match digits? Char.isDigit s with
  | some ['0'] => some 0
  | some ('0' :: _) => none
  | some ds => some (Decimal.Numeral.ofDigits ds)
  | none => none

def isHexDigit (c : Char) : Bool :=
  c.isDigit || decide ('a' ≤ c.toLower) && decide (c.toLower ≤ 'f')

def isDigitBelow (base : Nat) (c : Char) : Bool := isHexDigit c && decide (Decimal.hexValue c < base)

def inBase? (base : Nat) (s : List Char) : Option Nat :=
  (digits? (isDigitBelow base) s).map fun ds ↦ ds.foldl (fun n c ↦ base * n + Decimal.hexValue c) 0

/-- Integers of at most 128 bits, signed or unsigned. -/
def bounded? (n : Int) : Option Toml :=
  if -(Nat.pow 2 127 : Int) ≤ n ∧ n < Nat.pow 2 128 then some (.integer n) else none

def integer? (s : List Char) : Option Toml :=
  match s with
  | '0' :: 'x' :: rest => (inBase? 16 rest).bind fun n ↦ bounded? n
  | '0' :: 'o' :: rest => (inBase? 8 rest).bind fun n ↦ bounded? n
  | '0' :: 'b' :: rest => (inBase? 2 rest).bind fun n ↦ bounded? n
  | _ => (decimal? (Decimal.withoutSign s)).bind fun n ↦
    bounded? (if s.head? = some '-' then -(n : Int) else n)

/-- Whether a text is an exponent after its letter. -/
def isExponent (s : List Char) : Bool := (digits? Char.isDigit (Decimal.withoutSign s)).isSome

def isExponentLetter (c : Char) : Bool := c == 'e' || c == 'E'

/-- Whether a text is a number with a fraction or an exponent, or one of the special numbers. -/
def isReal (s : List Char) : Bool :=
  let body := Decimal.withoutSign s
  if body == "inf".toList || body == "nan".toList then true
  else
    let whole := body.takeWhile fun c ↦ c != '.' && !isExponentLetter c
    (decimal? whole).isSome &&
      match body.drop whole.length with
      | '.' :: rest =>
        let fraction := rest.takeWhile fun c ↦ !isExponentLetter c
        (digits? Char.isDigit fraction).isSome &&
          match rest.drop fraction.length with
          | [] => true
          | _ :: exponent => isExponent exponent
      | _ :: exponent => isExponent exponent
      | [] => false

/-- A date, as long as there is such a day. -/
def readDate? (s : List Char) : Option (List Char) := do
  let (year, s) ← Timestamp.readNumber? 4 4 s
  let s ← Timestamp.readChar? '-' s
  let (month, s) ← Timestamp.readNumber? 2 2 s
  let s ← Timestamp.readChar? '-' s
  let (day, rest) ← Timestamp.readNumber? 2 2 s
  let _ ← Timestamp.dayOf? year month day
  return rest

/-- A time of the day. -/
def readClock? (s : List Char) : Option (List Char) := do
  let (hour, s) ← Timestamp.readNumber? 2 2 s
  let s ← Timestamp.readChar? ':' s
  let (minute, s) ← Timestamp.readNumber? 2 2 s
  let s ← Timestamp.readChar? ':' s
  let (second, s) ← Timestamp.readNumber? 2 2 s
  let (_, rest) ← Timestamp.readFraction? s
  if hour ≤ 23 ∧ minute ≤ 59 ∧ second ≤ 60 then return rest else none

/-- Whether a text is an offset from universal time, or nothing. -/
def isZone (s : List Char) : Bool :=
  s.isEmpty || s == ['Z'] || s == ['z'] ||
    match s with
    | sign :: rest =>
      (sign == '+' || sign == '-') &&
        match Timestamp.readNumber? 2 2 rest with
        | some (hours, ':' :: after) =>
          match Timestamp.readNumber? 2 2 after with
          | some (minutes, []) => decide (hours ≤ 23) && decide (minutes ≤ 59)
          | _ => false
        | _ => false
    | [] => false

/-- Whether a text is a date, a time of the day or both. -/
def isMoment (s : List Char) : Bool :=
  match readDate? s with
  | some [] => true
  | some (separator :: rest) =>
    (separator == 'T' || separator == 't' || separator == ' ') &&
      match readClock? rest with
      | some zone => isZone zone
      | none => false
  | none => readClock? s == some []

def scalar? (s : List Char) : Option Toml :=
  if s == "true".toList then some (.bool true)
  else if s == "false".toList then some (.bool false)
  else if isMoment s then some (.moment (String.ofList s))
  else if isReal s then some (.real (String.ofList s))
  else integer? s

/-- A value without quotes and the rest of the text.  A date goes on after one space if a digit
follows. -/
def readScalar? (s : List Char) : Option (Toml × List Char) :=
  let token := s.takeWhile isBare
  match s.drop token.length with
  | ' ' :: rest =>
    if readDate? token == some [] && (rest.headD ' ').isDigit then
      let clock := rest.takeWhile isBare
      (scalar? (token ++ ' ' :: clock)).map fun v ↦ (v, rest.drop clock.length)
    else (scalar? token).map fun v ↦ (v, ' ' :: rest)
  | rest => (scalar? token).map fun v ↦ (v, rest)

end Barometer.Toml
