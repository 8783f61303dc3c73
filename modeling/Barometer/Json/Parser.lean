import Barometer.Json.Basic
import Barometer.Decimal.Numeral

/-!
# Reading JSON texts

A strict reader: one value, nothing after it, no control characters in strings, no lone surrogates,
and at most 127 arrays and objects inside one another.  A refusal says what was found wrong and how
many bytes were still unread, from which line and column follow.
-/

namespace Barometer.Json

/-- What is wrong with a text. -/
inductive Flaw where
  | endInList
  | endInObject
  | endInString
  | endInValue
  | expectedColon
  | expectedListComma
  | expectedObjectComma
  | expectedWord
  | expectedValue
  | invalidEscape
  | invalidNumber
  | numberOutOfRange
  | controlInString
  | keyNotString
  | loneSurrogate
  | trailingComma
  | trailingCharacters
  | endOfEscape
  | tooDeep
deriving DecidableEq, Repr

def Flaw.message : Flaw → String
  | .endInList => "EOF while parsing a list"
  | .endInObject => "EOF while parsing an object"
  | .endInString => "EOF while parsing a string"
  | .endInValue => "EOF while parsing a value"
  | .expectedColon => "expected `:`"
  | .expectedListComma => "expected `,` or `]`"
  | .expectedObjectComma => "expected `,` or `\x7d`"
  | .expectedWord => "expected ident"
  | .expectedValue => "expected value"
  | .invalidEscape => "invalid escape"
  | .invalidNumber => "invalid number"
  | .numberOutOfRange => "number out of range"
  | .controlInString => "control character (\\u0000-\\u001F) found while parsing a string"
  | .keyNotString => "key must be a string"
  | .loneSurrogate => "lone leading surrogate in hex escape"
  | .trailingComma => "trailing comma"
  | .trailingCharacters => "trailing characters"
  | .endOfEscape => "unexpected end of hex escape"
  | .tooDeep => "recursion limit exceeded"

/-- A flaw and the number of bytes after the place where it shows. -/
structure Fault where
  flaw : Flaw
  unread : Nat
deriving DecidableEq, Repr

/-- The length of a text in bytes. -/
def byteCount (s : List Char) : Nat := s.foldl (fun n c ↦ n + c.utf8Size) 0

/-- A flaw that shows before the rest of the text. -/
def failBefore (flaw : Flaw) (rest : List Char) : Except Fault α :=
  .error { flaw, unread := byteCount rest }

/-- A flaw that shows at the first byte of the rest. -/
def failAt (flaw : Flaw) (rest : List Char) : Except Fault α :=
  .error { flaw, unread := byteCount rest - 1 }

namespace Parser

def isSpace (c : Char) : Bool := c == ' ' || c == '\n' || c == '\t' || c == '\r'

def skipSpace (s : List Char) : List Char := s.dropWhile isSpace

/-- The rest of a word such as `true` after its first letter. -/
def word (value : Json) : List Char → List Char → Except Fault (Json × List Char)
  | [], rest => .ok (value, rest)
  | _ :: _, [] => failBefore .endInValue []
  | c :: cs, d :: rest => if c = d then word value cs rest else failAt .expectedWord (d :: rest)

def digitValue (c : Char) : Nat := c.toNat - 48

/-- The significand of a run of digits that goes on from `n`, as long as it fits 64 bits. -/
def significand (n : Nat) : List Char → Nat × List Char
  | [] => (n, [])
  | c :: rest =>
    let m := 10 * n + digitValue c
    if c.isDigit ∧ m < Nat.pow 2 64 then significand m rest else (n, c :: rest)

def signedReal (negative : Bool) (x : Float) : Json :=
  .number (.real (if negative then -x else x))

/-- A real number with the digits of `n`, scaled. -/
def real (negative : Bool) (n : Nat) (exponent : Int) (rest : List Char) :
    Except Fault (Json × List Char) :=
  match Decimal.scale? n exponent with
  | some x => .ok (signedReal negative x, rest)
  | none => failBefore .numberOutOfRange rest

/-- The digits of an exponent after the first ones, whose value is `e`.  An exponent beyond 31 bits
makes zero of the number, or takes it out of range. -/
def exponentDigits (negative : Bool) (n : Nat) (before : Int) (up : Bool) (e : Nat) :
    List Char → Except Fault (Json × List Char)
  | [] => real negative n (if up then before + e else before - e) []
  | c :: rest =>
    if c.isDigit then
      if 10 * e + digitValue c < Nat.pow 2 31 then
        exponentDigits negative n before up (10 * e + digitValue c) rest
      else if n ≠ 0 ∧ up then failBefore .numberOutOfRange rest
      else .ok (signedReal negative 0, rest.dropWhile Char.isDigit)
    else real negative n (if up then before + e else before - e) (c :: rest)

/-- The exponent after the letter that opens it. -/
def exponentPart (negative : Bool) (n : Nat) (before : Int) (s : List Char) :
    Except Fault (Json × List Char) :=
  let up := s.head? != some '-'
  let digits := Decimal.withoutSign s
  match digits with
  | [] => failBefore .endInValue []
  | c :: rest =>
    if c.isDigit then exponentDigits negative n before up (digitValue c) rest
    else failAt .invalidNumber digits

/-- The fraction after its point; digits beyond 64 bits of significand are dropped. -/
def fractionPart (negative : Bool) (n : Nat) (before : Int) (s : List Char) :
    Except Fault (Json × List Char) :=
  match s with
  | [] => failAt .endInValue []
  | c :: _ =>
    if c.isDigit then
      let (m, rest) := significand n s
      let exponent := before - ((s.length - rest.length : Nat) : Int)
      match rest.dropWhile Char.isDigit with
      | 'e' :: after => exponentPart negative m exponent after
      | 'E' :: after => exponentPart negative m exponent after
      | after => real negative m exponent after
    else failAt .invalidNumber s

/-- The number after its sign. -/
def number (negative : Bool) (s : List Char) : Except Fault (Json × List Char) :=
  match s with
  | [] => failBefore .endInValue []
  | c :: after =>
    if !c.isDigit then failAt .invalidNumber s
    else if c = '0' ∧ (after.headD ' ').isDigit then failAt .invalidNumber after
    else
      let (n, tail) := significand (digitValue c) after
      let rest := tail.dropWhile Char.isDigit
      let dropped := tail.length - rest.length
      match rest with
      | '.' :: digits => fractionPart negative n dropped digits
      | 'e' :: digits => exponentPart negative n dropped digits
      | 'E' :: digits => exponentPart negative n dropped digits
      | _ =>
        if dropped ≠ 0 then real negative n dropped rest
        else if !negative then .ok (.number (.integer n), rest)
        else if n = 0 ∨ Nat.pow 2 63 < n then .ok (signedReal true (Float.ofNat n), rest)
        else .ok (.number (.integer (-n)), rest)

def hexValue? (c : Char) : Option Nat :=
  if c.isDigit then some (c.toNat - 48)
  else if 'a' ≤ c ∧ c ≤ 'f' then some (c.toNat - 87)
  else if 'A' ≤ c ∧ c ≤ 'F' then some (c.toNat - 55)
  else none

/-- Four hexadecimal digits. -/
def hexUnit (s : List Char) : Except Fault (Nat × List Char) :=
  if byteCount s < 4 then failBefore .endInString []
  else match s with
    | a :: b :: c :: d :: rest =>
      match hexValue? a, hexValue? b, hexValue? c, hexValue? d with
      | some w, some x, some y, some z => .ok (((w * 16 + x) * 16 + y) * 16 + z, rest)
      | _, _, _, _ => .error { flaw := .invalidEscape, unread := byteCount s - 4 }
    | _ => .error { flaw := .invalidEscape, unread := byteCount s - 4 }

/-- The character of an escape `\u`; two units make a character beyond the basic plane. -/
def unicodeEscape (s : List Char) : Except Fault (Char × List Char) := do
  let (high, rest) ← hexUnit s
  if 0xDC00 ≤ high ∧ high ≤ 0xDFFF then failBefore .loneSurrogate rest
  else if high < 0xD800 ∨ 0xDBFF < high then return (Char.ofNat high, rest)
  else match rest with
    | [] => failBefore .endInString []
    | '\\' :: [] => failBefore .endInString []
    | '\\' :: 'u' :: after =>
      let (low, last) ← hexUnit after
      if low < 0xDC00 ∨ 0xDFFF < low then failBefore .loneSurrogate last
      else return (Char.ofNat (0x10000 + (high - 0xD800) * 1024 + (low - 0xDC00)), last)
    | '\\' :: after => failAt .endOfEscape after
    | _ => failAt .endOfEscape rest

/-- The character of an escape after its backslash. -/
def escaped (s : List Char) : Except Fault (Char × List Char) :=
  match s with
  | [] => failBefore .endInString []
  | '"' :: rest => .ok ('"', rest)
  | '\\' :: rest => .ok ('\\', rest)
  | '/' :: rest => .ok ('/', rest)
  | 'b' :: rest => .ok (Char.ofNat 8, rest)
  | 'f' :: rest => .ok (Char.ofNat 12, rest)
  | 'n' :: rest => .ok ('\n', rest)
  | 'r' :: rest => .ok ('\r', rest)
  | 't' :: rest => .ok ('\t', rest)
  | 'u' :: rest => unicodeEscape rest
  | _ => failAt .invalidEscape s

/-- The characters up to the closing quote; `fuel` bounds their number. -/
def characters : Nat → List Char → Except Fault (List Char × List Char)
  | 0, rest => failBefore .endInString rest
  | fuel + 1, s =>
    match s with
    | [] => failBefore .endInString []
    | '"' :: rest => .ok ([], rest)
    | '\\' :: rest => do
      let (c, after) ← escaped rest
      let (cs, last) ← characters fuel after
      return (c :: cs, last)
    | c :: rest =>
      if c.toNat < 32 then failAt .controlInString s
      else do
        let (cs, last) ← characters fuel rest
        return (c :: cs, last)

/-- A string after its opening quote. -/
def stringBody (s : List Char) : Except Fault (String × List Char) := do
  let (cs, rest) ← characters (s.length + 1) s
  return (String.ofList cs, rest)

/-- The elements of an array from its first one on, and the closing bracket. -/
def elements (element : List Char → Except Fault (Json × List Char)) :
    Nat → List Char → Except Fault (List Json × List Char)
  | 0, rest => failAt .endInList rest
  | fuel + 1, s => do
    let (item, rest) ← element s
    match skipSpace rest with
    | [] => failAt .endInList []
    | ']' :: after => return ([item], after)
    | ',' :: after =>
      match skipSpace after with
      | [] => failAt .endInValue []
      | ']' :: last => failAt .trailingComma (']' :: last)
      | next => do
        let (items, last) ← elements element fuel next
        return (item :: items, last)
    | other => failAt .expectedListComma other

/-- A key, its colon and its value, from the key's first character on. -/
def member (element : List Char → Except Fault (Json × List Char)) (s : List Char) :
    Except Fault ((String × Json) × List Char) :=
  match s with
  | '"' :: body => do
    let (key, rest) ← stringBody body
    match skipSpace rest with
    | [] => failAt .endInObject []
    | ':' :: after => do
      let (value, last) ← element after
      return ((key, value), last)
    | other => failAt .expectedColon other
  | other => failAt .keyNotString other

/-- The members of an object from its first one on, and the closing brace. -/
def objectMembers (element : List Char → Except Fault (Json × List Char)) :
    Nat → List Char → Except Fault (Members × List Char)
  | 0, rest => failAt .endInObject rest
  | fuel + 1, s => do
    let (pair, rest) ← member element s
    match skipSpace rest with
    | [] => failAt .endInObject []
    | '\x7d' :: after => return ([pair], after)
    | ',' :: after =>
      match skipSpace after with
      | [] => failAt .endInValue []
      | '\x7d' :: last => failAt .trailingComma ('\x7d' :: last)
      | next => do
        let (pairs, last) ← objectMembers element fuel next
        return (pair :: pairs, last)
    | other => failAt .expectedObjectComma other

/-- A value with less than `depth` arrays and objects inside one another. -/
def value (depth : Nat) (text : List Char) : Except Fault (Json × List Char) :=
  match depth with
  | 0 => failAt .tooDeep text
  | room + 1 =>
    match skipSpace text with
    | [] => failAt .endInValue []
    | 'n' :: rest => word .null ['u', 'l', 'l'] rest
    | 't' :: rest => word (.bool true) ['r', 'u', 'e'] rest
    | 'f' :: rest => word (.bool false) ['a', 'l', 's', 'e'] rest
    | '-' :: rest => number true rest
    | '"' :: rest => do
      let (s, after) ← stringBody rest
      return (.string s, after)
    | '[' :: rest =>
      if room = 0 then failAt .tooDeep ('[' :: rest)
      else match skipSpace rest with
        | [] => failAt .endInList []
        | ']' :: after => .ok (.array [], after)
        | first => do
          let (items, after) ← elements (value room) (first.length + 1) first
          return (.array items, after)
    | '\x7b' :: rest =>
      if room = 0 then failAt .tooDeep ('\x7b' :: rest)
      else match skipSpace rest with
        | [] => failAt .endInObject []
        | '\x7d' :: after => .ok (.object [], after)
        | first => do
          let (members, after) ← objectMembers (value room) (first.length + 1) first
          return (.object members, after)
    | c :: rest =>
      if c.isDigit then number false (c :: rest) else failAt .expectedValue (c :: rest)

end Parser

/-- Where in a text something shows: the line, and the bytes of the line up to it. -/
structure Position where
  line : Nat
  column : Nat
deriving DecidableEq, Repr

/-- The position before the last `unread` bytes of a text. -/
def positionBefore (text : String) (unread : Nat) : Position :=
  let bytes := text.toUTF8.toList.take (text.utf8ByteSize - unread)
  { line := bytes.count 10 + 1
    column := (bytes.reverse.takeWhile (· != 10)).length }

structure SyntaxError where
  flaw : Flaw
  position : Position
deriving DecidableEq, Repr

def Position.text (p : Position) : String := s!"line {p.line} column {p.column}"

def SyntaxError.message (e : SyntaxError) : String :=
  e.flaw.message ++ " at " ++ e.position.text

/-- One value and nothing but blanks after it. -/
def whole (s : List Char) : Except Fault Json := do
  let (v, rest) ← Parser.value 128 s
  match Parser.skipSpace rest with
  | [] => return v
  | other => failAt .trailingCharacters other

/-- Reads a text with every member of its objects. -/
def read (text : String) : Except SyntaxError Json :=
  (whole text.toList).mapError fun fault ↦
    { flaw := fault.flaw, position := positionBefore text fault.unread }

/-- Reads a text with each key of an object once. -/
def parse (text : String) : Except SyntaxError Json :=
  (read text).map distinct

end Barometer.Json
