import Barometer.Json.Basic
import Barometer.Decimal.Layout

/-!
# JSON texts

The compact form has no blanks; the pretty form puts each member on a line of its own, indented by
two spaces a level.  Only quotes, backslashes and controls are escaped.
-/

namespace Barometer.Json

/-- A number as a JSON text. -/
def Number.text : Number → String
  | .integer n => toString n
  | .real x => (Decimal.format? Decimal.Layout.json x).getD "null"

def hexDigit (n : Nat) : Char := (Nat.toDigits 16 n).headD '0'

/-- A character of a string literal. -/
def escape (c : Char) : List Char :=
  if c = '"' ∨ c = '\\' then ['\\', c]
  else if c = '\n' then ['\\', 'n']
  else if c = '\r' then ['\\', 'r']
  else if c = '\t' then ['\\', 't']
  else if c.toNat = 8 then ['\\', 'b']
  else if c.toNat = 12 then ['\\', 'f']
  else if c.toNat < 32 then ['\\', 'u', '0', '0', hexDigit (c.toNat / 16), hexDigit (c.toNat % 16)]
  else [c]

/-- A string literal. -/
def literal (s : String) : String :=
  String.ofList ('"' :: s.toList.flatMap escape ++ ['"'])

mutual

/-- The compact text of a value. -/
def compact : Json → String
  | .null => "null"
  | .bool b => if b then "true" else "false"
  | .number n => n.text
  | .string s => literal s
  | .array items => "[" ++ compactItems items ++ "]"
  | .object members => "\x7b" ++ compactMembers members ++ "\x7d"

def compactItems : List Json → String
  | [] => ""
  | [item] => compact item
  | item :: rest => compact item ++ "," ++ compactItems rest

def compactMembers : List (String × Json) → String
  | [] => ""
  | [(key, value)] => literal key ++ ":" ++ compact value
  | (key, value) :: rest => literal key ++ ":" ++ compact value ++ "," ++ compactMembers rest

end

/-- A new line at a level. -/
def newline (level : Nat) : String :=
  String.ofList ('\n' :: List.replicate (2 * level) ' ')

mutual

/-- The pretty text of a value that stands at a level. -/
def prettyAt (level : Nat) : Json → String
  | .null => "null"
  | .bool b => if b then "true" else "false"
  | .number n => n.text
  | .string s => literal s
  | .array [] => "[]"
  | .array (item :: rest) =>
    "[" ++ newline (level + 1) ++ prettyAt (level + 1) item ++ prettyItems (level + 1) rest ++
      newline level ++ "]"
  | .object [] => "\x7b\x7d"
  | .object ((key, value) :: rest) =>
    "\x7b" ++ newline (level + 1) ++ literal key ++ ": " ++ prettyAt (level + 1) value ++
      prettyMembers (level + 1) rest ++ newline level ++ "\x7d"

/-- The items after the first one. -/
def prettyItems (level : Nat) : List Json → String
  | [] => ""
  | item :: rest => "," ++ newline level ++ prettyAt level item ++ prettyItems level rest

/-- The members after the first one. -/
def prettyMembers (level : Nat) : List (String × Json) → String
  | [] => ""
  | (key, value) :: rest =>
    "," ++ newline level ++ literal key ++ ": " ++ prettyAt level value ++ prettyMembers level rest

end

def pretty (value : Json) : String := prettyAt 0 value

end Barometer.Json
