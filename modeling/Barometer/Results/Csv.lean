import Barometer.Text.Quoted

/-!
# Records of separated fields

Each record is a line.  A field stands between quotes if it holds the separator, a quote or the end
of a line, and a quote in it is doubled.  A record without text would look like no record, so it is
written as an empty field between quotes.
-/

namespace Barometer.Csv

/-- The characters that separate fields. -/
inductive Separator where
  | comma
  | semicolon
  | tab
deriving DecidableEq, Repr

namespace Separator

def char : Separator → Char
  | .comma => ','
  | .semicolon => ';'
  | .tab => '\t'

def ofChar? (c : Char) : Option Separator := [comma, semicolon, tab].find? fun s ↦ s.char = c

end Separator

/-- What is said about a character that does not separate fields. -/
def refusal (c : Char) : String :=
  "unsupported CSV delimiter " ++ Text.quotedSingle c ++ ", expected ',', ';' or tab"

/-- Whether a character cannot stand in a field without quotes. -/
def isSpecial (separator : Separator) (c : Char) : Bool :=
  c == separator.char || c == '"' || c == '\n' || c == '\r'

/-- The characters of a field between quotes. -/
def quotedBody : List Char → List Char
  | [] => []
  | c :: rest => if c = '"' then '"' :: '"' :: quotedBody rest else c :: quotedBody rest

/-- A field as it is written. -/
def field (separator : Separator) (s : String) : List Char :=
  if s.toList.any (isSpecial separator) then '"' :: quotedBody s.toList ++ ['"'] else s.toList

/-- Fields with separators between them. -/
def fields (separator : Separator) : List String → List Char
  | [] => []
  | [s] => field separator s
  | s :: rest => field separator s ++ separator.char :: fields separator rest

/-- A record, with the end of its line. -/
def record (separator : Separator) (row : List String) : List Char :=
  (match fields separator row with
    | [] => ['"', '"']
    | chars => chars) ++ ['\n']

/-- The records of a table. -/
def records (separator : Separator) (rows : List (List String)) : List Char :=
  rows.flatMap (record separator)

end Barometer.Csv
