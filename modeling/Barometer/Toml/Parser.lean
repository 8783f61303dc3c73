import Barometer.Toml.Document
import Barometer.Toml.Scalar

/-!
# Reading TOML texts

One line after the other: headings, assignments, comments and blank lines.  A value ends on its line
unless it is an array or a text between triple quotes.
-/

namespace Barometer.Toml.Parser

def isSpace (c : Char) : Bool := c == ' ' || c == '\t'

def skipSpace (s : List Char) : List Char := s.dropWhile isSpace

/-- Whether a character may stand in a text or comment as it is. -/
def isPrintable (c : Char) : Bool := c == '\t' || decide (32 ≤ c.toNat) && c.toNat != 127

/-- The text after the end of a line, if it stands at one. -/
def lineEnd? : List Char → Option (List Char)
  | '\n' :: rest => some rest
  | '\r' :: '\n' :: rest => some rest
  | _ => none

def skipComment (s : List Char) : List Char :=
  match s with
  | '#' :: rest => rest.dropWhile isPrintable
  | _ => s

/-- Skips spaces, comments and line ends; at most `fuel` lines. -/
def skipLines : Nat → List Char → List Char
  | 0, s => s
  | fuel + 1, s =>
    let rest := skipComment (skipSpace s)
    match lineEnd? rest with
    | some after => skipLines fuel after
    | none => rest

/-- A character by the digits of its number. -/
def scalarValue? (width : Nat) (s : List Char) : Option (Char × List Char) :=
  let ds := s.take width
  if ds.length = width ∧ ds.all isHexDigit then
    let n := ds.foldl (fun n c ↦ 16 * n + Decimal.hexValue c) 0
    if n.isValidChar then some (Char.ofNat n, s.drop width) else none
  else none

/-- The character of an escape after its backslash. -/
def escape? : List Char → Option (Char × List Char)
  | 'b' :: rest => some (Char.ofNat 8, rest)
  | 't' :: rest => some ('\t', rest)
  | 'n' :: rest => some ('\n', rest)
  | 'f' :: rest => some (Char.ofNat 12, rest)
  | 'r' :: rest => some ('\r', rest)
  | '"' :: rest => some ('"', rest)
  | '\\' :: rest => some ('\\', rest)
  | 'u' :: rest => scalarValue? 4 rest
  | 'U' :: rest => scalarValue? 8 rest
  | _ => none

/-- The characters up to the closing quote of a text on one line. -/
def basic : Nat → List Char → Option (List Char × List Char)
  | 0, _ => none
  | fuel + 1, s =>
    match s with
    | '"' :: rest => some ([], rest)
    | '\\' :: rest => do
      let (c, after) ← escape? rest
      let (cs, last) ← basic fuel after
      return (c :: cs, last)
    | c :: rest =>
      if isPrintable c then (basic fuel rest).map fun (cs, last) ↦ (c :: cs, last) else none
    | [] => none

/-- A text without escapes on one line. -/
def literal (s : List Char) : Option (List Char × List Char) :=
  let body := s.takeWhile (· != '\x27')
  match s.drop body.length with
  | _ :: rest => if body.all isPrintable then some (body, rest) else none
  | [] => none

/-- The end of a text between triple quotes, where a run of quotes stands: up to two of them belong
to the text. -/
def closing? (quote : Char) (s : List Char) : Option (List Char × List Char) :=
  let run := s.takeWhile (· == quote)
  if 3 ≤ run.length ∧ run.length ≤ 5 then some (run.drop 3, s.drop run.length) else none

/-- The text after all blanks and line ends. -/
def dropLines : List Char → List Char
  | [] => []
  | '\r' :: '\n' :: rest => dropLines rest
  | c :: rest => if isSpace c || c == '\n' then dropLines rest else c :: rest

/-- The text after a backslash that ends its line, with all blanks and line ends skipped. -/
def continuation? (s : List Char) : Option (List Char) :=
  (lineEnd? (skipSpace s)).map dropLines

/-- The characters up to the closing quotes of a text on several lines. -/
def multiline (quote : Char) : Nat → List Char → Option (List Char × List Char)
  | 0, _ => none
  | fuel + 1, s =>
    match s with
    | [] => none
    | c :: rest =>
      if c = quote ∧ 3 ≤ (s.takeWhile (· == quote)).length then closing? quote s
      else if c = '\\' ∧ quote = '"' then
        match continuation? rest with
        | some after => multiline quote fuel after
        | none => do
          let (d, after) ← escape? rest
          let (cs, last) ← multiline quote fuel after
          return (d :: cs, last)
      else match lineEnd? s with
        | some after => (multiline quote fuel after).map fun (cs, last) ↦ ('\n' :: cs, last)
        | none =>
          if isPrintable c then
            (multiline quote fuel rest).map fun (cs, last) ↦ (c :: cs, last)
          else none

/-- A text on several lines after its opening quotes; a line end right behind them is dropped. -/
def multilineBody (quote : Char) (s : List Char) : Option (List Char × List Char) :=
  let body := (lineEnd? s).getD s
  multiline quote (body.length + 1) body

def isKeyCharacter (c : Char) : Bool := c.isAlphanum || c == '_' || c == '-'

/-- One part of a key. -/
def simpleKey (s : List Char) : Option (String × List Char) :=
  match s with
  | '"' :: rest => (basic (rest.length + 1) rest).map fun (cs, last) ↦ (String.ofList cs, last)
  | '\x27' :: rest => (literal rest).map fun (cs, last) ↦ (String.ofList cs, last)
  | _ =>
    let key := s.takeWhile isKeyCharacter
    if key.isEmpty then none else some (String.ofList key, s.drop key.length)

/-- A key of one or more parts, with spaces around its points. -/
def keyPath : Nat → List Char → Option (List String × List Char)
  | 0, _ => none
  | fuel + 1, s => do
    let (key, rest) ← simpleKey s
    match skipSpace rest with
    | '.' :: after => do
      let (keys, last) ← keyPath fuel (skipSpace after)
      return (key :: keys, last)
    | last => return ([key], last)

def key (s : List Char) : Option (List String × List Char) := keyPath (s.length + 1) s

/-- An assignment, given the reader of its value. -/
def pair (element : List Char → Option (Toml × List Char)) (s : List Char) :
    Option ((List String × Toml) × List Char) := do
  let (path, rest) ← key s
  match rest with
  | '=' :: after => do
    let (v, last) ← element (skipSpace after)
    return ((path, v), last)
  | _ => none

/-- The items of an array after its opening bracket or a comma, and the closing bracket. -/
def items (element : List Char → Option (Toml × List Char)) :
    Nat → List Char → Option (List Toml × List Char)
  | 0, _ => none
  | fuel + 1, s =>
    match skipLines (s.length + 1) s with
    | ']' :: rest => some ([], rest)
    | first => do
      let (v, rest) ← element first
      match skipLines (rest.length + 1) rest with
      | ']' :: after => return ([v], after)
      | ',' :: after => do
        let (vs, last) ← items element fuel after
        return (v :: vs, last)
      | _ => none

/-- The assignments of a table on one line, from the first one on, and the closing brace. -/
def pairs (element : List Char → Option (Toml × List Char)) :
    Nat → List Char → Option (List (List String × Toml) × List Char)
  | 0, _ => none
  | fuel + 1, s => do
    let (p, rest) ← pair element s
    match skipSpace rest with
    | '\x7d' :: after => return ([p], after)
    | ',' :: after => do
      let (ps, last) ← pairs element fuel (skipSpace after)
      return (p :: ps, last)
    | _ => none

/-- A value with less than `depth` arrays and tables inside one another. -/
def value : Nat → List Char → Option (Toml × List Char)
  | 0, _ => none
  | room + 1, s =>
    match s with
    | '"' :: '"' :: '"' :: rest =>
      (multilineBody '"' rest).map fun (cs, last) ↦ (.text (String.ofList cs), last)
    | '"' :: rest =>
      (basic (rest.length + 1) rest).map fun (cs, last) ↦ (.text (String.ofList cs), last)
    | '\x27' :: '\x27' :: '\x27' :: rest =>
      (multilineBody '\x27' rest).map fun (cs, last) ↦ (.text (String.ofList cs), last)
    | '\x27' :: rest => (literal rest).map fun (cs, last) ↦ (.text (String.ofList cs), last)
    | '[' :: rest =>
      if room = 0 then none
      else (items (value room) (rest.length + 1) rest).map fun (vs, last) ↦ (.array vs, last)
    | '\x7b' :: rest =>
      if room = 0 then none
      else match skipSpace rest with
        | '\x7d' :: after => some (.table [], after)
        | first => do
          let (ps, last) ← pairs (value room) (first.length + 1) first
          return (← ofAssignments ps, last)
    | _ => readScalar? s

/-- The least number of nested arrays and tables that is refused. -/
def depthLimit : Nat := 80

/-- A heading after its opening brackets. -/
def heading (close : List Char) (s : List Char) : Option (List String × List Char) := do
  let (path, rest) ← key (skipSpace s)
  if close.isPrefixOf rest then return (path, rest.drop close.length) else none

def statement (s : List Char) : Option (Statement × List Char) :=
  match s with
  | '[' :: '[' :: rest => (heading [']', ']'] rest).map fun (path, last) ↦ (.item path, last)
  | '[' :: rest => (heading [']'] rest).map fun (path, last) ↦ (.table path, last)
  | _ => (pair (value depthLimit) s).map fun ((path, v), last) ↦ (.assignment path v, last)

/-- The statements of a text; each is alone on its line. -/
def statements : Nat → List Char → Option (List Statement)
  | 0, _ => none
  | fuel + 1, s =>
    match skipLines (s.length + 1) s with
    | [] => some []
    | first => do
      let (st, rest) ← statement first
      let last := skipComment (skipSpace rest)
      match last, lineEnd? last with
      | [], _ => return [st]
      | _, some after => do
        let sts ← statements fuel after
        return st :: sts
      | _, none => none

/-- A text without the mark that may stand before it. -/
def withoutMark (s : List Char) : List Char :=
  match s with
  | c :: rest => if c.toNat = 0xFEFF then rest else s
  | [] => []

end Parser

/-- Reads a document; none if it is not well formed. -/
def parse? (text : String) : Option Toml :=
  let s := Parser.withoutMark text.toList
  (Parser.statements (s.length + 1) s).bind ofStatements

end Barometer.Toml
