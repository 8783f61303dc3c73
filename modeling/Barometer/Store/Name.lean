import Barometer.Sql.Identifier

/-!
# Names as a database reads them

A name without quotes is read as its parts between points; between quotes it is one part, whatever
it holds.  The digit one is a number, and some words mean something else unless they are quoted.
ASCII letters of names match in either case.
-/

namespace Barometer.Store

/-- A name in lower case, as names are compared. -/
def foldName (name : String) : List Char := name.toList.map Char.toLower

def sameName (a b : String) : Bool := foldName a == foldName b

structure Part where
  text : String
  quoted : Bool
deriving DecidableEq, Repr

/-- What a database reads where a column is written. -/
inductive Reading where
  | one
  | star
  /-- The word for a missing value. -/
  | null
  /-- Column, or table and column, or database, table and column. -/
  | path (parts : List Part)
  | broken
deriving DecidableEq, Repr

namespace Part

/-- Words that cannot be names without quotes. -/
def reservedWords : List String :=
  ["add", "all", "alter", "and", "as", "autoincrement", "between", "case", "check", "collate",
    "commit", "constraint", "create", "default", "deferrable", "delete", "distinct", "drop",
    "else", "escape", "except", "exists", "foreign", "from", "group", "having", "in", "index",
    "insert", "intersect", "into", "is", "isnull", "join", "limit", "not", "nothing", "notnull",
    "null", "on", "or", "order", "primary", "references", "returning", "select", "set", "table",
    "then", "to", "transaction", "union", "unique", "update", "using", "values", "when", "where"]

/-- Words that cannot begin an expression either. -/
def openingWords : List String := ["cast", "raise"]

def isWord (part : Part) (word : String) : Bool := !part.quoted && sameName part.text word

def isReserved (part : Part) : Bool := reservedWords.any part.isWord

def isOpening (part : Part) : Bool := openingWords.any part.isWord

end Part

/-- The parts of a written name; none if it is not read as a name. -/
def partsOf? (name : String) : Option (List Part) :=
  if !Sql.isPlain name then some [{ text := name, quoted := true }]
  else if name = "1" ∨ name = "*" then none
  else
    let part (s : List Char) : Part := { text := String.ofList s, quoted := false }
    match name.toList.dropWhile (· != '.') with
    | [] => some [part name.toList]
    | _ :: rest => some [part (name.toList.takeWhile (· != '.')), part rest]

namespace Reading

/-- What is read of the parts of a name that stands alone. -/
def ofParts : List Part → Reading
  | [part] => if part.isWord "null" then .null else .path [part]
  | parts => .path parts

/-- What is read where a column is written, with its table or without. -/
def ofColumn (table : Option String) (name : String) : Reading :=
  match table with
  | none =>
    match partsOf? name with
    | some parts => ofParts parts
    | none => if name = "1" then .one else .star
  | some table =>
    match partsOf? table, partsOf? name with
    | some owner, some parts => .path (owner ++ parts)
    | _, _ => .broken

end Reading

/-- Whether parts can stand together as a name. -/
def isNamePath (parts : List Part) : Bool :=
  decide (parts.length ≤ 3) && !parts.any Part.isReserved && !(parts.take 1).any Part.isOpening

end Barometer.Store
