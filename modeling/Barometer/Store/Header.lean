import Barometer.Store.Name
import Barometer.Store.Value

/-!
# Fields and contexts

The rows of a query have the fields of all its tables, one after the other.  A name is looked up in
the fields of its own query first and then in those of the queries around it.  Within one query a
column goes before the number of a row, and that before the title of a column of the result.
-/

namespace Barometer.Store

inductive Field where
  | column (table name : String)
  /-- The number of the row in its table. -/
  | rowNumber (table : String)
  /-- The title of a column of the result, if it is written with one. -/
  | title (name : Option String)
deriving DecidableEq, Repr

abbrev Header := List Field

/-- The name of the only database there is. -/
def databaseName : String := "main"

def rowNumberNames : List String := ["rowid", "oid", "_rowid_"]

/-- Whether a path names something of a table whose last part passes a test. -/
def pathFits (table : String) (last : String → Bool) : List Part → Bool
  | [c] => last c.text
  | [t, c] => sameName t.text table && last c.text
  | [d, t, c] => sameName d.text databaseName && sameName t.text table && last c.text
  | _ => false

namespace Field

def isColumn (path : List Part) : Field → Bool
  | .column table name => pathFits table (sameName name) path
  | _ => false

def isRowNumber (path : List Part) : Field → Bool
  | .rowNumber table => pathFits table (fun c ↦ rowNumberNames.any (sameName c)) path
  | _ => false

def isTitle (path : List Part) : Field → Bool
  | .title (some name) =>
    match path with
    | [c] => sameName name c.text
    | _ => false
  | _ => false

end Field

/-- The outcome of a look-up. -/
inductive Found where
  | missing
  | ambiguous
  | at (index : Nat)
deriving DecidableEq, Repr

namespace Header

/-- The places of the fields that pass a test. -/
def places (test : Field → Bool) (header : Header) : List Nat :=
  (header.zipIdx.filter fun entry ↦ test entry.1).map Prod.snd

/-- The field that a path names. -/
def find (header : Header) (path : List Part) : Found :=
  match header.places (Field.isColumn path) with
  | [i] => .at i
  | _ :: _ => .ambiguous
  | [] =>
    match header.places (Field.isRowNumber path) with
    | [i] => .at i
    | _ :: _ => .ambiguous
    | [] =>
      match header.places (Field.isTitle path) with
      | i :: _ => .at i
      | [] => .missing

end Header

/-- What a path means that names no field: a text if it is quoted, or the words for truth. -/
def unresolved : List Part → Option Value
  | [part] =>
    if part.quoted then some (.text part.text)
    else if part.isWord "true" then some (.int 1)
    else if part.isWord "false" then some (.int 0)
    else none
  | _ => none

/-- Whether a path means something. -/
def resolves (headers : List Header) (path : List Part) : Bool :=
  match headers.find? fun header ↦ header.find path != .missing with
  | some header => header.find path != .ambiguous
  | none => (unresolved path).isSome

/-- A query in the middle of its work: the rows that aggregates run over, and the current row. -/
structure Level where
  header : Header
  group : List Row
  row : Row

/-- The queries at work, the innermost first. -/
abbrev Context := List Level

namespace Context

/-- The value of a path. -/
def lookup : Context → List Part → Value
  | [], path => (unresolved path).getD .null
  | level :: outer, path =>
    match level.header.find path with
    | .at i => level.row.getD i .null
    | .ambiguous => .null
    | .missing => lookup outer path

/-- The value of what is written where a column stands. -/
def read (ctx : Context) : Reading → Value
  | .one => .int 1
  | .star => .int 1
  | .null => .null
  | .path parts => ctx.lookup parts
  | .broken => .null

def headers (ctx : Context) : List Header := ctx.map Level.header

end Context

end Barometer.Store
