import Barometer.Json.Basic
import Barometer.Store.Table

/-!
# Databases as documents

A database is written as a list of tables, each with its columns and rows, and the register of
imports if there is one.  Octets are an object with their hexadecimal digits; an absent list is
empty.
-/

namespace Barometer.Store

namespace Document

def textOf (v : Option Json) : String :=
  match v with
  | some (.string s) => s
  | _ => ""

def itemsOf (v : Option Json) : List Json :=
  match v with
  | some (.array items) => items
  | _ => []

def textsOf (v : Option Json) : List String :=
  (itemsOf v).map fun item ↦ textOf (some item)

/-- The octets of hexadecimal digits, two by two. -/
def octets : List Char → List UInt8
  | a :: b :: rest => UInt8.ofNat (16 * Decimal.hexValue a + Decimal.hexValue b) :: octets rest
  | _ => []

def cell : Json → Value
  | .null => .null
  | .bool b => .ofBool b
  | .number (.integer n) => if fits n then .int n else .real (Float.ofInt n)
  | .number (.real x) => .real x
  | .string s => .text s
  | .array _ => .null
  | .object members => .blob (octets (textOf (Json.get? members "blob")).toList)

def table (v : Json) : Table where
  name := textOf (v.field? "name")
  columns := textsOf (v.field? "columns")
  rows := (itemsOf (v.field? "rows")).map fun row ↦ (itemsOf (some row)).map cell

def importRow (v : Json) : StoredImport where
  tag := textOf (v.field? "data_type")
  table := textOf (v.field? "table_name")
  time := textOf (v.field? "imported_at")

end Document

/-- The database of a document. -/
def Database.ofJson (v : Json) : Database where
  tables := (Document.itemsOf (v.field? "tables")).map Document.table ++
    match v.field? "imports" with
    | some (.array rows) => [Database.registerTable (rows.map Document.importRow)]
    | _ => []

end Barometer.Store
