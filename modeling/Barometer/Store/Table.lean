import Barometer.Dictionary
import Barometer.Imports.Register
import Barometer.Store.Fault
import Barometer.Store.Header

/-!
# Tables

A database is a list of tables, and a table a list of rows in the order in which they came in.
Columns have no declared types: values are stored as they are given, and compared as they are
stored.  Only the columns of a register and the numbers of the rows have an affinity.
-/

namespace Barometer.Store

structure Table where
  name : String
  columns : List String
  rows : List Row

structure Database where
  tables : List Table
  /-- What the database says of what goes wrong at a statement. -/
  complaint : Cause → String → String := fun _ _ ↦ ""

namespace Table

/-- The fields of the rows of a table: its columns, and the number of the row. -/
def header (table : Table) : Header :=
  table.columns.map (Field.column table.name) ++ [.rowNumber table.name]

/-- The rows with their numbers, which begin at one. -/
def numberedRows (table : Table) : List Row :=
  table.rows.zipIdx.map fun entry ↦ entry.1 ++ [.int (entry.2 + 1)]

end Table

namespace Database

def empty : Database := { tables := [] }

def table? (db : Database) (name : String) : Option Table :=
  db.tables.find? fun table ↦ sameName table.name name

/-- The table that a name in a statement stands for. -/
def source? (db : Database) (name : String) : Option Table :=
  match partsOf? name with
  | some [t] => if t.isReserved then none else db.table? t.text
  | some [d, t] =>
    if !d.isReserved && !t.isReserved && sameName d.text databaseName then db.table? t.text
    else none
  | _ => none

/-- Whether a table belongs to the database itself: its name begins with `sqlite` and goes on. -/
def isInternal (name : String) : Bool :=
  (foldName "sqlite").isPrefixOf (foldName name) && decide (6 < name.length)

/-- The tables and their columns. -/
def live (db : Database) : Dictionary (List String) :=
  Dictionary.ofList <| (db.tables.filter fun table ↦ !isInternal table.name).map fun table ↦
    (table.name, table.columns)

def registerName : String := "import_registry"

def registerColumns : List String := ["data_type", "table_name", "imported_at"]

/-- The table of a register. -/
def registerTable (rows : List StoredImport) : Table where
  name := registerName
  columns := registerColumns
  rows := rows.map fun row ↦ [.text row.tag, .text row.table, .text row.time]

/-- The cell of a row under a column. -/
def cell? (table : Table) (row : Row) (column : String) : Option Value :=
  (table.columns.findIdx? (sameName column)).map fun i ↦ row.getD i .null

/-- The import of a row, which must consist of texts. -/
def readImport (table : Table) (row : Row) : Except Cause StoredImport :=
  match registerColumns.map (cell? table row) with
  | [some (.text tag), some (.text name), some (.text time)] => .ok { tag, table := name, time }
  | _ => .error .register

/-- The imports of a table that has the columns of a register. -/
def readImports (table : Table) : Except Cause (List Import) :=
  if registerColumns.all fun column ↦ table.columns.any (sameName column) then
    (table.rows.mapM (readImport table)).map fun rows ↦ rows.map StoredImport.load
  else .error .register

/-- The statement that reads a register. -/
def registerStatement : String :=
  "SELECT " ++ ", ".intercalate registerColumns ++ " FROM " ++ registerName

/-- The imports that are registered; without a register there are none. -/
def register (db : Database) : Except Fault (List Import) :=
  match db.tables.find? fun table ↦ table.name = registerName with
  | none => .ok []
  | some table =>
    (readImports table).mapError fun cause ↦ .unseen (db.complaint cause registerStatement)

end Database

end Barometer.Store
