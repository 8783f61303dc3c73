import Barometer.Imports.Timestamp

/-!
# The register of imports

Every import of a spreadsheet makes a new table.  The register says which table it was, when it was
made, and what it holds, by a tag such as `insertion_2022_6m`.
-/

namespace Barometer

structure Import where
  tag : String
  table : String
  time : Timestamp
deriving DecidableEq, Repr

/-- A row of the register as it is stored. -/
structure StoredImport where
  tag : String
  table : String
  time : String
deriving DecidableEq, Repr

namespace Import

/-- What is stored of an import: its time in whole seconds. -/
def stored (record : Import) : StoredImport :=
  { tag := record.tag, table := record.table, time := record.time.storedText }

end Import

/-- The import of a stored row; a time that cannot be read is taken for the epoch. -/
def StoredImport.load (row : StoredImport) : Import :=
  { tag := row.tag, table := row.table, time := (Timestamp.ofText? row.time).getD .epoch }

/-- The register as a table of a database; none before the table is made. -/
abbrev StoredRegister := Option (List StoredImport)

namespace StoredRegister

/-- The register with its table made. -/
def ensure (register : StoredRegister) : StoredRegister := some (register.getD [])

/-- Adds an import at the end, making the table if there is none. -/
def record (register : StoredRegister) (item : Import) : StoredRegister :=
  some (register.getD [] ++ [item.stored])

/-- Adds a row as it is; none if there is no table. -/
def append? (register : StoredRegister) (row : StoredImport) : Option StoredRegister :=
  register.map fun rows ↦ some (rows ++ [row])

/-- The imports in the order of their rows; a register without a table is empty. -/
def load (register : StoredRegister) : List Import := (register.getD []).map StoredImport.load

end StoredRegister

/-- The tags of a register, in order and each once. -/
def tagsOf (register : List Import) : List String :=
  firstOfRuns ((register.map Import.tag).mergeSort fun a b ↦ decide (a ≤ b))
where
  firstOfRuns : List String → List String
    | a :: b :: rest => if a = b then firstOfRuns (b :: rest) else a :: firstOfRuns (b :: rest)
    | short => short

end Barometer
