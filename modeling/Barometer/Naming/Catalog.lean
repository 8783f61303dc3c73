import Barometer.Compilation
import Barometer.Dictionary
import Barometer.Indicator.Names

/-!
# Catalogs

Indicators speak of tables and columns by names of their own.  A catalog says what these are called
in the database: tables by name, and columns by the table they belong to.  Names it does not know
are kept.
-/

namespace Barometer

structure Catalog where
  tables : Dictionary String
  /-- Columns by the indicator's name of their table. -/
  columns : Dictionary (Dictionary String)
deriving DecidableEq, Repr

namespace Catalog

def empty : Catalog := { tables := [], columns := [] }

/-- Whether nothing is renamed. -/
def isEmpty (c : Catalog) : Bool :=
  c.tables.isEmpty && c.columns.all fun entry ↦ entry.2.isEmpty

/-- What a column is called in the first of the tables that has it. -/
def column? (c : Catalog) (tables : List String) (column : String) : Option String :=
  tables.findSome? fun table ↦ (c.columns.get? table).bind fun columns ↦ columns.get? column

/-- The renaming of a catalog. -/
def toRenaming (c : Catalog) : Renaming where
  table name := (c.tables.get? name).getD name
  column tables name := (c.column? tables name).getD name

/-- The indicator in the names of the database. -/
def apply (c : Catalog) (indicator : Indicator) : Indicator :=
  indicator.rename c.toRenaming

def applyRule (c : Catalog) (rule : JoinRule) : JoinRule where
  left := c.toRenaming.table rule.left
  right := c.toRenaming.table rule.right
  leftColumn := c.toRenaming.column [rule.left] rule.leftColumn
  rightColumn := c.toRenaming.column [rule.right] rule.rightColumn

/-- The join rules in the names of the database. -/
def applyJoins (c : Catalog) (options : Options) : Options :=
  { options with joins := options.joins.map c.applyRule }

/-- Adds the name of a column of a table. -/
def addColumn (c : Catalog) (table column name : String) : Catalog :=
  { c with columns :=
      c.columns.insert table (((c.columns.get? table).getD []).insert column name) }

end Catalog

end Barometer
