import Barometer.Dictionary

/-!
# Logical tables

What is known beforehand about the tables of indicators: the tags of the imports that fill them, and
the columns whose names change from one import to the next.
-/

namespace Barometer

/-- A column found by the beginning of its name; keywords decide between several. -/
structure LogicalColumn where
  name : String
  beginnings : List String
  keywords : List String
deriving DecidableEq, Repr

/-- A table filled by the imports whose tag begins in one of several ways. -/
structure LogicalTable where
  tags : List String
  columns : List LogicalColumn
deriving DecidableEq, Repr

structure Configuration where
  /-- The ends of tags by period. -/
  periods : Dictionary String
  tables : Dictionary LogicalTable
deriving DecidableEq, Repr

namespace Configuration

def empty : Configuration := { periods := [], tables := [] }

/-- Whether any of the tables is a logical one. -/
def covers (config : Configuration) (tables : List String) : Bool :=
  tables.any config.tables.contains

/-- The configuration of a column of a table. -/
def column? (config : Configuration) (table column : String) : Option LogicalColumn :=
  (config.tables.get? table).bind fun t ↦ t.columns.find? fun c ↦ c.name = column

end Configuration

/-- Which imports are wanted. -/
structure Request where
  period : Option String
  year : Option String
deriving DecidableEq, Repr

def Request.any : Request := { period := none, year := none }

end Barometer
