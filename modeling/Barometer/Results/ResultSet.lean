import Barometer.Json.Printer
import Barometer.Results.Csv
import Barometer.Store.Admission

/-!
# Results

What an indicator yields: the statement that was run, the titles of the columns, and rows as
objects, in which columns of one title have one member.
-/

namespace Barometer

structure ResultSet where
  sql : String
  columns : List String
  rows : List Json.Members
  rowCount : Nat
  /-- The indicator of a report that the result belongs to. -/
  indicatorId : Option Int
  indicatorTitle : Option String

namespace ResultSet

/-- A row as an object: of several columns of one title the last one counts. -/
def rowMembers (columns : List String) (row : Store.Row) : Json.Members :=
  (columns.zip row).foldl (fun members (title, v) ↦ Json.put title v.toJson members) []

/-- The result of a statement. -/
def ofStore (sql : String) (result : Store.Result) : ResultSet where
  sql
  columns := result.columns
  rows := result.rows.map (rowMembers result.columns)
  rowCount := result.rows.length
  indicatorId := none
  indicatorTitle := none

/-- A member that is left out when it has no value. -/
def optionalMember (key : String) (toJson : α → Json) : Option α → Json.Members
  | none => []
  | some v => [(key, toJson v)]

def toJson (r : ResultSet) : Json :=
  .object <|
    [("sql", .string r.sql), ("columns", .ofStrings r.columns),
      ("rows", .array (r.rows.map .object)), ("row_count", .ofNat r.rowCount)] ++
    optionalMember "indicator_id" Json.ofInt r.indicatorId ++
    optionalMember "indicator_title" Json.string r.indicatorTitle

/-- A member as the text of a field: nothing if it is missing, texts as they are. -/
def cellText : Option Json → String
  | none => ""
  | some .null => ""
  | some (.string s) => s
  | some v => v.compact

/-- The fields of a row, one for each column. -/
def cells (columns : List String) (row : Json.Members) : List String :=
  columns.map fun title ↦ cellText (Json.get? row title)

/-- The titles and then the rows. -/
def table (r : ResultSet) : List (List String) :=
  r.columns :: r.rows.map (cells r.columns)

def csv (separator : Csv.Separator) (r : ResultSet) : String :=
  String.ofList (Csv.records separator r.table)

end ResultSet

end Barometer
