import Barometer.Indicator.Scalar
import Barometer.Indicator.Operator

/-!
# Indicators

An indicator names the rows it looks at, by tables and conditions, and the columns it shows: values
to group by, labels of cases, and aggregates.  Aggregates occur only in aggregation columns, so the
expressions there have aggregates for leaves, and everywhere else they have none.
-/

namespace Barometer

/-- An expression whose aggregates come from `α`. -/
inductive Expression (α : Type) where
  | literal (value : Scalar)
  | column (name : String)
  | operation (op : Arithmetic) (args : List (Expression α))
  | aggregate (aggregate : α)

/-- An expression over the columns of one row. -/
abbrev Operand := Expression Empty

inductive Junction where
  /-- A bare list, read as a conjunction. -/
  | list
  | and
  | or
deriving DecidableEq, Repr

inductive Condition where
  | empty
  | junction (kind : Junction) (children : List Condition)
  | compare (op : Comparison) (left right : Operand)

/-- Whether a condition is written as none at all. -/
def Condition.isEmpty : Condition → Bool
  | .empty => true
  | _ => false

/-- The rows of a query: the tables joined, and the condition that keeps a row. -/
structure Subject where
  tables : List String
  conditions : Condition

/-- An aggregate of the rows that satisfy a condition.  Without a column rows are counted; with a
subject the rows are those of the subject, and not of the query around it. -/
structure Aggregation where
  statistic : Statistic
  column : Option String
  condition : Condition
  subject : Option Subject

/-- An expression over aggregates. -/
abbrev Measure := Expression Aggregation

structure CaseArm where
  condition : Condition
  label : String

inductive ColumnBody where
  | groupBy (value : Operand)
  | cases (arms : List CaseArm)
  | aggregation (measure : Measure)

namespace ColumnBody

/-- Whether rows are grouped by the column. -/
def isGrouping : ColumnBody → Bool
  | .aggregation _ => false
  | _ => true

end ColumnBody

structure Column where
  title : String
  body : ColumnBody

structure Indicator where
  subject : Subject
  columns : List Column

namespace Expression

mutual

/-- The aggregates of an expression, from left to right. -/
def aggregates : Expression α → List α
  | .literal _ => []
  | .column _ => []
  | .operation _ args => aggregatesOf args
  | .aggregate a => [a]

def aggregatesOf : List (Expression α) → List α
  | [] => []
  | arg :: rest => aggregates arg ++ aggregatesOf rest

end

def containsAggregate (e : Expression α) : Bool := !e.aggregates.isEmpty

end Expression

/-- The subjects of the aggregates that have one. -/
def Measure.nestedSubjects (m : Measure) : List Subject :=
  m.aggregates.filterMap Aggregation.subject

namespace Indicator

/-- The main subject, then the nested ones in the order of the columns. -/
def subjects (indicator : Indicator) : List Subject :=
  indicator.subject :: indicator.columns.flatMap fun column ↦
    match column.body with
    | .aggregation measure => Measure.nestedSubjects measure
    | _ => []

end Indicator

/-- A list without repetitions, each element in its first place. -/
def firstSeen [DecidableEq α] (xs : List α) : List α :=
  xs.foldl (fun seen x ↦ if x ∈ seen then seen else seen ++ [x]) []

/-- Every table an indicator names. -/
def Indicator.tables (indicator : Indicator) : List String :=
  firstSeen (indicator.subjects.flatMap Subject.tables)

end Barometer
