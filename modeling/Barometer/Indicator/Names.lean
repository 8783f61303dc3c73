import Barometer.Indicator.Basic

/-!
# Names in indicators

A column is looked up in the tables of its own query first and then in those of the query around
it: an aggregate with a subject is a query of its own inside the main one.  Here every column of an
indicator is listed together with these tables, and names are replaced by others.
-/

namespace Barometer

/-- A column that is read, and the tables it is looked up in, the nearest first. -/
structure Reference where
  tables : List String
  column : String
deriving DecidableEq, Repr

/-- What tables become, and what a column becomes that is looked up in a list of tables. -/
structure Renaming where
  table : String → String
  column : List String → String → String

namespace Expression

mutual

/-- The columns an expression reads; `leaf` lists those of an aggregate. -/
def references (leaf : α → List Reference) (tables : List String) :
    Expression α → List Reference
  | .literal _ => []
  | .column name => [{ tables, column := name }]
  | .operation _ args => referencesAll leaf tables args
  | .aggregate a => leaf a

def referencesAll (leaf : α → List Reference) (tables : List String) :
    List (Expression α) → List Reference
  | [] => []
  | arg :: rest => references leaf tables arg ++ referencesAll leaf tables rest

end

mutual

/-- Replaces the columns of an expression; `leaf` replaces those of an aggregate. -/
def rename (leaf : α → α) (r : Renaming) (tables : List String) : Expression α → Expression α
  | .literal value => .literal value
  | .column name => .column (r.column tables name)
  | .operation op args => .operation op (renameAll leaf r tables args)
  | .aggregate a => .aggregate (leaf a)

def renameAll (leaf : α → α) (r : Renaming) (tables : List String) :
    List (Expression α) → List (Expression α)
  | [] => []
  | arg :: rest => rename leaf r tables arg :: renameAll leaf r tables rest

end

end Expression

def Operand.references (tables : List String) (e : Operand) : List Reference :=
  Expression.references Empty.elim tables e

def Operand.rename (r : Renaming) (tables : List String) (e : Operand) : Operand :=
  Expression.rename id r tables e

namespace Condition

mutual

def references (tables : List String) : Condition → List Reference
  | .empty => []
  | .junction _ children => referencesAll tables children
  | .compare _ left right => Operand.references tables left ++ Operand.references tables right

def referencesAll (tables : List String) : List Condition → List Reference
  | [] => []
  | child :: rest => references tables child ++ referencesAll tables rest

end

mutual

def rename (r : Renaming) (tables : List String) : Condition → Condition
  | .empty => .empty
  | .junction kind children => .junction kind (renameAll r tables children)
  | .compare op left right =>
    .compare op (Operand.rename r tables left) (Operand.rename r tables right)

def renameAll (r : Renaming) (tables : List String) : List Condition → List Condition
  | [] => []
  | child :: rest => rename r tables child :: renameAll r tables rest

end

end Condition

namespace Aggregation

/-- The tables an aggregate reads its columns from, inside a query over `outer`. -/
def scope (outer : List String) (a : Aggregation) : List String :=
  match a.subject with
  | none => outer
  | some subject => subject.tables ++ outer

/-- The subject's condition is read first, then the aggregate's own, and the column last. -/
def references (outer : List String) (a : Aggregation) : List Reference :=
  let tables := a.scope outer
  (match a.subject with
    | none => []
    | some subject => subject.conditions.references tables) ++
  a.condition.references tables ++
  (match a.column with
    | none => []
    | some column => [{ tables, column }])

def rename (r : Renaming) (outer : List String) (a : Aggregation) : Aggregation :=
  let tables := a.scope outer
  { a with
    column := a.column.map (r.column tables)
    condition := a.condition.rename r tables
    subject := a.subject.map fun subject ↦
      { tables := subject.tables.map r.table
        conditions := subject.conditions.rename r tables } }

end Aggregation

def Measure.references (tables : List String) (m : Measure) : List Reference :=
  Expression.references (Aggregation.references tables) tables m

def Measure.rename (r : Renaming) (tables : List String) (m : Measure) : Measure :=
  Expression.rename (Aggregation.rename r tables) r tables m

namespace ColumnBody

def references (tables : List String) : ColumnBody → List Reference
  | .groupBy value => Operand.references tables value
  | .cases arms => arms.flatMap fun arm ↦ arm.condition.references tables
  | .aggregation measure => Measure.references tables measure

def rename (r : Renaming) (tables : List String) : ColumnBody → ColumnBody
  | .groupBy value => .groupBy (Operand.rename r tables value)
  | .cases arms =>
    .cases (arms.map fun arm ↦ { arm with condition := arm.condition.rename r tables })
  | .aggregation measure => .aggregation (Measure.rename r tables measure)

end ColumnBody

namespace Indicator

/-- Every column that an indicator reads, in the order in which it is written. -/
def references (indicator : Indicator) : List Reference :=
  let tables := indicator.subject.tables
  indicator.subject.conditions.references tables ++
    indicator.columns.flatMap fun column ↦ column.body.references tables

/-- Replaces all names at once; columns are looked up in the tables of the old names. -/
def rename (r : Renaming) (indicator : Indicator) : Indicator :=
  let tables := indicator.subject.tables
  { subject :=
      { tables := tables.map r.table
        conditions := indicator.subject.conditions.rename r tables }
    columns := indicator.columns.map fun column ↦
      { column with body := column.body.rename r tables } }

end Indicator

/-- The columns looked up in one list of tables. -/
structure Scope where
  tables : List String
  columns : List String
deriving DecidableEq, Repr

/-- Adds a reference to the scope of its tables, which is made if there is none yet. -/
def Scope.add : List Scope → Reference → List Scope
  | [], ref => [{ tables := ref.tables, columns := [ref.column] }]
  | scope :: rest, ref =>
    if scope.tables = ref.tables then
      { scope with
        columns := if ref.column ∈ scope.columns then scope.columns
          else scope.columns ++ [ref.column] } :: rest
    else scope :: Scope.add rest ref

/-- The references of an indicator by the tables they are looked up in, as first seen. -/
def Indicator.scopes (indicator : Indicator) : List Scope :=
  indicator.references.foldl Scope.add []

end Barometer
