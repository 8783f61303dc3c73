import Barometer.Indicator.Names
import Barometer.Sql.Query

/-!
# What a query mentions

The tables of a query and of all queries in it, and the columns that they read outside of join
predicates. A column is looked up in the tables of its own query and then in those around it.
-/

namespace Barometer.Sql

/-- A table that rows are read from, or a column with the tables it is looked up in. -/
inductive Mention where
  | table (name : String)
  | column (ref : Reference)
deriving DecidableEq, Repr

def Mention.isTable : Mention → Bool
  | .table _ => true
  | .column _ => false

/-- The name that is written where something is mentioned. -/
def Mention.name : Mention → String
  | .table name => name
  | .column ref => ref.column

mutual

/-- What an expression mentions inside of queries over `tables`. -/
def Expr.mentions (tables : List String) : Expr → List Mention
  | .column _ name => [.column { tables, column := name }]
  | .literal _ => []
  | .operation _ args => Expr.mentionsAll tables args
  | .compare _ left right => left.mentions tables ++ right.mentions tables
  | .isNull operand _ => operand.mentions tables
  | .like operand pattern _ => operand.mentions tables ++ pattern.mentions tables
  | .junction _ children => Expr.mentionsAll tables children
  | .call _ args _ => Expr.mentionsAll tables args
  | .cases arms otherwise =>
    Expr.mentionsArms tables arms ++ Expr.mentionsOption tables otherwise
  | .subquery query => query.mentions tables
  | .star => []
  | .always => []

def Expr.mentionsAll (tables : List String) : List Expr → List Mention
  | [] => []
  | e :: rest => e.mentions tables ++ Expr.mentionsAll tables rest

def Expr.mentionsArms (tables : List String) : List (Expr × Expr) → List Mention
  | [] => []
  | (condition, value) :: rest =>
    condition.mentions tables ++ value.mentions tables ++ Expr.mentionsArms tables rest

def Expr.mentionsOption (tables : List String) : Option Expr → List Mention
  | none => []
  | some e => e.mentions tables

def Item.mentionsAll (tables : List String) : List Item → List Mention
  | [] => []
  | { expr, label := _ } :: rest => expr.mentions tables ++ Item.mentionsAll tables rest

/-- The tables that are joined. Of a predicate only the tables count. -/
def Join.mentionsAll (tables : List String) : List Join → List Mention
  | [] => []
  | { table, on } :: rest =>
    .table table :: (Expr.mentionsOption tables on).filter Mention.isTable ++
      Join.mentionsAll tables rest

/-- What a query mentions inside of others over `outer`. -/
def Query.mentions (outer : List String) : Query → List Mention
  | { select, source, joins, filter, groupBy } =>
    let tables := source.toList ++ joins.map Join.table ++ outer
    source.toList.map .table ++ Join.mentionsAll tables joins ++ Item.mentionsAll tables select ++
      Expr.mentionsOption tables filter ++ Expr.mentionsAll tables groupBy

end

section Lists

variable (tables : List String)

theorem Expr.mentionsAll_eq_flatMap (es : List Expr) :
    Expr.mentionsAll tables es = es.flatMap (Expr.mentions tables) := by
  induction es with
  | nil => rfl
  | cons e rest ih => rw [Expr.mentionsAll, ih, List.flatMap_cons]

theorem Expr.mentionsArms_eq_flatMap (arms : List (Expr × Expr)) :
    Expr.mentionsArms tables arms =
      arms.flatMap fun arm ↦ arm.1.mentions tables ++ arm.2.mentions tables := by
  induction arms with
  | nil => rfl
  | cons arm rest ih => rw [Expr.mentionsArms, ih, List.flatMap_cons]

theorem Item.mentionsAll_eq_flatMap (items : List Item) :
    Item.mentionsAll tables items = (items.map Item.expr).flatMap (Expr.mentions tables) := by
  induction items with
  | nil => rfl
  | cons item rest ih =>
    rcases item with ⟨expr, label⟩
    rw [Item.mentionsAll, ih, List.map_cons, List.flatMap_cons]

end Lists

end Barometer.Sql
