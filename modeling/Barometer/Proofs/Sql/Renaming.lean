import Barometer.Indicator.Names
import Barometer.Sql.Query

/-!
# Renaming queries

A renaming of a query replaces its tables and the columns outside of its join predicates, and keeps
titles, literals, operators and the shape of the query. A column is looked up in the tables of its
own query and then in those around it, always by their old names; a column of a given table is
looked up in this table only. Each join gets a predicate for the old names of the tables before it
and of its own.
-/

namespace Barometer.Sql

/-- What tables and columns become, and the predicate of a join, given the tables before it. -/
structure QueryRenaming extends Renaming where
  on : List String → String → Expr

/-- The joins of further tables, each with its predicate for the tables before it. -/
def QueryRenaming.joinsAfter (r : QueryRenaming) (joined : List String) : List Join → List Join
  | [] => []
  | join :: rest =>
    { table := r.table join.table, on := some (r.on joined join.table) } ::
      joinsAfter r (joined ++ [join.table]) rest

mutual

def Expr.rename (r : QueryRenaming) (tables : List String) : Expr → Expr
  | .column none name => .column none (r.column tables name)
  | .column (some table) name => .column (some (r.table table)) (r.column [table] name)
  | .literal value => .literal value
  | .operation sign args => .operation sign (Expr.renameAll r tables args)
  | .compare relation left right =>
    .compare relation (left.rename r tables) (right.rename r tables)
  | .isNull operand negated => .isNull (operand.rename r tables) negated
  | .like operand pattern negated =>
    .like (operand.rename r tables) (pattern.rename r tables) negated
  | .junction connective children => .junction connective (Expr.renameAll r tables children)
  | .call function args distinct => .call function (Expr.renameAll r tables args) distinct
  | .cases arms otherwise =>
    .cases (Expr.renameArms r tables arms) (Expr.renameOption r tables otherwise)
  | .subquery query => .subquery (query.rename r tables)
  | .star => .star
  | .always => .always

def Expr.renameAll (r : QueryRenaming) (tables : List String) : List Expr → List Expr
  | [] => []
  | e :: rest => e.rename r tables :: Expr.renameAll r tables rest

def Expr.renameArms (r : QueryRenaming) (tables : List String) :
    List (Expr × Expr) → List (Expr × Expr)
  | [] => []
  | (condition, value) :: rest =>
    (condition.rename r tables, value.rename r tables) :: Expr.renameArms r tables rest

def Expr.renameOption (r : QueryRenaming) (tables : List String) : Option Expr → Option Expr
  | none => none
  | some e => some (e.rename r tables)

def Item.renameAll (r : QueryRenaming) (tables : List String) : List Item → List Item
  | [] => []
  | { expr, label } :: rest =>
    { expr := expr.rename r tables, label } :: Item.renameAll r tables rest

/-- A query inside of others over `outer`. -/
def Query.rename (r : QueryRenaming) (outer : List String) : Query → Query
  | { select, source, joins, filter, groupBy } =>
    let tables := source.toList ++ joins.map Join.table ++ outer
    { select := Item.renameAll r tables select
      source := source.map r.table
      joins := r.joinsAfter source.toList joins
      filter := Expr.renameOption r tables filter
      groupBy := Expr.renameAll r tables groupBy }

end

section Lists

variable (r : QueryRenaming) (tables : List String)

theorem Expr.renameAll_eq_map (es : List Expr) :
    Expr.renameAll r tables es = es.map (Expr.rename r tables) := by
  induction es with
  | nil => rfl
  | cons e rest ih => rw [Expr.renameAll, ih, List.map_cons]

theorem Expr.renameArms_eq_map (arms : List (Expr × Expr)) :
    Expr.renameArms r tables arms =
      arms.map fun arm ↦ (arm.1.rename r tables, arm.2.rename r tables) := by
  induction arms with
  | nil => rfl
  | cons arm rest ih => rw [Expr.renameArms, ih, List.map_cons]

theorem Item.renameAll_eq_map (items : List Item) :
    Item.renameAll r tables items =
      items.map fun item ↦ { item with expr := item.expr.rename r tables } := by
  induction items with
  | nil => rfl
  | cons item rest ih =>
    rcases item with ⟨expr, label⟩
    rw [Item.renameAll, ih, List.map_cons]

end Lists

end Barometer.Sql
