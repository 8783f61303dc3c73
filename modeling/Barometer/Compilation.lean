import Barometer.Indicator.Basic
import Barometer.Indicator.Defect
import Barometer.Sql.Query

/-!
# From indicators to queries

The subject of an indicator gives the tables and the filter of a query, its columns give the select
list in order, and every column that is not an aggregate is also grouped by.  The query does not
depend on the data; only its text depends on the dialect.
-/

namespace Barometer

open Sql (Expr)

/-- How the rows of two tables belong together: `left.leftColumn = right.rightColumn`. -/
structure JoinRule where
  left : String
  right : String
  leftColumn : String
  rightColumn : String
deriving DecidableEq, Repr

/-- What compilation depends on besides the indicator. -/
structure Options where
  dialect : Sql.Dialect
  /-- The column that joins tables without a rule. -/
  identityColumn : String
  joins : List JoinRule
deriving DecidableEq, Repr

def Options.default : Options where
  dialect := .postgres
  identityColumn := "id"
  joins := []

/-! ## Literals and expressions -/

/-- A column of the tables that are read. -/
def columnExpr (name : String) : Expr := .column none name

def textExpr (s : String) : Expr := .literal (.text s)

/-- Texts in canonical form; what has no canonical form is missing. -/
def Scalar.toSql : Scalar → Expr
  | .null => .literal .null
  | .int n => .literal (.int n)
  | .real x => .literal (if x.isFinite then .real x else .null)
  | .bool b => .literal (.bool b)
  | .text s =>
    match Text.Canonical.text? s with
    | some form => textExpr form
    | none => .literal .null

namespace Expression

mutual

/-- Replaces the aggregates of an expression, stopping at the first one that has a defect. -/
def traverse (f : α → Except ε β) : Expression α → Except ε (Expression β)
  | .literal value => .ok (.literal value)
  | .column name => .ok (.column name)
  | .operation op args => (traverseAll f args).map (.operation op)
  | .aggregate a => (f a).map .aggregate

def traverseAll (f : α → Except ε β) : List (Expression α) → Except ε (List (Expression β))
  | [] => .ok []
  | arg :: rest => do
    let e ← traverse f arg
    let es ← traverseAll f rest
    return e :: es

end

mutual

/-- The expression in SQL, given that of its aggregates. -/
def toSql (leaf : α → Expr) : Expression α → Expr
  | .literal value => value.toSql
  | .column name => columnExpr name
  | .operation op args => .operation op.sign (toSqlAll leaf args)
  | .aggregate a => leaf a

def toSqlAll (leaf : α → Expr) : List (Expression α) → List Expr
  | [] => []
  | arg :: rest => toSql leaf arg :: toSqlAll leaf rest

end

def isAbsent : Expression α → Bool
  | .literal value => value.isAbsent
  | _ => false

def hasWildcard : Expression α → Bool
  | .literal value => value.hasWildcard
  | _ => false

end Expression

def Operand.toSql (e : Operand) : Expr := Expression.toSql Empty.elim e

/-- An operand as the pattern of a match: a literal by its canonical text, whatever its type. -/
def Operand.toPattern (e : Operand) : Expr :=
  match e with
  | .literal value =>
    match value.canonicalText? with
    | some form => textExpr form
    | none => value.toSql
  | _ => e.toSql

/-! ## Conditions -/

/-- The relation of a comparison that is not a pattern match. -/
def Comparison.relation : Comparison → Sql.Relation
  | .eq => .eq
  | .ne => .ne
  | .lt => .lt
  | .lte => .lte
  | .gt => .gt
  | .gte => .gte
  | .like => .eq
  | .notLike => .eq

/-- A comparison with a missing value asks whether the other one is missing.  Equality with a
wildcard is a pattern match, and the pattern stands on the right. -/
def Comparison.toSql (op : Comparison) (left right : Operand) : Expr :=
  if right.isAbsent then .isNull left.toSql (op != .eq)
  else match op with
    | .like => .like left.toSql right.toPattern false
    | .notLike => .like left.toSql right.toPattern true
    | _ =>
      if op.isEquality && right.hasWildcard then .like left.toSql right.toPattern (op == .ne)
      else if op.isEquality && left.hasWildcard then .like right.toSql left.toPattern (op == .ne)
      else .compare op.relation left.toSql right.toSql

/-- A bare list is a conjunction. -/
def Junction.connective : Junction → Sql.Connective
  | .list => .and
  | .and => .and
  | .or => .or

mutual

/-- A condition without parts is always true; a bare list of one condition is that condition. -/
def Condition.toSql : Condition → Expr
  | .empty => .always
  | .junction _ [] => .always
  | .junction .list [child] => child.toSql
  | .junction kind (child :: rest) =>
    .junction kind.connective (child.toSql :: Condition.toSqlAll rest)
  | .compare op left right => op.toSql left right

def Condition.toSqlAll : List Condition → List Expr
  | [] => []
  | child :: rest => child.toSql :: Condition.toSqlAll rest

end

/-- The filter of a condition; none if the condition is written as none. -/
def Condition.filter (condition : Condition) : Option Expr :=
  if condition.isEmpty then none else some condition.toSql

/-- The conditions that are not empty, all of them. -/
def Condition.conjunction (conditions : List Condition) : Condition :=
  match conditions.filter fun c ↦ !c.isEmpty with
  | [] => .empty
  | [condition] => condition
  | several => .junction .list several

/-! ## Tables -/

namespace JoinRule

def leftExpr (rule : JoinRule) : Expr := .column (some rule.left) rule.leftColumn

def rightExpr (rule : JoinRule) : Expr := .column (some rule.right) rule.rightColumn

/-- The predicate that links a table to earlier ones by a rule, the earlier table on the left. -/
def predicate? (rule : JoinRule) (joined : List String) (table : String) : Option Expr :=
  if rule.right = table ∧ rule.left ∈ joined then
    some (.compare .eq rule.leftExpr rule.rightExpr)
  else if rule.left = table ∧ rule.right ∈ joined then
    some (.compare .eq rule.rightExpr rule.leftExpr)
  else none

end JoinRule

namespace Options

/-- The predicate of the first rule that links the table; without one, the identity columns of the
first table and of this one are equal. -/
def joinPredicate (options : Options) (joined : List String) (table : String) : Expr :=
  match options.joins.findSome? fun rule ↦ rule.predicate? joined table with
  | some predicate => predicate
  | none =>
    .compare .eq (.column (some (joined.headD table)) options.identityColumn)
      (.column (some table) options.identityColumn)

/-- The joins of further tables, each linked to those before it. -/
def joinsAfter (options : Options) (joined : List String) : List String → List Sql.Join
  | [] => []
  | table :: rest =>
    { table, on := some (options.joinPredicate joined table) } ::
      joinsAfter options (joined ++ [table]) rest

/-- The first table and the joins of the others, from left to right. -/
def sources (options : Options) : List String → Except Defect (String × List Sql.Join)
  | [] => .error .noTables
  | first :: rest => .ok (first, options.joinsAfter [first] rest)

end Options

/-! ## Aggregates -/

namespace Statistic

/-- The call of an aggregate function; rows are counted when there is no argument. -/
def call (statistic : Statistic) (arg : Option Expr) : Except Defect Expr :=
  match statistic, arg with
  | .count, none => .ok (.call statistic.sqlName [.star] false)
  | .countDistinct, some arg => .ok (.call statistic.sqlName [arg] true)
  | _, some arg => .ok (.call statistic.sqlName [arg] false)
  | _, none => .error (.missingKey .aggregation "col" (Text.lower statistic.sqlName))

end Statistic

namespace Aggregation

/-- What an aggregate with a condition collects: ones to be counted, or values. -/
def collected (a : Aggregation) : Except Defect Expr :=
  if a.statistic.isCount then .ok (.literal (.int 1))
  else match a.column with
    | some column => .ok (columnExpr column)
    | none => .error (.missingKey .aggregation "col" (Text.lower a.statistic.sqlName))

/-- An aggregate over the rows of the query around it skips the rows that do not satisfy its
condition; one with a subject is a query of its own. -/
def toSql (options : Options) (a : Aggregation) : Except Defect Expr :=
  match a.subject with
  | some subject => do
    let condition := Condition.conjunction [subject.conditions, a.condition]
    let (first, joins) ← options.sources subject.tables
    let call ← a.statistic.call (a.column.map columnExpr)
    return .subquery
      { select := [{ expr := call, label := none }]
        source := some first
        joins
        filter := condition.filter
        groupBy := [] }
  | none =>
    if a.condition.isEmpty then a.statistic.call (a.column.map columnExpr)
    else do
      let value ← a.collected
      a.statistic.call (some (.cases [(a.condition.toSql, value)] none))

end Aggregation

def Measure.toSql (options : Options) (m : Measure) : Except Defect Expr :=
  (Expression.traverse (Aggregation.toSql options) m).map (Expression.toSql id)

/-! ## Indicators -/

/-- Labels are shown as they are written. -/
def CaseArm.toSql (arm : CaseArm) : Expr × Expr :=
  (arm.condition.toSql, textExpr arm.label)

namespace ColumnBody

def toSql (options : Options) : ColumnBody → Except Defect Expr
  | .groupBy value => .ok (Operand.toSql value)
  | .cases arms => .ok (.cases (arms.map CaseArm.toSql) none)
  | .aggregation measure => Measure.toSql options measure

end ColumnBody

/-- A column in a select list, shown under its title. -/
def Column.toItem (column : Column) (expr : Expr) : Sql.Item :=
  { expr, label := some column.title }

namespace Indicator

/-- The expressions of the columns. -/
def columnExprs (options : Options) (indicator : Indicator) : Except Defect (List Expr) :=
  indicator.columns.mapM fun column ↦ column.body.toSql options

/-- The expressions of the columns that rows are grouped by. -/
def groupExprs (columns : List Column) (exprs : List Expr) : List Expr :=
  ((columns.zip exprs).filter fun pair ↦ pair.1.body.isGrouping).map Prod.snd

theorem mem_of_mem_groupExprs {columns : List Column} {exprs : List Expr} {e : Expr}
    (h : e ∈ groupExprs columns exprs) : e ∈ exprs := by
  obtain ⟨⟨column, e'⟩, hpair, rfl⟩ := List.mem_map.mp h
  exact (List.of_mem_zip (List.mem_filter.mp hpair).1).2

/-- Each item shows an expression under the title of a column. -/
theorem exists_of_mem_items {columns : List Column} {exprs : List Expr} {item : Sql.Item}
    (h : item ∈ columns.zipWith Column.toItem exprs) :
    ∃ (column : Column), ∃ e ∈ exprs, item = column.toItem e := by
  rw [← List.map_uncurry_zip_eq_zipWith] at h
  obtain ⟨⟨column, e⟩, hpair, rfl⟩ := List.mem_map.mp h
  exact ⟨column, e, (List.of_mem_zip hpair).2, rfl⟩

/-- The query of an indicator. -/
def toQuery (options : Options) (indicator : Indicator) : Except Defect Sql.Query := do
  let (first, joins) ← options.sources indicator.subject.tables
  let exprs ← indicator.columnExprs options
  return {
    select := indicator.columns.zipWith Column.toItem exprs
    source := some first
    joins
    filter := indicator.subject.conditions.filter
    groupBy := groupExprs indicator.columns exprs }

/-- The statement of an indicator in the dialect of the options. -/
def toStatement (options : Options) (indicator : Indicator) : Except Defect String :=
  (indicator.toQuery options).map (Sql.Query.statement options.dialect)

end Indicator

end Barometer
