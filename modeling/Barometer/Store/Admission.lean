import Barometer.Store.Evaluation

/-!
# Admission of statements

Before any row is read a statement is checked: its tables exist, its names each mean one thing,
aggregates stand where they may, and it can be read at all.  What is admitted can still fail in one
way, by a sum that is too large.  The limits of a database are left out: here statements, patterns
and select lists may be of any length, and expressions of any depth.
-/

namespace Barometer.Sql

open Store (Reading Header Database resolves)

/-- Whether what is written where a column stands means something. -/
def isKnown (headers : List Header) : Reading → Bool
  | .one => true
  | .star => false
  | .null => true
  | .broken => false
  | .path parts => Store.isNamePath parts && resolves headers parts

mutual

/-- Whether an expression has a value on every row: operators are known and have operands, and
there are no aggregates, subqueries or stars. -/
def Expr.isScalar : Expr → Bool
  | .column _ _ => true
  | .literal _ => true
  | .operation sign args =>
    (Arithmetic.ofName? sign).isSome && !args.isEmpty && Expr.areScalar args
  | .compare _ left right => left.isScalar && right.isScalar
  | .isNull operand _ => operand.isScalar
  | .like operand pattern _ => operand.isScalar && pattern.isScalar
  | .junction _ children => !children.isEmpty && Expr.areScalar children
  | .call _ _ _ => false
  | .cases arms otherwise => !arms.isEmpty && Expr.armsScalar arms && Expr.optionalScalar otherwise
  | .subquery _ => false
  | .star => false
  | .always => true

def Expr.areScalar : List Expr → Bool
  | [] => true
  | e :: rest => e.isScalar && Expr.areScalar rest

def Expr.armsScalar : List (Expr × Expr) → Bool
  | [] => true
  | (condition, result) :: rest =>
    condition.isScalar && result.isScalar && Expr.armsScalar rest

def Expr.optionalScalar : Option Expr → Bool
  | none => true
  | some e => e.isScalar

end

/-- Whether an expression has a value on every row and all its names mean something. -/
def Expr.isAdmitted (headers : List Header) (e : Expr) : Bool :=
  e.isScalar && e.readings.all (isKnown headers)

/-- Whether an argument is the star. -/
def Expr.isStar : Expr → Bool
  | .star => true
  | .column table name => decide (Reading.ofColumn table name = .star)
  | _ => false

/-- Whether a call has one argument, which is a star only where rows are counted. -/
def callAdmitted (headers : List Header) (function : String) (args : List Expr)
    (distinct : Bool) : Bool :=
  match Statistic.ofCall? function distinct, args with
  | some statistic, [arg] => arg.isStar && statistic == .count || arg.isAdmitted headers
  | _, _ => false

/-- Whether all tables of a query exist. -/
def sourcesExist (db : Database) (source : Option String) (joins : List Join) : Bool :=
  (source.toList ++ joins.map Join.table).all fun name ↦ (db.source? name).isSome

/-- The items of a select list that are named by title in an expression. -/
def titledPlaces (header : Header) (select : List Item) (e : Expr) : List Nat :=
  e.paths.filterMap fun path ↦
    match header.find path, (titleFields select).find path with
    | .missing, .at i => some i
    | _, _ => none

/-- Whether an expression can filter or group rows: it may name items of the select list by their
titles, but no aggregates. -/
def conditionAdmitted (outer : List Header) (header : Header) (select : List Item)
    (aggregates : List Nat) (e : Expr) : Bool :=
  e.isAdmitted ((header ++ titleFields select) :: outer) &&
    (titledPlaces header select e).all fun i ↦ !aggregates.contains i

/-- Whether a key is a position in the select list that is no aggregate, or an expression. -/
def keyAdmitted (outer : List Header) (header : Header) (select : List Item)
    (aggregates : List Nat) (key : Expr) : Bool :=
  match key.position? with
  | some n =>
    decide (1 ≤ n) && decide (n ≤ select.length) && !aggregates.contains (n - 1).toNat
  | none => conditionAdmitted outer header select aggregates key

/-- The places of the items that contain aggregates of their query. -/
def aggregatePlaces (db : Database) (headers : List Header) (select : List Item) : List Nat :=
  (select.zipIdx.filter fun entry ↦ !(entry.1.expr.calls db headers 0).isEmpty).map Prod.snd

mutual

/-- Whether an expression of a select list can be evaluated. -/
def Expr.canEval (db : Database) (headers : List Header) : Expr → Bool
  | .operation sign args =>
    (Arithmetic.ofName? sign).isSome && !args.isEmpty && Expr.canEvalAll db headers args
  | .call function args distinct => callAdmitted headers function args distinct
  | .subquery query => query.canEval db headers
  | e => e.isAdmitted headers

def Expr.canEvalAll (db : Database) (headers : List Header) : List Expr → Bool
  | [] => true
  | e :: rest => e.canEval db headers && Expr.canEvalAll db headers rest

def Item.canEvalAll (db : Database) (headers : List Header) : List Item → Bool
  | [] => true
  | { expr, label := _ } :: rest => expr.canEval db headers && Item.canEvalAll db headers rest

/-- Whether a query can be evaluated. -/
def Query.canEval (db : Database) (outer : List Header) : Query → Bool
  | { select, source, joins, filter, groupBy } =>
    let header := headerOf (sourceTables db source joins)
    let aggregates := aggregatePlaces db (header :: outer) select
    let conditions := joins.filterMap Join.on ++ filter.toList
    !select.isEmpty && sourcesExist db source joins &&
      Item.canEvalAll db (header :: outer) select &&
      conditions.all (conditionAdmitted outer header select aggregates) &&
      groupBy.all (keyAdmitted outer header select aggregates)

end

/-- Whether the database can read the text of a query to its end. It has no keyword for matches
without regard to case. -/
def Query.isReadable (dialect : Dialect) (query : Query) : Bool :=
  (query.statement dialect).toList.all (fun c ↦ c.toNat != 0) &&
    !(query.tokens dialect).any Token.isMatching

end Barometer.Sql

namespace Barometer.Store

open Sql (Dialect Query)

/-- The titles and rows of a statement that has been run. -/
structure Result where
  columns : List String
  rows : List Row

/-- Runs a statement that is admitted. -/
def Database.execute (db : Database) (dialect : Dialect) (query : Query) : Except Cause Result :=
  if query.isReadable dialect && query.canEval db [] then do
    return { columns := query.select.map Sql.Item.title, rows := ← query.eval db [] }
  else .error .rejected

/-- Runs a statement; of one that fails the fault has the text, and what the database says. -/
def Database.run (db : Database) (dialect : Dialect) (query : Query) : Except Fault Result :=
  let statement := query.statement dialect
  (db.execute dialect query).mapError fun cause ↦ .failed statement (db.complaint cause statement)

end Barometer.Store
