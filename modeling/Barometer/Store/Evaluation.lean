import Barometer.Sql.Query
import Barometer.Store.Affinity
import Barometer.Store.Arithmetic
import Barometer.Store.Pattern
import Barometer.Store.Statistics

/-!
# Evaluation of queries

An expression without aggregates has a value on every row; conditions are among them, with an
unknown outcome where a missing value takes part.  Aggregates and subqueries have a value for a
group of rows.  Rows are joined from left to right, filtered, grouped by their keys in ascending
order, and shown.
-/

namespace Barometer

open Store (Affinity Value Row Truth Context Level Header Field Found Reading Cause Database)

/-! ## Operations on values -/

/-- The name that a literal is read as; the words for truth are names like others. -/
def Sql.Literal.reading? : Sql.Literal → Option Reading
  | .bool b => some (.path [{ text := if b then "TRUE" else "FALSE", quoted := false }])
  | _ => none

/-- The value of a literal. -/
def Sql.Literal.value : Sql.Literal → Value
  | .int n => if Store.fits n then .int n else .real (Float.ofInt n)
  | .real x => .ofReal x
  | .text s => .text s
  | .bool b => .ofBool b
  | .null => .null

/-- Whether two values stand in a relation, given their order. -/
def Sql.Relation.admits : Sql.Relation → Ordering → Bool
  | .eq, o => o == .eq
  | .ne, o => o != .eq
  | .lt, o => o == .lt
  | .gt, o => o == .gt
  | .lte, o => o != .gt
  | .gte, o => o != .lt

/-- A comparison is unknown when a value is missing. -/
def Sql.Relation.truth (relation : Sql.Relation) (a b : Value) : Truth :=
  if a.isNull || b.isNull then none else some (relation.admits (a.compare b))

/-- A match of a value, in lower case, with a pattern; unknown when one of them is missing. -/
def Store.likeTruth (negated : Bool) (value pattern : Value) : Truth :=
  match value.lowered?, pattern.text? with
  | some s, some p => some (Pattern.textMatches p s != negated)
  | _, _ => none

/-- A conjunction that holds if both sides hold and fails if one fails. -/
def Store.both : Truth → Truth → Truth
  | some false, _ => some false
  | _, some false => some false
  | some true, some true => some true
  | _, _ => none

/-- A disjunction that holds if one side holds and fails if both fail. -/
def Store.either : Truth → Truth → Truth
  | some true, _ => some true
  | _, some true => some true
  | some false, some false => some false
  | _, _ => none

/-- Outcomes joined by a connective; none is the neutral outcome. -/
def Sql.Connective.join : Sql.Connective → List Truth → Truth
  | .and, ts => ts.foldr Store.both (some true)
  | .or, ts => ts.foldr Store.either (some false)

/-- A junction of values; a single one stands for itself. -/
def Sql.Connective.value (connective : Sql.Connective) : List Value → Value
  | [v] => v
  | vs => .ofTruth (connective.join (vs.map Value.truth))

/-- An operator, by its sign, on values. -/
def Store.operation (sign : String) (values : List Value) : Value :=
  match Arithmetic.ofName? sign with
  | some op => operateAll op values
  | none => .null

namespace Sql

/-- The value of a literal on a row. -/
def Literal.read (ctx : Context) (literal : Literal) : Value :=
  match literal.reading? with
  | some reading => ctx.read reading
  | none => literal.value

/-! ## Values on a row -/

/-- The affinity of an expression. -/
def Expr.affinity (headers : List Header) : Expr → Affinity
  | .column table name => .ofReading headers (.ofColumn table name)
  | .literal v => v.reading?.elim .free (Affinity.ofReading headers)
  | .operation _ [e] => e.affinity headers
  | _ => .free

/-- The affinity of a comparison of two expressions. -/
def Expr.jointAffinity (headers : List Header) (left right : Expr) : Affinity :=
  (left.affinity headers).joint (right.affinity headers)

mutual

/-- The value of an expression on a row; aggregates and subqueries have none. -/
def Expr.value (ctx : Context) : Expr → Value
  | .column table name => ctx.read (.ofColumn table name)
  | .literal v => v.read ctx
  | .operation sign args => Store.operation sign (Expr.values ctx args)
  | .compare relation left right =>
    let convert := (Expr.jointAffinity ctx.headers left right).convert
    .ofTruth (relation.truth (convert (left.value ctx)) (convert (right.value ctx)))
  | .isNull operand negated => .ofBool ((operand.value ctx).isNull != negated)
  | .like operand pattern negated =>
    .ofTruth (Store.likeTruth negated (operand.value ctx) (pattern.value ctx))
  | .junction connective children => connective.value (Expr.values ctx children)
  | .call _ _ _ => .null
  | .cases arms otherwise => Expr.caseValue ctx (Expr.optionalValue ctx otherwise) arms
  | .subquery _ => .null
  | .star => .int 1
  | .always => .ofBool true

def Expr.values (ctx : Context) : List Expr → List Value
  | [] => []
  | e :: rest => e.value ctx :: Expr.values ctx rest

/-- The value of the first arm whose condition is met. -/
def Expr.caseValue (ctx : Context) (otherwise : Value) : List (Expr × Expr) → Value
  | [] => otherwise
  | (condition, result) :: rest =>
    if (condition.value ctx).holds then result.value ctx else Expr.caseValue ctx otherwise rest

/-- The value of an expression that may be absent. -/
def Expr.optionalValue (ctx : Context) : Option Expr → Value
  | none => .null
  | some e => e.value ctx

end

/-- Whether a condition is met on a row. -/
def Expr.holds (ctx : Context) (condition : Expr) : Bool := (condition.value ctx).holds

/-! ## Names of an expression -/

mutual

/-- What is written where columns stand, from left to right. -/
def Expr.readings : Expr → List Reading
  | .column table name => [.ofColumn table name]
  | .literal v => v.reading?.toList
  | .operation _ args => Expr.readingsAll args
  | .compare _ left right => left.readings ++ right.readings
  | .isNull operand _ => operand.readings
  | .like operand pattern _ => operand.readings ++ pattern.readings
  | .junction _ children => Expr.readingsAll children
  | .call _ _ _ => []
  | .cases arms otherwise => Expr.readingsArms arms ++ Expr.readingsOptional otherwise
  | .subquery _ => []
  | .star => []
  | .always => []

def Expr.readingsAll : List Expr → List Reading
  | [] => []
  | e :: rest => e.readings ++ Expr.readingsAll rest

def Expr.readingsArms : List (Expr × Expr) → List Reading
  | [] => []
  | (condition, result) :: rest =>
    condition.readings ++ result.readings ++ Expr.readingsArms rest

def Expr.readingsOptional : Option Expr → List Reading
  | none => []
  | some e => e.readings

end

/-- The paths among what is written. -/
def Expr.paths (e : Expr) : List (List Store.Part) :=
  e.readings.filterMap fun
    | .path parts => some parts
    | _ => none

/-! ## Aggregates -/

/-- The place of the innermost query that a path names a field of. -/
def levelOf? (headers : List Header) (path : List Store.Part) : Option Nat :=
  headers.findIdx? fun header ↦ header.find path != .missing

/-- The query whose rows an aggregate runs over: the innermost one of whose fields it speaks, or the
innermost of all if it speaks of none. -/
def ownerOf (headers : List Header) (args : List Expr) : Nat :=
  ((args.flatMap Expr.paths).filterMap (levelOf? headers)).min?.getD 0

/-- The argument of a call on every row of the group that it runs over. -/
def argumentValues (ctx : Context) (args : List Expr) : List Value :=
  match ctx.drop (ownerOf ctx.headers args), args with
  | level :: outer, [arg] =>
    level.group.map fun row ↦ arg.value ({ level with group := [], row } :: outer)
  | _, _ => []

/-- The value of a call for the groups at work. -/
def callValue (ctx : Context) (function : String) (args : List Expr) (distinct : Bool) :
    Except Cause Value :=
  match Statistic.ofCall? function distinct with
  | some statistic => statistic.apply (argumentValues ctx args)
  | none => .error .rejected

/-- An aggregate of a query. -/
structure Call where
  statistic : Statistic
  argument : Expr

namespace Call

def text (call : Call) : String := call.statistic.sqlName ++ call.argument.sql .sqlite

end Call

/-- The tables of the rows of a query. -/
def sourceTables (db : Database) (source : Option String) (joins : List Join) :
    List Store.Table :=
  (source.toList ++ joins.map Join.table).filterMap db.source?

def headerOf (tables : List Store.Table) : Header := tables.flatMap Store.Table.header

mutual

/-- The aggregates in an expression that run over the rows of the query `depth` levels further out;
`inner` are the headers from the innermost query up to that one. -/
def Expr.calls (db : Database) (headers : List Header) (depth : Nat) : Expr → List Call
  | .operation _ args => Expr.callsAll db headers depth args
  | .call function args distinct =>
    match Statistic.ofCall? function distinct, args with
    | some statistic, [argument] =>
      if ownerOf headers args = depth then [{ statistic, argument }] else []
    | _, _ => []
  | .subquery query => query.calls db headers depth
  | _ => []

def Expr.callsAll (db : Database) (headers : List Header) (depth : Nat) : List Expr → List Call
  | [] => []
  | e :: rest => e.calls db headers depth ++ Expr.callsAll db headers depth rest

def Item.callsAll (db : Database) (headers : List Header) (depth : Nat) : List Item → List Call
  | [] => []
  | { expr, label := _ } :: rest =>
    expr.calls db headers depth ++ Item.callsAll db headers depth rest

def Query.calls (db : Database) (headers : List Header) (depth : Nat) : Query → List Call
  | { select, source, joins, filter := _, groupBy := _ } =>
    Item.callsAll db (headerOf (sourceTables db source joins) :: headers) (depth + 1) select

end

/-! ## Groups -/

/-- Every way to put together one row of each list, the rows of the first list changing least. -/
def joinRows : List (List Row) → List Row
  | [] => [[]]
  | rows :: rest => rows.flatMap fun row ↦ (joinRows rest).map (row ++ ·)

/-- Neighbours with equal keys, put together. -/
def groupRuns : List (List Value × Row) → List (List Row)
  | [] => []
  | (key, row) :: rest =>
    match rest, groupRuns rest with
    | (next, _) :: _, group :: groups =>
      if Value.compareAll key next == .eq then (row :: group) :: groups
      else [row] :: group :: groups
    | _, groups => [row] :: groups

/-- The groups of rows with equal keys, in the order of the keys. -/
def groupRows (keyed : List (List Value × Row)) : List (List Row) :=
  groupRuns (keyed.mergeSort fun a b ↦ Value.compareAll a.1 b.1 != .gt)

/-- The row on which a least or greatest value was last found or not yet ruled out. -/
def extremeRow (ctx : Context) (header : Header) (wanted : Ordering) (argument : Expr)
    (group : List Row) (first : Row) : Row :=
  (group.foldl (fun (best, kept) row ↦
    let v := argument.value ({ header, group := [], row } :: ctx)
    if Store.improves wanted best v then (v, row)
    else if v.isNull && best.isNull then (best, row)
    else (best, kept)) (Value.null, first)).2

/-- The calls of a list, each once. -/
def distinctCalls (calls : List Call) : List Call :=
  calls.foldl (fun seen call ↦ if seen.any (·.text == call.text) then seen else seen ++ [call]) []

/-- The row that columns outside of aggregates are read from: that of the last of the least and
greatest values asked for, or else the first row. -/
def representative (ctx : Context) (header : Header) (calls : List Call) (group : List Row) : Row :=
  let first := group.headD (header.map fun _ ↦ .null)
  match ((distinctCalls calls).filterMap fun call ↦
      call.statistic.wanted?.map fun wanted ↦ (wanted, call.argument)).getLast? with
  | none => first
  | some (wanted, argument) => extremeRow ctx header wanted argument group first

/-- The position in the select list that an entry of a grouping is read as. -/
def Expr.position? : Expr → Option Int
  | .literal (.int n) => if n.natAbs ≤ 2147483647 then some n else none
  | .column none name => if name = "1" then some 1 else none
  | .operation _ [e] => e.position?
  | _ => none

/-- The title of a column of the result. -/
def Item.title (item : Item) : String := item.label.getD (item.expr.sql .sqlite)

/-- The fields that the values of a select list are found under: titles that are written, and no
others. -/
def titleFields (select : List Item) : Header := select.map fun item ↦ .title item.label

/-- Whether conditions or keys need the values of the select list. -/
def usesResults (header : Header) (select : List Item) (conditions keys : List Expr) : Bool :=
  (conditions ++ keys).any (fun e ↦ e.paths.any fun path ↦
    header.find path == .missing && (titleFields select).find path != .missing) ||
  keys.any fun e ↦ e.position?.isSome

/-- The keys of a row whose fields from `shown` on are the values of the select list. -/
def keysOf (ctx : Context) (shown : Nat) (row : Row) (keys : List Expr) : List Value :=
  keys.map fun key ↦
    match key.position? with
    | some n => row.getD (shown + (n - 1).toNat) .null
    | none => key.value ctx

/-! ## Queries -/

/-- The value of a subquery: the first one of its first row. -/
def firstValue (rows : List Row) : Value := (rows.headD []).headD .null

mutual

/-- The value of an expression of a select list. -/
def Expr.eval (db : Database) (ctx : Context) : Expr → Except Cause Value
  | .operation sign args => (Expr.evalAll db ctx args).map (Store.operation sign)
  | .call function args distinct => callValue ctx function args distinct
  | .subquery query => (query.eval db ctx).map firstValue
  | e => .ok (e.value ctx)

def Expr.evalAll (db : Database) (ctx : Context) : List Expr → Except Cause (List Value)
  | [] => .ok []
  | e :: rest => do
    let v ← e.eval db ctx
    let vs ← Expr.evalAll db ctx rest
    return v :: vs

/-- The row of a select list. -/
def Item.evalAll (db : Database) (ctx : Context) : List Item → Except Cause Row
  | [] => .ok []
  | { expr, label := _ } :: rest => do
    let v ← expr.eval db ctx
    let vs ← Item.evalAll db ctx rest
    return v :: vs

/-- The rows of a query. -/
def Query.eval (db : Database) (ctx : Context) : Query → Except Cause (List Row)
  | { select, source, joins, filter, groupBy } => do
    let tables := sourceTables db source joins
    let header := headerOf tables
    let conditions := joins.filterMap Join.on ++ filter.toList
    let results := usesResults header select conditions groupBy
    let fields := if results then header ++ titleFields select else header
    let joined := joinRows (tables.map Store.Table.numberedRows)
    let rows ← if results then
        joined.mapM fun row ↦ do
          let shown ← Item.evalAll db ({ header, group := [], row } :: ctx) select
          return row ++ shown
      else .ok joined
    let kept := rows.filter fun row ↦
      conditions.all (Expr.holds ({ header := fields, group := [], row } :: ctx))
    let calls := Item.callsAll db (header :: ctx.headers) 0 select
    let width := header.length
    if groupBy.isEmpty && calls.isEmpty then
      kept.mapM fun row ↦
        Item.evalAll db ({ header, group := [], row := row.take width } :: ctx) select
    else
      let groups :=
        if groupBy.isEmpty then [kept]
        else groupRows (kept.map fun row ↦
          (keysOf ({ header := fields, group := [], row } :: ctx) width row groupBy, row))
      groups.mapM fun group ↦
        let group := group.map (List.take width)
        let row := representative ctx header calls group
        Item.evalAll db ({ header, group, row } :: ctx) select

end

end Sql

end Barometer
