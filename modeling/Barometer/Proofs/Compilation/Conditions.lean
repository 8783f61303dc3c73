import Barometer.Compilation
import Barometer.Proofs.Indicator.Scalar
import Barometer.Proofs.Outcome
import Barometer.Proofs.Store.Rows
import Barometer.Proofs.Store.Truth

/-!
# The meaning of conditions

Conditions have an outcome on a row that can be said without queries: what their operands are
there, which of them is a pattern, and how outcomes are joined. A compiled condition has this
outcome as its value, on every row and in every context.
-/

namespace Barometer

open Store (Affinity Value Row Truth Context Header)

/-- The name that a truth value is read as. -/
def boolName (b : Bool) : Store.Part := { text := if b then "TRUE" else "FALSE", quoted := false }

/-- Texts count in canonical form; what is no finite number is missing. -/
def Scalar.value (ctx : Context) : Scalar → Value
  | .null => .null
  | .int n => if Store.fits n then .int n else .real (Float.ofInt n)
  | .real x => if x.isFinite then .ofReal x else .null
  | .bool b => ctx.lookup [boolName b]
  | .text s => (Text.Canonical.text? s).elim .null .text

/-- The name of a truth value may be that of a column. -/
def Scalar.affinity (headers : List Header) : Scalar → Affinity
  | .bool b => .ofPath headers [boolName b]
  | _ => .free

namespace Expression

variable {α : Type}

mutual

/-- The value of an expression on a row, given that of its aggregates. -/
def value (leaf : α → Value) (ctx : Context) : Expression α → Value
  | .literal value => value.value ctx
  | .column name => ctx.read (.ofColumn none name)
  | .operation op args => Store.operateAll op (values leaf ctx args)
  | .aggregate a => leaf a

def values (leaf : α → Value) (ctx : Context) : List (Expression α) → List Value
  | [] => []
  | arg :: rest => value leaf ctx arg :: values leaf ctx rest

end

/-- The affinity of an expression, kept by an operation on one argument. -/
def affinity (headers : List Header) : Expression α → Affinity
  | .literal value => value.affinity headers
  | .column name => .ofReading headers (.ofColumn none name)
  | .operation _ [e] => e.affinity headers
  | _ => .free

end Expression

namespace Operand

def value (ctx : Context) (e : Operand) : Value := Expression.value Empty.elim ctx e

/-- The pattern of an operand: a literal counts by its canonical text, whatever its type. -/
def pattern (ctx : Context) (e : Operand) : Value :=
  match e with
  | .literal value => value.canonicalText?.elim .null .text
  | _ => e.value ctx

/-- The outcome of a match, without regard to case, or of its negation. -/
def matchTruth (ctx : Context) (e pattern : Operand) (negated : Bool) : Truth :=
  Store.likeTruth negated (e.value ctx) (pattern.pattern ctx)

end Operand

namespace Comparison

/-- The outcome of a plain comparison, of values of one type where columns ask for it. -/
def plainTruth (ctx : Context) (op : Comparison) (left right : Operand) : Truth :=
  let convert := ((left.affinity ctx.headers).joint (right.affinity ctx.headers)).convert
  op.relation.truth (convert (left.value ctx)) (convert (right.value ctx))

/-- The outcome of an equality, which is a match if one operand has a wildcard. -/
def equalityTruth (ctx : Context) (op : Comparison) (left right : Operand) : Truth :=
  if right.hasWildcard then left.matchTruth ctx right (op == .ne)
  else if left.hasWildcard then right.matchTruth ctx left (op == .ne)
  else op.plainTruth ctx left right

/-- The outcome of a comparison. With a missing value an equality asks whether the other operand is
missing, and all else asks whether it is not. -/
def truth (ctx : Context) (op : Comparison) (left right : Operand) : Truth :=
  if right.isAbsent then
    match op with
    | .eq => some (left.value ctx).isNull
    | _ => some !(left.value ctx).isNull
  else match op with
    | .like => left.matchTruth ctx right false
    | .notLike => left.matchTruth ctx right true
    | .eq => equalityTruth ctx .eq left right
    | .ne => equalityTruth ctx .ne left right
    | op => op.plainTruth ctx left right

end Comparison

namespace Condition

mutual

/-- The outcome of a condition on a row; without parts it is true. -/
def truth (ctx : Context) : Condition → Truth
  | .empty => some true
  | .junction _ [] => some true
  | .junction .or (child :: rest) => Truth.any (truth ctx child :: truths ctx rest)
  | .junction _ (child :: rest) => Truth.all (truth ctx child :: truths ctx rest)
  | .compare op left right => op.truth ctx left right

def truths (ctx : Context) : List Condition → List Truth
  | [] => []
  | child :: rest => truth ctx child :: truths ctx rest

end

end Condition

section Compiled

variable (ctx : Context)

/-- A scalar means its canonical text, and nothing if it has none. -/
theorem Scalar.value_toSql (value : Scalar) : value.toSql.value ctx = value.value ctx := by
  cases value with
  | null => rfl
  | int n => rfl
  | real x =>
    rw [toSql, Scalar.value]
    split <;> rfl
  | bool b => rfl
  | text s =>
    rw [toSql, Scalar.value]
    cases Text.Canonical.text? s <;> rfl

/-- A literal is no column, so it converts nothing. -/
theorem Scalar.affinity_toSql (headers : List Header) (value : Scalar) :
    value.toSql.affinity headers = value.affinity headers := by
  cases value with
  | real x =>
    rw [toSql]
    split <;> rfl
  | text s =>
    rw [toSql]
    cases Text.Canonical.text? s <;> rfl
  | _ => rfl

theorem Scalar.value_of_canonicalText?_eq_none {value : Scalar}
    (h : value.canonicalText? = none) : value.value ctx = .null := by
  cases value with
  | null => rfl
  | int n =>
    rw [canonicalText?_int] at h
    cases h
  | real x =>
    have hfinite : ¬ x.isFinite = true := by
      rw [(canonicalText?_real_eq_none_iff x).mp h]
      simp
    rw [Scalar.value, if_neg hfinite]
  | bool b =>
    rw [canonicalText?_bool] at h
    cases h
  | text s =>
    rw [canonicalText?] at h
    rw [Scalar.value, h]
    rfl

/-- The sign of an operator is read as the operator. -/
theorem Arithmetic.ofName?_sign (op : Arithmetic) : Arithmetic.ofName? op.sign = some op := by
  cases op <;> decide

namespace Expression

variable {α : Type}

mutual

/-- An expression means what its operators make of its columns and literals. -/
theorem value_toSql {leaf : α → Sql.Expr} {leafValue : α → Value}
    (hleaf : ∀ a, (leaf a).value ctx = leafValue a) (e : Expression α) :
    (toSql leaf e).value ctx = value leafValue ctx e := by
  cases e with
  | literal value => exact value.value_toSql ctx
  | column name => rfl
  | operation op args =>
    rw [toSql, Sql.Expr.value, values_toSqlAll hleaf args, Store.operation,
      Arithmetic.ofName?_sign, value]
  | aggregate a => exact hleaf a

theorem values_toSqlAll {leaf : α → Sql.Expr} {leafValue : α → Value}
    (hleaf : ∀ a, (leaf a).value ctx = leafValue a) (args : List (Expression α)) :
    Sql.Expr.values ctx (toSqlAll leaf args) = values leafValue ctx args := by
  cases args with
  | nil => rfl
  | cons arg rest =>
    rw [toSqlAll, Sql.Expr.values, values, value_toSql hleaf arg, values_toSqlAll hleaf rest]

end

/-- Only a bare column has an affinity. -/
theorem affinity_toSql (headers : List Header) {leaf : α → Sql.Expr}
    (hleaf : ∀ a, (leaf a).affinity headers = .free) (e : Expression α) :
    (toSql leaf e).affinity headers = e.affinity headers := by
  match e with
  | .literal value => exact value.affinity_toSql headers
  | .column name => rfl
  | .operation op [] => rfl
  | .operation op [arg] => exact affinity_toSql headers hleaf arg
  | .operation op (first :: second :: rest) => rfl
  | .aggregate a => exact hleaf a

end Expression

namespace Operand

theorem value_toSql (e : Operand) : e.toSql.value ctx = e.value ctx :=
  Expression.value_toSql ctx (fun a ↦ a.elim) e

theorem affinity_toSql (headers : List Header) (e : Operand) :
    e.toSql.affinity headers = Expression.affinity headers e :=
  Expression.affinity_toSql headers (fun a ↦ a.elim) e

/-- A literal without a canonical text is missing. -/
theorem value_toPattern (e : Operand) : e.toPattern.value ctx = e.pattern ctx := by
  cases e with
  | literal value =>
    rw [toPattern, pattern]
    rcases htext : value.canonicalText? with _ | form
    · rw [Scalar.value_toSql]
      exact Scalar.value_of_canonicalText?_eq_none ctx htext
    · rfl
  | column name => rfl
  | operation op args => exact value_toSql ctx (.operation op args)
  | aggregate a => exact a.elim

/-- A compiled match has the outcome of the match. -/
theorem value_like (e pattern : Operand) (negated : Bool) :
    (Sql.Expr.like e.toSql pattern.toPattern negated).value ctx =
      .ofTruth (e.matchTruth ctx pattern negated) := by
  rw [Sql.Expr.value, value_toSql, value_toPattern, matchTruth]

end Operand

namespace Comparison

theorem value_compare (op : Comparison) (left right : Operand) :
    (Sql.Expr.compare op.relation left.toSql right.toSql).value ctx =
      .ofTruth (op.plainTruth ctx left right) := by
  rw [Sql.Expr.value, Sql.Expr.jointAffinity, Operand.affinity_toSql, Operand.affinity_toSql,
    Operand.value_toSql, Operand.value_toSql, plainTruth]

theorem value_isNull (op : Comparison) (left : Operand) :
    (Sql.Expr.isNull left.toSql (op != .eq)).value ctx =
      .ofTruth (match op with
        | .eq => some (left.value ctx).isNull
        | _ => some !(left.value ctx).isNull) := by
  rw [Sql.Expr.value, Operand.value_toSql]
  cases op <;> cases (left.value ctx).isNull <;> rfl

/-- With a wildcard on either side an equality is a match, and a comparison if there is none. -/
theorem value_equality (op : Comparison) (left right : Operand) :
    (if right.hasWildcard then Sql.Expr.like left.toSql right.toPattern (op == .ne)
      else if left.hasWildcard then .like right.toSql left.toPattern (op == .ne)
      else .compare op.relation left.toSql right.toSql).value ctx =
      .ofTruth (op.equalityTruth ctx left right) := by
  unfold equalityTruth
  split
  · exact Operand.value_like ctx left right (op == .ne)
  · split
    · exact Operand.value_like ctx right left (op == .ne)
    · exact value_compare ctx op left right

/-- A comparison is compiled in one of three ways, by its operator and its right side. -/
theorem value_toSql (op : Comparison) (left right : Operand) :
    (op.toSql left right).value ctx = .ofTruth (op.truth ctx left right) := by
  unfold toSql truth
  by_cases habsent : right.isAbsent = true
  · rw [if_pos habsent, if_pos habsent]
    exact value_isNull ctx op left
  · rw [if_neg habsent, if_neg habsent]
    cases op with
    | like => exact Operand.value_like ctx left right false
    | notLike => exact Operand.value_like ctx left right true
    | eq => exact value_equality ctx .eq left right
    | ne => exact value_equality ctx .ne left right
    | lt => exact value_compare ctx .lt left right
    | lte => exact value_compare ctx .lte left right
    | gt => exact value_compare ctx .gt left right
    | gte => exact value_compare ctx .gte left right

end Comparison

namespace Condition

theorem truths_eq_map (conditions : List Condition) :
    truths ctx conditions = conditions.map (truth ctx) := by
  induction conditions with
  | nil => rfl
  | cons condition rest ih => rw [truths, List.map_cons, ih]

/-- A list of one condition has that condition's outcome, whatever joins it. -/
theorem truth_junction (kind : Junction) (child : Condition) (rest : List Condition) :
    truth ctx (.junction kind (child :: rest)) =
      kind.connective.truth (truths ctx (child :: rest)) := by
  cases kind <;> rfl

mutual

/-- A compiled condition has the outcome of the condition, unknown ones included. -/
theorem value_toSql (condition : Condition) :
    condition.toSql.value ctx = .ofTruth (condition.truth ctx) := by
  match condition with
  | .empty => rfl
  | .junction _ [] => rfl
  | .junction kind (child :: rest) =>
    have hjoined : (Sql.Expr.junction kind.connective (toSqlAll (child :: rest))).value ctx =
        .ofTruth (truth ctx (.junction kind (child :: rest))) := by
      calc
        _ = kind.connective.value (Sql.Expr.values ctx (toSqlAll (child :: rest))) := rfl
        _ = kind.connective.value ((truths ctx (child :: rest)).map Value.ofTruth) := by
          rw [values_toSqlAll (child :: rest)]
        _ = .ofTruth (kind.connective.truth (truths ctx (child :: rest))) :=
          kind.connective.value_map_ofTruth _
        _ = _ := by rw [truth_junction]
    rcases rest with _ | ⟨next, others⟩
    · cases kind with
      | list =>
        rw [toSql, value_toSql child, truth_junction, truths, truths]
        exact congrArg Value.ofTruth (Truth.all_singleton _).symm
      | and => exact hjoined
      | or => exact hjoined
    · cases kind <;> exact hjoined
  | .compare op left right => exact op.value_toSql ctx left right

theorem values_toSqlAll (conditions : List Condition) :
    Sql.Expr.values ctx (toSqlAll conditions) = (truths ctx conditions).map Value.ofTruth := by
  match conditions with
  | [] => rfl
  | child :: rest =>
    rw [toSqlAll, Sql.Expr.values, truths, List.map_cons, value_toSql child, values_toSqlAll rest]

end

/-- Conditions that are always true have no part in a conjunction. -/
theorem truth_conjunction (conditions : List Condition) :
    truth ctx (conjunction conditions) = Truth.all (conditions.map (truth ctx)) := by
  have hempty : ∀ condition ∈ conditions, (!condition.isEmpty) = false →
      truth ctx condition = some true := by
    intro condition _ h
    cases condition with
    | empty => rfl
    | junction kind children => cases h
    | compare op left right => cases h
  rw [← Truth.all_map_filter (truth ctx) (fun condition ↦ !condition.isEmpty) conditions hempty]
  unfold conjunction
  generalize (conditions.filter fun condition ↦ !condition.isEmpty) = kept
  rcases kept with _ | ⟨first, _ | ⟨next, rest⟩⟩
  · rfl
  · exact (Truth.all_singleton _).symm
  · rw [truth_junction, truths_eq_map]
    rfl

/-- A filter keeps a row if its condition is true there, not if it is unknown. -/
theorem holds_filter (condition : Condition) :
    condition.filter.toList.all (Sql.Expr.holds ctx) = (condition.truth ctx == some true) := by
  unfold filter
  by_cases hempty : condition.isEmpty = true
  · cases condition with
    | empty => rfl
    | junction kind children => cases hempty
    | compare op left right => cases hempty
  · rw [if_neg hempty, Option.toList_some, List.all_cons, List.all_nil, Bool.and_true,
      Sql.Expr.holds, value_toSql, Value.holds_ofTruth]

end Condition

end Compiled

namespace Indicator

/-- What a query takes from its indicator: the tables and the filter from the subject, what it shows
and groups by from the columns. -/
theorem fields_of_toQuery {options : Options} {indicator : Indicator} {query : Sql.Query}
    (h : indicator.toQuery options = .ok query) :
    ∃ first exprs, options.sources indicator.subject.tables = .ok (first, query.joins) ∧
      indicator.columnExprs options = .ok exprs ∧ query.source = some first ∧
      query.select = indicator.columns.zipWith Column.toItem exprs ∧
      query.filter = indicator.subject.conditions.filter ∧
      query.groupBy = groupExprs indicator.columns exprs := by
  obtain ⟨⟨first, joins⟩, hsources, h⟩ := Outcome.bind_eq_ok.mp h
  obtain ⟨exprs, hexprs, h⟩ := Outcome.bind_eq_ok.mp h
  cases h
  exact ⟨first, exprs, hsources, hexprs, rfl, rfl, rfl, rfl⟩

/-- A query keeps the rows on which its tables are linked and the conditions of its subject are
true. -/
theorem all_conditions_toQuery {options : Options} {indicator : Indicator}
    {query : Sql.Query} (h : indicator.toQuery options = .ok query) (ctx : Context) :
    query.conditions.all (Sql.Expr.holds ctx) =
      ((query.joins.filterMap Sql.Join.on).all (Sql.Expr.holds ctx) &&
        indicator.subject.conditions.truth ctx == some true) := by
  obtain ⟨-, -, -, -, -, -, hfilter, -⟩ := fields_of_toQuery h
  rw [Sql.Query.conditions, hfilter, List.all_append, Condition.holds_filter]

end Indicator

namespace Aggregation

/-- Whether a row of a query is one that an aggregate with a subject is about: the tables of the
query are linked on it, and it meets both conditions. -/
def covers (a : Aggregation) (subject : Subject) (joins : List Sql.Join) (ctx : Context) : Bool :=
  (joins.filterMap Sql.Join.on).all (Sql.Expr.holds ctx) &&
    subject.conditions.truth ctx == some true && a.condition.truth ctx == some true

/-- Whether an aggregate counts rows, whatever their values. -/
def CountsRows (a : Aggregation) : Prop :=
  a.statistic = .count ∧ (a.column = none ∨ a.column = some "1")

/-- The query of an aggregate, given its tables and what it shows. -/
def subjectQuery (a : Aggregation) (subject : Subject) (first : String) (joins : List Sql.Join)
    (call : Sql.Expr) : Sql.Query where
  select := [{ expr := call, label := none }]
  source := some first
  joins := joins
  filter := (Condition.conjunction [subject.conditions, a.condition]).filter
  groupBy := []

/-- An aggregate with a subject becomes a query of one column. -/
theorem toSql_subject {options : Options} {a : Aggregation} {subject : Subject} {e : Sql.Expr}
    (hsubject : a.subject = some subject) (h : a.toSql options = .ok e) :
    ∃ first joins call, options.sources subject.tables = .ok (first, joins) ∧
      a.statistic.call (a.column.map columnExpr) = .ok call ∧
      e = .subquery (a.subjectQuery subject first joins call) := by
  unfold toSql at h
  rw [hsubject] at h
  obtain ⟨⟨first, joins⟩, hsources, h⟩ := Outcome.bind_eq_ok.mp h
  obtain ⟨call, hcall, h⟩ := Outcome.bind_eq_ok.mp h
  cases h
  exact ⟨first, joins, call, hsources, hcall, rfl⟩

/-- What filters the rows of a subject, in joins and after them, is what the aggregate covers. -/
theorem holds_conditions (a : Aggregation) (subject : Subject) (joins : List Sql.Join)
    (ctx : Context) :
    (joins.filterMap Sql.Join.on ++
      (Condition.conjunction [subject.conditions, a.condition]).filter.toList).all
        (Sql.Expr.holds ctx) = a.covers subject joins ctx := by
  have hboth : (Truth.all ([subject.conditions, a.condition].map (Condition.truth ctx)) ==
      some true) =
      (subject.conditions.truth ctx == some true && a.condition.truth ctx == some true) := by
    rw [Bool.eq_iff_iff]
    simp [Truth.all_eq_true_iff]
  calc
    _ = ((joins.filterMap Sql.Join.on).all (Sql.Expr.holds ctx) &&
        (Condition.conjunction [subject.conditions, a.condition]).truth ctx == some true) := by
      rw [List.all_append, Condition.holds_filter]
    _ = ((joins.filterMap Sql.Join.on).all (Sql.Expr.holds ctx) &&
        (subject.conditions.truth ctx == some true && a.condition.truth ctx == some true)) := by
      rw [Condition.truth_conjunction, hboth]
    _ = a.covers subject joins ctx := by rw [covers, Bool.and_assoc]

/-- The query of an aggregate with a subject keeps the rows that the aggregate is about. -/
theorem eval_subjectQuery (a : Aggregation) (subject : Subject) (first : String)
    (joins : List Sql.Join) (call : Sql.Expr) (db : Store.Database) (ctx : Context) :
    (a.subjectQuery subject first joins call).eval db ctx =
      (a.subjectQuery subject first joins call).keptRows db ctx (a.covers subject joins) >>=
        (a.subjectQuery subject first joins call).shownFor db ctx := by
  have htest : (fun inner ↦ (a.subjectQuery subject first joins call).conditions.all
      (Sql.Expr.holds inner)) = a.covers subject joins := by
    funext inner
    exact a.holds_conditions subject joins inner
  rw [Sql.Query.eval_eq, htest]

/-- A count of rows calls its function on what every row has. -/
theorem CountsRows.counts {a : Aggregation} (hrows : a.CountsRows) {call : Sql.Expr}
    (hcall : a.statistic.call (a.column.map columnExpr) = .ok call) :
    ∃ argument, call = .call Statistic.count.sqlName [argument] false ∧
      Sql.Query.Counts argument := by
  obtain ⟨hstatistic, hcolumn | hcolumn⟩ := hrows
  · rw [hstatistic, hcolumn] at hcall
    cases hcall
    exact ⟨.star, rfl, rfl, fun inner ↦ rfl⟩
  · have hone : Store.Reading.ofColumn none "1" = .one := by
      decide
    rw [hstatistic, hcolumn] at hcall
    cases hcall
    refine ⟨columnExpr "1", rfl, ?_, fun inner ↦ ?_⟩
    · simp [columnExpr, Sql.Expr.paths, Sql.Expr.readings, hone]
    · rw [columnExpr, Sql.Expr.value, hone]
      rfl

/-- A count of rows is the number of those that are kept. -/
theorem CountsRows.eval {a : Aggregation} (hrows : a.CountsRows) {subject : Subject}
    {first : String} {joins : List Sql.Join} {call : Sql.Expr}
    (hcall : a.statistic.call (a.column.map columnExpr) = .ok call)
    (db : Store.Database) (ctx : Context) :
    (Sql.Expr.subquery (a.subjectQuery subject first joins call)).eval db ctx =
      ((a.subjectQuery subject first joins call).keptRows db ctx (a.covers subject joins)).map
        fun rows ↦ .int rows.length := by
  obtain ⟨argument, rfl, hcounts⟩ := hrows.counts hcall
  have hshown := hcounts.shownFor db ctx (a.subjectQuery subject first joins _) rfl rfl
  rw [Sql.Expr.eval, eval_subjectQuery, funext hshown]
  rcases Sql.Query.keptRows db ctx _ (a.covers subject joins) with fault | rows <;> rfl

end Aggregation

/-- A compiled condition has the outcome of the condition for its value, in every context. An
aggregate with a subject is about the rows on which both conditions are true, and a count of them
is their number. -/
theorem conditions_keep_meaning :
    (∀ (ctx : Context) (condition : Condition),
      condition.toSql.value ctx = .ofTruth (condition.truth ctx)) ∧
    ∀ (options : Options) (a : Aggregation) (subject : Subject) (e : Sql.Expr),
      a.subject = some subject → a.toSql options = .ok e →
      ∃ query first, e = .subquery query ∧ query.source = some first ∧
        options.sources subject.tables = .ok (first, query.joins) ∧
        ∀ db ctx,
          query.eval db ctx =
            query.keptRows db ctx (a.covers subject query.joins) >>= query.shownFor db ctx ∧
          (a.CountsRows → e.eval db ctx =
            (query.keptRows db ctx (a.covers subject query.joins)).map
              fun rows ↦ .int rows.length) := by
  refine ⟨Condition.value_toSql, fun options a subject e hsubject h ↦ ?_⟩
  obtain ⟨first, joins, call, hsources, hcall, rfl⟩ := Aggregation.toSql_subject hsubject h
  exact ⟨a.subjectQuery subject first joins call, first, rfl, rfl, hsources, fun db ctx ↦
    ⟨a.eval_subjectQuery subject first joins call db ctx,
      fun hrows ↦ hrows.eval hcall db ctx⟩⟩

namespace Enrolment

def students : Subject where
  tables := ["etudiants"]
  conditions := .compare .eq (.column "annee") (.literal (.int 2022))

/-- The students of a year whose country is missing. -/
def unknownCountry : Aggregation where
  statistic := .count
  column := some "1"
  condition := .compare .eq (.column "pays") (.literal .null)
  subject := some students

theorem conditions_keep_meaning_unknownCountry :
    ∃ query, unknownCountry.toSql .default = .ok (.subquery query) ∧
      ∀ db ctx, (Sql.Expr.subquery query).eval db ctx =
        (query.keptRows db ctx (unknownCountry.covers students [])).map fun rows ↦
          .int rows.length := by
  obtain ⟨query, first, he, -, hsources, hrows⟩ :=
    conditions_keep_meaning.2 .default unknownCountry students _ rfl rfl
  have hjoins : query.joins = [] := (congrArg Prod.snd (Except.ok.inj hsources)).symm
  rw [hjoins] at hrows
  refine ⟨query, congrArg Except.ok he, fun db ctx ↦ ?_⟩
  rw [← he]
  exact (hrows db ctx).2 ⟨rfl, .inr rfl⟩

end Enrolment

end Barometer
