import Barometer.Proofs.Compilation.Completeness
import Barometer.Proofs.Compilation.Readability
import Barometer.Proofs.Sql.Derivation

/-!
# Accepted indicators and the grammar

Reading an indicator makes sure that operations have arguments, case distinctions have arms and
subjects of aggregates have tables, so all that is compiled from it can be derived in the grammar of
statements.  Reading does not make sure that there are columns, and without any nothing is selected.
-/

namespace Barometer

open Sql (Expr Derives)

variable {dialect : Sql.Dialect}

theorem Scalar.derives_toSql (value : Scalar) :
    Derives dialect .expression (value.toSql.tokens dialect) := by
  cases value with
  | text s =>
    rw [toSql]
    cases Text.Canonical.text? s <;> exact .literal _
  | _ => exact .literal _

namespace Expression

variable {α : Type} {kept : α → Prop} {leaf : α → Expr}

mutual

/-- An operator has at least one operand, which keeps the brackets from being empty. -/
theorem WellFormed.derives_toSql
    (hleaf : ∀ a, kept a → Derives dialect .expression ((leaf a).tokens dialect))
    {e : Expression α} (h : e.WellFormed kept) :
    Derives dialect .expression ((toSql leaf e).tokens dialect) := by
  cases e with
  | literal value => exact value.derives_toSql
  | column name => exact .column name
  | operation op args =>
    refine .operation op.sign (.separated ?_ (AllWellFormed.derives_toSqlAll hleaf h.2))
    cases args with
    | nil => exact absurd rfl h.1
    | cons arg rest => exact List.cons_ne_nil _ _
  | aggregate a => exact hleaf a h

theorem AllWellFormed.derives_toSqlAll
    (hleaf : ∀ a, kept a → Derives dialect .expression ((leaf a).tokens dialect))
    {es : List (Expression α)} (h : AllWellFormed kept es) :
    ∀ tokens ∈ Expr.tokensAll dialect (toSqlAll leaf es), Derives dialect .expression tokens := by
  intro tokens htokens
  cases es with
  | nil => cases htokens
  | cons e rest =>
    rcases List.mem_cons.mp htokens with rfl | htokens
    · exact WellFormed.derives_toSql hleaf h.1
    · exact AllWellFormed.derives_toSqlAll hleaf h.2 tokens htokens

end

end Expression

namespace Operand

variable {e : Operand}

theorem WellFormed.derives_toSql (h : e.WellFormed) :
    Derives dialect .expression (e.toSql.tokens dialect) :=
  Expression.WellFormed.derives_toSql (fun a ↦ a.elim) h

/-- A pattern is a literal or an expression like others. -/
theorem WellFormed.derives_toPattern (h : e.WellFormed) :
    Derives dialect .expression (e.toPattern.tokens dialect) := by
  cases e with
  | literal value =>
    rw [toPattern]
    cases value.canonicalText? with
    | none => exact value.derives_toSql
    | some form => exact .literal _
  | column name => exact .column name
  | operation op args => exact WellFormed.derives_toSql h
  | aggregate a => exact a.elim

end Operand

/-- A comparison is written with an operator, as a match, or as a test for missing values. -/
theorem Comparison.derives_toSql (op : Comparison) {left right : Operand}
    (hleft : left.WellFormed) (hright : right.WellFormed) :
    Derives dialect .condition ((op.toSql left right).tokens dialect) := by
  unfold toSql
  split
  · exact .isNullTokens hleft.derives_toSql _
  · split
    · exact .likeTokens hleft.derives_toSql hright.derives_toPattern _
    · exact .likeTokens hleft.derives_toSql hright.derives_toPattern _
    · split
      · exact .likeTokens hleft.derives_toSql hright.derives_toPattern _
      · split
        · exact .likeTokens hright.derives_toSql hleft.derives_toPattern _
        · exact .compare _ hleft.derives_toSql hright.derives_toSql

namespace Condition

mutual

/-- A junction without conditions is written as what always holds. -/
theorem WellFormed.derives_toSql {c : Condition} (h : c.WellFormed) :
    Derives dialect .condition (c.toSql.tokens dialect) := by
  cases c with
  | empty => exact .always
  | junction kind children =>
    rcases children with _ | ⟨child, rest⟩
    · cases kind <;> exact .always
    · have hchild := WellFormed.derives_toSql h.1
      have hall := AllWellFormed.derives_toSqlAll h
      rcases rest with _ | ⟨second, rest⟩
      · cases kind with
        | list => exact hchild
        | and => exact .junction .and (.separated (List.cons_ne_nil _ _) hall)
        | or => exact .junction .or (.separated (List.cons_ne_nil _ _) hall)
      · cases kind <;> exact .junction _ (.separated (List.cons_ne_nil _ _) hall)
  | compare op left right => exact op.derives_toSql h.1 h.2

theorem AllWellFormed.derives_toSqlAll {cs : List Condition} (h : AllWellFormed cs) :
    ∀ tokens ∈ Expr.tokensAll dialect (toSqlAll cs), Derives dialect .condition tokens := by
  intro tokens htokens
  cases cs with
  | nil => cases htokens
  | cons child rest =>
    rcases List.mem_cons.mp htokens with rfl | htokens
    · exact WellFormed.derives_toSql h.1
    · exact AllWellFormed.derives_toSqlAll h.2 tokens htokens

end

theorem WellFormed.derives_of_mem_filter {c : Condition} (h : c.WellFormed) :
    ∀ e ∈ c.filter, Derives dialect .condition (e.tokens dialect) := by
  intro e he
  unfold filter at he
  split at he
  · cases he
  · cases he
    exact h.derives_toSql

end Condition

/-- The star stands in calls only. -/
theorem Statistic.derives_call {statistic : Statistic} {arg : Option Expr} {call : Expr}
    (harg : ∀ e ∈ arg, Derives dialect .expression (e.tokens dialect))
    (h : statistic.call arg = .ok call) :
    Derives dialect .expression (call.tokens dialect) := by
  cases arg with
  | none =>
    cases statistic <;> cases h
    exact .rows _
  | some arg =>
    have hderives := harg arg rfl
    cases statistic with
    | countDistinct =>
      cases h
      exact .distinctCall _ hderives
    | _ =>
      cases h
      exact .call _ hderives

namespace Aggregation

variable {options : Options} {a : Aggregation}

/-- Under a condition, what is collected stands in a case distinction. -/
theorem derives_collected {value : Expr} (h : a.collected = .ok value) :
    Derives dialect .expression (value.tokens dialect) := by
  unfold collected at h
  split at h
  · cases h
    exact .literal _
  · split at h
    · cases h
      exact .column _
    · cases h

/-- An aggregate with a subject is a query between brackets. -/
theorem WellFormed.derives_toSql (hwell : a.WellFormed) {e : Expr}
    (h : a.toSql options = .ok e) : Derives dialect .expression (e.tokens dialect) := by
  have hcolumn : ∀ e ∈ a.column.map columnExpr, Derives dialect .expression (e.tokens dialect) := by
    intro e he
    obtain ⟨name, -, rfl⟩ := Option.map_eq_some_iff.mp he
    exact .column name
  unfold toSql at h
  split at h
  · rename_i subject hsubject
    obtain ⟨⟨first, joins⟩, hsources, h⟩ := Outcome.bind_eq_ok.mp h
    obtain ⟨call, hcall, h⟩ := Outcome.bind_eq_ok.mp h
    cases h
    have hconditions := (hwell.conditions subject hsubject).conjunction hwell.condition
    refine .subquery (.queryTokens rfl (List.cons_ne_nil _ _) (fun item hitem ↦ ?_)
      (Options.isLinked_of_mem_sources hsources) hconditions.derives_of_mem_filter
      fun _ he ↦ by cases he)
    cases List.mem_singleton.mp hitem
    exact .item (Statistic.derives_call hcolumn hcall)
  · split at h
    · exact Statistic.derives_call hcolumn h
    · obtain ⟨value, hvalue, h⟩ := Outcome.bind_eq_ok.mp h
      refine Statistic.derives_call (fun e he ↦ ?_) h
      cases he
      refine .casesTokens (List.cons_ne_nil _ _) (fun arm harm ↦ ?_) fun arm harm ↦ ?_
      · rw [List.mem_singleton.mp harm]
        exact hwell.condition.derives_toSql
      · rw [List.mem_singleton.mp harm]
        exact derives_collected hvalue

end Aggregation

theorem Measure.WellFormed.derives_toSql {options : Options} {m : Measure} (hwell : m.WellFormed)
    {e : Expr} (h : m.toSql options = .ok e) :
    Derives dialect .expression (e.tokens dialect) := by
  obtain ⟨m', hm', rfl⟩ := Outcome.map_eq_ok.mp h
  have hwell' : m'.WellFormed fun e ↦ Derives dialect .expression (e.tokens dialect) :=
    Expression.WellFormed.of_traverse (fun _ _ ha he ↦ ha.derives_toSql he) hwell hm'
  exact hwell'.derives_toSql fun _ he ↦ he

/-- There is an arm in every case distinction, as the grammar wants it. -/
theorem ColumnBody.WellFormed.derives_toSql {options : Options} {body : ColumnBody}
    (hwell : body.WellFormed) {e : Expr} (h : body.toSql options = .ok e) :
    Derives dialect .expression (e.tokens dialect) := by
  cases body with
  | groupBy value =>
    cases h
    exact Operand.WellFormed.derives_toSql hwell
  | cases arms =>
    cases h
    refine .casesTokens (fun hnil ↦ hwell.1 (List.map_eq_nil_iff.mp hnil)) (fun arm harm ↦ ?_)
      fun arm harm ↦ ?_
    · obtain ⟨a, ha, rfl⟩ := List.mem_map.mp harm
      exact (hwell.2 a ha).derives_toSql
    · obtain ⟨a, -, rfl⟩ := List.mem_map.mp harm
      exact .literal _
  | aggregation m => exact Measure.WellFormed.derives_toSql hwell h

namespace Indicator

variable {options : Options} {indicator : Indicator} {query : Sql.Query}

theorem exists_source_of_toQuery (h : indicator.toQuery options = .ok query) :
    ∃ table, query.source = some table := by
  obtain ⟨⟨first, joins⟩, -, h⟩ := Outcome.bind_eq_ok.mp h
  obtain ⟨exprs, -, h⟩ := Outcome.bind_eq_ok.mp h
  cases h
  exact ⟨first, rfl⟩

/-- A query selects as much as there are columns. -/
theorem length_select_of_toQuery (h : indicator.toQuery options = .ok query) :
    query.select.length = indicator.columns.length := by
  obtain ⟨⟨first, joins⟩, -, h⟩ := Outcome.bind_eq_ok.mp h
  obtain ⟨exprs, hexprs, h⟩ := Outcome.bind_eq_ok.mp h
  cases h
  rw [List.length_zipWith, Outcome.length_of_mapM hexprs, Nat.min_self]

/-- With a column to show, the query begins with a list that is not empty. -/
theorem WellFormed.derives_query (hwell : indicator.WellFormed) (hcolumns : indicator.columns ≠ [])
    (h : indicator.toQuery options = .ok query) :
    Derives dialect .query (query.tokens dialect) := by
  have hselect : query.select ≠ [] := by
    intro hnil
    have hlength := length_select_of_toQuery h
    rw [hnil] at hlength
    exact hcolumns (List.length_eq_zero_iff.mp hlength.symm)
  obtain ⟨⟨first, joins⟩, hsources, h⟩ := Outcome.bind_eq_ok.mp h
  obtain ⟨exprs, hexprs, h⟩ := Outcome.bind_eq_ok.mp h
  cases h
  have hterms : ∀ e ∈ exprs, Derives dialect .expression (e.tokens dialect) := by
    intro e he
    obtain ⟨column, hcolumn, hbody⟩ := Outcome.exists_of_mem_mapM hexprs he
    exact (hwell.columns column hcolumn).derives_toSql hbody
  refine .queryTokens rfl hselect (fun item hitem ↦ ?_) (Options.isLinked_of_mem_sources hsources)
    hwell.conditions.derives_of_mem_filter fun e he ↦ hterms e (mem_of_mem_groupExprs he)
  obtain ⟨column, e, he, rfl⟩ := exists_of_mem_items hitem
  exact .titled column.title (hterms e he)

/-- The grammar has no empty list of columns, and this is all that can go wrong. -/
theorem WellFormed.derives_statement_iff (hwell : indicator.WellFormed)
    (h : indicator.toQuery options = .ok query) :
    Derives dialect .statement (query.statementTokens dialect) ↔ indicator.columns ≠ [] := by
  obtain ⟨table, hsource⟩ := exists_source_of_toQuery h
  constructor
  · intro hderives hcolumns
    have hlength := length_select_of_toQuery h
    rw [hcolumns] at hlength
    exact Derives.select_ne_nil hsource hderives (List.length_eq_zero_iff.mp hlength)
  · intro hcolumns
    exact .statement (hwell.derives_query hcolumns h)

end Indicator

/-- A run finds a defect where reading or compiling finds it, whatever the database holds. -/
theorem Store.Database.runJson_defect_iff (db : Database) (options : RunOptions) (node : Json)
    (defect : Defect) :
    db.runJson options node = .error (.defect defect) ↔
      (Indicator.read node >>= Indicator.toQuery options.compilation) = .error defect := by
  rw [runJson]
  cases hread : Indicator.read node with
  | error found =>
    constructor
    · intro h
      cases h
      rfl
    · intro h
      cases h
      rfl
  | ok indicator =>
    have hwell := Indicator.wellFormed_of_read hread
    exact (runIndicator_defect_iff hwell db options defect).trans
      (hwell.toQuery_error_iff options.compilation defect).symm

/-- The statement of an accepted indicator belongs to the grammar if and only if the indicator has
columns; what is not accepted is refused with the same defect on every database. -/
theorem Indicator.accepted_derives_iff (node : Json) (options : RunOptions) :
    (∀ indicator query, Indicator.read node = .ok indicator →
      indicator.toQuery options.compilation = .ok query → ∀ dialect,
        (Derives dialect .statement (query.statementTokens dialect) ↔ indicator.columns ≠ [])) ∧
    ∀ (db : Store.Database) defect, db.runJson options node = .error (.defect defect) ↔
      (Indicator.read node >>= Indicator.toQuery options.compilation) = .error defect :=
  ⟨fun _ _ hread hquery _ ↦ (Indicator.wellFormed_of_read hread).derives_statement_iff hquery,
    fun db defect ↦ db.runJson_defect_iff options node defect⟩

namespace Cohorts

def comparisonNode (op column text : String) : Json :=
  .object [(op, .array [.object [("col", .string column)], .string text])]

def casesNode (arms : List Json) : Json :=
  .object [("type", .string "case"), ("titre", .string "Groupe"), ("cases", .array arms)]

def armNode : Json :=
  .object
    [("when", .object [("or", .array
        [comparisonNode "=" "pays" "France", comparisonNode "like" "pays" "%land"])]),
      ("label", .string "Proche")]

def shareNode : Json :=
  .object
    [("type", .string "aggregation"), ("titre", .string "Part"),
      ("expr", .object [("op", .string "/"), ("args", .array
        [.object [("agg", .string "count")],
          .object [("agg", .string "count_distinct"), ("col", .string "id"),
            ("subject", .object
              [("tables", .array [.string "inscrits"]),
                ("conditions", comparisonNode "!=" "statut" "")])]])])]

def node (columns : List Json) : Json :=
  .object
    [("sujet", .object [("tables", .array [.string "etudiants", .string "insertion"])]),
      ("colonnes", .array columns)]

/-- Two joined tables, with the columns that are asked for. -/
def indicator (columns : List Column) : Indicator where
  subject := { tables := ["etudiants", "insertion"], conditions := .empty }
  columns

def arm : CaseArm where
  condition := .junction .or
    [.compare .eq (.column "pays") (.literal (.text "France")),
      .compare .like (.column "pays") (.literal (.text "%land"))]
  label := "Proche"

def share : Measure :=
  .operation .div
    [.aggregate { statistic := .count, column := none, condition := .empty, subject := none },
      .aggregate
        { statistic := .countDistinct
          column := some "id"
          condition := .empty
          subject := some
            { tables := ["inscrits"]
              conditions := .compare .ne (.column "statut") (.literal (.text "")) } }]

def columns : List Column :=
  [{ title := "Groupe", body := .cases [arm] }, { title := "Part", body := .aggregation share }]

def options : RunOptions where
  compilation := .default
  naming := .empty
  request := .any

/-- The statement belongs to the grammar; without its arms the case distinction is refused. -/
theorem accepted_derives_iff_cohorts :
    (∃ query, Indicator.read (node [casesNode [armNode], shareNode]) = .ok (indicator columns) ∧
      (indicator columns).toQuery .default = .ok query ∧
      ∀ dialect, Derives dialect .statement (query.statementTokens dialect)) ∧
    ∃ defect, ∀ db : Store.Database,
      db.runJson options (node [casesNode [], shareNode]) = .error (.defect defect) := by
  have hread : Indicator.read (node [casesNode [armNode], shareNode]) =
      .ok (indicator columns) := by
    with_unfolding_all rfl
  have hderives := (Indicator.accepted_derives_iff _ options).1 _ _ hread rfl
  have hrefused := (Indicator.accepted_derives_iff (node [casesNode [], shareNode]) options).2
  exact ⟨⟨_, hread, rfl, fun dialect ↦ (hderives dialect).mpr (List.cons_ne_nil _ _)⟩,
    _, fun db ↦ (hrefused db _).mpr rfl⟩

/-- Without columns nothing is selected from the tables. -/
theorem not_forall_derives_statement :
    ¬ ∀ node indicator options query, Indicator.read node = .ok indicator →
      indicator.toQuery options = .ok query → ∀ dialect,
        Derives dialect .statement (query.statementTokens dialect) := by
  intro hall
  have hread : Indicator.read (node []) = .ok (indicator []) := by
    with_unfolding_all rfl
  have hderives := hall (node []) (indicator []) .default _ hread rfl .postgres
  exact Derives.select_ne_nil rfl hderives rfl

end Cohorts

end Barometer
