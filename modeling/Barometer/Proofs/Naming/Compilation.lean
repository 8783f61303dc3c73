import Barometer.Proofs.Compilation.Links
import Barometer.Proofs.Indicator.References
import Barometer.Proofs.Outcome
import Barometer.Proofs.Sql.Renaming

/-!
# Renaming and compilation

An indicator can be compiled in the names of the database, or compiled in its own names with the
query renamed afterwards. Both give the same query, as long as the catalog keeps the tables apart:
the link of a join is chosen by comparing names.
-/

namespace Barometer

open Sql (Expr Query QueryRenaming)

/-- Literals have no names in them. -/
theorem Scalar.rename_toSql (r : QueryRenaming) (tables : List String) (value : Scalar) :
    value.toSql.rename r tables = value.toSql := by
  cases value with
  | text s =>
    rw [toSql]
    cases Text.Canonical.text? s <;> rfl
  | _ => rfl

namespace Expression

variable {α β γ : Type}

mutual

/-- An expression can be renamed before or after it is compiled, if its aggregates can. -/
theorem toSql_rename (r : QueryRenaming) (tables : List String) {leaf : α → Expr} {f : α → α}
    (hleaf : ∀ a, leaf (f a) = (leaf a).rename r tables) (e : Expression α) :
    toSql leaf (rename f r.toRenaming tables e) = (toSql leaf e).rename r tables := by
  cases e with
  | literal value => exact (Scalar.rename_toSql r tables value).symm
  | column name => rfl
  | operation op args =>
    simp only [rename, toSql, Expr.rename]
    rw [toSqlAll_renameAll r tables hleaf args]
  | aggregate a => exact hleaf a

theorem toSqlAll_renameAll (r : QueryRenaming) (tables : List String) {leaf : α → Expr}
    {f : α → α} (hleaf : ∀ a, leaf (f a) = (leaf a).rename r tables)
    (args : List (Expression α)) :
    toSqlAll leaf (renameAll f r.toRenaming tables args) =
      Expr.renameAll r tables (toSqlAll leaf args) := by
  cases args with
  | nil => rfl
  | cons arg rest =>
    simp only [renameAll, toSqlAll, Expr.renameAll]
    rw [toSql_rename r tables hleaf arg, toSqlAll_renameAll r tables hleaf rest]

end

mutual

/-- Aggregates fail to compile, or not, as the renamed ones do. -/
theorem traverse_rename {ε : Type} (r : Renaming) (tables : List String) {f : α → α} {g : β → β}
    {leaf leaf' : α → Except ε β} (e : Expression α)
    (hleaf : ∀ a ∈ e.aggregates, leaf' (f a) = (leaf a).map g) :
    traverse leaf' (rename f r tables e) = (traverse leaf e).map (rename g r tables) := by
  cases e with
  | literal value => rfl
  | column name => rfl
  | operation op args =>
    simp only [rename, traverse]
    rw [traverseAll_renameAll r tables args hleaf]
    cases traverseAll leaf args <;> rfl
  | aggregate a =>
    simp only [rename, traverse]
    rw [hleaf a (by simp [aggregates])]
    cases leaf a <;> rfl

/-- Aggregates that are compiled after renaming are those that are renamed after compiling. -/
theorem traverseAll_renameAll {ε : Type} (r : Renaming) (tables : List String) {f : α → α}
    {g : β → β} {leaf leaf' : α → Except ε β} (args : List (Expression α))
    (hleaf : ∀ a ∈ aggregatesOf args, leaf' (f a) = (leaf a).map g) :
    traverseAll leaf' (renameAll f r tables args) =
      (traverseAll leaf args).map (renameAll g r tables) := by
  cases args with
  | nil => rfl
  | cons arg rest =>
    simp only [aggregatesOf, List.mem_append] at hleaf
    simp only [renameAll, traverseAll]
    rw [traverse_rename r tables arg fun a ha ↦ hleaf a (.inl ha),
      traverseAll_renameAll r tables rest fun a ha ↦ hleaf a (.inr ha)]
    rcases traverse leaf arg with defect | e
    · rfl
    · rcases traverseAll leaf rest with defect | es <;> rfl

end

end Expression

namespace Operand

variable (r : QueryRenaming) (tables : List String)

theorem toSql_rename (e : Operand) :
    (Operand.rename r.toRenaming tables e).toSql = e.toSql.rename r tables :=
  Expression.toSql_rename r tables (fun a ↦ a.elim) e

/-- Whether an operand is absent does not depend on names. -/
theorem isAbsent_rename (r : Renaming) (e : Operand) :
    (Operand.rename r tables e).isAbsent = e.isAbsent := by
  cases e <;> rfl

theorem hasWildcard_rename (r : Renaming) (e : Operand) :
    (Operand.rename r tables e).hasWildcard = e.hasWildcard := by
  cases e <;> rfl

/-- Patterns that are literals have no names either. -/
theorem toPattern_rename (e : Operand) :
    (Operand.rename r.toRenaming tables e).toPattern = e.toPattern.rename r tables := by
  cases e with
  | literal value =>
    simp only [Operand.rename, Expression.rename, toPattern]
    cases value.canonicalText? with
    | none => exact (Scalar.rename_toSql r tables value).symm
    | some form => rfl
  | column name => rfl
  | operation op args => exact toSql_rename r tables (.operation op args)
  | aggregate a => exact a.elim

end Operand

/-- How a comparison is written depends on absence and wildcards only, and these are not renamed. -/
theorem Comparison.toSql_rename (r : QueryRenaming) (tables : List String) (op : Comparison)
    (left right : Operand) :
    op.toSql (left.rename r.toRenaming tables) (right.rename r.toRenaming tables) =
      (op.toSql left right).rename r tables := by
  simp only [toSql, Operand.isAbsent_rename, Operand.hasWildcard_rename, Operand.toSql_rename,
    Operand.toPattern_rename]
  by_cases habsent : right.isAbsent = true
  · simp only [habsent, if_true, Expr.rename]
  · simp only [habsent]
    by_cases hright : right.hasWildcard = true <;> by_cases hleft : left.hasWildcard = true <;>
      cases op <;> simp [hright, hleft, Comparison.isEquality, Expr.rename]

namespace Condition

theorem isEmpty_rename (r : Renaming) (tables : List String) (c : Condition) :
    (c.rename r tables).isEmpty = c.isEmpty := by
  cases c <;> rfl

mutual

/-- A condition has the same shape under other names, so it is compiled in the same way. -/
theorem toSql_rename (r : QueryRenaming) (tables : List String) (c : Condition) :
    (c.rename r.toRenaming tables).toSql = c.toSql.rename r tables := by
  cases c with
  | empty => rfl
  | junction kind children =>
    rcases children with _ | ⟨child, rest⟩
    · cases kind <;> rfl
    · have hchild := toSql_rename r tables child
      have hrest := toSqlAll_renameAll r tables rest
      rcases rest with _ | ⟨second, rest⟩
      · cases kind <;> simp only [rename, renameAll, toSql, toSqlAll, Expr.rename, Expr.renameAll,
          hchild]
      · simp only [renameAll] at hrest
        cases kind <;> simp only [rename, renameAll, toSql, Expr.rename, Expr.renameAll, hchild,
          hrest]
  | compare op left right => exact op.toSql_rename r tables left right

theorem toSqlAll_renameAll (r : QueryRenaming) (tables : List String) (cs : List Condition) :
    toSqlAll (renameAll r.toRenaming tables cs) = Expr.renameAll r tables (toSqlAll cs) := by
  cases cs with
  | nil => rfl
  | cons child rest =>
    simp only [renameAll, toSqlAll, Expr.renameAll]
    rw [toSql_rename r tables child, toSqlAll_renameAll r tables rest]

end

theorem filter_rename (r : QueryRenaming) (tables : List String) (c : Condition) :
    (c.rename r.toRenaming tables).filter = Expr.renameOption r tables c.filter := by
  rw [filter, filter, isEmpty_rename]
  split
  · rfl
  · rw [toSql_rename, Expr.renameOption]

theorem renameAll_eq_map (r : Renaming) (tables : List String) (cs : List Condition) :
    renameAll r tables cs = cs.map (rename r tables) := by
  induction cs with
  | nil => rfl
  | cons child rest ih => rw [renameAll, ih, List.map_cons]

/-- What is left out of a conjunction is left out under other names as well. -/
theorem conjunction_rename (r : Renaming) (tables : List String) (cs : List Condition) :
    conjunction (cs.map (rename r tables)) = (conjunction cs).rename r tables := by
  have hfilter : (cs.map (rename r tables)).filter (fun c ↦ !c.isEmpty) =
      (cs.filter fun c ↦ !c.isEmpty).map (rename r tables) := by
    rw [List.filter_map]
    congr 2
    funext c
    exact congrArg (!·) (isEmpty_rename r tables c)
  rw [conjunction, conjunction, hfilter]
  generalize cs.filter (fun c ↦ !c.isEmpty) = written
  rcases written with _ | ⟨c, _ | ⟨d, rest⟩⟩
  · rfl
  · rfl
  · simp only [List.map_cons, rename, renameAll, renameAll_eq_map]

end Condition

namespace Options

/-- All tables are there, the first one apart from the joined ones. -/
theorem tables_of_sources {options : Options} {tables : List String} {first : String}
    {joins : List Sql.Join} (h : options.sources tables = .ok (first, joins)) :
    first :: joins.map Sql.Join.table = tables := by
  cases tables with
  | nil => cases h
  | cons table rest =>
    cases h
    rw [joinsAfter_tables]

/-- Whether the tables of a query, if all of them are among `names`, are joined after their renaming
as the renaming of their joins says. -/
def JoinsFollow (options options' : Options) (r : QueryRenaming) (names : Set String) : Prop :=
  ∀ tables, (∀ t ∈ tables, t ∈ names) →
    options'.sources (tables.map r.table) =
      (options.sources tables).map fun source ↦
        (r.table source.1, r.joinsAfter [source.1] source.2)

end Options

/-- The renaming of queries that goes with a catalog. Each join keeps its link, with the names in it
renamed. -/
def Catalog.queryRenaming (c : Catalog) (options : Options) : QueryRenaming where
  toRenaming := c.toRenaming
  on joined table := ((options.link joined table).rename c).predicate options.identityColumn

section Catalog

variable {c : Catalog} {options : Options} {names : Set String}

/-- Renamed tables are joined on what the joined tables are renamed to. -/
theorem Options.joinsAfter_applyJoins (hc : Set.InjOn c.toRenaming.table names)
    (hrules : ∀ t ∈ options.ruleTables, t ∈ names) (joined rest : List String)
    (hjoined : ∀ t ∈ joined, t ∈ names) (hrest : ∀ t ∈ rest, t ∈ names) :
    (c.applyJoins options).joinsAfter (joined.map c.toRenaming.table)
        (rest.map c.toRenaming.table) =
      (c.queryRenaming options).joinsAfter joined (options.joinsAfter joined rest) := by
  induction rest generalizing joined with
  | nil => rfl
  | cons table rest ih =>
    have htable : table ∈ names := hrest table List.mem_cons_self
    have hnext : ∀ t ∈ joined ++ [table], t ∈ names := by
      intro t ht
      rcases List.mem_append.mp ht with ht | ht
      · exact hjoined t ht
      · rwa [List.mem_singleton.mp ht]
    have hlink := options.link_applyJoins hc hrules hjoined htable
    have hlater := ih (joined ++ [table]) hnext fun t ht ↦ hrest t (List.mem_cons_of_mem table ht)
    rw [List.map_append, List.map_singleton] at hlater
    simp only [List.map_cons, joinsAfter, QueryRenaming.joinsAfter, joinPredicate_eq, hlink,
      hlater]
    rfl

/-- A catalog that tells the tables apart lets joins follow it. -/
theorem Catalog.joinsFollow (hc : Set.InjOn c.toRenaming.table names)
    (hrules : ∀ t ∈ options.ruleTables, t ∈ names) :
    options.JoinsFollow (c.applyJoins options) (c.queryRenaming options) names := by
  intro tables htables
  cases tables with
  | nil => rfl
  | cons first rest =>
    have hfirst : ∀ t ∈ [first], t ∈ names := by
      intro t ht
      rw [List.mem_singleton.mp ht]
      exact htables first List.mem_cons_self
    have hjoins := Options.joinsAfter_applyJoins hc hrules [first] rest hfirst
      fun t ht ↦ htables t (List.mem_cons_of_mem first ht)
    exact congrArg (fun joins ↦ Except.ok (c.toRenaming.table first, joins)) hjoins

end Catalog

section Query

variable (r : QueryRenaming) {options options' : Options} {names : Set String}

theorem Statistic.call_rename (tables : List String) (statistic : Statistic) (arg : Option Expr) :
    statistic.call (arg.map (Expr.rename r tables)) =
      (statistic.call arg).map (Expr.rename r tables) := by
  cases arg <;> cases statistic <;> rfl

namespace Aggregation

/-- Without a subject of its own an aggregate reads the columns around it. -/
theorem collected_rename (outer : List String) {a : Aggregation} (hsubject : a.subject = none) :
    (a.rename r.toRenaming outer).collected = a.collected.map (Expr.rename r outer) := by
  rcases a with ⟨statistic, column, condition, subject⟩
  cases hsubject
  cases column <;> cases statistic <;> rfl

/-- An aggregate without a subject reads the rows of the query around it. -/
theorem toSql_rename_plain (outer : List String) {a : Aggregation} (hsubject : a.subject = none) :
    (a.rename r.toRenaming outer).toSql options' =
      (a.toSql options).map (Expr.rename r outer) := by
  have hcollected := collected_rename r outer hsubject
  rcases a with ⟨statistic, column, condition, subject⟩
  cases hsubject
  have hempty := Condition.isEmpty_rename r.toRenaming outer condition
  have hcondition := Condition.toSql_rename r outer condition
  simp only [rename, scope, Option.map_none] at hcollected ⊢
  simp only [toSql, hempty]
  split
  · have hcall := Statistic.call_rename r outer statistic (column.map columnExpr)
    rw [← hcall]
    cases column <;> rfl
  · rw [hcollected, hcondition]
    rcases collected { statistic, column, condition, subject := none } with defect | value
    · rfl
    · exact Statistic.call_rename r outer statistic (some (.cases [(condition.toSql, value)] none))

/-- An aggregate with a subject is a query of its own, inside of the one around it. -/
theorem toSql_rename_nested (hjoins : options.JoinsFollow options' r names) (outer : List String)
    {a : Aggregation} {subject : Subject} (hsubject : a.subject = some subject)
    (htables : ∀ t ∈ subject.tables, t ∈ names) :
    (a.rename r.toRenaming outer).toSql options' =
      (a.toSql options).map (Expr.rename r outer) := by
  rcases a with ⟨statistic, column, condition, subject'⟩
  cases hsubject
  simp only [rename, scope, toSql, Option.map_some]
  have hconjunction := Condition.conjunction_rename r.toRenaming (subject.tables ++ outer)
    [subject.conditions, condition]
  have hfilter := Condition.filter_rename r (subject.tables ++ outer)
    (Condition.conjunction [subject.conditions, condition])
  have hcall := Statistic.call_rename r (subject.tables ++ outer) statistic
    (column.map columnExpr)
  simp only [List.map_cons, List.map_nil] at hconjunction
  rw [hjoins subject.tables htables, hconjunction, hfilter]
  rcases hfrom : options.sources subject.tables with defect | ⟨first, joins⟩
  · rfl
  · rw [← Options.tables_of_sources hfrom] at hcall ⊢
    have harg : (column.map (r.column (first :: joins.map Sql.Join.table ++ outer))).map
        columnExpr =
        (column.map columnExpr).map
          (Expr.rename r (first :: joins.map Sql.Join.table ++ outer)) := by
      cases column <;> rfl
    rw [harg, hcall]
    cases statistic.call (column.map columnExpr) <;> rfl

/-- Tables of a subject are joined under their new names. -/
theorem toSql_rename (hjoins : options.JoinsFollow options' r names) (outer : List String)
    {a : Aggregation}
    (htables : ∀ subject, a.subject = some subject → ∀ t ∈ subject.tables, t ∈ names) :
    (a.rename r.toRenaming outer).toSql options' =
      (a.toSql options).map (Expr.rename r outer) := by
  rcases hsubject : a.subject with _ | subject
  · exact toSql_rename_plain r outer hsubject
  · exact toSql_rename_nested r hjoins outer hsubject (htables subject hsubject)

end Aggregation

theorem Measure.toSql_rename (hjoins : options.JoinsFollow options' r names) (tables : List String)
    {m : Measure} (htables : ∀ a ∈ m.aggregates, ∀ subject, a.subject = some subject →
      ∀ t ∈ subject.tables, t ∈ names) :
    (m.rename r.toRenaming tables).toSql options' =
      (m.toSql options).map (Expr.rename r tables) := by
  have htraverse := Expression.traverse_rename r.toRenaming tables (g := Expr.rename r tables) m
    fun a ha ↦ Aggregation.toSql_rename r hjoins tables (htables a ha)
  have hleaf (e : Expr) : id (e.rename r tables) = (id e).rename r tables := rfl
  rw [Measure.toSql, Measure.rename, htraverse, Measure.toSql]
  rcases Expression.traverse (Aggregation.toSql options) m with defect | e
  · rfl
  · exact congrArg Except.ok (Expression.toSql_rename r tables hleaf e)

theorem CaseArm.toSql_rename (tables : List String) (arm : CaseArm) :
    CaseArm.toSql { arm with condition := arm.condition.rename r.toRenaming tables } =
      (arm.toSql.1.rename r tables, arm.toSql.2.rename r tables) := by
  simp only [toSql, Condition.toSql_rename]
  rfl

theorem ColumnBody.toSql_rename (hjoins : options.JoinsFollow options' r names)
    (tables : List String) {body : ColumnBody} (htables : ∀ m, body = .aggregation m →
      ∀ a ∈ m.aggregates, ∀ subject, a.subject = some subject → ∀ t ∈ subject.tables, t ∈ names) :
    (body.rename r.toRenaming tables).toSql options' =
      (body.toSql options).map (Expr.rename r tables) := by
  cases body with
  | groupBy value => exact congrArg Except.ok (Operand.toSql_rename r tables value)
  | cases arms =>
    simp only [rename, toSql, Except.map, Expr.rename, List.map_map, Function.comp_def,
      CaseArm.toSql_rename, Expr.renameArms_eq_map, Expr.renameOption]
  | aggregation m => exact Measure.toSql_rename r hjoins tables (htables m rfl)

/-- Columns stay for grouping under other names. -/
theorem ColumnBody.isGrouping_rename (r : Renaming) (tables : List String) (body : ColumnBody) :
    (body.rename r tables).isGrouping = body.isGrouping := by
  cases body <;> rfl

/-- A column after a renaming, under the same title. -/
def Column.rename (r : Renaming) (tables : List String) (column : Column) : Column :=
  { column with body := column.body.rename r tables }

namespace Indicator

/-- Either all columns are compiled under the new names or none is, as before. -/
theorem columnExprs_rename (hjoins : options.JoinsFollow options' r names) {indicator : Indicator}
    (htables : ∀ t ∈ indicator.tables, t ∈ names) :
    (indicator.rename r.toRenaming).columnExprs options' =
      (indicator.columnExprs options).map
        (List.map (Expr.rename r indicator.subject.tables)) := by
  refine Outcome.mapM_map (g := Column.rename r.toRenaming indicator.subject.tables) ?_
  intro column hcolumn
  refine ColumnBody.toSql_rename r hjoins indicator.subject.tables ?_
  intro m hbody a ha subject hsubject t ht
  exact htables t (mem_tables_of_mem_nested hcolumn hbody ha hsubject ht)

/-- The keys are those of the same columns. -/
theorem groupExprs_rename (tables : List String) (columns : List Column) (exprs : List Expr) :
    groupExprs (columns.map (Column.rename r.toRenaming tables))
        (exprs.map (Expr.rename r tables)) =
      (groupExprs columns exprs).map (Expr.rename r tables) := by
  have hgrouping (pair : Column × Expr) :
      (Column.rename r.toRenaming tables pair.1).body.isGrouping = pair.1.body.isGrouping :=
    ColumnBody.isGrouping_rename r.toRenaming tables pair.1.body
  simp only [groupExprs, List.zip_map, List.filter_map, List.map_map, Function.comp_def,
    Prod.map_fst, Prod.map_snd, hgrouping]

/-- The titles stay what they are. -/
theorem items_rename (tables : List String) (columns : List Column) (exprs : List Expr) :
    (columns.map (Column.rename r.toRenaming tables)).zipWith Column.toItem
        (exprs.map (Expr.rename r tables)) =
      Sql.Item.renameAll r tables (columns.zipWith Column.toItem exprs) := by
  rw [Sql.Item.renameAll_eq_map, List.zipWith_map, List.map_zipWith]
  rfl

/-- An indicator is renamed as its query is, and is refused for the same reason. -/
theorem toQuery_rename (hjoins : options.JoinsFollow options' r names) {indicator : Indicator}
    (htables : ∀ t ∈ indicator.tables, t ∈ names) :
    (indicator.rename r.toRenaming).toQuery options' =
      (indicator.toQuery options).map (Query.rename r []) := by
  have hexprs := columnExprs_rename r hjoins htables
  have hfrom := hjoins indicator.subject.tables fun t ht ↦
    htables t (mem_tables_of_mem_subject ht)
  simp only [toQuery]
  rw [hexprs]
  simp only [rename]
  rw [hfrom, Condition.filter_rename]
  rcases hsources : options.sources indicator.subject.tables with defect | ⟨first, joins⟩
  · rfl
  · rcases indicator.columnExprs options with defect | exprs
    · rfl
    · have hscope := Options.tables_of_sources hsources
      have hitems := items_rename r indicator.subject.tables indicator.columns exprs
      have hgroups := groupExprs_rename r indicator.subject.tables indicator.columns exprs
      refine congrArg Except.ok ?_
      simp only [Query.rename, Option.toList_some, List.singleton_append, List.append_nil, hscope,
        ← hitems, Expr.renameAll_eq_map, ← hgroups]
      rfl

end Indicator

end Query

/-- Under a catalog that keeps the tables of an indicator and of the join rules apart, the query in
the names of the database is the query in the indicator's own names, renamed; and it has the links
of that query, in the same places. An indicator compiles in the names of the database when it
compiles in its own, and fails with the same defect otherwise. -/
theorem Indicator.toQuery_apply (c : Catalog) (options : Options) (indicator : Indicator)
    (hc : Set.InjOn c.toRenaming.table {t | t ∈ indicator.tables ∨ t ∈ options.ruleTables}) :
    (c.apply indicator).toQuery (c.applyJoins options) =
        (indicator.toQuery options).map (Query.rename (c.queryRenaming options) []) ∧
      ∀ joined table, options.joinPredicate joined table =
        (options.link joined table).predicate options.identityColumn := by
  constructor
  · have hjoins := Catalog.joinsFollow hc fun _ ↦ Or.inr
    exact toQuery_rename (c.queryRenaming options) hjoins fun _ ↦ Or.inl
  · exact options.joinPredicate_eq

namespace Exchange

def catalog : Catalog where
  tables := [("a", "b"), ("b", "a")]
  columns := [("a", [("x", "u")]), ("b", [("x", "v")])]

def options : Options :=
  { Options.default with
    joins := [{ left := "a", right := "b", leftColumn := "x", rightColumn := "x" }] }

/-- Two tables that exchange their names, joined by a rule, and a nested query that reads one of
them. -/
def indicator : Indicator where
  subject := { tables := ["a", "b"], conditions := .empty }
  columns :=
    [{ title := "x"
       body := .aggregation (.aggregate
        { statistic := .max
          column := some "x"
          condition := .empty
          subject := some { tables := ["b"], conditions := .empty } }) }]

/-- The nested query reads the column of its own table, under the name that the other one had. -/
theorem toQuery_apply_exchange :
    Set.InjOn catalog.toRenaming.table {t | t ∈ indicator.tables ∨ t ∈ options.ruleTables} ∧
      (catalog.apply indicator).toQuery (catalog.applyJoins options) =
        (indicator.toQuery options).map (Query.rename (catalog.queryRenaming options) []) ∧
      ∃ inner outer, (catalog.apply indicator).toQuery (catalog.applyJoins options) =
          .ok { select := [{ expr := .subquery inner, label := some "x" }], source := some "b",
                joins := [{ table := "a", on := some outer }], filter := none, groupBy := [] } ∧
        inner.select = [{ expr := .call "MAX" [.column none "v"] false, label := none }] ∧
        inner.source = some "a" ∧
        outer = .compare .eq (.column (some "b") "u") (.column (some "a") "v") := by
  have htables : ∀ t ∈ indicator.tables ++ options.ruleTables,
      ∀ t' ∈ indicator.tables ++ options.ruleTables,
        catalog.toRenaming.table t = catalog.toRenaming.table t' → t = t' := by
    decide
  have hc : Set.InjOn catalog.toRenaming.table
      {t | t ∈ indicator.tables ∨ t ∈ options.ruleTables} :=
    fun t ht t' ht' ↦ htables t (List.mem_append.mpr ht) t' (List.mem_append.mpr ht')
  exact ⟨hc, (Indicator.toQuery_apply catalog options indicator hc).1, _, _, rfl, rfl, rfl, rfl⟩

end Exchange

end Barometer
