import Barometer.Proofs.Compilation.Conditional
import Barometer.Proofs.Indicator.References
import Barometer.Proofs.Naming.Leftovers
import Barometer.Proofs.Sql.Mentions

/-!
# The names of an indicator are those of its query

The tables and the scopes of an indicator are listed without its query. They are what the query
mentions: every table that rows are read from, and every column together with the tables that it is
looked up in. One kind of column is listed for nothing, that of a count that has a condition but no
subject, since such a count counts ones.
-/

namespace Barometer

open Sql (Expr Mention)

/-! ## Expressions -/

theorem Scalar.mentions_toSql (tables : List String) (value : Scalar) :
    value.toSql.mentions tables = [] := by
  cases value with
  | text s =>
    rw [toSql]
    cases Text.Canonical.text? s <;> rfl
  | _ => rfl

namespace Expression

variable {α β ε : Type} {tables : List String}

mutual

/-- An expression mentions the columns that it refers to, and what its aggregates mention. -/
theorem mem_mentions_toSql {leaf : α → Expr} {m : Mention} (e : Expression α) :
    m ∈ (toSql leaf e).mentions tables ↔
      m ∈ (references (fun _ ↦ []) tables e).map .column ∨
        ∃ a ∈ e.aggregates, m ∈ (leaf a).mentions tables := by
  cases e with
  | literal value => simp [toSql, value.mentions_toSql, references, aggregates]
  | column name => simp [toSql, columnExpr, Expr.mentions, references, aggregates]
  | operation op args => exact mem_mentionsAll_toSqlAll args
  | aggregate a => simp [toSql, references, aggregates]

theorem mem_mentionsAll_toSqlAll {leaf : α → Expr} {m : Mention} (args : List (Expression α)) :
    m ∈ Expr.mentionsAll tables (toSqlAll leaf args) ↔
      m ∈ (referencesAll (fun _ ↦ []) tables args).map .column ∨
        ∃ a ∈ aggregatesOf args, m ∈ (leaf a).mentions tables := by
  cases args with
  | nil => simp [toSqlAll, Expr.mentionsAll, referencesAll, aggregatesOf]
  | cons arg rest =>
    simp only [toSqlAll, Expr.mentionsAll, referencesAll, aggregatesOf, List.map_append,
      List.mem_append, mem_mentions_toSql arg, mem_mentionsAll_toSqlAll rest, or_and_right,
      exists_or]
    exact or_or_or_comm

end

mutual

/-- A traversal leaves all columns outside of aggregates in their places. -/
theorem references_traverse {f : α → Except ε β} {e : Expression α} {e' : Expression β}
    (h : traverse f e = .ok e') :
    references (fun _ ↦ []) tables e' = references (fun _ ↦ []) tables e := by
  cases e with
  | literal value =>
    cases h
    rfl
  | column name =>
    cases h
    rfl
  | operation op args =>
    obtain ⟨args', hargs, rfl⟩ := Outcome.map_eq_ok.mp h
    exact referencesAll_traverseAll hargs
  | aggregate a =>
    obtain ⟨b, -, rfl⟩ := Outcome.map_eq_ok.mp h
    rfl

theorem referencesAll_traverseAll {f : α → Except ε β} {args : List (Expression α)}
    {args' : List (Expression β)} (h : traverseAll f args = .ok args') :
    referencesAll (fun _ ↦ []) tables args' = referencesAll (fun _ ↦ []) tables args := by
  cases args with
  | nil =>
    cases h
    rfl
  | cons arg rest =>
    obtain ⟨e, he, h⟩ := Outcome.bind_eq_ok.mp h
    obtain ⟨es, hes, h⟩ := Outcome.bind_eq_ok.mp h
    cases h
    rw [referencesAll, references_traverse he, referencesAll_traverseAll hes, referencesAll]

end

end Expression

/-! ## Operands and conditions -/

namespace Operand

variable {tables : List String} {m : Mention}

theorem mem_mentions_toSql (e : Operand) :
    m ∈ e.toSql.mentions tables ↔ m ∈ (Operand.references tables e).map .column := by
  have hleaf : (Empty.elim : Empty → List Reference) = fun _ ↦ [] := funext fun a ↦ a.elim
  rw [Operand.references, hleaf]
  refine (Expression.mem_mentions_toSql e).trans (or_iff_left ?_)
  rintro ⟨a, -, -⟩
  exact a.elim

/-- Literals become other literals in patterns. -/
theorem mem_mentions_toPattern (e : Operand) :
    m ∈ e.toPattern.mentions tables ↔ m ∈ (Operand.references tables e).map .column := by
  cases e with
  | literal value =>
    rw [toPattern]
    cases value.canonicalText? with
    | none => exact mem_mentions_toSql (.literal value)
    | some form => rfl
  | column name => exact mem_mentions_toSql (.column name)
  | operation op args => exact mem_mentions_toSql (.operation op args)
  | aggregate a => exact a.elim

/-- A missing value is a literal. -/
theorem references_eq_nil_of_isAbsent {e : Operand} (h : Expression.isAbsent e = true) :
    Operand.references tables e = [] := by
  cases e with
  | literal value => rfl
  | column name => cases h
  | operation op args => cases h
  | aggregate a => exact a.elim

end Operand

/-- Both sides are mentioned, in whichever way the comparison is written. -/
theorem Comparison.mem_mentions_toSql {tables : List String} {m : Mention} (op : Comparison)
    (left right : Operand) :
    m ∈ (op.toSql left right).mentions tables ↔
      m ∈ (Operand.references tables left ++ Operand.references tables right).map .column := by
  have hlike (e pattern : Operand) (negated : Bool) :
      m ∈ (Expr.like e.toSql pattern.toPattern negated).mentions tables ↔
        m ∈ (Operand.references tables e ++ Operand.references tables pattern).map .column := by
    rw [Expr.mentions, List.mem_append, List.map_append, List.mem_append,
      Operand.mem_mentions_toSql, Operand.mem_mentions_toPattern]
  unfold toSql
  split
  · next habsent =>
    rw [Operand.references_eq_nil_of_isAbsent habsent, List.append_nil, Expr.mentions,
      Operand.mem_mentions_toSql]
  · split
    · exact hlike left right false
    · exact hlike left right true
    · split
      · exact hlike left right _
      · split
        · -- the pattern of the left operand stands on the right
          rw [hlike right left, List.map_append, List.map_append, List.mem_append, List.mem_append,
            or_comm]
        · rw [Expr.mentions, List.mem_append, List.map_append, List.mem_append,
            Operand.mem_mentions_toSql, Operand.mem_mentions_toSql]

namespace Condition

variable {tables : List String} {m : Mention}

mutual

/-- A condition mentions what it refers to. -/
theorem mem_mentions_toSql (c : Condition) :
    m ∈ c.toSql.mentions tables ↔ m ∈ (c.references tables).map .column := by
  match c with
  | .empty => rfl
  | .junction _ [] => rfl
  | .junction kind (child :: rest) =>
    have hjoined : m ∈ Expr.mentionsAll tables (toSqlAll (child :: rest)) ↔
        m ∈ (references tables (.junction kind (child :: rest))).map .column :=
      mem_mentionsAll_toSqlAll (child :: rest)
    rcases rest with _ | ⟨next, others⟩
    · cases kind with
      | list => rw [toSql, mem_mentions_toSql child, references, referencesAll, referencesAll,
          List.append_nil]
      | and => exact hjoined
      | or => exact hjoined
    · cases kind <;> exact hjoined
  | .compare op left right => exact op.mem_mentions_toSql left right

theorem mem_mentionsAll_toSqlAll (cs : List Condition) :
    m ∈ Expr.mentionsAll tables (toSqlAll cs) ↔
      m ∈ (referencesAll tables cs).map .column := by
  match cs with
  | [] => rfl
  | child :: rest =>
    rw [toSqlAll, Expr.mentionsAll, referencesAll, List.map_append, List.mem_append,
      List.mem_append, mem_mentions_toSql child, mem_mentionsAll_toSqlAll rest]

end

theorem mem_mentionsOption_filter (c : Condition) :
    m ∈ Expr.mentionsOption tables c.filter ↔ m ∈ (c.references tables).map .column := by
  unfold filter
  split
  · next hempty => simp [Expr.mentionsOption, references_of_isEmpty hempty]
  · exact mem_mentions_toSql c

end Condition

/-! ## Sources -/

namespace Options

/-- The predicates of joins compare two columns. -/
theorem tables_joinPredicate (options : Options) (joined tables : List String) (table : String) :
    ((options.joinPredicate joined table).mentions tables).filter Mention.isTable = [] := by
  rw [joinPredicate_eq]
  cases options.link joined table <;> rfl

/-- The columns of joins are not the indicator's, so joins mention tables only. -/
theorem mentionsAll_joinsAfter (options : Options) (tables joined rest : List String) :
    Sql.Join.mentionsAll tables (options.joinsAfter joined rest) = rest.map .table := by
  induction rest generalizing joined with
  | nil => rfl
  | cons table rest ih =>
    rw [joinsAfter, Sql.Join.mentionsAll, Expr.mentionsOption, tables_joinPredicate, ih]
    rfl

end Options

/-- What a query mentions that has the tables and the condition of a subject. -/
theorem Sql.Query.mem_mentions_iff {options : Options} {tables : List String} {first : String}
    {query : Sql.Query} {c : Condition}
    (hsources : options.sources tables = .ok (first, query.joins))
    (hsource : query.source = some first) (hfilter : query.filter = c.filter)
    (outer : List String) (m : Mention) :
    m ∈ query.mentions outer ↔
      m ∈ tables.map .table ∨ m ∈ Sql.Item.mentionsAll (tables ++ outer) query.select ∨
        m ∈ (c.references (tables ++ outer)).map .column ∨
        m ∈ Expr.mentionsAll (tables ++ outer) query.groupBy := by
  rcases query with ⟨select, source, joins, filter, groupBy⟩
  subst hsource hfilter
  cases tables with
  | nil => cases hsources
  | cons table rest =>
    cases hsources
    simp only [Sql.Query.mentions, Option.toList_some, Options.joinsAfter_tables,
      Options.mentionsAll_joinsAfter, List.mem_append, Condition.mem_mentionsOption_filter,
      List.map_cons, List.map_nil, List.cons_append, List.nil_append, List.mem_cons, or_assoc]

/-! ## Aggregates -/

theorem Statistic.mentions_call {statistic : Statistic} {arg : Option Expr} {call : Expr}
    (h : statistic.call arg = .ok call) (tables : List String) :
    call.mentions tables = Expr.mentionsOption tables arg := by
  cases arg with
  | none =>
    cases statistic <;> cases h
    rfl
  | some arg =>
    cases statistic <;> cases h <;> exact List.append_nil _

namespace Aggregation

/-- Whether an aggregate counts a one for each row that satisfies its condition, and so reads no
column even if it names one. -/
def CountsOnes (a : Aggregation) : Prop :=
  a.statistic = .count ∧ a.subject = none ∧ a.condition.isEmpty = false

/-- Where ones are counted, the column that is named for them has no part in the call. -/
theorem CountsOnes.toSql {a : Aggregation} (h : a.CountsOnes) (options : Options) :
    a.toSql options =
      .ok (.call "COUNT" [.cases [(a.condition.toSql, .literal (.int 1))] none] false) := by
  rcases a with ⟨statistic, column, condition, subject⟩
  obtain ⟨rfl, rfl, hcondition⟩ := h
  simp only [Aggregation.toSql, hcondition, collected, Statistic.isCount, Statistic.call]
  rfl

/-- Whether a mention is of the column of an aggregate that counts ones. -/
def Skips (outer : List String) (m : Mention) (a : Aggregation) : Prop :=
  a.CountsOnes ∧ ∃ column, a.column = some column ∧ m = .column { tables := outer, column }

/-- The names in an aggregate: the tables of its subject, and its references. -/
def names (outer : List String) (a : Aggregation) : List Mention :=
  (a.subject.toList.flatMap Subject.tables).map .table ++ (a.references outer).map .column

variable {options : Options} {outer : List String} {m : Mention} {a : Aggregation} {e : Expr}

/-- The column stands among the references of an aggregate last. -/
theorem mem_names_iff : m ∈ a.names outer ↔
    m ∈ (a.subject.toList.flatMap Subject.tables).map .table ∨
      m ∈ ((a.subject.toList.flatMap fun subject ↦
        subject.conditions.references (a.scope outer)) ++
          a.condition.references (a.scope outer)).map .column ∨
        m ∈ Expr.mentionsOption (a.scope outer) (a.column.map columnExpr) := by
  rcases a with ⟨statistic, column, condition, subject⟩
  cases subject <;> cases column <;>
    simp [names, references, scope, columnExpr, Expr.mentionsOption, Expr.mentions, or_assoc]

/-- An aggregate with a subject is a query of its own. -/
theorem mem_mentions_nested {subject : Subject} (hsubject : a.subject = some subject)
    (h : a.toSql options = .ok e) : m ∈ e.mentions outer ↔ m ∈ a.names outer := by
  rcases a with ⟨statistic, column, condition, _⟩
  subst hsubject
  obtain ⟨⟨first, joins⟩, hsources, h⟩ := Outcome.bind_eq_ok.mp h
  obtain ⟨call, hcall, h⟩ := Outcome.bind_eq_ok.mp h
  cases h
  rw [Expr.mentions, Sql.Query.mem_mentions_iff hsources rfl rfl, mem_names_iff]
  simp only [Option.toList_some, List.flatMap_singleton, scope, Sql.Item.mentionsAll,
    Statistic.mentions_call hcall, List.append_nil, Condition.references_conjunction,
    Expr.mentionsAll, List.not_mem_nil, or_false]
  exact or_congr_right or_comm

/-- An aggregate that does not count ones collects its column. -/
theorem mem_mentions_collected {value : Expr} (hsubject : a.subject = none)
    (hcondition : a.condition.isEmpty = false) (h : a.collected = .ok value) :
    m ∈ value.mentions outer ∨ a.Skips outer m ↔
      m ∈ Expr.mentionsOption outer (a.column.map columnExpr) := by
  rcases a with ⟨statistic, column, condition, subject⟩
  unfold collected at h
  split at h
  · next hcount =>
    cases h
    have hones : CountsOnes ⟨statistic, column, condition, subject⟩ := by
      cases statistic <;> cases hcount
      exact ⟨rfl, hsubject, hcondition⟩
    cases column <;> simp [Skips, hones, Expr.mentions, Expr.mentionsOption, columnExpr]
  · next hcount =>
    have hones : ¬ CountsOnes ⟨statistic, column, condition, subject⟩ := by
      rintro ⟨rfl, -, -⟩
      exact hcount rfl
    rcases column with _ | column
    · cases h
    · cases h
      simp [Skips, hones, Expr.mentionsOption]

/-- The names in an aggregate are what its query mentions, and the column of a count of ones. -/
theorem mem_names_iff_mentions (h : a.toSql options = .ok e) :
    m ∈ a.names outer ↔ m ∈ e.mentions outer ∨ a.Skips outer m := by
  cases hsubject : a.subject with
  | some subject =>
    have hones : ¬ a.Skips outer m := by
      rintro ⟨⟨-, hnone, -⟩, -⟩
      rw [hnone] at hsubject
      cases hsubject
    rw [mem_mentions_nested hsubject h, or_iff_left hones]
  | none =>
    rw [toSql, hsubject] at h
    cases hcondition : a.condition.isEmpty with
    | true =>
      have hones : ¬ a.Skips outer m := by
        rintro ⟨⟨-, -, hkept⟩, -⟩
        rw [hkept] at hcondition
        cases hcondition
      rw [if_pos hcondition] at h
      rw [mem_names_iff, Statistic.mentions_call h, or_iff_left hones, hsubject,
        Condition.references_of_isEmpty hcondition, scope, hsubject]
      simp
    | false =>
      simp only [hcondition, Bool.false_eq_true, if_false] at h
      obtain ⟨value, hvalue, h⟩ := Outcome.bind_eq_ok.mp h
      have hcall : m ∈ e.mentions outer ↔
          m ∈ (a.condition.references outer).map .column ∨ m ∈ value.mentions outer := by
        rw [Statistic.mentions_call h]
        simp [Expr.mentionsOption, Expr.mentions, Expr.mentionsArms, Condition.mem_mentions_toSql]
      rw [mem_names_iff, hcall, or_assoc, mem_mentions_collected hsubject hcondition hvalue,
        scope, hsubject]
      simp

end Aggregation

/-! ## Columns -/

namespace ColumnBody

/-- The names in a column: the tables of its subjects, and its references. -/
def names (tables : List String) (body : ColumnBody) : List Mention :=
  (body.aggregates.flatMap fun a ↦ a.subject.toList.flatMap Subject.tables).map .table ++
    (body.references tables).map .column

variable {options : Options} {tables : List String} {m : Mention}

/-- The names in a measure stand outside of its aggregates, or in one of them. -/
theorem mem_names_aggregation {measure : Measure} :
    m ∈ (aggregation measure).names tables ↔
      m ∈ (Expression.references (fun _ ↦ []) tables measure).map .column ∨
        ∃ a ∈ measure.aggregates, m ∈ a.names tables := by
  rw [names, List.mem_append]
  cases m with
  | table name =>
    simp [Aggregation.names, aggregates]
  | column ref =>
    have href : ref ∈ (aggregation measure).references tables ↔
        ref ∈ Expression.references (fun _ ↦ []) tables measure ∨
          ∃ a ∈ measure.aggregates, ref ∈ a.references tables :=
      Expression.mem_references_iff measure
    simp [Aggregation.names, href]

/-- A column names what it mentions, and what its counts of ones leave out. -/
theorem mem_names_iff_mentions {body : ColumnBody} {e : Expr} (h : body.toSql options = .ok e) :
    m ∈ body.names tables ↔
      m ∈ e.mentions tables ∨ ∃ a ∈ body.aggregates, a.Skips tables m := by
  cases body with
  | groupBy value =>
    cases h
    simp [names, aggregates, references, Operand.mem_mentions_toSql]
  | cases arms =>
    cases h
    rw [Expr.mentions, Expr.mentionsArms_eq_flatMap, List.flatMap_map, names, references,
      List.map_flatMap (l := arms)]
    simp [aggregates, Expr.mentionsOption, CaseArm.toSql, textExpr, Expr.mentions,
      Condition.mem_mentions_toSql]
  | aggregation measure =>
    obtain ⟨traversed, htraversed, rfl⟩ := Outcome.map_eq_ok.mp h
    rw [mem_names_aggregation, Expression.mem_mentions_toSql,
      Expression.references_traverse htraversed, or_assoc]
    refine or_congr_right ⟨?_, ?_⟩
    · rintro ⟨a, ha, hm⟩
      obtain ⟨b, hb, hab⟩ := Expression.exists_mem_of_traverse measure htraversed ha
      rcases (Aggregation.mem_names_iff_mentions hab).mp hm with hm | hskips
      · exact .inl ⟨b, hb, hm⟩
      · exact .inr ⟨a, ha, hskips⟩
    · rintro (⟨b, hb, hm⟩ | ⟨a, ha, hskips⟩)
      · obtain ⟨a, ha, hab⟩ := Expression.exists_of_mem_traverse htraversed hb
        exact ⟨a, ha, (Aggregation.mem_names_iff_mentions hab).mpr (.inl hm)⟩
      · obtain ⟨b, -, hab⟩ := Expression.exists_mem_of_traverse measure htraversed ha
        exact ⟨a, ha, (Aggregation.mem_names_iff_mentions hab).mpr (.inr hskips)⟩

end ColumnBody

/-! ## Indicators -/

namespace Indicator

/-- The names in an indicator: its tables, and its references. -/
def names (indicator : Indicator) : List Mention :=
  indicator.tables.map .table ++ indicator.references.map .column

theorem mem_tables_iff {indicator : Indicator} {name : String} :
    name ∈ indicator.tables ↔ name ∈ indicator.subject.tables ∨
      ∃ column ∈ indicator.columns,
        name ∈ column.body.aggregates.flatMap fun a ↦ a.subject.toList.flatMap Subject.tables := by
  rw [mem_tables, mentionedTables, aggregates, List.flatMap_assoc, List.mem_append,
    List.mem_flatMap]
  rfl

theorem mem_names_iff {indicator : Indicator} {m : Mention} :
    m ∈ indicator.names ↔
      m ∈ indicator.subject.tables.map .table ∨
        m ∈ (indicator.subject.conditions.references indicator.subject.tables).map .column ∨
        ∃ column ∈ indicator.columns, m ∈ column.body.names indicator.subject.tables := by
  rw [names, List.mem_append]
  cases m with
  | table name => simp [ColumnBody.names, mem_tables_iff]
  | column ref => simp [ColumnBody.names, references]

/-- What the query of an indicator mentions. The columns that rows are grouped by are shown. -/
theorem mem_mentions_toQuery {options : Options} {indicator : Indicator} {query : Sql.Query}
    (h : indicator.toQuery options = .ok query) {m : Mention} :
    m ∈ query.mentions [] ↔
      m ∈ indicator.subject.tables.map .table ∨
        m ∈ (indicator.subject.conditions.references indicator.subject.tables).map .column ∨
        ∃ column ∈ indicator.columns, ∃ e, column.body.toSql options = .ok e ∧
          m ∈ e.mentions indicator.subject.tables := by
  obtain ⟨first, exprs, hsources, hexprs, hsource, hselect, hfilter, hgroupBy⟩ :=
    fields_of_toQuery h
  have hshown : m ∈ Sql.Item.mentionsAll indicator.subject.tables query.select ↔
      ∃ column ∈ indicator.columns, ∃ e, column.body.toSql options = .ok e ∧
        m ∈ e.mentions indicator.subject.tables := by
    rw [hselect, Sql.Item.mentionsAll_eq_flatMap,
      map_expr_zipWith indicator.columns (Outcome.length_of_mapM hexprs), List.mem_flatMap]
    constructor
    · rintro ⟨e, he, hm⟩
      obtain ⟨column, hcolumn, hbody⟩ := Outcome.exists_of_mem_mapM hexprs he
      exact ⟨column, hcolumn, e, hbody, hm⟩
    · rintro ⟨column, hcolumn, e, hbody, hm⟩
      obtain ⟨e', he', hbody'⟩ := Outcome.exists_mem_of_mapM hexprs hcolumn
      cases hbody.symm.trans hbody'
      exact ⟨e, he', hm⟩
  have hgrouped : m ∈ Expr.mentionsAll indicator.subject.tables query.groupBy →
      m ∈ Sql.Item.mentionsAll indicator.subject.tables query.select := by
    rw [hselect, Sql.Item.mentionsAll_eq_flatMap,
      map_expr_zipWith indicator.columns (Outcome.length_of_mapM hexprs), hgroupBy,
      Expr.mentionsAll_eq_flatMap, List.mem_flatMap, List.mem_flatMap]
    rintro ⟨e, he, hm⟩
    exact ⟨e, mem_of_mem_groupExprs he, hm⟩
  rw [Sql.Query.mem_mentions_iff hsources hsource hfilter, List.append_nil, ← hshown]
  refine or_congr_right ?_
  constructor
  · rintro (hselected | hfiltered | hm)
    · exact .inr hselected
    · exact .inl hfiltered
    · exact .inr (hgrouped hm)
  · rintro (hfiltered | hselected)
    · exact .inr (.inl hfiltered)
    · exact .inl hselected

/-- The names in an indicator are what its query mentions, and the columns of counts of ones. -/
theorem mem_names_iff_mentions {options : Options} {indicator : Indicator} {query : Sql.Query}
    (h : indicator.toQuery options = .ok query) {m : Mention} :
    m ∈ indicator.names ↔
      m ∈ query.mentions [] ∨
        ∃ a ∈ indicator.aggregates, a.Skips indicator.subject.tables m := by
  obtain ⟨-, exprs, -, hexprs, -⟩ := fields_of_toQuery h
  rw [mem_names_iff, mem_mentions_toQuery h, or_assoc, or_assoc]
  refine or_congr_right (or_congr_right ⟨?_, ?_⟩)
  · rintro ⟨column, hcolumn, hm⟩
    obtain ⟨e, -, hbody⟩ := Outcome.exists_mem_of_mapM hexprs hcolumn
    rcases (ColumnBody.mem_names_iff_mentions hbody).mp hm with hm | ⟨a, ha, hskips⟩
    · exact .inl ⟨column, hcolumn, e, hbody, hm⟩
    · exact .inr ⟨a, List.mem_flatMap.mpr ⟨column, hcolumn, ha⟩, hskips⟩
  · rintro (⟨column, hcolumn, e, hbody, hm⟩ | ⟨a, ha, hskips⟩)
    · exact ⟨column, hcolumn, (ColumnBody.mem_names_iff_mentions hbody).mpr (.inl hm)⟩
    · obtain ⟨column, hcolumn, ha⟩ := List.mem_flatMap.mp ha
      obtain ⟨e, -, hbody⟩ := Outcome.exists_mem_of_mapM hexprs hcolumn
      exact ⟨column, hcolumn, (ColumnBody.mem_names_iff_mentions hbody).mpr (.inr ⟨a, ha, hskips⟩)⟩

/-- An indicator lists the tables that its query reads, in itself or in the queries in it, and for
each list of tables the columns that are looked up there. A column that is listed and not read is
that of a count of ones. -/
theorem tables_and_scopes_eq_mentions {options : Options} {indicator : Indicator}
    {query : Sql.Query} (h : indicator.toQuery options = .ok query) :
    (indicator.tables.Nodup ∧
      ∀ table, table ∈ indicator.tables ↔ .table table ∈ query.mentions []) ∧
    Scope.Distinct indicator.scopes ∧
    ∀ tables column,
      (∃ scope ∈ indicator.scopes, scope.tables = tables ∧ column ∈ scope.columns) ↔
        .column { tables, column } ∈ query.mentions [] ∨
          ∃ a ∈ indicator.aggregates, a.CountsOnes ∧ a.column = some column ∧
            tables = indicator.subject.tables := by
  refine ⟨⟨nodup_firstSeen _, fun table ↦ ?_⟩, indicator.distinct_scopes, fun tables column ↦ ?_⟩
  · have hnames : .table table ∈ indicator.names ↔ table ∈ indicator.tables := by simp [names]
    rw [← hnames, mem_names_iff_mentions h]
    refine or_iff_left ?_
    rintro ⟨a, -, -, _, -, hcolumn⟩
    cases hcolumn
  · have hnames : .column { tables, column } ∈ indicator.names ↔
        { tables, column } ∈ indicator.references := by simp [names]
    rw [← Scope.mem_references_iff, mem_references_scopes, ← hnames, mem_names_iff_mentions h]
    simp [Aggregation.Skips]

end Indicator

namespace Wards

def indicator : Indicator where
  subject :=
    { tables := ["stays", "patients"]
      conditions := .compare .gte (.column "age") (.literal (.int 65)) }
  columns :=
    [{ title := "sex", body := .groupBy (.column "sex") },
      { title := "long"
        body := .aggregation (.aggregate
          { statistic := .count
            column := some "stay"
            condition := .compare .gt (.column "nights") (.literal (.int 7))
            subject := none }) },
      { title := "beds"
        body := .aggregation (.aggregate
          { statistic := .sum
            column := some "beds"
            condition := .compare .eq (.column "ward") (.column "sex")
            subject := some { tables := ["wards"], conditions := .empty } }) }]

/-- Long stays are counted by a column that is not read, next to a sum over the wards. -/
theorem tables_and_scopes_eq_mentions_wards :
    ∃ query, indicator.toQuery .default = .ok query ∧
      (indicator.tables = ["stays", "patients", "wards"] ∧
        ∀ table, table ∈ indicator.tables ↔ .table table ∈ query.mentions []) ∧
      indicator.scopes =
        [{ tables := ["stays", "patients"], columns := ["age", "sex", "nights", "stay"] },
          { tables := ["wards", "stays", "patients"], columns := ["ward", "sex", "beds"] }] ∧
      .column { tables := ["stays", "patients"], column := "stay" } ∉ query.mentions [] ∧
      .column { tables := ["wards", "stays", "patients"], column := "sex" } ∈
        query.mentions [] := by
  have hquery : indicator.toQuery .default = .ok _ := rfl
  obtain ⟨⟨-, htables⟩, -, hcolumns⟩ := Indicator.tables_and_scopes_eq_mentions hquery
  have hscopes : indicator.scopes =
      [{ tables := ["stays", "patients"], columns := ["age", "sex", "nights", "stay"] },
        { tables := ["wards", "stays", "patients"], columns := ["ward", "sex", "beds"] }] := by
    decide
  refine ⟨_, hquery, ⟨by decide, htables⟩, hscopes, by decide, ?_⟩
  have hlisted := (hcolumns ["wards", "stays", "patients"] "sex").mp (by rw [hscopes]; simp)
  refine hlisted.resolve_right ?_
  rintro ⟨-, -, -, -, houter⟩
  exact absurd houter (by decide)

end Wards

end Barometer
