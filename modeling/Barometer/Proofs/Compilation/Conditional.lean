import Barometer.Proofs.Compilation.Completeness
import Barometer.Proofs.Compilation.Conditions
import Barometer.Proofs.Compilation.Statements
import Barometer.Proofs.Indicator.References
import Barometer.Proofs.Store.Aggregates
import Barometer.Proofs.Store.Statistics

/-!
# Aggregates with a condition

An aggregate with a condition runs over all rows of its query, and its argument is missing where the
condition is not true. So its value is that of the aggregate without a condition over the rows where
the condition is true, or of the aggregate over a query of its own that has this condition. A count
collects ones: with a condition it counts rows, whatever column it names.
-/

namespace Barometer

open Sql (Expr Query)
open Store (Value Row Truth Context Level Header Database)

/-- A level whose group has only the rows on which a condition is true. -/
def Store.Level.keeping (level : Level) (condition : Condition) : Level :=
  { level with
    group := level.group.filter fun row ↦
      condition.truth [{ level with group := [], row }] == some true }

namespace Aggregation

/-- What an aggregate with a condition is an aggregate of: a count is one of rows. -/
def counted (a : Aggregation) : Aggregation :=
  if a.statistic.isCount && !a.condition.isEmpty && a.column != some "1" then
    { a with column := none }
  else a

/-- The aggregate of rows that have been filtered already. -/
def unconditional (a : Aggregation) : Aggregation := { a.counted with condition := .empty }

/-- The aggregate over a query of its own, with this subject and its condition. -/
def within (a : Aggregation) (subject : Subject) : Aggregation :=
  { a.counted with subject := some subject }

/-- What is collected on each row; rows are counted by a star. -/
def argument (a : Aggregation) : Expr := (a.column.map columnExpr).getD .star

/-- What is counted under a condition is still counted in the same way. -/
theorem counted_statistic (a : Aggregation) : a.counted.statistic = a.statistic := by
  unfold counted
  split <;> rfl

theorem counted_condition (a : Aggregation) : a.counted.condition = a.condition := by
  unfold counted
  split <;> rfl

theorem counted_subject (a : Aggregation) : a.counted.subject = a.subject := by
  unfold counted
  split <;> rfl

/-- A column is left out only where rows are counted. -/
theorem WellFormed.exists_call_counted {a : Aggregation} (h : a.WellFormed) :
    ∃ call, a.counted.statistic.call (a.counted.column.map columnExpr) = .ok call := by
  refine Statistic.exists_call fun hnone ↦ ?_
  rw [Option.map_eq_none_iff] at hnone
  unfold counted at hnone ⊢
  split
  · rename_i hcount
    simp only [Bool.and_eq_true] at hcount
    cases hstatistic : a.statistic with
    | count => rfl
    | _ =>
      rw [hstatistic] at hcount
      exact absurd hcount.1.1 (by decide)
  · rename_i hkept
    rw [if_neg hkept] at hnone
    exact h.column hnone

/-- The name that stands for rows is read as the number one. -/
theorem value_columnExpr_one (ctx : Context) : (columnExpr "1").value ctx = .int 1 := by
  have hone : Store.Reading.ofColumn none "1" = .one := by
    decide
  rw [columnExpr, Sql.Expr.value, hone]
  rfl

/-- A one is what a counted row has. -/
theorem value_of_collected {a : Aggregation} (hcondition : a.condition.isEmpty = false)
    {value : Expr} (h : a.collected = .ok value) (ctx : Context) :
    value.value ctx = a.counted.argument.value ctx := by
  unfold collected at h
  unfold counted
  split at h
  · rename_i hcount
    cases h
    by_cases hone : a.column = some "1"
    · have hsame : (a.column != some "1") = false := by simpa using hone
      simp only [hcount, hcondition, hsame, Bool.and_false, Bool.false_eq_true, if_false]
      rw [argument, hone]
      exact (value_columnExpr_one ctx).symm
    · have hne : (a.column != some "1") = true := by simpa using hone
      simp only [hcount, hcondition, hne, Bool.not_false, Bool.and_true, if_true]
      rfl
  · rename_i hcount
    split at h
    · rename_i column hcolumn
      cases h
      simp only [Bool.not_eq_true] at hcount
      simp only [hcount, Bool.false_and, Bool.false_eq_true, if_false]
      rw [argument, hcolumn]
      rfl
    · cases h

/-- The aggregate itself, without its condition, over the rows of a level. -/
theorem eval_filtered {options : Options} {a : Aggregation} (hsubject : a.subject = none)
    {e : Expr} (h : a.unconditional.toSql options = .ok e) (db : Database) (level : Level) :
    e.eval db [level] = a.statistic.apply (level.group.map fun row ↦
      a.counted.argument.value [{ level with group := [], row }]) := by
  have hcall : a.counted.statistic.call (a.counted.column.map columnExpr) = .ok e := by
    unfold toSql at h
    rw [unconditional, a.counted_subject, hsubject] at h
    exact h
  rw [Sql.eval_call_main db hcall level, a.counted_statistic]
  rfl

/-- The argument is missing on the rows on which the condition is not true. -/
theorem eval_conditional {options : Options} {a : Aggregation} (hsubject : a.subject = none)
    {e : Expr} (h : a.toSql options = .ok e) (db : Database) (level : Level) :
    e.eval db [level] = a.statistic.apply ((level.keeping a.condition).group.map fun row ↦
      a.counted.argument.value [{ level with group := [], row }]) := by
  unfold toSql at h
  rw [hsubject] at h
  dsimp only at h
  cases hcondition : a.condition.isEmpty with
  | true =>
    rw [if_pos hcondition] at h
    have hcounted : a.counted = a := by
      unfold counted
      rw [hcondition, Bool.not_true, Bool.and_false, Bool.false_and]
      rfl
    have hall : (level.keeping a.condition).group = level.group := by
      cases hkind : a.condition with
      | empty => exact List.filter_eq_self.mpr fun row _ ↦ rfl
      | _ =>
        rw [hkind] at hcondition
        cases hcondition
    rw [Sql.eval_call_main db h level, hcounted, hall]
    rfl
  | false =>
    rw [if_neg (by simp [hcondition])] at h
    obtain ⟨value, hvalue, h⟩ := Outcome.bind_eq_ok.mp h
    have hcases (row : Row) :
        (Expr.cases [(a.condition.toSql, value)] none).value [{ level with group := [], row }] =
          if a.condition.truth [{ level with group := [], row }] == some true then
            a.counted.argument.value [{ level with group := [], row }]
          else .null := by
      rw [Sql.Expr.value, Sql.Expr.caseValue, Condition.value_toSql, Value.holds_ofTruth,
        value_of_collected hcondition hvalue]
      rfl
    rw [Sql.eval_call_main db h level]
    simp only [Option.getD_some, hcases]
    exact a.statistic.apply_map_ite _ _ _

end Aggregation

/-! ## The same as a query of its own -/

/-- The outcome of a condition depends on what its names are looked up as. -/
theorem Condition.truth_congr {ctx ctx' : Context} (h : ctx.Agree ctx') (condition : Condition) :
    condition.truth ctx = condition.truth ctx' := by
  rw [← Value.truth_ofTruth (condition.truth ctx), ← Value.truth_ofTruth (condition.truth ctx'),
    ← Condition.value_toSql, ← Condition.value_toSql, Sql.Expr.value_congr h]

namespace Aggregation

/-- Whether a row is covered depends on what names are looked up as, in joins as in conditions. -/
theorem covers_congr {ctx ctx' : Context} (h : ctx.Agree ctx') (a : Aggregation)
    (subject : Subject) (joins : List Sql.Join) :
    a.covers subject joins ctx = a.covers subject joins ctx' := by
  rw [← holds_conditions, ← holds_conditions]
  congr 1
  funext e
  rw [Sql.Expr.holds, Sql.Expr.holds, Sql.Expr.value_congr h]

section Subject

variable (a : Aggregation) (subject : Subject) (first : String) (joins : List Sql.Join)
  (db : Database)

/-- What the query of an aggregate shows has no title that a condition could name. -/
theorem subjectQuery_readsResults (call : Expr) :
    (a.subjectQuery subject first joins call).readsResults db = false := by
  have hmissing (path : List Store.Part) :
      (Sql.titleFields [{ expr := call, label := none }]).find path = .missing := rfl
  simp [Query.readsResults, Sql.usesResults, subjectQuery, hmissing]

/-- An aggregate with a subject, in a query with the same fields around it: names mean the same as
they would without that query, and nothing of its rows is read. -/
theorem eval_subject {call : Expr} (hcall : a.statistic.call (a.column.map columnExpr) = .ok call)
    {level : Level} (hlevel : level.header = (a.subjectQuery subject first joins call).header db) :
    (Expr.subquery (a.subjectQuery subject first joins call)).eval db [level] =
      a.statistic.apply ((((a.subjectQuery subject first joins call).tableRows db).filter fun row ↦
          a.covers subject joins [{ header := level.header, group := [], row }]).map fun row ↦
        a.argument.value [{ header := level.header, group := [], row }]) := by
  have hsame : ∀ other ∈ [level.header], other = level.header := fun _ ↦ List.mem_singleton.mp
  have hcalls : Sql.Item.callsAll db ((a.subjectQuery subject first joins call).header db ::
      Context.headers [level]) 0 (a.subjectQuery subject first joins call).select ≠ [] := by
    rw [← hlevel]
    simpa [subjectQuery, Sql.Item.callsAll, Context.headers] using
      Sql.calls_ne_nil db hcall hsame
  have hkept : (a.subjectQuery subject first joins call).keptRows db [level]
      (a.covers subject joins) =
      .ok (((a.subjectQuery subject first joins call).tableRows db).filter
        fun row ↦ a.covers subject joins [{ header := level.header, group := [], row }]) := by
    rw [Query.keptRows_eq_filter (a.subjectQuery_readsResults subject first joins db call), hlevel]
    congr 2
    funext row
    exact a.covers_congr (Context.agree_of_header_eq hlevel) subject joins
  have hvalue (kept : List Row) :
      call.eval db [(a.subjectQuery subject first joins call).totalLevel db [level] kept, level] =
        a.statistic.apply (kept.map fun row ↦
          a.argument.value [{ header := level.header, group := [], row }]) := by
    have houter : ∀ other ∈ [level], other.header =
        ((a.subjectQuery subject first joins call).totalLevel db [level] kept).header := by
      intro other hother
      rw [List.mem_singleton.mp hother, hlevel]
      rfl
    rw [Sql.eval_call db hcall _ houter, Query.totalLevel, List.map_map, ← hlevel]
    congr 1
    refine List.map_congr_left fun row _ ↦ ?_
    have hnear : Context.Agree
        [{ header := level.header, group := [], row := row.take level.header.length }, level]
        [{ header := level.header, group := [], row := row.take level.header.length }] :=
      Context.agree_of_header_eq rfl
    exact Sql.Expr.value_congr (hnear.trans (Context.agree_of_take [] [] row)) a.argument
  rw [Sql.Expr.eval, eval_subjectQuery, hkept]
  simp only [bind, Except.bind]
  rw [Query.shownFor_eq_total rfl hcalls]
  simp only [subjectQuery, Sql.Item.evalAll] at hvalue ⊢
  rw [hvalue]
  cases a.statistic.apply _ <;> rfl

end Subject

end Aggregation

/-! ## The calls of a query -/

namespace Expression

variable {α β ε : Type}

mutual

/-- Each aggregate has its place in the compiled expression. -/
theorem exists_mem_of_traverse {f : α → Except ε β} {a : α} (e : Expression α)
    {e' : Expression β} (h : traverse f e = .ok e') (ha : a ∈ e.aggregates) :
    ∃ b ∈ e'.aggregates, f a = .ok b := by
  cases e with
  | literal value => cases ha
  | column name => cases ha
  | operation op args =>
    obtain ⟨args', hargs, rfl⟩ := Outcome.map_eq_ok.mp h
    exact exists_mem_of_traverseAll args hargs ha
  | aggregate a' =>
    cases List.mem_singleton.mp ha
    obtain ⟨b, hb, rfl⟩ := Outcome.map_eq_ok.mp h
    exact ⟨b, List.mem_cons_self, hb⟩

theorem exists_mem_of_traverseAll {f : α → Except ε β} {a : α} (args : List (Expression α))
    {args' : List (Expression β)} (h : traverseAll f args = .ok args')
    (ha : a ∈ aggregatesOf args) : ∃ b ∈ aggregatesOf args', f a = .ok b := by
  cases args with
  | nil => cases ha
  | cons arg rest =>
    obtain ⟨e, he, h⟩ := Outcome.bind_eq_ok.mp h
    obtain ⟨es, hes, h⟩ := Outcome.bind_eq_ok.mp h
    cases h
    rcases List.mem_append.mp ha with ha | ha
    · obtain ⟨b, hb, hab⟩ := exists_mem_of_traverse arg he ha
      exact ⟨b, List.mem_append_left _ hb, hab⟩
    · obtain ⟨b, hb, hab⟩ := exists_mem_of_traverseAll rest hes ha
      exact ⟨b, List.mem_append_right _ hb, hab⟩

end

variable (db : Database) (headers : List Header) (depth : Nat)

mutual

/-- The calls in an aggregate are among those of every expression around it. -/
theorem calls_subset_toSql {leaf : α → Expr} {a : α} (e : Expression α) (ha : a ∈ e.aggregates) :
    (leaf a).calls db headers depth ⊆ (toSql leaf e).calls db headers depth := by
  cases e with
  | literal value => cases ha
  | column name => cases ha
  | operation op args =>
    rw [toSql, Expr.calls]
    exact calls_subset_toSqlAll args ha
  | aggregate a' =>
    cases List.mem_singleton.mp ha
    exact List.Subset.refl _

/-- The calls of an aggregate are among those of the list that it stands in. -/
theorem calls_subset_toSqlAll {leaf : α → Expr} {a : α} (args : List (Expression α))
    (ha : a ∈ aggregatesOf args) :
    (leaf a).calls db headers depth ⊆ Expr.callsAll db headers depth (toSqlAll leaf args) := by
  cases args with
  | nil => cases ha
  | cons arg rest =>
    rw [toSqlAll, Expr.callsAll]
    rcases List.mem_append.mp ha with ha | ha
    · exact List.subset_append_of_subset_left _ (calls_subset_toSql arg ha)
    · exact List.subset_append_of_subset_right _ (calls_subset_toSqlAll rest ha)

end

end Expression

theorem Sql.Item.callsAll_eq_flatMap (db : Database) (headers : List Header) (depth : Nat)
    (items : List Sql.Item) :
    Sql.Item.callsAll db headers depth items =
      items.flatMap fun item ↦ item.expr.calls db headers depth := by
  induction items with
  | nil => rfl
  | cons item rest ih =>
    rcases item with ⟨expr, label⟩
    rw [callsAll, ih, List.flatMap_cons]

namespace Indicator

/-- Titles are added to expressions, one to one. -/
theorem map_expr_zipWith (columns : List Column) {exprs : List Expr}
    (h : exprs.length = columns.length) :
    (columns.zipWith Column.toItem exprs).map Sql.Item.expr = exprs := by
  calc
    (columns.zipWith Column.toItem exprs).map Sql.Item.expr =
        columns.zipWith (fun _ e ↦ e) exprs := List.map_zipWith
    _ = (columns.zip exprs).map Prod.snd := (List.map_uncurry_zip_eq_zipWith).symm
    _ = exprs := List.map_snd_zip h.le

/-- The query of an indicator makes the calls of its aggregates. -/
theorem calls_subset_toQuery {options : Options} {indicator : Indicator} {query : Query}
    (h : indicator.toQuery options = .ok query) {a : Aggregation} (ha : a ∈ indicator.aggregates)
    {e : Expr} (he : a.toSql options = .ok e) (db : Database) (headers : List Header)
    (depth : Nat) :
    e.calls db headers depth ⊆ Sql.Item.callsAll db headers depth query.select := by
  obtain ⟨-, exprs, -, hexprs, -, hselect, -, -⟩ := fields_of_toQuery h
  obtain ⟨column, hcolumn, ha⟩ := List.mem_flatMap.mp ha
  obtain ⟨shown, hshown, hbody⟩ := Outcome.exists_mem_of_mapM hexprs hcolumn
  have hcalls : e.calls db headers depth ⊆ shown.calls db headers depth := by
    cases hkind : column.body with
    | groupBy value =>
      rw [hkind] at ha
      cases ha
    | cases arms =>
      rw [hkind] at ha
      cases ha
    | aggregation measure =>
      rw [hkind] at ha hbody
      obtain ⟨m', hm', rfl⟩ := Outcome.map_eq_ok.mp hbody
      obtain ⟨b, hb, hab⟩ := Expression.exists_mem_of_traverse measure hm' ha
      cases he.symm.trans hab
      have hcalls : (id e).calls db headers depth ⊆
          (Expression.toSql id m').calls db headers depth :=
        Expression.calls_subset_toSql db headers depth m' hb
      exact hcalls
  rw [← map_expr_zipWith indicator.columns (Outcome.length_of_mapM hexprs)] at hshown
  obtain ⟨item, hitem, rfl⟩ := List.mem_map.mp hshown
  rw [hselect, Sql.Item.callsAll_eq_flatMap]
  exact fun call hcall ↦ List.mem_flatMap.mpr ⟨item, hitem, hcalls hcall⟩

/-- Without columns to group by, a query does not group its rows. -/
theorem groupBy_toQuery {options : Options} {indicator : Indicator} {query : Query}
    (h : indicator.toQuery options = .ok query)
    (hcolumns : ∀ column ∈ indicator.columns, column.body.isGrouping = false) :
    query.groupBy = [] := by
  obtain ⟨-, exprs, -, -, -, -, -, hgroupBy⟩ := fields_of_toQuery h
  rw [hgroupBy, groupExprs, List.map_eq_nil_iff, List.filter_eq_nil_iff]
  intro pair hpair
  rw [hcolumns pair.1 (List.of_mem_zip hpair).1]
  decide

end Indicator

/-! ## Aggregates of filtered rows -/

namespace Aggregation

variable {options : Options} {a : Aggregation} {e : Expr}

/-- An aggregate without a subject makes a call over the rows of its query. -/
theorem exists_call_of_toSql (hsubject : a.subject = none) (h : a.toSql options = .ok e) :
    ∃ arg, a.statistic.call arg = .ok e := by
  unfold toSql at h
  rw [hsubject] at h
  dsimp only at h
  split at h
  · exact ⟨_, h⟩
  · obtain ⟨value, -, h⟩ := Outcome.bind_eq_ok.mp h
    exact ⟨_, h⟩

/-- The rows that the main query keeps and on which the condition is true are those that the
aggregate with this subject is about. -/
theorem eval_total {indicator : Indicator} {query : Query}
    (hsubject : a.subject = none) (h : a.toSql options = .ok e)
    (hquery : indicator.toQuery options = .ok query) (db : Database) :
    e.eval db [query.total db] =
      a.statistic.apply (((query.tableRows db).filter fun row ↦
          a.covers indicator.subject query.joins
            [{ header := query.header db, group := [], row }]).map fun row ↦
        a.counted.argument.value [{ header := query.header db, group := [], row }]) := by
  have htake (row : Row) : Context.Agree
      [{ header := query.header db, group := [], row := row.take (query.header db).length }]
      [{ header := query.header db, group := [], row }] :=
    Context.agree_of_take [] [] row
  rw [eval_conditional hsubject h, Store.Level.keeping, Query.total, Query.totalLevel,
    Query.filteredRows]
  dsimp only
  rw [List.filter_map, List.map_map, List.filter_filter]
  congr 1
  have hkept (row : Row) :
      (((fun row ↦ a.condition.truth [{ header := query.header db, group := [], row }] ==
            some true) ∘ List.take (query.header db).length) row &&
          query.conditions.all (Sql.Expr.holds [{ header := query.header db, group := [], row }])) =
        a.covers indicator.subject query.joins
          [{ header := query.header db, group := [], row }] := by
    rw [Function.comp_apply, Condition.truth_congr (htake row),
      Indicator.all_conditions_toQuery hquery, covers, Bool.and_comm]
  simp only [hkept]
  exact List.map_congr_left fun row _ ↦ Sql.Expr.value_congr (htake row) _

theorem covers_within (a : Aggregation) (subject : Subject) (joins : List Sql.Join)
    (ctx : Context) :
    (a.within subject).covers subject joins ctx = a.covers subject joins ctx := by
  rw [covers, covers, within, a.counted_condition]

/-- The aggregate with a subject of its own starts from the first table of the indicator. -/
theorem toSql_within {indicator : Indicator} {query : Query} {call : Expr}
    (hquery : indicator.toQuery options = .ok query)
    (hcall : a.counted.statistic.call (a.counted.column.map columnExpr) = .ok call) :
    ∃ first, query.source = some first ∧
      (a.within indicator.subject).toSql options =
        .ok (.subquery ((a.within indicator.subject).subjectQuery indicator.subject first
          query.joins call)) := by
  obtain ⟨first, -, hsources, -, hsource, -⟩ := Indicator.fields_of_toQuery hquery
  have hcalled : (a.within indicator.subject).statistic.call
      ((a.within indicator.subject).column.map columnExpr) = .ok call := hcall
  refine ⟨first, hsource, ?_⟩
  unfold toSql
  rw [hcalled]
  dsimp only [within]
  rw [hsources]
  rfl

/-- The query of the aggregate itself keeps the same rows, seen from any row of a query with the
fields of the main one. -/
theorem eval_within {subject : Subject} {query : Query} {first : String} {call : Expr}
    (hsource : query.source = some first)
    (hcall : a.counted.statistic.call (a.counted.column.map columnExpr) = .ok call)
    (db : Database) {level : Level} (hlevel : level.header = query.header db) :
    (Expr.subquery ((a.within subject).subjectQuery subject first query.joins call)).eval db
        [level] =
      a.statistic.apply (((query.tableRows db).filter fun row ↦
          a.covers subject query.joins [{ header := query.header db, group := [], row }]).map
        fun row ↦ a.counted.argument.value [{ header := query.header db, group := [], row }]) := by
  have hheader : ((a.within subject).subjectQuery subject first query.joins call).header db =
      query.header db := by
    rw [Query.header, Query.header, subjectQuery, hsource]
  have hrows : ((a.within subject).subjectQuery subject first query.joins call).tableRows db =
      query.tableRows db := by
    rw [Query.tableRows, Query.tableRows, subjectQuery, hsource]
  have hstatistic : (a.within subject).statistic = a.statistic := a.counted_statistic
  rw [(a.within subject).eval_subject subject first query.joins db hcall
      (hlevel.trans hheader.symm), hrows, hlevel, hstatistic]
  simp only [covers_within]
  rfl

end Aggregation

/-- Every aggregate without a subject that can be read has a compiled form. Over the rows of any
group its value is that of the aggregate without its condition, taken of the rows on which the
condition is true, where a count with a condition is one of rows. Outside of a grouping this is also
the value of the aggregate with the subject of its indicator, for every row of a query over the same
tables, unless a condition of the subject names a title. -/
theorem conditional_aggregate_eq_filtered {node : Json} {a : Aggregation}
    (hread : Aggregation.read node = .ok a) (hsubject : a.subject = none) (options : Options) :
    ∃ e filtered, a.toSql options = .ok e ∧
      a.unconditional.toSql options = .ok filtered ∧
      (∀ db level, e.eval db [level] = filtered.eval db [level.keeping a.condition]) ∧
      ∀ (indicator : Indicator) (query : Query), a ∈ indicator.aggregates →
        (∀ column ∈ indicator.columns, column.body.isGrouping = false) →
        indicator.toQuery options = .ok query → ∀ db, query.readsResults db = false →
          query.eval db [] = (Sql.Item.evalAll db [query.total db] query.select).map
            (fun row ↦ [row]) ∧
          ∃ nested, (a.within indicator.subject).toSql options = .ok nested ∧
            ∀ level, level.header = query.header db →
              nested.eval db [level] = e.eval db [query.total db] := by
  have hformed := Aggregation.wellFormed_of_read hread
  obtain ⟨e, he⟩ := hformed.exists_toSql options
  obtain ⟨call, hcall⟩ := hformed.exists_call_counted
  have hfiltered : a.unconditional.toSql options = .ok call := by
    unfold Aggregation.toSql
    rw [Aggregation.unconditional, a.counted_subject, hsubject]
    exact hcall
  refine ⟨e, call, he, hfiltered, fun db level ↦ ?_, fun indicator query ha hcolumns hquery db
    hresults ↦ ⟨?_, ?_⟩⟩
  · rw [Aggregation.eval_conditional hsubject he, Aggregation.eval_filtered hsubject hfiltered]
    rfl
  · obtain ⟨arg, harg⟩ := Aggregation.exists_call_of_toSql hsubject he
    refine Query.eval_eq_total hresults (Indicator.groupBy_toQuery hquery hcolumns) fun hnil ↦ ?_
    have hcalls := Indicator.calls_subset_toQuery hquery ha he db [query.header db] 0
    rw [hnil, List.subset_nil] at hcalls
    have hnone : ∀ other ∈ ([] : List Header), other = query.header db := nofun
    exact Sql.calls_ne_nil db harg hnone hcalls
  · obtain ⟨first, hsource, hnested⟩ := Aggregation.toSql_within hquery hcall
    refine ⟨_, hnested, fun level hlevel ↦ ?_⟩
    rw [Aggregation.eval_within hsource hcall db hlevel,
      Aggregation.eval_total hsubject he hquery db]

namespace Replies

/-- The aggregate as it is written. -/
def node : Json :=
  .object
    [("agg", .string "count"), ("col", .string "email"),
      ("condition", .object
        [("=", .array [.object [("col", .string "reponse")], .string "oui"])])]

def count : Aggregation where
  statistic := .count
  column := some "email"
  condition := .compare .eq (.column "reponse") (.literal (.text "oui"))
  subject := none

/-- Answers of one kind, one of which has no address. -/
def table : Store.Table where
  name := "enquete"
  columns := ["reponse", "email"]
  rows := [[.text "oui", .null], [.text "oui", .text "x"]]

def indicator : Indicator where
  subject := { tables := ["enquete"], conditions := .empty }
  columns := [{ title := "N", body := .aggregation (.aggregate count) }]

theorem read_node : Aggregation.read node = .ok count := by with_unfolding_all rfl

/-- Both answers count, within the main query and in a query of their own. -/
theorem conditional_aggregate_eq_filtered_count :
    ∃ query e nested, indicator.toQuery .default = .ok query ∧ count.toSql .default = .ok e ∧
      (count.within indicator.subject).toSql .default = .ok nested ∧
      (∀ level, level.header = query.header { tables := [table] } →
        nested.eval { tables := [table] } [level] =
          e.eval { tables := [table] } [query.total { tables := [table] }]) := by
  obtain ⟨e, -, he, -, -, hquery⟩ :=
    conditional_aggregate_eq_filtered read_node rfl .default
  have hcolumns : ∀ column ∈ indicator.columns, column.body.isGrouping = false := by
    intro column hcolumn
    cases List.mem_singleton.mp hcolumn
    rfl
  obtain ⟨-, nested, hnested, hvalue⟩ :=
    hquery indicator _ List.mem_cons_self hcolumns rfl { tables := [table] } rfl
  exact ⟨_, e, nested, rfl, he, hnested, hvalue⟩

/-- The same count for an indicator whose condition names the title of another column. -/
def titled : Indicator where
  subject :=
    { tables := ["enquete"], conditions := .compare .eq (.column "Barème 1") (.literal (.int 5)) }
  columns :=
    [{ title := "N", body := .aggregation (.aggregate count) },
      { title := "Barème 1", body := .aggregation (.literal (.int 5)) }]

/-- Without the condition the count is one of addresses. And a condition that names a title keeps
other rows in a query of its own, where the name is a text. -/
theorem not_conditional_aggregate_eq_filtered :
    (¬ ∀ (node : Json) (a : Aggregation) (options : Options) (e filtered : Expr),
      Aggregation.read node = .ok a → a.subject = none → a.toSql options = .ok e →
      { a with condition := .empty }.toSql options = .ok filtered →
      ∀ (db : Database) (level : Level),
        e.eval db [level] = filtered.eval db [level.keeping a.condition]) ∧
    ¬ ∀ (node : Json) (a : Aggregation) (options : Options) (e nested : Expr)
      (indicator : Indicator) (query : Query), Aggregation.read node = .ok a → a.subject = none →
      a.toSql options = .ok e → a ∈ indicator.aggregates →
      (∀ column ∈ indicator.columns, column.body.isGrouping = false) →
      indicator.toQuery options = .ok query →
      (a.within indicator.subject).toSql options = .ok nested →
      ∀ (db : Database) (kept : List Row) (level : Level),
        query.keptRows db [] (fun inner ↦ query.conditions.all (Sql.Expr.holds inner)) =
          .ok kept →
        level.header = query.header db →
        nested.eval db [level] = e.eval db [query.totalLevel db [] kept] := by
  constructor
  · intro hclaim
    have hvalue := hclaim node count .default _ _ read_node rfl rfl rfl .empty
      { header := table.header, group := table.numberedRows, row := [] }
    have hcount : Except.ok (Value.int 2) = Except.ok (Value.int 1) := hvalue
    cases hcount
  · intro hclaim
    have hcolumns : ∀ column ∈ titled.columns, column.body.isGrouping = false := by
      decide
    have hvalue := hclaim node count .default _ _ titled _ read_node rfl rfl List.mem_cons_self
      hcolumns rfl rfl { tables := [table] } _
      { header := table.header, group := [], row := [] } rfl rfl
    have hcount : Except.ok (Value.int 0) = Except.ok (Value.int 2) := hvalue
    cases hcount

end Replies

end Barometer
