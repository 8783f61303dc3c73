import Barometer.Proofs.Outcome
import Barometer.Store.Evaluation

/-!
# The rows of a query

A query is evaluated in two steps: rows are put together and those that meet its conditions are
kept, and then what is kept is shown. The first step does not look at the groups, and the second one
does not look at the conditions.
-/

namespace Barometer.Sql

open Store (Value Context Level Header Row Cause Database)

/-- A row has a value for each item. -/
theorem Item.length_of_evalAll {db : Database} {ctx : Context} {items : List Item} {row : Row}
    (h : Item.evalAll db ctx items = .ok row) : row.length = items.length := by
  induction items generalizing row with
  | nil =>
    cases h
    rfl
  | cons item rest ih =>
    rcases item with ⟨expr, label⟩
    obtain ⟨v, -, h⟩ := Outcome.bind_eq_ok.mp h
    obtain ⟨vs, hvs, h⟩ := Outcome.bind_eq_ok.mp h
    cases h
    exact congrArg (· + 1) (ih hvs)

namespace Query

variable (db : Database) (ctx : Context) (query : Query)

/-- What rows have to meet. -/
def conditions : List Expr := query.joins.filterMap Join.on ++ query.filter.toList

/-- The fields of the tables. -/
def header : Header := headerOf (sourceTables db query.source query.joins)

/-- Whether the values of the select list are among the fields that conditions are checked on. -/
def readsResults : Bool :=
  usesResults (query.header db) query.select query.conditions query.groupBy

/-- The fields that conditions are checked on. -/
def fields : Header :=
  if query.readsResults db then query.header db ++ titleFields query.select else query.header db

/-- The context of a row on which conditions are checked. -/
def onRow (row : Row) : Context := { header := query.fields db, group := [], row } :: ctx

/-- The rows that are put together. -/
def joinedRows : Except Cause (List Row) :=
  let joined := joinRows ((sourceTables db query.source query.joins).map Store.Table.numberedRows)
  if query.readsResults db then
    joined.mapM fun row ↦ do
      let shown ←
        Item.evalAll db ({ header := query.header db, group := [], row } :: ctx) query.select
      return row ++ shown
  else .ok joined

/-- What is shown for the rows that are kept. -/
def shownFor (kept : List Row) : Except Cause (List Row) :=
  let header := query.header db
  let calls := Item.callsAll db (header :: ctx.headers) 0 query.select
  let width := header.length
  if query.groupBy.isEmpty && calls.isEmpty then
    kept.mapM fun row ↦
      Item.evalAll db ({ header, group := [], row := row.take width } :: ctx) query.select
  else
    let groups :=
      if query.groupBy.isEmpty then [kept]
      else groupRows (kept.map fun row ↦
        (keysOf (query.onRow db ctx row) width row query.groupBy, row))
    groups.mapM fun group ↦
      let group := group.map (List.take width)
      let row := representative ctx header calls group
      Item.evalAll db ({ header, group, row } :: ctx) query.select

/-- The rows that are put together and pass a test. -/
def keptRows (test : Context → Bool) : Except Cause (List Row) :=
  (query.joinedRows db ctx).map (List.filter fun row ↦ test (query.onRow db ctx row))

/-- A query keeps the rows on which all its conditions hold, and shows them. -/
theorem eval_eq :
    query.eval db ctx =
      query.keptRows db ctx (fun inner ↦ query.conditions.all (Expr.holds inner)) >>=
        query.shownFor db ctx := by
  have hsteps : query.eval db ctx =
      query.joinedRows db ctx >>= fun rows ↦
        query.shownFor db ctx (rows.filter fun row ↦
          query.conditions.all (Expr.holds (query.onRow db ctx row))) := by
    unfold joinedRows
    by_cases hresults : query.readsResults db = true
    · rw [if_pos hresults]
      rcases query with ⟨select, source, joins, filter, groupBy⟩
      rw [eval]
      exact if_pos hresults
    · rw [if_neg hresults]
      rcases query with ⟨select, source, joins, filter, groupBy⟩
      rw [eval]
      exact if_neg hresults
  rw [hsteps, keptRows]
  rcases query.joinedRows db ctx with fault | rows <;> rfl

/-- Every row of a query has a value for each of its items. -/
theorem length_of_mem_eval {db : Database} {ctx : Context} {query : Query} {rows : List Row}
    (h : query.eval db ctx = .ok rows) : ∀ row ∈ rows, row.length = query.select.length := by
  rw [eval_eq] at h
  obtain ⟨kept, -, h⟩ := Outcome.bind_eq_ok.mp h
  intro row hrow
  unfold shownFor at h
  dsimp only at h
  split at h
  · obtain ⟨_, -, hitems⟩ := Outcome.exists_of_mem_mapM h hrow
    exact Item.length_of_evalAll hitems
  · obtain ⟨_, -, hitems⟩ := Outcome.exists_of_mem_mapM h hrow
    exact Item.length_of_evalAll hitems

/-- A call of this argument counts every row: it speaks of no field and is never missing. -/
structure Counts (argument : Expr) : Prop where
  paths : argument.paths = []
  value (inner : Context) : argument.value inner = .int 1

theorem ofCall?_count : Statistic.ofCall? Statistic.count.sqlName false = some .count := by
  decide

/-- A star and a literal count the rows of a group, however many values are missing. -/
theorem Counts.callValue {argument : Expr} (hcounts : Counts argument) (level : Level) :
    callValue (level :: ctx) Statistic.count.sqlName [argument] false =
      .ok (.int level.group.length) := by
  have howner : ownerOf (Context.headers (level :: ctx)) [argument] = 0 := by
    simp [ownerOf, hcounts.paths]
  have hvalues : argumentValues (level :: ctx) [argument] = level.group.map fun _ ↦ .int 1 := by
    unfold argumentValues
    rw [howner]
    exact List.map_congr_left fun row _ ↦ hcounts.value _
  have hcount : Store.countOf (level.group.map fun _ ↦ .int 1) = level.group.length := by
    rw [Store.countOf, List.filter_eq_self.mpr, List.length_map]
    intro v hv
    obtain ⟨row, -, rfl⟩ := List.mem_map.mp hv
    rfl
  rw [← hcount, ← hvalues]
  unfold Sql.callValue
  rw [ofCall?_count]
  rfl

/-- A query that shows one count shows the number of the rows that are kept. -/
theorem Counts.shownFor {argument : Expr} (hcounts : Counts argument)
    (hselect : query.select =
      [{ expr := .call Statistic.count.sqlName [argument] false, label := none }])
    (hgroupBy : query.groupBy = []) (kept : List Row) :
    query.shownFor db ctx kept = .ok [[.int kept.length]] := by
  have hcalls : (Item.callsAll db (query.header db :: ctx.headers) 0 query.select).isEmpty =
      false := by
    simp [hselect, Item.callsAll, Expr.calls, ofCall?_count, ownerOf, hcounts.paths]
  rw [Query.shownFor, hgroupBy, hcalls]
  simp only [List.isEmpty_nil, Bool.true_and, Bool.false_eq_true, if_false, if_true,
    List.mapM_cons, List.mapM_nil]
  rw [hselect]
  simp [Item.evalAll, Expr.eval, hcounts.callValue _, bind, Except.bind, pure, Except.pure]

end Query

end Barometer.Sql
