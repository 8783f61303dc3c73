import Barometer.Compilation
import Barometer.Proofs.Store.Contexts
import Barometer.Proofs.Store.Rows

/-!
# Aggregates over the rows of a query

A call runs over the rows of the innermost query, if the queries around it have no fields of their
own to speak of. Its value is the aggregate of its argument on each of these rows. A query that
shows calls and does not group its rows shows one row, for all rows that it keeps.
-/

namespace Barometer

open Store (Value Row Context Level Header Database)

namespace Statistic

theorem ofCall?_sqlName (statistic : Statistic) :
    ofCall? statistic.sqlName (statistic == .countDistinct) = some statistic := by
  cases statistic <;> decide

/-- Rows are counted by a star. -/
theorem call_eq {statistic : Statistic} {arg : Option Sql.Expr} {e : Sql.Expr}
    (h : statistic.call arg = .ok e) :
    e = .call statistic.sqlName [arg.getD .star] (statistic == .countDistinct) := by
  cases arg <;> cases statistic <;> cases h <;> rfl

end Statistic

namespace Sql

section Calls

variable {db : Database} {header : Header} {outer : List Header}

/-- A name that is found further out is found within, where the headers are the same. -/
theorem levelOf?_eq_zero (houter : ∀ other ∈ outer, other = header) {path : List Store.Part}
    {depth : Nat} (h : levelOf? (header :: outer) path = some depth) : depth = 0 := by
  rw [levelOf?, List.findIdx?_cons] at h
  split at h
  · exact (Option.some.inj h).symm
  · rename_i hmissing
    obtain ⟨i, hi, -⟩ := Option.map_eq_some_iff.mp h
    have hany : outer.any (fun other ↦ other.find path != .missing) = true := by
      rw [← List.findIdx?_isSome, hi]
      rfl
    obtain ⟨other, hother, hfound⟩ := List.any_eq_true.mp hany
    rw [houter other hother] at hfound
    exact absurd hfound hmissing

/-- Whatever an argument speaks of is a field of the innermost query. -/
theorem ownerOf_eq_zero (houter : ∀ other ∈ outer, other = header) (args : List Expr) :
    ownerOf (header :: outer) args = 0 := by
  unfold ownerOf
  rcases hmin : ((args.flatMap Expr.paths).filterMap (levelOf? (header :: outer))).min? with
    _ | least
  · rfl
  · obtain ⟨path, -, hlevel⟩ := List.mem_filterMap.mp (List.min?_mem hmin)
    exact levelOf?_eq_zero houter hlevel

variable {statistic : Statistic} {arg : Option Expr} {e : Expr}

/-- The aggregate of the argument on every row of the group. -/
theorem eval_call (db : Database) (h : statistic.call arg = .ok e) (level : Level) {ctx : Context}
    (hctx : ∀ other ∈ ctx, other.header = level.header) :
    e.eval db (level :: ctx) =
      statistic.apply (level.group.map fun row ↦
        (arg.getD .star).value ({ level with group := [], row } :: ctx)) := by
  have howner : ownerOf (Context.headers (level :: ctx)) [arg.getD .star] = 0 := by
    refine ownerOf_eq_zero (fun other hother ↦ ?_) _
    obtain ⟨l, hl, rfl⟩ := List.mem_map.mp hother
    exact hctx l hl
  have hvalues : argumentValues (level :: ctx) [arg.getD .star] = level.group.map fun row ↦
      (arg.getD .star).value ({ level with group := [], row } :: ctx) := by
    unfold argumentValues
    rw [howner]
    rfl
  rw [Statistic.call_eq h, Expr.eval, ← hvalues]
  unfold callValue
  rw [Statistic.ofCall?_sqlName]

/-- Around the main query there is no other. -/
theorem eval_call_main (db : Database) (h : statistic.call arg = .ok e) (level : Level) :
    e.eval db [level] =
      statistic.apply (level.group.map fun row ↦
        (arg.getD .star).value [{ level with group := [], row }]) := by
  refine eval_call db h level fun other hother ↦ ?_
  cases hother

/-- The call of an aggregate belongs to its own query. -/
theorem calls_ne_nil (db : Database) (h : statistic.call arg = .ok e)
    (houter : ∀ other ∈ outer, other = header) : e.calls db (header :: outer) 0 ≠ [] := by
  rw [Statistic.call_eq h]
  simp [Expr.calls, Statistic.ofCall?_sqlName, ownerOf_eq_zero houter]

end Calls

namespace Query

variable (db : Database) (ctx : Context) (query : Query)

/-- The rows of the tables, each put together with each. -/
def tableRows : List Row :=
  joinRows ((sourceTables db query.source query.joins).map Store.Table.numberedRows)

/-- The level of a query whose rows are all one group. -/
def totalLevel (kept : List Row) : Level :=
  let header := query.header db
  let group := kept.map (List.take header.length)
  { header
    group
    row := representative ctx header (Item.callsAll db (header :: ctx.headers) 0 query.select)
      group }

/-- The rows that a query keeps, if its conditions do not name what it shows. -/
def filteredRows : List Row :=
  (query.tableRows db).filter fun row ↦
    query.conditions.all (Expr.holds [{ header := query.header db, group := [], row }])

/-- The level of a main query that shows one row for all rows that it keeps. -/
def total : Level := query.totalLevel db [] (query.filteredRows db)

variable {db ctx query}

/-- Without names of results a condition is tested on each row by itself. -/
theorem keptRows_eq_filter (h : query.readsResults db = false) (test : Context → Bool) :
    query.keptRows db ctx test =
      .ok ((query.tableRows db).filter fun row ↦
        test ({ header := query.header db, group := [], row } :: ctx)) := by
  have hfields : query.fields db = query.header db := by
    rw [fields, h]
    rfl
  unfold keptRows joinedRows onRow
  rw [hfields, h]
  rfl

/-- A query of aggregates without keys shows one row, over all rows that are kept. -/
theorem shownFor_eq_total (hgroupBy : query.groupBy = [])
    (hcalls : Item.callsAll db (query.header db :: ctx.headers) 0 query.select ≠ [])
    (kept : List Row) :
    query.shownFor db ctx kept =
      (Item.evalAll db (query.totalLevel db ctx kept :: ctx) query.select).map fun row ↦ [row] := by
  have hsome : (Item.callsAll db (query.header db :: ctx.headers) 0 query.select).isEmpty =
      false := by
    cases hlist : Item.callsAll db (query.header db :: ctx.headers) 0 query.select with
    | nil => exact absurd hlist hcalls
    | cons call rest => rfl
  unfold shownFor
  simp only [hgroupBy, hsome, List.isEmpty_nil, Bool.true_and, Bool.false_eq_true, if_false,
    if_true, List.mapM_cons, List.mapM_nil]
  unfold totalLevel
  rcases Item.evalAll db _ query.select with fault | row <;> rfl

/-- A main query with a call and without groups. -/
theorem eval_eq_total (hresults : query.readsResults db = false) (hgroupBy : query.groupBy = [])
    (hcalls : Item.callsAll db [query.header db] 0 query.select ≠ []) :
    query.eval db [] =
      (Item.evalAll db [query.total db] query.select).map fun row ↦ [row] := by
  rw [eval_eq, keptRows_eq_filter hresults]
  exact shownFor_eq_total hgroupBy hcalls (query.filteredRows db)

end Query

end Sql

end Barometer
