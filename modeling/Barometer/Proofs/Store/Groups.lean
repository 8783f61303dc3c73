import Barometer.Proofs.Store.Columns
import Barometer.Proofs.Store.Order
import Mathlib.Data.List.Pairwise

/-!
# Groups of rows

Rows are sorted by their keys, and neighbours with equal keys are put together. Since the keys are
sorted, rows with equal keys are neighbours: there is one group for each list of keys.
-/

namespace Barometer.Store

/-- Rows divided into groups. Every row is in one of them, and two rows are in the same one if and
only if they are alike. -/
structure AreGrouped (alike : Row → Row → Prop) (rows : List Row) (groups : List (List Row)) :
    Prop where
  perm : groups.flatten.Perm rows
  nonempty : [] ∉ groups
  within : ∀ group ∈ groups, ∀ a ∈ group, ∀ b ∈ group, alike a b
  between : groups.Pairwise fun group other ↦ ∀ a ∈ group, ∀ b ∈ other, ¬ alike a b

namespace AreGrouped

variable {alike : Row → Row → Prop} {rows : List Row} {groups : List (List Row)}

theorem exists_group (h : AreGrouped alike rows groups) {a : Row} (ha : a ∈ rows) :
    ∃ group ∈ groups, a ∈ group :=
  List.mem_flatten.mp (h.perm.mem_iff.mpr ha)

/-- Two rows are in one group if they are alike, and only then. -/
theorem exists_group_iff (h : AreGrouped alike rows groups)
    (hsymm : ∀ a b, alike a b → alike b a) {a b : Row} (ha : a ∈ rows) (hb : b ∈ rows) :
    (∃ group ∈ groups, a ∈ group ∧ b ∈ group) ↔ alike a b := by
  constructor
  · rintro ⟨group, hgroup, ha, hb⟩
    exact h.within group hgroup a ha b hb
  · intro halike
    obtain ⟨group, hgroup, ha⟩ := h.exists_group ha
    obtain ⟨other, hother, hb⟩ := h.exists_group hb
    by_cases hsame : group = other
    · subst hsame
      exact ⟨group, hgroup, ha, hb⟩
    · have hapart : Std.Symm fun group other : List Row ↦
          ∀ a ∈ group, ∀ b ∈ other, ¬ alike a b :=
        ⟨fun _ _ hapart b hb a ha hba ↦ hapart a ha b hb (hsymm b a hba)⟩
      exact absurd halike (h.between.forall hgroup hother hsame a ha b hb)

theorem congr (h : AreGrouped alike rows groups) {alike' : Row → Row → Prop}
    (heq : ∀ a b, alike a b ↔ alike' a b) : AreGrouped alike' rows groups := by
  have hsame : alike = alike' := by
    funext a b
    exact propext (heq a b)
  exact hsame ▸ h

end AreGrouped

/-- A sorted list of rows as its runs of equal keys. -/
structure AreRuns (keys : Row → List Value) (rows : List Row) (runs : List (List Row)) : Prop where
  flatten : runs.flatten = rows
  nonempty : [] ∉ runs
  within : ∀ run ∈ runs, ∀ a ∈ run, ∀ b ∈ run, Value.compareAll (keys a) (keys b) = .eq
  between : runs.Pairwise fun run later ↦
    ∀ a ∈ run, ∀ b ∈ later, Value.compareAll (keys a) (keys b) = .lt

namespace AreRuns

variable {keys : Row → List Value} {rows : List Row} {runs : List (List Row)} {run : List Row}
  {row : Row}

theorem singleton (keys : Row → List Value) (row : Row) : AreRuns keys [row] [[row]] where
  flatten := rfl
  nonempty := by simp
  within := by simp [Std.ReflCmp.compare_self]
  between := List.pairwise_singleton _ _

/-- The first run begins with the first row. -/
theorem exists_first (h : AreRuns keys (row :: rows) runs) :
    ∃ run rest, runs = run :: rest ∧ row ∈ run := by
  have hflatten := h.flatten
  have hnonempty := h.nonempty
  rcases runs with _ | ⟨_ | ⟨first, others⟩, rest⟩
  · cases hflatten
  · exact absurd List.mem_cons_self hnonempty
  · rw [List.flatten_cons, List.cons_append] at hflatten
    cases hflatten
    exact ⟨_, _, rfl, List.mem_cons_self⟩

/-- A row goes into the first run if its keys are equal. -/
theorem extend (h : AreRuns keys rows (run :: runs))
    (heq : ∀ b ∈ run, Value.compareAll (keys row) (keys b) = .eq) :
    AreRuns keys (row :: rows) ((row :: run) :: runs) where
  flatten := congrArg (row :: ·) h.flatten
  nonempty := by
    have hnonempty := h.nonempty
    simp_all
  within := by
    rw [List.forall_mem_cons]
    constructor
    · intro a ha b hb
      rw [List.mem_cons] at ha hb
      rcases ha with ha | ha <;> rcases hb with hb | hb
      · rw [ha, hb]
        exact Std.ReflCmp.compare_self
      · exact ha ▸ heq b hb
      · exact hb ▸ Std.OrientedCmp.eq_symm (heq a ha)
      · exact h.within run List.mem_cons_self a ha b hb
    · exact fun other hother ↦ h.within other (List.mem_cons_of_mem run hother)
  between := by
    have hbetween := h.between
    rw [List.pairwise_cons] at hbetween ⊢
    obtain ⟨hfirst, hrest⟩ := hbetween
    refine ⟨fun later hlater ↦ List.forall_mem_cons.mpr ⟨fun b hb ↦ ?_, hfirst later hlater⟩, hrest⟩
    -- the first run has a row, and the new one is where that is
    obtain ⟨a, ha⟩ := List.exists_mem_of_ne_nil run fun hnil ↦
      h.nonempty (hnil ▸ List.mem_cons_self)
    exact (Std.TransCmp.congr_left (heq a ha)).trans (hfirst later hlater a ha b hb)

/-- A row before all others is a run of its own. -/
theorem start (h : AreRuns keys rows runs)
    (hlt : ∀ b ∈ rows, Value.compareAll (keys row) (keys b) = .lt) :
    AreRuns keys (row :: rows) ([row] :: runs) where
  flatten := congrArg (row :: ·) h.flatten
  nonempty := by simpa using h.nonempty
  within := List.forall_mem_cons.mpr
    ⟨(singleton keys row).within [row] List.mem_cons_self, h.within⟩
  between := by
    refine List.pairwise_cons.mpr ⟨fun later hlater a ha b hb ↦ ?_, h.between⟩
    rw [List.mem_singleton.mp ha]
    exact hlt b (h.flatten ▸ List.mem_flatten_of_mem hlater hb)

end AreRuns

/-- A row begins a new run where its key differs from that of the next row. -/
theorem groupRuns_cons_cons (key : List Value) (row : Row) {next : List Value × Row}
    {rest : List (List Value × Row)} {run : List Row} {runs : List (List Row)}
    (h : Sql.groupRuns (next :: rest) = run :: runs) :
    Sql.groupRuns ((key, row) :: next :: rest) =
      if Value.compareAll key next.1 == .eq then (row :: run) :: runs
      else [row] :: run :: runs := by
  unfold Sql.groupRuns
  simp only [h]

/-- Of sorted rows the runs are the groups. -/
theorem areRuns_groupRuns (keys : Row → List Value) {rows : List Row}
    (hsorted : rows.Pairwise fun a b ↦ Value.compareAll (keys a) (keys b) ≠ .gt) :
    AreRuns keys rows (Sql.groupRuns (rows.map fun row ↦ (keys row, row))) := by
  induction rows with
  | nil => exact ⟨rfl, List.not_mem_nil, List.forall_mem_nil _, .nil⟩
  | cons row rest ih =>
    rw [List.pairwise_cons] at hsorted
    obtain ⟨hfirst, hsorted⟩ := hsorted
    have hruns := ih hsorted
    rcases rest with _ | ⟨next, others⟩
    · exact .singleton keys row
    · obtain ⟨run, runs, hrun, hnext⟩ := hruns.exists_first
      rw [hrun] at hruns
      rw [List.map_cons, List.map_cons, groupRuns_cons_cons _ _ hrun]
      split
      · rename_i heq
        rw [beq_iff_eq] at heq
        refine hruns.extend fun b hb ↦ (Std.TransCmp.congr_left heq).trans ?_
        exact hruns.within run List.mem_cons_self next hnext b hb
      · rename_i hne
        have hlt : Value.compareAll (keys row) (keys next) = .lt := by
          have hgt := hfirst next List.mem_cons_self
          rw [beq_iff_eq] at hne
          cases hkeys : Value.compareAll (keys row) (keys next) with
          | lt => rfl
          | eq => exact absurd hkeys hne
          | gt => exact absurd hkeys hgt
        refine hruns.start fun b hb ↦ ?_
        rcases List.mem_cons.mp hb with rfl | hothers
        · exact hlt
        · have hle : (Value.compareAll (keys next) (keys b)).isLE :=
            Ordering.isLE_iff_ne_gt.mpr (List.rel_of_pairwise_cons hsorted hothers)
          exact Std.TransCmp.lt_of_lt_of_isLE hlt hle

/-- Sorting by keys and putting together neighbours divides rows by their keys. -/
theorem areGrouped_groupRows (keys : Row → List Value) (rows : List Row) :
    AreGrouped (fun a b ↦ Value.compareAll (keys a) (keys b) = .eq) rows
      (Sql.groupRows (rows.map fun row ↦ (keys row, row))) := by
  let le (a b : Row) : Bool := Value.compareAll (keys a) (keys b) != .gt
  have hle (a b : Row) : le a b = (Value.compareAll (keys a) (keys b)).isLE := by
    cases hkeys : Value.compareAll (keys a) (keys b) <;> simp [le, hkeys]
  have htrans (a b c : Row) (hab : le a b = true) (hbc : le b c = true) : le a c = true := by
    rw [hle] at *
    exact Std.TransCmp.isLE_trans hab hbc
  have htotal (a b : Row) : (le a b || le b a) = true := by
    have hswap : Value.compareAll (keys b) (keys a) = (Value.compareAll (keys a) (keys b)).swap :=
      Std.OrientedCmp.eq_swap
    rw [hle, hle, hswap]
    cases Value.compareAll (keys a) (keys b) <;> rfl
  have hsorted := List.pairwise_mergeSort htrans htotal rows
  have hruns := areRuns_groupRuns keys (hsorted.imp fun hab ↦ bne_iff_ne.mp hab)
  have hrows : Sql.groupRows (rows.map fun row ↦ (keys row, row)) =
      Sql.groupRuns ((rows.mergeSort le).map fun row ↦ (keys row, row)) := by
    rw [Sql.groupRows, List.map_mergeSort]
    exact fun a _ b _ ↦ rfl
  rw [hrows]
  constructor
  · rw [hruns.flatten]
    exact List.mergeSort_perm rows le
  · exact hruns.nonempty
  · exact hruns.within
  · refine hruns.between.imp fun hlt a ha b hb heq ↦ ?_
    rw [hlt a ha b hb] at heq
    cases heq

end Barometer.Store

namespace Barometer.Sql.Query

open Store (Value Row Context Cause Database)

section Groups

variable (db : Database) (ctx : Context) (query : Query)

/-- The context of a row of the tables. -/
def onTables (row : Row) : Context := { header := query.header db, group := [], row } :: ctx

/-- The value of a place in the select list, for a row that is followed by these values. -/
def shownAt (row : Row) (place : Int) : Value :=
  (row.drop (query.header db).length).getD (place - 1).toNat .null

/-- The value of a key on a row; a position stands for what is shown there. -/
def keyValue (row : Row) (key : Expr) : Value :=
  match key.position? with
  | some place => query.shownAt db row place
  | none => key.value (query.onRow db ctx row)

/-- The groups of the rows that are kept. -/
def groups (kept : List Row) : List (List Row) :=
  groupRows (kept.map fun row ↦ (query.groupBy.map (query.keyValue db ctx row), row))

/-- The row that is shown for a group. -/
def showGroup (group : List Row) : Except Cause Row :=
  let header := query.header db
  let group := group.map (List.take header.length)
  let calls := Item.callsAll db (header :: ctx.headers) 0 query.select
  Item.evalAll db ({ header, group, row := representative ctx header calls group } :: ctx)
    query.select

/-- The keys of a row are taken one by one, on this row alone. -/
theorem keysOf_eq_map (row : Row) :
    keysOf (query.onRow db ctx row) (query.header db).length row query.groupBy =
      query.groupBy.map (query.keyValue db ctx row) := by
  rw [keysOf]
  apply List.map_congr_left
  intro key _
  rw [keyValue]
  cases key.position? with
  | none => rfl
  | some place =>
    simp only [shownAt, List.getD_eq_getElem?_getD, List.getElem?_drop]

/-- A query with keys shows a row for each group of the rows that it keeps. -/
theorem eval_of_groupBy (hgroupBy : query.groupBy ≠ []) :
    query.eval db ctx =
      query.keptRows db ctx (fun inner ↦ query.conditions.all (Expr.holds inner)) >>= fun kept ↦
        (query.groups db ctx kept).mapM (query.showGroup db ctx) := by
  have hkeys : query.groupBy.isEmpty = false := by simpa using hgroupBy
  rw [eval_eq]
  apply bind_congr
  intro kept
  simp only [shownFor, hkeys, Bool.false_and, Bool.false_eq_true, if_false, keysOf_eq_map]
  rfl

theorem areGrouped_groups (kept : List Row) :
    Store.AreGrouped (fun a b ↦ ∀ key ∈ query.groupBy,
      (query.keyValue db ctx a key).compare (query.keyValue db ctx b key) = .eq) kept
      (query.groups db ctx kept) := by
  have hgrouped := Store.areGrouped_groupRows
    (fun row ↦ query.groupBy.map (query.keyValue db ctx row)) kept
  exact hgrouped.congr fun a b ↦ Value.compareAll_map_eq_iff query.groupBy _ _

end Groups

variable {db : Database} {ctx : Context} {query : Query}

/-- Queries read from tables of the database. -/
theorem mem_tables_of_mem_sourceTables {source : Option String} {joins : List Join}
    {table : Store.Table} (h : table ∈ sourceTables db source joins) : table ∈ db.tables := by
  obtain ⟨name, -, hname⟩ := List.mem_filterMap.mp h
  unfold Database.source? at hname
  split at hname
  · split at hname
    · cases hname
    · exact List.mem_of_find?_eq_some hname
  · split at hname
    · exact List.mem_of_find?_eq_some hname
    · cases hname
  · cases hname

/-- A joined row has a value for each field of the joined tables. -/
theorem length_of_mem_joinRows {tables : List Store.Table}
    (htables : ∀ table ∈ tables, table.Sound) {row : Row}
    (h : row ∈ joinRows (tables.map Store.Table.numberedRows)) :
    row.length = (headerOf tables).length := by
  induction tables generalizing row with
  | nil =>
    cases List.mem_singleton.mp h
    rfl
  | cons table rest ih =>
    rw [List.forall_mem_cons] at htables
    obtain ⟨first, hfirst, hrow⟩ := List.mem_flatMap.mp h
    obtain ⟨others, hothers, rfl⟩ := List.mem_map.mp hrow
    obtain ⟨⟨own, k⟩, hentry, rfl⟩ := List.mem_map.mp hfirst
    have hown := htables.1.rows own (List.fst_mem_of_mem_zipIdx hentry)
    simp [headerOf, Store.Table.header, hown, ih htables.2 hothers]

/-- On a row that conditions are checked on together with the values of the select list, these
values follow the fields. -/
theorem evalAll_onTables (hreads : query.readsResults db = true)
    (htables : ∀ table ∈ db.tables, table.Sound) {test : Context → Bool} {kept : List Row}
    (h : query.keptRows db ctx test = .ok kept) {row : Row} (hrow : row ∈ kept) :
    Item.evalAll db (query.onTables db ctx (row.take (query.header db).length)) query.select =
      .ok (row.drop (query.header db).length) := by
  obtain ⟨rows, hrows, rfl⟩ := Outcome.map_eq_ok.mp h
  unfold joinedRows at hrows
  rw [if_pos hreads] at hrows
  obtain ⟨joined, hjoined, hstep⟩ := Outcome.exists_of_mem_mapM hrows (List.mem_filter.mp hrow).1
  obtain ⟨shown, hshown, hstep⟩ := Outcome.bind_eq_ok.mp hstep
  cases hstep
  have hlength : joined.length = (query.header db).length :=
    length_of_mem_joinRows
      (fun table htable ↦ htables table (mem_tables_of_mem_sourceTables htable)) hjoined
  rw [List.take_left' hlength, List.drop_left' hlength]
  exact hshown

/-- A key that names no title alone has its value from the fields of the tables. -/
theorem value_onRow {key : Expr} (h : titledPlaces (query.header db) query.select key = [])
    (row : Row) : key.value (query.onRow db ctx row) = key.value (query.onTables db ctx row) := by
  have hpaths : ∀ path, .path path ∈ key.readings → (query.header db).find path = .missing →
      (titleFields query.select).find path = .missing := by
    intro path hpath hmissing
    have hmem : path ∈ key.paths := List.mem_filterMap.mpr ⟨_, hpath, rfl⟩
    have hnone := List.filterMap_eq_nil_iff.mp h path hmem
    rw [hmissing] at hnone
    rcases hfind : (titleFields query.select).find path with _ | _ | i
    · rfl
    · exact absurd hfind (Store.Header.find_titleFields_ne_ambiguous _ _)
    · rw [hfind] at hnone
      cases hnone
  rw [onRow, fields]
  split
  · exact key.value_congr_on (Store.Context.agreeOn_titleFields hpaths [] row ctx)
  · rfl

end Barometer.Sql.Query
