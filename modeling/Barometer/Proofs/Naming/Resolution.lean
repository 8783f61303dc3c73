import Barometer.Naming.Resolution
import Barometer.Proofs.Dictionary
import Barometer.Proofs.Indicator.References
import Barometer.Proofs.Outcome
import Mathlib.Data.List.Forall2

/-!
# What resolution finds

The catalog of an indicator is filled reference by reference and then read by tables: a column goes
to the first table of its reference that has an entry for it. Both sides agree on this table. It is
the first one that configures the column, since only configured columns get entries and every
reference with such a table gets one. Resolution fails if a table has no import or if one of these
columns has no candidate, and for no other reason.
-/

namespace Barometer

/-! ## Imports and owners -/

namespace Configuration

/-- A logical table that no import fills as the request asks. -/
def Unfilled (config : Configuration) (register : List Import) (request : Request)
    (table : String) : Prop :=
  ∃ logical, config.tables.get? table = some logical ∧
    ∀ record ∈ register, config.accepts logical.tags request record.tag = false

/-- The import chosen for a logical table. -/
def Fills (config : Configuration) (register : List Import) (request : Request) (table : String)
    (record : Import) : Prop :=
  ∃ logical, config.tables.get? table = some logical ∧
    config.resolveTable register table logical.tags request = .ok record

/-- The first of the tables that configures a column, and its first entry of that name. -/
def Owns (config : Configuration) (tables : List String) (column owner : String)
    (logical : LogicalColumn) : Prop :=
  ∃ before after, tables = before ++ owner :: after ∧
    (∀ table ∈ before, config.column? table column = none) ∧
    config.column? owner column = some logical

end Configuration

/-- A table has neither a logical column itself nor a column that begins as it may begin. -/
def LiveTables.Lacks (live : LiveTables) (table : String) (logical : LogicalColumn) : Prop :=
  logical.name ∉ live.columnsOf table ∧ logical.candidates (live.columnsOf table) = []

/-- Only where there is nothing to choose from nothing is chosen. -/
theorem latest?_eq_none_iff (records : List Import) : latest? records = none ↔ records = [] := by
  cases records with
  | nil => simp [latest?]
  | cons record rest =>
    simp only [latest?, reduceCtorEq, iff_false]
    split
    · simp
    · split <;> simp

namespace Configuration

variable {config : Configuration} {register : List Import} {request : Request}

/-- A table is missing if no tag in the register is accepted. -/
theorem resolveTable_error_iff {table : String} {tags : List String} :
    (∃ shortage, config.resolveTable register table tags request = .error shortage) ↔
      ∀ record ∈ register, config.accepts tags request record.tag = false := by
  unfold resolveTable
  rcases h : latest? (register.filter fun record ↦ config.accepts tags request record.tag) with
    _ | record
  · rw [latest?_eq_none_iff, List.filter_eq_nil_iff] at h
    simpa using h
  · have hne : register.filter (fun record ↦ config.accepts tags request record.tag) ≠ [] := by
      rw [Ne, ← latest?_eq_none_iff, h]
      simp
    rw [Ne, List.filter_eq_nil_iff] at hne
    simpa using hne

/-- One import fills a table. -/
theorem Fills.unique {table : String} {record record' : Import}
    (h : config.Fills register request table record)
    (h' : config.Fills register request table record') : record = record' := by
  obtain ⟨logical, hlogical, hrecord⟩ := h
  obtain ⟨logical', hlogical', hrecord'⟩ := h'
  cases hlogical.symm.trans hlogical'
  exact Except.ok.inj (hrecord.symm.trans hrecord')

/-- A logical table either lacks an import or has one. -/
theorem unfilled_or_fills (config : Configuration) (register : List Import) (request : Request)
    {table : String} {logical : LogicalTable}
    (h : config.tables.get? table = some logical) :
    config.Unfilled register request table ∨
      ∃ record, config.Fills register request table record := by
  rcases hrecord : config.resolveTable register table logical.tags request with shortage | record
  · exact .inl ⟨logical, h, resolveTable_error_iff.mp ⟨shortage, hrecord⟩⟩
  · exact .inr ⟨record, logical, h, hrecord⟩

theorem exists_table_of_column?_eq_some {table column : String} {logical : LogicalColumn}
    (h : config.column? table column = some logical) :
    ∃ t, config.tables.get? table = some t := by
  obtain ⟨t, ht, -⟩ := Option.bind_eq_some_iff.mp h
  exact ⟨t, ht⟩

/-- The owner of a column is the first table that configures it. -/
theorem owner?_eq_some_iff {tables : List String} {column owner : String}
    {logical : LogicalColumn} :
    config.owner? tables column = some (owner, logical) ↔
      config.Owns tables column owner logical := by
  rw [owner?, List.findSome?_eq_some_iff]
  constructor
  · rintro ⟨before, table, after, rfl, hfound, hbefore⟩
    rw [Option.map_eq_some_iff] at hfound
    obtain ⟨c, hc, heq⟩ := hfound
    cases heq
    exact ⟨before, after, rfl, fun t ht ↦ by simpa using hbefore t ht, hc⟩
  · rintro ⟨before, after, rfl, hbefore, hc⟩
    exact ⟨before, owner, after, rfl, by simp [hc], fun t ht ↦ by simp [hbefore t ht]⟩

theorem owner?_eq_none_iff {tables : List String} {column : String} :
    config.owner? tables column = none ↔
      ∀ table ∈ tables, config.column? table column = none := by
  simp [owner?]

theorem Owns.column?_eq {tables : List String} {column owner : String} {logical : LogicalColumn}
    (h : config.Owns tables column owner logical) :
    config.column? owner column = some logical := by
  obtain ⟨before, after, -, -, hcolumn⟩ := h
  exact hcolumn

theorem Owns.mem {tables : List String} {column owner : String} {logical : LogicalColumn}
    (h : config.Owns tables column owner logical) : owner ∈ tables := by
  obtain ⟨before, after, rfl, -, -⟩ := h
  simp

end Configuration

namespace LiveTables

variable {live : LiveTables} {table : String} {logical : LogicalColumn}

theorem choose?_eq_none_iff (logical : LogicalColumn) (candidates : List String) :
    logical.choose? candidates = none ↔ candidates = [] := by
  rw [LogicalColumn.choose?, Option.or_eq_none_iff, List.head?_eq_none_iff]
  constructor
  · exact And.right
  · rintro rfl
    simp

/-- A column is missing if neither its name nor a beginning of it is there. -/
theorem resolveColumn_error_iff :
    (∃ shortage, live.resolveColumn table logical = .error shortage) ↔
      live.Lacks table logical := by
  unfold resolveColumn Lacks
  simp only
  by_cases hname : logical.name ∈ live.columnsOf table
  · simp [hname]
  · rw [if_neg hname]
    rcases hchoice : logical.choose? (logical.candidates (live.columnsOf table)) with _ | name
    · simpa [hname] using (choose?_eq_none_iff logical _).mp hchoice
    · have hne : logical.candidates (live.columnsOf table) ≠ [] := by
        rw [Ne, ← choose?_eq_none_iff logical, hchoice]
        simp
      simp [hne]

/-- What is chosen is one of the candidates. -/
theorem choose?_mem {candidates : List String} {name : String}
    (h : logical.choose? candidates = some name) : name ∈ candidates := by
  rw [LogicalColumn.choose?, Option.or_eq_some_iff] at h
  rcases h with h | ⟨-, h⟩
  · obtain ⟨keyword, -, hfind⟩ := List.exists_of_findSome?_eq_some h
    exact List.mem_of_find?_eq_some hfind
  · exact List.mem_of_head? h

/-- What stands for a logical column is a column of the table. -/
theorem resolveColumn_mem {name : String} (h : live.resolveColumn table logical = .ok name) :
    name ∈ live.columnsOf table := by
  unfold resolveColumn at h
  simp only at h
  split at h
  · rename_i hname
    cases h
    exact hname
  · split at h
    · rename_i choice hchoice
      cases h
      exact (List.mem_filter.mp (choose?_mem hchoice)).1
    · cases h

end LiveTables

/-! ## Entries of a catalog -/

namespace Catalog

/-- The name that a catalog has for a column of a table. -/
def newName? (c : Catalog) (table column : String) : Option String :=
  (c.columns.get? table).bind fun columns ↦ columns.get? column

/-- A column is added under its own table and overwrites nothing else. -/
theorem newName?_addColumn (c : Catalog) (table column name table' column' : String) :
    (c.addColumn table column name).newName? table' column' =
      if table' = table ∧ column' = column then some name else c.newName? table' column' := by
  unfold newName? addColumn
  rw [Dictionary.get?_insert]
  by_cases htable : table' = table
  · subst htable
    rw [if_pos rfl, Option.bind_some, Dictionary.get?_insert]
    by_cases hcolumn : column' = column
    · simp [hcolumn]
    · cases c.columns.get? table' <;> simp [hcolumn]
  · simp [htable]

theorem column?_eq_findSome? (c : Catalog) (tables : List String) (column : String) :
    c.column? tables column = tables.findSome? fun table ↦ c.newName? table column := rfl

/-- A look-up stops at the first table that has an entry. -/
theorem column?_append_cons {c : Catalog} {before : List String} {owner column name : String}
    (after : List String) (hbefore : ∀ table ∈ before, c.newName? table column = none)
    (howner : c.newName? owner column = some name) :
    c.column? (before ++ owner :: after) column = some name := by
  rw [column?_eq_findSome?, List.findSome?_append, List.findSome?_eq_none_iff.mpr hbefore,
    Option.none_or, List.findSome?_cons, howner]

end Catalog

/-! ## The tables of a catalog -/

namespace Configuration

variable {config : Configuration} {register : List Import} {request : Request}

/-- A catalog lists the imports of the tables seen so far, and nothing else. -/
def ListsTables (config : Configuration) (register : List Import) (request : Request)
    (seen : List String) (catalog : Catalog) : Prop :=
  ∀ table name, catalog.tables.get? table = some name ↔
    table ∈ seen ∧ ∃ record, config.Fills register request table record ∧ record.table = name

theorem listsTables_empty : config.ListsTables register request [] Catalog.empty := by
  intro table name
  simp [Catalog.empty]

/-- A table without a configuration adds nothing to the catalog. -/
theorem addTable_ok {catalog catalog' : Catalog} {table : String}
    (h : config.addTable register request catalog table = .ok catalog') :
    (config.tables.get? table = none ∧ catalog' = catalog) ∨
      ∃ record, config.Fills register request table record ∧
        catalog' = { catalog with tables := catalog.tables.insert table record.table } := by
  unfold addTable at h
  split at h
  · rename_i htable
    cases h
    exact .inl ⟨htable, rfl⟩
  · rename_i logical htable
    obtain ⟨record, hrecord, hcatalog⟩ := Outcome.bind_eq_ok.mp h
    cases hcatalog
    exact .inr ⟨record, ⟨logical, htable, hrecord⟩, rfl⟩

theorem addTable_columns {catalog catalog' : Catalog} {table : String}
    (h : config.addTable register request catalog table = .ok catalog') :
    catalog'.columns = catalog.columns := by
  rcases addTable_ok h with ⟨-, rfl⟩ | ⟨record, -, rfl⟩ <;> rfl

/-- A table is refused if it is configured and nothing fills it. -/
theorem addTable_error_iff (catalog : Catalog) {table : String} :
    (∃ shortage, config.addTable register request catalog table = .error shortage) ↔
      config.Unfilled register request table := by
  unfold addTable Unfilled
  rcases config.tables.get? table with _ | logical
  · simp
  · have hiff : (∃ shortage, config.resolveTable register table logical.tags request =
        .error shortage) ↔ _ := resolveTable_error_iff
    simp only [Option.some.injEq, exists_eq_left', ← hiff, Outcome.bind_eq_error, pure,
      Except.pure, reduceCtorEq, and_false, exists_false, or_false]

/-- One step of the loop over the tables. -/
theorem ListsTables.addTable {seen : List String} {catalog catalog' : Catalog} {table : String}
    (hlists : config.ListsTables register request seen catalog)
    (h : config.addTable register request catalog table = .ok catalog') :
    config.ListsTables register request (seen ++ [table]) catalog' := by
  intro other name
  rw [List.mem_append, List.mem_singleton]
  rcases addTable_ok h with ⟨hnone, rfl⟩ | ⟨record, hfills, rfl⟩
  · rw [hlists]
    constructor
    · rintro ⟨hseen, hrecord⟩
      exact ⟨.inl hseen, hrecord⟩
    · rintro ⟨hseen | rfl, record, ⟨logical, hlogical, hrecord⟩, hname⟩
      · exact ⟨hseen, record, ⟨logical, hlogical, hrecord⟩, hname⟩
      · cases hnone.symm.trans hlogical
  · rw [Dictionary.get?_insert]
    by_cases htable : other = table
    · subst htable
      rw [if_pos rfl, Option.some.injEq]
      constructor
      · rintro rfl
        exact ⟨.inr rfl, record, hfills, rfl⟩
      · rintro ⟨-, record', hfills', rfl⟩
        rw [hfills.unique hfills']
    · rw [if_neg htable, hlists]
      simp [htable]

/-! ## The columns of a catalog -/

variable {live : LiveTables}

/-- A catalog has names for the columns of the references seen so far: each is what resolution
finds in the import of a table that configures the column, and the first such table of a reference
has one. -/
structure ListsColumns (config : Configuration) (register : List Import) (live : LiveTables)
    (request : Request) (tables : List String) (seen : List Reference) (catalog : Catalog) :
    Prop where
  listsTables : config.ListsTables register request tables catalog
  sound : ∀ table column name, catalog.newName? table column = some name →
    ∃ logical record, config.column? table column = some logical ∧
      config.Fills register request table record ∧
      live.resolveColumn record.table logical = .ok name
  complete : ∀ ref ∈ seen, ∀ owner logical, config.Owns ref.tables ref.column owner logical →
    owner ∈ tables → ∃ name, catalog.newName? owner ref.column = some name

/-- A reference adds one column, or none if nobody owns it or it is listed already. -/
theorem addReference_ok {catalog catalog' : Catalog} {ref : Reference}
    (h : config.addReference live catalog ref = .ok catalog') :
    (catalog' = catalog ∧ ∀ owner logical table, config.Owns ref.tables ref.column owner logical →
      catalog.tables.get? owner = some table →
        ∃ name, catalog.newName? owner ref.column = some name) ∨
    ∃ owner logical table name, config.Owns ref.tables ref.column owner logical ∧
      catalog.tables.get? owner = some table ∧ live.resolveColumn table logical = .ok name ∧
      catalog' = catalog.addColumn owner ref.column name := by
  unfold addReference at h
  split at h
  · rename_i hnone
    cases h
    refine .inl ⟨rfl, fun owner logical table howns ↦ ?_⟩
    rw [owner?_eq_some_iff.mpr howns] at hnone
    cases hnone
  · rename_i owner logical howner
    split at h
    · rename_i htable
      cases h
      refine .inl ⟨rfl, fun owner' logical' table howns htable' ↦ ?_⟩
      cases howner.symm.trans (owner?_eq_some_iff.mpr howns)
      cases htable.symm.trans htable'
    · rename_i table htable
      split at h
      · rename_i hentry
        cases h
        refine .inl ⟨rfl, fun owner' logical' table' howns _ ↦ ?_⟩
        cases howner.symm.trans (owner?_eq_some_iff.mpr howns)
        exact Option.isSome_iff_exists.mp hentry
      · obtain ⟨name, hname, hcatalog⟩ := Outcome.bind_eq_ok.mp h
        cases hcatalog
        exact .inr ⟨owner, logical, table, name, owner?_eq_some_iff.mp howner, htable, hname, rfl⟩

theorem addReference_tables {catalog catalog' : Catalog} {ref : Reference}
    (h : config.addReference live catalog ref = .ok catalog') :
    catalog'.tables = catalog.tables := by
  rcases addReference_ok h with ⟨rfl, -⟩ | ⟨owner, logical, table, name, -, -, -, rfl⟩ <;> rfl

/-- Columns are added without a change to the tables. -/
theorem ListsTables.addReference {seen : List String} {catalog catalog' : Catalog}
    {ref : Reference} (hlists : config.ListsTables register request seen catalog)
    (h : config.addReference live catalog ref = .ok catalog') :
    config.ListsTables register request seen catalog' := by
  intro table name
  rw [addReference_tables h, hlists]

/-- A reference is refused only for a column that its owner lacks. -/
theorem addReference_error {catalog : Catalog} {ref : Reference} {shortage : Shortage}
    (h : config.addReference live catalog ref = .error shortage) :
    ∃ owner logical table, config.Owns ref.tables ref.column owner logical ∧
      catalog.tables.get? owner = some table ∧ live.Lacks table logical := by
  unfold addReference at h
  split at h
  · cases h
  · rename_i owner logical howner
    split at h
    · cases h
    · rename_i table htable
      split at h
      · cases h
      · refine ⟨owner, logical, table, owner?_eq_some_iff.mp howner, htable, ?_⟩
        rcases Outcome.bind_eq_error.mp h with hfail | ⟨name, -, hname⟩
        · exact LiveTables.resolveColumn_error_iff.mp ⟨shortage, hfail⟩
        · cases hname

/-- A column has one owner among the tables of a query. -/
theorem Owns.unique {tables : List String} {column owner owner' : String}
    {logical logical' : LogicalColumn} (h : config.Owns tables column owner logical)
    (h' : config.Owns tables column owner' logical') : owner = owner' ∧ logical = logical' := by
  rw [← owner?_eq_some_iff] at h h'
  cases h.symm.trans h'
  exact ⟨rfl, rfl⟩

/-- A table that configures a column and is listed has an import, unless the step before failed. -/
theorem ListsTables.exists_get? {tables : List String} {catalog : Catalog} {owner column : String}
    {logical : LogicalColumn} (hlists : config.ListsTables register request tables catalog)
    (hfilled : ∀ table ∈ tables, ¬ config.Unfilled register request table)
    (hcolumn : config.column? owner column = some logical) (howner : owner ∈ tables) :
    ∃ record, config.Fills register request owner record ∧
      catalog.tables.get? owner = some record.table := by
  obtain ⟨t, ht⟩ := exists_table_of_column?_eq_some hcolumn
  rcases config.unfilled_or_fills register request ht with h | ⟨record, h⟩
  · exact absurd h (hfilled owner howner)
  · exact ⟨record, h, (hlists owner record.table).mpr ⟨howner, record, h, rfl⟩⟩

/-- In the database a listed table is the import that fills it. -/
theorem ListsTables.toRenaming_table {tables : List String} {catalog : Catalog} {table : String}
    {record : Import} (hlists : config.ListsTables register request tables catalog)
    (htable : table ∈ tables) (hfills : config.Fills register request table record) :
    catalog.toRenaming.table table = record.table := by
  have hget : catalog.tables.get? table = some record.table :=
    (hlists table record.table).mpr ⟨htable, record, hfills, rfl⟩
  simp [Catalog.toRenaming, hget]

/-- One step of the loop over the references. An entry made for one of them is never in the way of
another: the table that it belongs to would have got the same name from either. -/
theorem ListsColumns.addReference {tables : List String} {seen : List Reference}
    {catalog catalog' : Catalog} {ref : Reference}
    (hfilled : ∀ table ∈ tables, ¬ config.Unfilled register request table)
    (hlists : config.ListsColumns register live request tables seen catalog)
    (h : config.addReference live catalog ref = .ok catalog') :
    config.ListsColumns register live request tables (seen ++ [ref]) catalog' := by
  rcases addReference_ok h with ⟨rfl, hpresent⟩ |
    ⟨owner, logical, table, name, howns, htable, hname, rfl⟩
  · refine ⟨hlists.listsTables, hlists.sound, fun other hother owner logical howns howner ↦ ?_⟩
    rcases List.mem_append.mp hother with hother | hother
    · exact hlists.complete other hother owner logical howns howner
    · cases List.mem_singleton.mp hother
      obtain ⟨record, -, hget⟩ :=
        hlists.listsTables.exists_get? hfilled howns.column?_eq howner
      exact hpresent owner logical record.table howns hget
  · refine ⟨hlists.listsTables, fun other column name' hentry ↦ ?_,
      fun other hother owner' logical' howns' howner ↦ ?_⟩
    · rw [Catalog.newName?_addColumn] at hentry
      split at hentry
      · rename_i hsame
        obtain ⟨rfl, rfl⟩ := hsame
        cases hentry
        obtain ⟨-, record, hfills, rfl⟩ := (hlists.listsTables other table).mp htable
        exact ⟨logical, record, howns.column?_eq, hfills, hname⟩
      · exact hlists.sound other column name' hentry
    · rw [Catalog.newName?_addColumn]
      split
      · exact ⟨name, rfl⟩
      · rename_i hdiffer
        rcases List.mem_append.mp hother with hother | hother
        · exact hlists.complete other hother owner' logical' howns' howner
        · cases List.mem_singleton.mp hother
          exact absurd ⟨(howns'.unique howns).1, rfl⟩ hdiffer

/-! ## Both loops -/

/-- A reference to a configured column for which the import of its table has no candidate. -/
def Unmatched (config : Configuration) (register : List Import) (live : LiveTables)
    (request : Request) (ref : Reference) : Prop :=
  ∃ owner logical record, config.Owns ref.tables ref.column owner logical ∧
    config.Fills register request owner record ∧ live.Lacks record.table logical

/-- What a column is called after resolution. -/
inductive Resolved (config : Configuration) (register : List Import) (live : LiveTables)
    (request : Request) (ref : Reference) : String → Prop where
  /-- The first table that configures the column gives its name, which its import has. -/
  | found {owner name : String} {logical : LogicalColumn} {record : Import} :
      config.Owns ref.tables ref.column owner logical →
      config.Fills register request owner record →
      live.resolveColumn record.table logical = .ok name →
      name ∈ live.columnsOf record.table → Resolved config register live request ref name
  /-- A column that no table configures keeps its name. -/
  | kept : (∀ table ∈ ref.tables, config.column? table ref.column = none) →
      Resolved config register live request ref ref.column

variable {tables : List String} {scopes : List Scope}

/-- The loop over the tables. -/
theorem listsTables_of_addTables {start : Catalog}
    (h : tables.foldlM (config.addTable register request) Catalog.empty = .ok start) :
    config.ListsTables register request tables start :=
  Outcome.foldlM_ok (config.ListsTables register request)
    (fun _ _ _ _ hkept hstep ↦ hkept.addTable hstep) listsTables_empty h

/-- A catalog that resolution returns. -/
theorem listsColumns_of_resolve {catalog : Catalog}
    (h : config.resolve register live tables request scopes = .ok catalog) :
    (∀ table ∈ tables, ¬ config.Unfilled register request table) ∧
      config.ListsColumns register live request tables (Scope.references scopes) catalog := by
  obtain ⟨start, htables, hcolumns⟩ := Outcome.bind_eq_ok.mp h
  have hfilled : ∀ table ∈ tables, ¬ config.Unfilled register request table := by
    intro table htable hunfilled
    obtain ⟨c, c', hstep⟩ := Outcome.exists_step_of_foldlM_ok htables htable
    obtain ⟨shortage, hfail⟩ := (addTable_error_iff c).mpr hunfilled
    cases hstep.symm.trans hfail
  have hlists := listsTables_of_addTables htables
  have hcolumnsEmpty : start.columns = [] :=
    Outcome.foldlM_ok (fun _ c ↦ c.columns = [])
      (fun _ _ _ _ hkept hstep ↦ (addTable_columns hstep).trans hkept) rfl htables
  have hstart : config.ListsColumns register live request tables [] start := by
    refine ⟨hlists, fun table column name hentry ↦ ?_, fun ref href ↦ by cases href⟩
    rw [Catalog.newName?, hcolumnsEmpty] at hentry
    cases hentry
  exact ⟨hfilled, Outcome.foldlM_ok (config.ListsColumns register live request tables)
    (fun _ _ _ _ hkept hstep ↦ hkept.addReference hfilled hstep) hstart hcolumns⟩

/-- A column that is in the catalog was found. -/
theorem ListsColumns.not_unmatched {seen : List Reference} {catalog : Catalog} {ref : Reference}
    (hlists : config.ListsColumns register live request tables seen catalog) (href : ref ∈ seen)
    (htables : ∀ table ∈ ref.tables, table ∈ tables) :
    ¬ config.Unmatched register live request ref := by
  rintro ⟨owner, logical, record, howns, hfills, hlacks⟩
  obtain ⟨name, hentry⟩ := hlists.complete ref href owner logical howns (htables owner howns.mem)
  obtain ⟨logical', record', hcolumn, hfills', hname⟩ := hlists.sound owner ref.column name hentry
  cases howns.column?_eq.symm.trans hcolumn
  cases hfills.unique hfills'
  obtain ⟨shortage, hfail⟩ := LiveTables.resolveColumn_error_iff.mpr hlacks
  cases hname.symm.trans hfail

/-- Resolution fails exactly when a table has no import or a column has no candidate. -/
theorem resolve_error_iff
    (hscopes : ∀ ref ∈ Scope.references scopes, ∀ table ∈ ref.tables, table ∈ tables) :
    (∃ shortage, config.resolve register live tables request scopes = .error shortage) ↔
      (∃ table ∈ tables, config.Unfilled register request table) ∨
        ∃ ref ∈ Scope.references scopes, config.Unmatched register live request ref := by
  constructor
  · rintro ⟨shortage, h⟩
    rcases Outcome.bind_eq_error.mp h with h | ⟨start, htables, h⟩
    · obtain ⟨-, table, c, htable, -, hfail⟩ :=
        Outcome.foldlM_error (fun _ _ ↦ True) (fun _ _ _ _ _ _ ↦ trivial)
          trivial h
      exact .inl ⟨table, htable, (addTable_error_iff c).mp ⟨shortage, hfail⟩⟩
    · have hlists := listsTables_of_addTables htables
      obtain ⟨-, ref, c, href, hkept, hfail⟩ :=
        Outcome.foldlM_error (fun _ c ↦ config.ListsTables register request tables c)
          (fun _ _ _ _ hkept hstep ↦ hkept.addReference hstep) hlists h
      obtain ⟨owner, logical, table, howns, htable, hlacks⟩ := addReference_error hfail
      obtain ⟨-, record, hfills, rfl⟩ := (hkept owner table).mp htable
      exact .inr ⟨ref, href, owner, logical, record, howns, hfills, hlacks⟩
  · intro hshortage
    rcases h : config.resolve register live tables request scopes with shortage | catalog
    · exact ⟨shortage, rfl⟩
    · obtain ⟨hfilled, hlists⟩ := listsColumns_of_resolve h
      rcases hshortage with ⟨table, htable, hunfilled⟩ | ⟨ref, href, hunmatched⟩
      · exact absurd hunfilled (hfilled table htable)
      · exact absurd hunmatched (hlists.not_unmatched href (hscopes ref href))

/-- The catalog and the configuration look at the same table for a reference. -/
theorem ListsColumns.resolved {seen : List Reference} {catalog : Catalog} {ref : Reference}
    (hlists : config.ListsColumns register live request tables seen catalog) (href : ref ∈ seen)
    (htables : ∀ table ∈ ref.tables, table ∈ tables) :
    config.Resolved register live request ref
      (catalog.toRenaming.column ref.tables ref.column) := by
  -- Tables that do not configure the column have no entry for it.
  have hnone : ∀ table, config.column? table ref.column = none →
      catalog.newName? table ref.column = none := by
    intro table hcolumn
    rcases hentry : catalog.newName? table ref.column with _ | name
    · rfl
    · obtain ⟨logical, record, hsome, -, -⟩ := hlists.sound table ref.column name hentry
      cases hcolumn.symm.trans hsome
  rcases howner : config.owner? ref.tables ref.column with _ | ⟨owner, logical⟩
  · rw [owner?_eq_none_iff] at howner
    have hmissing : catalog.column? ref.tables ref.column = none := by
      rw [Catalog.column?_eq_findSome?, List.findSome?_eq_none_iff]
      exact fun table htable ↦ hnone table (howner table htable)
    have hkept : catalog.toRenaming.column ref.tables ref.column = ref.column := by
      simp [Catalog.toRenaming, hmissing]
    rw [hkept]
    exact .kept howner
  · rw [owner?_eq_some_iff] at howner
    obtain ⟨name, hentry⟩ :=
      hlists.complete ref href owner logical howner (htables owner howner.mem)
    obtain ⟨logical', record, hcolumn, hfills, hname⟩ := hlists.sound owner ref.column name hentry
    cases howner.column?_eq.symm.trans hcolumn
    have hfound : catalog.toRenaming.column ref.tables ref.column = name := by
      obtain ⟨before, after, hsplit, hbefore, -⟩ := howner
      have hlookup := Catalog.column?_append_cons after
        (fun table htable ↦ hnone table (hbefore table htable)) hentry
      rw [← hsplit] at hlookup
      simp [Catalog.toRenaming, hlookup]
    rw [hfound]
    exact .found howner hfills hname (LiveTables.resolveColumn_mem hname)

end Configuration

/-! ## Indicators -/

/-- Resolution of an indicator fails exactly when a logical table has no import or a column of a
logical table has no candidate. The catalog that it returns otherwise renames every reference of the
indicator as the configuration asks: to the column found for the first table that configures it, or
not at all. -/
theorem resolve_fails_or_renames_references (config : Configuration) (register : List Import)
    (live : LiveTables) (request : Request) (indicator : Indicator) :
    ((∃ shortage, config.resolve register live indicator.tables request indicator.scopes =
        .error shortage) ↔
      (∃ table ∈ indicator.tables, config.Unfilled register request table) ∨
        ∃ ref ∈ indicator.references, config.Unmatched register live request ref) ∧
    ∀ catalog, config.resolve register live indicator.tables request indicator.scopes =
        .ok catalog →
      List.Forall₂ (fun ref new ↦ config.Resolved register live request ref new.column)
        indicator.references (catalog.apply indicator).references := by
  have htables : ∀ ref ∈ Scope.references indicator.scopes, ∀ table ∈ ref.tables,
      table ∈ indicator.tables := by
    intro ref href table htable
    rw [Indicator.mem_references_scopes] at href
    exact Indicator.mem_tables_of_mem_reference href htable
  constructor
  · simp only [Configuration.resolve_error_iff htables, Indicator.mem_references_scopes]
  · intro catalog h
    obtain ⟨-, hlists⟩ := Configuration.listsColumns_of_resolve h
    rw [Catalog.apply, Indicator.references_rename, List.forall₂_map_right_iff,
      List.forall₂_same]
    intro ref href
    rw [← Indicator.mem_references_scopes] at href
    exact hlists.resolved href (htables ref href)

namespace Survey

/-- Two logical tables that configure a column of one name. -/
def naming : Configuration where
  periods := []
  tables :=
    [("la", { tags := ["a"],
              columns := [{ name := "situation", beginnings := ["sa"], keywords := [] }] }),
      ("lb", { tags := ["b"],
               columns := [{ name := "situation", beginnings := ["sb"], keywords := [] }] })]

def register : List Import :=
  [{ tag := "a1", table := "ia", time := .epoch }, { tag := "b1", table := "ib", time := .epoch }]

def live : LiveTables := [("ia", ["id", "sa_x"]), ("ib", ["id", "sb_y"])]

def situationIs (answer : String) : Condition :=
  .compare .eq (.column "situation") (.literal (.text answer))

/-- Reads the column in its main query and in a nested one. -/
def indicator : Indicator where
  subject := { tables := ["la"], conditions := situationIs "x" }
  columns :=
    [{ title := "B"
       body := .aggregation (.aggregate
        { statistic := .count
          column := none
          condition := .empty
          subject := some { tables := ["lb"], conditions := situationIs "y" } }) }]

def catalog : Catalog where
  tables := [("la", "ia"), ("lb", "ib")]
  columns := [("la", [("situation", "sa_x")]), ("lb", [("situation", "sb_y")])]

/-- Each query reads the column of its own import. -/
theorem resolve_renames_shared_column :
    naming.resolve register live indicator.tables .any indicator.scopes = .ok catalog ∧
      List.Forall₂ (fun ref new ↦ naming.Resolved register live .any ref new.column)
        indicator.references (catalog.apply indicator).references :=
  ⟨rfl, (resolve_fails_or_renames_references naming register live .any indicator).2 catalog rfl⟩

end Survey

end Barometer
