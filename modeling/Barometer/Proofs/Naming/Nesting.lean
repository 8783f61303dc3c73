import Barometer.Indicator.Reader
import Barometer.Proofs.Naming.Resolution

/-!
# Columns of nested queries

A column of a nested query is looked up in the tables of that query and then in those of the query
around it, and the first table that configures it gives it its name. Tables that have the column
without configuring it are passed over. So the nested query reads a column of its own exactly if one
of its tables configures it, if no table around does, or if the name found there is the same one. In
all other cases it reads a column of the enclosing query, even where a table of its own has one.
-/

namespace Barometer

namespace Configuration

variable {config : Configuration} {register : List Import} {live : LiveTables} {request : Request}
  {own outer : List String} {column : String}

/-- A nested query gets the name that the first enclosing table with a configured column has for it,
because none of its own tables configures it. -/
def Captured (config : Configuration) (register : List Import) (live : LiveTables)
    (request : Request) (own outer : List String) (column name : String) : Prop :=
  (∀ table ∈ own, config.column? table column = none) ∧ name ≠ column ∧
    ∃ owner logical record, config.Owns outer column owner logical ∧
      config.Fills register request owner record ∧
      live.resolveColumn record.table logical = .ok name

/-- A nested query reads a column as a query over its own tables alone does. `physical` are these
tables in the database: where one of them has the column, the new name is one of their columns. -/
structure ReadsOwn (config : Configuration) (register : List Import) (live : LiveTables)
    (request : Request) (own physical : List String) (column new : String) : Prop where
  resolved : config.Resolved register live request { tables := own, column } new
  present : (∃ table ∈ physical, column ∈ live.columnsOf table) →
    ∃ table ∈ physical, new ∈ live.columnsOf table

/-- Tables further out are looked through only if none within configures the column. -/
theorem owns_append {owner : String} {logical : LogicalColumn} :
    config.Owns (own ++ outer) column owner logical ↔
      config.Owns own column owner logical ∨
        (∀ table ∈ own, config.column? table column = none) ∧
          config.Owns outer column owner logical := by
  rw [← owner?_eq_some_iff, ← owner?_eq_some_iff, ← owner?_eq_some_iff, ← owner?_eq_none_iff]
  simp only [owner?, List.findSome?_append, Option.or_eq_some_iff]

/-- The name of a column is found among the own tables, or it is captured. -/
theorem Resolved.of_append {new : String}
    (h : config.Resolved register live request { tables := own ++ outer, column } new) :
    config.Resolved register live request { tables := own, column } new ∨
      config.Captured register live request own outer column new := by
  cases h with
  | kept hnone => exact .inl (.kept fun table htable ↦ hnone table (List.mem_append_left _ htable))
  | @found owner _ logical record howns hfills hname hmem =>
    rcases owns_append.mp howns with howns | ⟨hnone, howns⟩
    · exact .inl (.found howns hfills hname hmem)
    · by_cases hsame : new = column
      · subst hsame
        exact .inl (.kept hnone)
      · exact .inr ⟨hnone, hsame, owner, logical, record, howns, hfills, hname⟩

/-- Among the own tables a captured column would have kept its name. -/
theorem Captured.eq_of_resolved_own {name new : String}
    (h : config.Captured register live request own outer column name)
    (hnew : config.Resolved register live request { tables := own, column } new) :
    new = column := by
  cases hnew with
  | kept _ => rfl
  | found howns _ _ _ => cases howns.column?_eq.symm.trans (h.1 _ howns.mem)

/-- With the enclosing tables behind the own ones it gets the name found there. -/
theorem Captured.eq_of_resolved_append {name new : String}
    (h : config.Captured register live request own outer column name)
    (hnew : config.Resolved register live request { tables := own ++ outer, column } new) :
    new = name := by
  obtain ⟨hnone, -, owner, logical, record, howns, hfills, hname⟩ := h
  have hall := owns_append.mpr (.inr ⟨hnone, howns⟩)
  cases hnew with
  | kept hkept => cases hall.column?_eq.symm.trans (hkept owner hall.mem)
  | found howns' hfills' hname' _ =>
    obtain ⟨rfl, rfl⟩ := hall.unique howns'
    cases hfills.unique hfills'
    exact Except.ok.inj (hname'.symm.trans hname)

/-- What the own tables have of a column that is not captured. -/
theorem ListsColumns.readsOwn_iff {tables : List String} {seen : List Reference}
    {catalog : Catalog} {new : String}
    (hlists : config.ListsColumns register live request tables seen catalog)
    (hown : ∀ table ∈ own, table ∈ tables)
    (hnew : config.Resolved register live request { tables := own ++ outer, column } new) :
    config.ReadsOwn register live request own (own.map catalog.toRenaming.table) column new ↔
      ¬ ∃ name, config.Captured register live request own outer column name := by
  constructor
  · rintro hreads ⟨name, hcaptured⟩
    have hsame : name = column :=
      (hcaptured.eq_of_resolved_append hnew).symm.trans
        (hcaptured.eq_of_resolved_own hreads.resolved)
    exact hcaptured.2.1 hsame
  · intro hfree
    have hresolved : config.Resolved register live request { tables := own, column } new := by
      rcases hnew.of_append with hresolved | hcaptured
      · exact hresolved
      · exact absurd ⟨new, hcaptured⟩ hfree
    refine ⟨hresolved, fun hpresent ↦ ?_⟩
    cases hresolved with
    | kept _ => exact hpresent
    | @found owner _ logical record howns hfills _ hmem =>
      have hphysical := hlists.listsTables.toRenaming_table (hown owner howns.mem) hfills
      exact ⟨record.table, List.mem_map.mpr ⟨owner, howns.mem, hphysical⟩, hmem⟩

/-- A captured column gets a name that a table of the enclosing query has. -/
theorem ListsColumns.captured_mem {tables : List String} {seen : List Reference}
    {catalog : Catalog} {name : String}
    (hlists : config.ListsColumns register live request tables seen catalog)
    (houter : ∀ table ∈ outer, table ∈ tables)
    (h : config.Captured register live request own outer column name) :
    ∃ table ∈ outer.map catalog.toRenaming.table, name ∈ live.columnsOf table := by
  obtain ⟨-, -, owner, logical, record, howns, hfills, hname⟩ := h
  have hphysical := hlists.listsTables.toRenaming_table (houter owner howns.mem) hfills
  exact ⟨record.table, List.mem_map.mpr ⟨owner, howns.mem, hphysical⟩,
    LiveTables.resolveColumn_mem hname⟩

end Configuration

/-- After a successful resolution every column that an aggregate with a subject reads, wherever in
the aggregate it stands, is read from the tables of the subject, unless none of them configures it
and a table of the main query gives it another name. Then it is that name, and a column of the main
query. -/
theorem nested_references_readOwn_iff_not_captured {config : Configuration}
    {register : List Import} {live : LiveTables} {request : Request} {indicator : Indicator}
    {catalog : Catalog}
    (h : config.resolve register live indicator.tables request indicator.scopes = .ok catalog) :
    List.Forall₂
      (fun a renamed ↦ ∀ subject, a.subject = some subject →
        List.Forall₂
          (fun ref new ↦
            (config.ReadsOwn register live request subject.tables
                (subject.tables.map catalog.toRenaming.table) ref.column new.column ↔
              ¬ ∃ name, config.Captured register live request subject.tables
                indicator.subject.tables ref.column name) ∧
            ∀ name, config.Captured register live request subject.tables
                indicator.subject.tables ref.column name →
              new.column = name ∧
                ∃ table ∈ (catalog.apply indicator).subject.tables, name ∈ live.columnsOf table)
          (a.references indicator.subject.tables)
          (renamed.references (catalog.apply indicator).subject.tables))
      indicator.aggregates (catalog.apply indicator).aggregates := by
  obtain ⟨-, hlists⟩ := Configuration.listsColumns_of_resolve h
  rw [Catalog.apply, Indicator.aggregates_rename, List.forall₂_map_right_iff, List.forall₂_same]
  intro a ha subject hsubject
  have hrenamed : (a.rename catalog.toRenaming indicator.subject.tables).references
      (indicator.rename catalog.toRenaming).subject.tables =
        (a.references indicator.subject.tables).map catalog.toRenaming.reference :=
    a.references_rename catalog.toRenaming indicator.subject.tables
  rw [hrenamed, List.forall₂_map_right_iff, List.forall₂_same]
  intro ref href
  have hscope : ref.tables = subject.tables ++ indicator.subject.tables := by
    rw [Aggregation.tables_of_mem_references href, Aggregation.scope, hsubject]
  have hmem := Indicator.mem_references_of_aggregate ha href
  have hnew : config.Resolved register live request
      { tables := subject.tables ++ indicator.subject.tables, column := ref.column }
      (catalog.toRenaming.reference ref).column := by
    rw [← hscope]
    exact hlists.resolved ((indicator.mem_references_scopes ref).mpr hmem) fun table htable ↦
      Indicator.mem_tables_of_mem_reference hmem htable
  refine ⟨hlists.readsOwn_iff (fun table ↦ Indicator.mem_tables_of_mem_aggregate ha hsubject) hnew,
    fun name hcaptured ↦ ⟨hcaptured.eq_of_resolved_append hnew, ?_⟩⟩
  exact hlists.captured_mem (fun table ↦ Indicator.mem_tables_of_mem_subject) hcaptured

namespace Interviews

/-- Of two tables with a column of one name only that of the main query configures it. -/
def naming : Configuration where
  periods := []
  tables :=
    [("la", { tags := ["a"],
              columns := [{ name := "situation", beginnings := ["sa"], keywords := [] }] }),
      ("lb", { tags := ["b"], columns := [] })]

def live : LiveTables := [("ia", ["id", "sa_x"]), ("ib", ["id", "situation"])]

def situationNode (answer : String) : Json :=
  .object [("=", .array [.object [("col", .string "situation")], .string answer])]

/-- The indicator that reads the column in its main query and in a nested one, as it is written. -/
def node : Json :=
  .object
    [("sujet", .object [("tables", .array [.string "la"]), ("conditions", situationNode "x")]),
      ("colonnes", .array [.object
        [("type", .string "aggregation"), ("titre", .string "B"),
          ("expr", .object
            [("agg", .string "count"),
              ("sujet", .object
                [("tables", .array [.string "lb"]), ("conditions", situationNode "y")])])]])]

def catalog : Catalog where
  tables := [("la", "ia"), ("lb", "ib")]
  columns := [("la", [("situation", "sa_x")])]

/-- The column of the inner table is not looked for, since the outer one configures it. -/
theorem captured : naming.Captured Survey.register live .any ["lb"] ["la"] "situation" "sa_x" := by
  refine ⟨fun table htable ↦ ?_, by decide, "la", _, _, ⟨[], [], rfl, nofun, rfl⟩, ⟨_, rfl, rfl⟩,
    rfl⟩
  cases List.mem_singleton.mp htable
  rfl

/-- The nested query counts by the column of the main one. -/
theorem nested_references_readOwn_iff_not_captured_situation :
    naming.resolve Survey.register live Survey.indicator.tables .any Survey.indicator.scopes =
        .ok catalog ∧
      ¬ naming.ReadsOwn Survey.register live .any ["lb"] ["ib"] "situation" "sa_x" ∧
      ∃ table ∈ ["ia"], "sa_x" ∈ live.columnsOf table := by
  have hresolve : naming.resolve Survey.register live Survey.indicator.tables .any
      Survey.indicator.scopes = .ok catalog := rfl
  cases nested_references_readOwn_iff_not_captured hresolve with
  | cons hnested _ =>
    cases hnested _ rfl with
    | cons href _ =>
      obtain ⟨-, htable⟩ := href.2 "sa_x" captured
      exact ⟨hresolve, fun hreads ↦ href.1.mp hreads ⟨"sa_x", captured⟩, htable⟩

/-- A column that the table of a nested query has is not read from it. -/
theorem not_nested_references_readOwn :
    ¬ ∀ (config : Configuration) (register : List Import) (live : LiveTables) (request : Request)
      (node : Json) (indicator : Indicator) (catalog : Catalog),
      Indicator.read node = .ok indicator →
      config.resolve register live indicator.tables request indicator.scopes = .ok catalog →
      List.Forall₂
        (fun a renamed ↦ ∀ subject, a.subject = some subject →
          List.Forall₂
            (fun ref new ↦
              (∃ table ∈ subject.tables,
                ref.column ∈ live.columnsOf (catalog.toRenaming.table table)) →
              ∃ table ∈ subject.tables,
                new.column ∈ live.columnsOf (catalog.toRenaming.table table))
            (a.references indicator.subject.tables)
            (renamed.references (catalog.apply indicator).subject.tables))
        indicator.aggregates (catalog.apply indicator).aggregates := by
  intro hclaim
  have hread : Indicator.read node = .ok Survey.indicator := by with_unfolding_all rfl
  cases hclaim naming Survey.register live .any node _ catalog hread rfl with
  | cons hnested _ =>
    cases hnested _ rfl with
    | cons href _ =>
      obtain ⟨table, htable, hnew⟩ := href ⟨"lb", by decide, by decide⟩
      cases List.mem_singleton.mp htable
      exact absurd hnew (by decide)

end Interviews

end Barometer
