import Barometer.Proofs.Compilation.Links
import Barometer.Proofs.Indicator.Renaming
import Barometer.Proofs.Naming.Resolution
import Barometer.Session

/-!
# The domain of a catalog

A catalog lists tables, and columns by their table. Wherever a name stands in an indicator or in a
join rule, it becomes the one that is listed for it, and stays as it is where none is listed. A
catalog that counts as empty lists nothing, also where it knows tables and none of their columns.
Then nothing is renamed, and a run that executes the query of the first compilation has the outcome
of one that compiles again.
-/

namespace Barometer

namespace JoinRule

/-- The columns of a rule, each looked up in its own table. -/
def references (rule : JoinRule) : List Reference :=
  [{ tables := [rule.left], column := rule.leftColumn },
    { tables := [rule.right], column := rule.rightColumn }]

end JoinRule

/-- The columns that join rules speak of. -/
def Options.ruleReferences (options : Options) : List Reference :=
  options.joins.flatMap JoinRule.references

namespace Catalog

def ListsTable (c : Catalog) (table : String) : Prop :=
  ∃ name, c.tables.get? table = some name

/-- Whether a column is listed for one of the tables that it is looked up in. -/
def ListsColumn (c : Catalog) (ref : Reference) : Prop :=
  ∃ table ∈ ref.tables, ∃ name, c.newName? table ref.column = some name

/-- Whether none of some tables and references is listed. -/
structure Misses (c : Catalog) (tables : List String) (refs : List Reference) : Prop where
  tables : ∀ table ∈ tables, ¬ c.ListsTable table
  columns : ∀ ref ∈ refs, ¬ c.ListsColumn ref

/-- What a table is called in the names of a catalog. -/
inductive CallsTable (c : Catalog) (table : String) : String → Prop where
  | listed {name : String} : c.tables.get? table = some name → CallsTable c table name
  | kept : ¬ c.ListsTable table → CallsTable c table table

/-- What a column is called in the names of a catalog: the first table that it is listed for gives
the name. -/
inductive CallsColumn (c : Catalog) (ref : Reference) : String → Prop where
  | listed {before after : List String} {table name : String} :
      ref.tables = before ++ table :: after → c.newName? table ref.column = some name →
      (∀ other ∈ before, c.newName? other ref.column = none) → CallsColumn c ref name
  | kept : ¬ c.ListsColumn ref → CallsColumn c ref ref.column

/-- Whether a second list of tables and one of references have the names that the catalog gives to
those of a first one, place by place. -/
structure Renames (c : Catalog) (tables tables' : List String) (refs refs' : List Reference) :
    Prop where
  tables : List.Forall₂ c.CallsTable tables tables'
  columns : List.Forall₂ (fun old new ↦ c.CallsColumn old new.column) refs refs'

variable {c : Catalog}

/-- A table is called what the catalog lists for it, and otherwise as it was. -/
theorem callsTable (c : Catalog) (table : String) :
    c.CallsTable table (c.toRenaming.table table) := by
  rcases hname : c.tables.get? table with _ | name
  · have hkept : c.toRenaming.table table = table := by simp [toRenaming, hname]
    rw [hkept]
    apply CallsTable.kept
    rintro ⟨name, hsome⟩
    cases hname.symm.trans hsome
  · have hlisted : c.toRenaming.table table = name := by simp [toRenaming, hname]
    rw [hlisted]
    exact .listed hname

/-- A column is called what the first of its tables that knows it has for it. -/
theorem callsColumn (c : Catalog) (ref : Reference) :
    c.CallsColumn ref (c.toRenaming.column ref.tables ref.column) := by
  rcases hname : c.column? ref.tables ref.column with _ | name
  · have hkept : c.toRenaming.column ref.tables ref.column = ref.column := by
      simp [toRenaming, hname]
    rw [hkept]
    apply CallsColumn.kept
    rintro ⟨table, htable, name, hsome⟩
    cases (List.findSome?_eq_none_iff.mp hname table htable).symm.trans hsome
  · have hlisted : c.toRenaming.column ref.tables ref.column = name := by
      simp [toRenaming, hname]
    rw [hlisted]
    obtain ⟨before, table, after, htables, htable, hbefore⟩ := List.findSome?_eq_some_iff.mp hname
    exact .listed htables htable hbefore

theorem CallsTable.eq_of_not_listed {table name : String} (h : c.CallsTable table name)
    (hnot : ¬ c.ListsTable table) : name = table := by
  cases h with
  | listed hname => exact absurd ⟨name, hname⟩ hnot
  | kept _ => rfl

/-- Names that a catalog does not list are kept. -/
theorem CallsColumn.eq_of_not_listed {ref : Reference} {name : String} (h : c.CallsColumn ref name)
    (hnot : ¬ c.ListsColumn ref) : name = ref.column := by
  cases h with
  | @listed before after table _ htables hname _ =>
    have htable : table ∈ ref.tables := by simp [htables]
    exact absurd ⟨table, htable, name, hname⟩ hnot
  | kept _ => rfl

/-- A catalog misses names that it has nothing for. -/
theorem misses_of_eq_none {tables : List String} {refs : List Reference}
    (htables : ∀ table ∈ tables, c.tables.get? table = none)
    (hcolumns : ∀ ref ∈ refs, ∀ table ∈ ref.tables, c.newName? table ref.column = none) :
    c.Misses tables refs where
  tables := by
    rintro table htable ⟨name, hname⟩
    cases (htables table htable).symm.trans hname
  columns := by
    rintro ref href ⟨table, htable, name, hname⟩
    cases (hcolumns ref href table htable).symm.trans hname

/-- Applying a catalog to names one by one renames all of them. -/
theorem renames_map (c : Catalog) (tables : List String) (refs : List Reference) :
    c.Renames tables (tables.map c.toRenaming.table) refs
      (refs.map c.toRenaming.reference) where
  tables := by
    rw [List.forall₂_map_right_iff, List.forall₂_same]
    exact fun table _ ↦ c.callsTable table
  columns := by
    rw [List.forall₂_map_right_iff, List.forall₂_same]
    exact fun ref _ ↦ c.callsColumn ref

/-- An indicator of other names stays what it is. -/
theorem Misses.apply_eq_self {indicator : Indicator}
    (h : c.Misses indicator.mentionedTables indicator.references) :
    c.apply indicator = indicator := by
  apply Indicator.rename_eq_self
  · intro table htable
    exact (c.callsTable table).eq_of_not_listed (h.tables table htable)
  · intro ref href
    exact (c.callsColumn ref).eq_of_not_listed (h.columns ref href)

/-- The tables of rules are renamed in place. -/
theorem ruleTables_applyJoins (c : Catalog) (options : Options) :
    (c.applyJoins options).ruleTables = options.ruleTables.map c.toRenaming.table := by
  simp only [Options.ruleTables, applyJoins, List.flatMap_map, List.map_flatMap, applyRule,
    List.map_cons, List.map_nil]

theorem ruleReferences_applyJoins (c : Catalog) (options : Options) :
    (c.applyJoins options).ruleReferences =
      options.ruleReferences.map c.toRenaming.reference := by
  simp only [Options.ruleReferences, JoinRule.references, applyJoins, List.flatMap_map,
    List.map_flatMap, applyRule, Renaming.reference, List.map_cons, List.map_nil]

/-- A rule has no other names than those of its two sides. -/
theorem Misses.applyRule_eq_self {rule : JoinRule}
    (h : c.Misses [rule.left, rule.right] rule.references) : c.applyRule rule = rule := by
  have htable {table : String} (hmem : table ∈ [rule.left, rule.right]) :
      c.toRenaming.table table = table :=
    (c.callsTable table).eq_of_not_listed (h.tables table hmem)
  have hcolumn {ref : Reference} (hmem : ref ∈ rule.references) :
      c.toRenaming.column ref.tables ref.column = ref.column :=
    (c.callsColumn ref).eq_of_not_listed (h.columns ref hmem)
  rcases rule with ⟨left, right, leftColumn, rightColumn⟩
  rw [applyRule, JoinRule.mk.injEq]
  refine ⟨?_, ?_, ?_, ?_⟩
  · exact htable List.mem_cons_self
  · exact htable (List.mem_cons_of_mem _ List.mem_cons_self)
  · exact hcolumn List.mem_cons_self
  · exact hcolumn (List.mem_cons_of_mem _ List.mem_cons_self)

theorem Misses.applyJoins_eq_self {options : Options}
    (h : c.Misses options.ruleTables options.ruleReferences) : c.applyJoins options = options := by
  have hrule : ∀ rule ∈ options.joins, c.applyRule rule = id rule := by
    intro rule hrule
    apply Misses.applyRule_eq_self
    constructor
    · intro table htable
      exact h.tables table (List.mem_flatMap.mpr ⟨rule, hrule, htable⟩)
    · intro ref href
      exact h.columns ref (List.mem_flatMap.mpr ⟨rule, hrule, href⟩)
  rw [applyJoins, List.map_congr_left hrule, List.map_id]

section Empty

variable (h : c.isEmpty = true)

include h

/-- The test asks for the tables as a whole and for the columns one table at a time: there may be
tables, as long as none of them has a column. -/
theorem misses_of_isEmpty (tables : List String) (refs : List Reference) :
    c.Misses tables refs := by
  rw [isEmpty, Bool.and_eq_true, List.isEmpty_iff, List.all_eq_true] at h
  obtain ⟨htables, hcolumns⟩ := h
  apply misses_of_eq_none
  · intro table _
    rw [htables]
    rfl
  · intro ref _ table _
    rw [newName?, Option.bind_eq_none_iff]
    intro columns hentry
    have hnone : columns = [] :=
      List.isEmpty_iff.mp (hcolumns (table, columns) (Dictionary.mem_of_get?_eq_some hentry))
    rw [hnone]
    rfl

theorem apply_of_isEmpty (indicator : Indicator) : c.apply indicator = indicator :=
  (misses_of_isEmpty h indicator.mentionedTables indicator.references).apply_eq_self

theorem applyJoins_of_isEmpty (options : Options) : c.applyJoins options = options :=
  (misses_of_isEmpty h options.ruleTables options.ruleReferences).applyJoins_eq_self

/-- So compiling again under an empty catalog is compiling. -/
theorem queryOf_of_isEmpty (options : Options) (indicator : Indicator) :
    Store.Database.queryOf options c indicator = indicator.toQuery options := by
  rw [Store.Database.queryOf, apply_of_isEmpty h, applyJoins_of_isEmpty h]

end Empty

end Catalog

namespace Store.Database

/-- Runs an indicator, compiled again in the names of the catalog even if it is empty. -/
def runRecompiled (db : Database) (options : RunOptions) (indicator : Indicator) :
    Except Failure ResultSet := do
  let _ ← (indicator.toQuery options.compilation).mapError .defect
  let catalog ← db.catalogOf options.naming options.request indicator
  let query ← (queryOf options.compilation catalog indicator).mapError .defect
  let result ← (db.run options.compilation.dialect query).mapError .fault
  return .ofStore (query.statement options.compilation.dialect) result

/-- The first compilation and the catalog are the same in both runs, and fail alike. Where they do
not fail, an empty catalog gives the second compilation the query of the first one. -/
theorem runIndicator_eq_runRecompiled (db : Database) (options : RunOptions)
    (indicator : Indicator) :
    db.runIndicator options indicator = db.runRecompiled options indicator := by
  unfold runIndicator runRecompiled
  rcases hcompiled : indicator.toQuery options.compilation with defect | compiled
  · rfl
  rcases db.catalogOf options.naming options.request indicator with failure | catalog
  · rfl
  by_cases hempty : catalog.isEmpty = true
  · have hquery : queryOf options.compilation catalog indicator = .ok compiled := by
      rw [Catalog.queryOf_of_isEmpty hempty, hcompiled]
    simp only [bind, Except.bind, Except.mapError, hempty, hquery, if_true]
  · simp only [bind, Except.bind, hempty, Bool.false_eq_true, if_false]

end Store.Database

/-- A catalog brings the names that it lists to what it lists for them, and keeps all others, in an
indicator as well as in join rules; where it lists none of the names, nothing else changes either.
An empty one lists nothing: compiling again gives the query or the defect of the first compilation,
and a run that leaves it out under empty catalogs has the outcome of one that never does. -/
theorem Catalog.renames_listed_only (c : Catalog) (options : Options) (indicator : Indicator) :
    (c.isEmpty = true →
      c.apply indicator = indicator ∧ c.applyJoins options = options ∧
        Store.Database.queryOf options c indicator = indicator.toQuery options) ∧
    (∀ (db : Store.Database) (run : RunOptions),
      db.runIndicator run indicator = db.runRecompiled run indicator) ∧
    (c.Renames indicator.mentionedTables (c.apply indicator).mentionedTables
        indicator.references (c.apply indicator).references ∧
      (c.Misses indicator.mentionedTables indicator.references → c.apply indicator = indicator)) ∧
    c.Renames options.ruleTables (c.applyJoins options).ruleTables
        options.ruleReferences (c.applyJoins options).ruleReferences ∧
      (c.Misses options.ruleTables options.ruleReferences → c.applyJoins options = options) := by
  refine ⟨fun h ↦ ?_, fun db run ↦ ?_, ⟨?_, Misses.apply_eq_self⟩, ?_, Misses.applyJoins_eq_self⟩
  · exact ⟨apply_of_isEmpty h indicator, applyJoins_of_isEmpty h options,
      queryOf_of_isEmpty h options indicator⟩
  · exact db.runIndicator_eq_runRecompiled run indicator
  · rw [apply, Indicator.mentionedTables_rename, Indicator.references_rename]
    exact c.renames_map indicator.mentionedTables indicator.references
  · rw [ruleTables_applyJoins, ruleReferences_applyJoins]
    exact c.renames_map options.ruleTables options.ruleReferences

namespace Households

def unfilled : Catalog where
  tables := []
  columns := [("communes", []), ("foyers", [])]

def foreign : Catalog where
  tables := [("regions", "import_7")]
  columns := [("regions", [("code", "code_region"), ("region", "nom")])]

def options : Options :=
  { Options.default with
    joins :=
      [{ left := "communes", right := "foyers", leftColumn := "code", rightColumn := "commune" }] }

def indicator : Indicator where
  subject :=
    { tables := ["communes", "foyers"]
      conditions := .compare .eq (.column "region") (.literal (.text "bretagne")) }
  columns :=
    [{ title := "Personnes"
       body := .aggregation (.aggregate
        { statistic := .sum
          column := some "personnes"
          condition := .empty
          subject := some { tables := ["foyers"], conditions := .empty } }) }]

/-- A catalog that knows two tables and none of their columns, and one that lists names of a third
table. -/
theorem renames_listed_only_households :
    (unfilled.isEmpty = true ∧ unfilled.apply indicator = indicator ∧
      unfilled.applyJoins options = options ∧
      Store.Database.queryOf options unfilled indicator = indicator.toQuery options) ∧
    (foreign.Misses indicator.mentionedTables indicator.references ∧
      foreign.apply indicator = indicator) ∧
    foreign.Misses options.ruleTables options.ruleReferences ∧
      foreign.applyJoins options = options := by
  have hindicator : foreign.Misses indicator.mentionedTables indicator.references :=
    Catalog.misses_of_eq_none (by decide) (by decide)
  have hoptions : foreign.Misses options.ruleTables options.ruleReferences :=
    Catalog.misses_of_eq_none (by decide) (by decide)
  obtain ⟨-, -, ⟨-, hkept⟩, -, hkeptJoins⟩ :=
    Catalog.renames_listed_only foreign options indicator
  exact ⟨⟨rfl, (Catalog.renames_listed_only unfilled options indicator).1 rfl⟩,
    ⟨hindicator, hkept hindicator⟩, hoptions, hkeptJoins hoptions⟩

end Households

end Barometer
