import Barometer.Proofs.Indicator.WellFormed
import Barometer.Proofs.Naming.Domain

/-!
# What can go wrong in compilation

An indicator that has been read is compiled without a defect, unless it looks at no tables at all.
All else that compilation refuses has been refused by the reader before, and renaming does not bring
it back. A run of an indicator that has been read therefore finds no other defect either.
-/

namespace Barometer

open Sql (Expr)

namespace Expression

variable {α β ε : Type} {kept : α → Prop} {f : α → Except ε β}

mutual

/-- A well formed expression is compiled if all its aggregates are. -/
theorem WellFormed.exists_traverse (hf : ∀ a, kept a → ∃ b, f a = .ok b) {e : Expression α}
    (h : e.WellFormed kept) : ∃ e', traverse f e = .ok e' := by
  cases e with
  | literal value => exact ⟨_, rfl⟩
  | column name => exact ⟨_, rfl⟩
  | operation op args =>
    obtain ⟨args', hargs⟩ := AllWellFormed.exists_traverseAll hf h.2
    exact ⟨.operation op args', by rw [traverse, hargs]; rfl⟩
  | aggregate a =>
    obtain ⟨b, hb⟩ := hf a h
    exact ⟨.aggregate b, by rw [traverse, hb]; rfl⟩

theorem AllWellFormed.exists_traverseAll (hf : ∀ a, kept a → ∃ b, f a = .ok b)
    {es : List (Expression α)} (h : AllWellFormed kept es) : ∃ es', traverseAll f es = .ok es' := by
  cases es with
  | nil => exact ⟨[], rfl⟩
  | cons e rest =>
    obtain ⟨e', he⟩ := WellFormed.exists_traverse hf h.1
    obtain ⟨rest', hrest⟩ := AllWellFormed.exists_traverseAll hf h.2
    exact ⟨e' :: rest', by rw [traverseAll, he, hrest]; rfl⟩

end

end Expression

namespace Options

/-- Any table will do for a place to start from. -/
theorem exists_sources (options : Options) {tables : List String} (h : tables ≠ []) :
    ∃ sources, options.sources tables = .ok sources := by
  cases tables with
  | nil => exact absurd rfl h
  | cons first rest => exact ⟨_, rfl⟩

theorem sources_nil (options : Options) : options.sources [] = .error .noTables := rfl

end Options

/-- A count can do without an argument, and nothing else has to. -/
theorem Statistic.exists_call {statistic : Statistic} {arg : Option Expr}
    (h : arg = none → statistic = .count) : ∃ call, statistic.call arg = .ok call := by
  cases arg with
  | none =>
    rw [h rfl]
    exact ⟨_, rfl⟩
  | some arg => cases statistic <;> exact ⟨_, rfl⟩

namespace Aggregation

variable {a : Aggregation}

/-- Whatever is collected has a function that its argument fits. -/
theorem WellFormed.exists_collected (h : a.WellFormed) : ∃ value, a.collected = .ok value := by
  unfold collected
  split
  · exact ⟨_, rfl⟩
  · rename_i hcount
    split
    · exact ⟨_, rfl⟩
    · rename_i hcolumn
      rw [h.column hcolumn] at hcount
      exact absurd rfl hcount

/-- Neither the column of an aggregate nor the tables of its subject can be missing. -/
theorem WellFormed.exists_toSql (h : a.WellFormed) (options : Options) :
    ∃ e, a.toSql options = .ok e := by
  have hcolumn : a.column.map columnExpr = none → a.statistic = .count :=
    fun hnone ↦ h.column (Option.map_eq_none_iff.mp hnone)
  obtain ⟨call, hcall⟩ := Statistic.exists_call hcolumn
  unfold toSql
  split
  · rename_i subject hsubject
    obtain ⟨⟨first, joins⟩, hsources⟩ := options.exists_sources (h.tables subject hsubject)
    rw [hsources, hcall]
    exact ⟨_, rfl⟩
  · split
    · exact ⟨call, hcall⟩
    · obtain ⟨value, hvalue⟩ := h.exists_collected
      rw [hvalue]
      exact Statistic.exists_call nofun

end Aggregation

theorem Measure.WellFormed.exists_toSql {m : Measure} (h : m.WellFormed) (options : Options) :
    ∃ e, m.toSql options = .ok e := by
  have haggregates : ∀ a : Aggregation, a.WellFormed → ∃ e, a.toSql options = .ok e :=
    fun _ ha ↦ ha.exists_toSql options
  obtain ⟨m', hm'⟩ := Expression.WellFormed.exists_traverse haggregates h
  exact ⟨_, by rw [Measure.toSql, hm']; rfl⟩

/-- Grouping columns and case distinctions have nothing that could be refused. -/
theorem ColumnBody.WellFormed.exists_toSql {body : ColumnBody} (h : body.WellFormed)
    (options : Options) : ∃ e, body.toSql options = .ok e := by
  cases body with
  | groupBy value => exact ⟨_, rfl⟩
  | cases arms => exact ⟨_, rfl⟩
  | aggregation m => exact Measure.WellFormed.exists_toSql h options

namespace Indicator

variable {indicator : Indicator}

theorem WellFormed.exists_columnExprs (h : indicator.WellFormed) (options : Options) :
    ∃ exprs, indicator.columnExprs options = .ok exprs :=
  Outcome.exists_mapM fun column hcolumn ↦ (h.columns column hcolumn).exists_toSql options

/-- Compilation asks for tables first, and then there is nothing more that it could miss. -/
theorem WellFormed.toQuery_error_iff (h : indicator.WellFormed) (options : Options)
    (defect : Defect) :
    indicator.toQuery options = .error defect ↔
      indicator.subject.tables = [] ∧ defect = .noTables := by
  obtain ⟨exprs, hexprs⟩ := h.exists_columnExprs options
  by_cases htables : indicator.subject.tables = []
  · rw [toQuery, htables, options.sources_nil]
    constructor
    · rintro ⟨⟩
      exact ⟨rfl, rfl⟩
    · rintro ⟨-, rfl⟩
      rfl
  · obtain ⟨⟨first, joins⟩, hsources⟩ := options.exists_sources htables
    rw [toQuery, hsources, hexprs]
    constructor
    · intro hok
      cases hok
    · rintro ⟨hnil, -⟩
      exact absurd hnil htables

/-- Nothing but missing tables keeps a well formed indicator from a statement. -/
theorem WellFormed.toStatement_error_iff (h : indicator.WellFormed) (options : Options)
    (defect : Defect) :
    indicator.toStatement options = .error defect ↔
      indicator.subject.tables = [] ∧ defect = .noTables := by
  have hmap : indicator.toStatement options = .error defect ↔
      indicator.toQuery options = .error defect := by
    rw [toStatement]
    cases indicator.toQuery options with
    | error other => simp [Except.map]
    | ok query => simp [Except.map]
  rw [hmap, h.toQuery_error_iff]

theorem WellFormed.apply (h : indicator.WellFormed) (catalog : Catalog) :
    (catalog.apply indicator).WellFormed :=
  h.rename catalog.toRenaming

/-- Tables of a database take the places of those of an indicator. -/
theorem tables_apply_eq_nil_iff (catalog : Catalog) (indicator : Indicator) :
    (catalog.apply indicator).subject.tables = [] ↔ indicator.subject.tables = [] :=
  List.map_eq_nil_iff

end Indicator

namespace Store.Database

variable {indicator : Indicator}

/-- A catalog is not to be had when the database lacks something, or cannot be read. -/
theorem catalogOf_ne_defect (db : Database) (naming : Configuration) (request : Request)
    (indicator : Indicator) (defect : Defect) :
    db.catalogOf naming request indicator ≠ .error (.defect defect) := by
  intro h
  unfold catalogOf at h
  split at h
  · rcases Outcome.bind_eq_error.mp h with h | ⟨register, -, h⟩
    · obtain ⟨fault, -, hfault⟩ := Outcome.mapError_eq_error.mp h
      cases hfault
    · obtain ⟨shortage, -, hshortage⟩ := Outcome.mapError_eq_error.mp h
      cases hshortage
  · cases h

/-- The second compilation of a run has nothing to refuse that the first one has not refused. -/
theorem runIndicator_defect_iff (h : indicator.WellFormed) (db : Database) (options : RunOptions)
    (defect : Defect) :
    db.runIndicator options indicator = .error (.defect defect) ↔
      indicator.subject.tables = [] ∧ defect = .noTables := by
  rw [runIndicator_eq_runRecompiled]
  have hfirst := h.toQuery_error_iff options.compilation defect
  -- Statements that are run can fail, but then not for a defect.
  have hresult (query : Sql.Query) :
      ((db.run options.compilation.dialect query).mapError Failure.fault).bind (fun result ↦
        .ok (ResultSet.ofStore (query.statement options.compilation.dialect) result)) ≠
        .error (.defect defect) := by
    intro hrun
    rcases Outcome.bind_eq_error.mp hrun with hrun | ⟨result, -, hrun⟩
    · obtain ⟨fault, -, hfault⟩ := Outcome.mapError_eq_error.mp hrun
      cases hfault
    · cases hrun
  constructor
  · intro hrun
    rcases Outcome.bind_eq_error.mp hrun with hrun | ⟨compiled, -, hrun⟩
    · obtain ⟨found, hfound, hdefect⟩ := Outcome.mapError_eq_error.mp hrun
      cases hdefect
      exact hfirst.mp hfound
    rcases Outcome.bind_eq_error.mp hrun with hrun | ⟨catalog, -, hrun⟩
    · exact absurd hrun (db.catalogOf_ne_defect options.naming options.request indicator defect)
    rcases Outcome.bind_eq_error.mp hrun with hrun | ⟨query, -, hrun⟩
    · obtain ⟨found, hfound, hdefect⟩ := Outcome.mapError_eq_error.mp hrun
      cases hdefect
      rwa [queryOf, (h.apply catalog).toQuery_error_iff,
        Indicator.tables_apply_eq_nil_iff] at hfound
    · exact absurd hrun (hresult query)
  · intro hnone
    rw [runRecompiled, hfirst.mpr hnone]
    rfl

end Store.Database

/-- An indicator that can be read is refused by compilation if it looks at no tables, for this
reason and no other. The same is true of the indicator in the names of any catalog, and of runs:
they find a defect only where the first compilation finds it. -/
theorem Indicator.compilation_fails_iff_noTables {node : Json} {indicator : Indicator}
    (h : Indicator.read node = .ok indicator) :
    (∀ options defect, indicator.toStatement options = .error defect ↔
      indicator.subject.tables = [] ∧ defect = .noTables) ∧
    (∀ options (catalog : Catalog) defect,
      (catalog.apply indicator).toStatement (catalog.applyJoins options) = .error defect ↔
        indicator.subject.tables = [] ∧ defect = .noTables) ∧
    ∀ (db : Store.Database) options defect,
      db.runIndicator options indicator = .error (.defect defect) ↔
        indicator.subject.tables = [] ∧ defect = .noTables := by
  have hread := Indicator.wellFormed_of_read h
  refine ⟨hread.toStatement_error_iff, fun options catalog defect ↦ ?_, fun db options defect ↦ ?_⟩
  · rw [(hread.apply catalog).toStatement_error_iff, Indicator.tables_apply_eq_nil_iff]
  · exact Store.Database.runIndicator_defect_iff hread db options defect

namespace Ratio

def node : Json :=
  .object
    [("sujet", .object [("tables", .array [.string "insertion"])]),
      ("colonnes", .array [.object
        [("type", .string "aggregation"), ("titre", .string "Taux"),
          ("expr", .object [("op", .string "/"), ("args", .array
            [.object [("agg", .string "count")],
              .object [("agg", .string "sum"), ("col", .string "salaire"),
                ("subject", .object [("tables", .array [.string "etudiants"])])]])])]])]

def indicator : Indicator where
  subject := { tables := ["insertion"], conditions := .empty }
  columns :=
    [{ title := "Taux"
       body := .aggregation (.operation .div
        [.aggregate { statistic := .count, column := none, condition := .empty, subject := none },
          .aggregate
            { statistic := .sum
              column := some "salaire"
              condition := .empty
              subject := some { tables := ["etudiants"], conditions := .empty } }]) }]

/-- A ratio of two aggregates: one without a column, and one with a subject of its own. -/
theorem compilation_fails_iff_noTables_ratio :
    Indicator.read node = .ok indicator ∧ ∀ options (catalog : Catalog), ∃ statement,
      (catalog.apply indicator).toStatement (catalog.applyJoins options) = .ok statement := by
  have hread : Indicator.read node = .ok indicator := by
    with_unfolding_all rfl
  refine ⟨hread, fun options catalog ↦ ?_⟩
  have hfails := (Indicator.compilation_fails_iff_noTables hread).2.1 options catalog
  cases hstatement : (catalog.apply indicator).toStatement (catalog.applyJoins options) with
  | error defect => exact absurd ((hfails defect).mp hstatement).1 (List.cons_ne_nil _ _)
  | ok statement => exact ⟨statement, rfl⟩

end Ratio

end Barometer
