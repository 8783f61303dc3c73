import Barometer.Indicator.Names
import Mathlib.Data.List.Nodup

/-!
# References of an indicator

Where the columns of an indicator are looked up, how a renaming moves them, and that the scopes list
each of them once. The tables of a reference are always tables that the indicator names, and
renaming an indicator renames its references one by one, each in the tables of the old names. So it
does with its aggregates, and what these read is among the references.
-/

namespace Barometer

/-- A reference after a renaming: its column is looked up among the old tables. -/
def Renaming.reference (r : Renaming) (ref : Reference) : Reference where
  tables := ref.tables.map r.table
  column := r.column ref.tables ref.column

namespace Expression

variable {α : Type}

mutual

/-- Renaming goes through the references in place, with the tables of each one renamed alike. -/
theorem references_rename (r : Renaming) (tables : List String) {leaf leaf' : α → List Reference}
    {f : α → α} (hleaf : ∀ a, leaf' (f a) = (leaf a).map r.reference) (e : Expression α) :
    references leaf' (tables.map r.table) (rename f r tables e) =
      (references leaf tables e).map r.reference := by
  cases e with
  | literal value => rfl
  | column name => rfl
  | operation op args => exact referencesAll_renameAll r tables hleaf args
  | aggregate a => exact hleaf a

theorem referencesAll_renameAll (r : Renaming) (tables : List String)
    {leaf leaf' : α → List Reference} {f : α → α}
    (hleaf : ∀ a, leaf' (f a) = (leaf a).map r.reference) (args : List (Expression α)) :
    referencesAll leaf' (tables.map r.table) (renameAll f r tables args) =
      (referencesAll leaf tables args).map r.reference := by
  cases args with
  | nil => rfl
  | cons arg rest =>
    simp only [renameAll, referencesAll, List.map_append]
    rw [references_rename r tables hleaf arg, referencesAll_renameAll r tables hleaf rest]

end

mutual

/-- The aggregates stay where they are, and each one is renamed. -/
theorem aggregates_rename (r : Renaming) (tables : List String) {f : α → α} (e : Expression α) :
    (rename f r tables e).aggregates = e.aggregates.map f := by
  cases e with
  | literal value => rfl
  | column name => rfl
  | operation op args => exact aggregatesOf_renameAll r tables args
  | aggregate a => rfl

theorem aggregatesOf_renameAll (r : Renaming) (tables : List String) {f : α → α}
    (args : List (Expression α)) :
    aggregatesOf (renameAll f r tables args) = (aggregatesOf args).map f := by
  cases args with
  | nil => rfl
  | cons arg rest =>
    simp only [renameAll, aggregatesOf, List.map_append]
    rw [aggregates_rename r tables arg, aggregatesOf_renameAll r tables rest]

end

mutual

/-- The references of an expression outside of its aggregates, and those of its aggregates. -/
theorem mem_references_iff {leaf : α → List Reference} {tables : List String} {ref : Reference}
    (e : Expression α) :
    ref ∈ references leaf tables e ↔
      ref ∈ references (fun _ ↦ []) tables e ∨ ∃ a ∈ e.aggregates, ref ∈ leaf a := by
  cases e with
  | literal value => simp [references, aggregates]
  | column name => simp [references, aggregates]
  | operation op args => exact mem_referencesAll_iff args
  | aggregate a => simp [references, aggregates]

/-- A reference stands in an operand or within an aggregate. -/
theorem mem_referencesAll_iff {leaf : α → List Reference} {tables : List String} {ref : Reference}
    (args : List (Expression α)) :
    ref ∈ referencesAll leaf tables args ↔
      ref ∈ referencesAll (fun _ ↦ []) tables args ∨ ∃ a ∈ aggregatesOf args, ref ∈ leaf a := by
  cases args with
  | nil => simp [referencesAll, aggregatesOf]
  | cons arg rest =>
    simp only [referencesAll, aggregatesOf, List.mem_append, or_and_right, exists_or]
    rw [mem_references_iff arg, mem_referencesAll_iff rest]
    exact or_or_or_comm

end

mutual

/-- Outside of aggregates all references are looked up in the tables around them. -/
theorem tables_of_mem_references {tables : List String} {ref : Reference} (e : Expression α)
    (h : ref ∈ references (fun _ ↦ []) tables e) : ref.tables = tables := by
  cases e with
  | literal value => simp [references] at h
  | column name =>
    simp only [references, List.mem_singleton] at h
    rw [h]
  | operation op args => exact tables_of_mem_referencesAll args h
  | aggregate a => simp [references] at h

theorem tables_of_mem_referencesAll {tables : List String} {ref : Reference}
    (args : List (Expression α)) (h : ref ∈ referencesAll (fun _ ↦ []) tables args) :
    ref.tables = tables := by
  cases args with
  | nil => simp [referencesAll] at h
  | cons arg rest =>
    rw [referencesAll, List.mem_append] at h
    exact h.elim (tables_of_mem_references arg) (tables_of_mem_referencesAll rest)

end

/-- A reference of an expression stands outside of its aggregates, or in one of them. -/
theorem mem_references {leaf : α → List Reference} {tables : List String} {ref : Reference}
    (e : Expression α) (h : ref ∈ references leaf tables e) :
    ref.tables = tables ∨ ∃ a ∈ e.aggregates, ref ∈ leaf a :=
  ((mem_references_iff e).mp h).imp_left (tables_of_mem_references e)

end Expression

namespace Operand

theorem references_rename (r : Renaming) (tables : List String) (e : Operand) :
    Operand.references (tables.map r.table) (Operand.rename r tables e) =
      (Operand.references tables e).map r.reference :=
  Expression.references_rename r tables (fun a ↦ a.elim) e

theorem tables_of_mem_references {tables : List String} {ref : Reference} {e : Operand}
    (h : ref ∈ Operand.references tables e) : ref.tables = tables := by
  rcases Expression.mem_references e h with htables | ⟨a, -, -⟩
  · exact htables
  · exact a.elim

end Operand

namespace Condition

mutual

/-- Conditions have no aggregates, so all their references share the tables. -/
theorem references_rename (r : Renaming) (tables : List String) (c : Condition) :
    references (tables.map r.table) (rename r tables c) =
      (references tables c).map r.reference := by
  cases c with
  | empty => rfl
  | junction kind children => exact referencesAll_renameAll r tables children
  | compare op left right =>
    simp only [rename, references, List.map_append, Operand.references_rename]

theorem referencesAll_renameAll (r : Renaming) (tables : List String) (cs : List Condition) :
    referencesAll (tables.map r.table) (renameAll r tables cs) =
      (referencesAll tables cs).map r.reference := by
  cases cs with
  | nil => rfl
  | cons child rest =>
    simp only [renameAll, referencesAll, List.map_append]
    rw [references_rename r tables child, referencesAll_renameAll r tables rest]

end

mutual

theorem tables_of_mem_references {tables : List String} {ref : Reference} (c : Condition)
    (h : ref ∈ references tables c) : ref.tables = tables := by
  cases c with
  | empty => simp [references] at h
  | junction kind children => exact tables_of_mem_referencesAll children h
  | compare op left right =>
    simp only [references, List.mem_append] at h
    rcases h with h | h <;> exact Operand.tables_of_mem_references h

theorem tables_of_mem_referencesAll {tables : List String} {ref : Reference} (cs : List Condition)
    (h : ref ∈ referencesAll tables cs) : ref.tables = tables := by
  cases cs with
  | nil => simp [referencesAll] at h
  | cons child rest =>
    simp only [referencesAll, List.mem_append] at h
    rcases h with h | h
    · exact tables_of_mem_references child h
    · exact tables_of_mem_referencesAll rest h

end

end Condition

namespace Aggregation

/-- The tables of an aggregate are its own ones if it has a subject, and those around it if not. -/
theorem scope_rename (r : Renaming) (outer : List String) (a : Aggregation) :
    (a.rename r outer).scope (outer.map r.table) = (a.scope outer).map r.table := by
  rcases a with ⟨statistic, column, condition, subject⟩
  cases subject with
  | none => rfl
  | some subject => simp [rename, scope]

theorem references_rename (r : Renaming) (outer : List String) (a : Aggregation) :
    (a.rename r outer).references (outer.map r.table) =
      (a.references outer).map r.reference := by
  unfold references
  rw [scope_rename]
  rcases a with ⟨statistic, column, condition, subject⟩
  cases subject <;> cases column <;>
    simp [rename, Condition.references_rename, Renaming.reference]

/-- What an aggregate reads is looked up in its own tables, its condition included. -/
theorem tables_of_mem_references {outer : List String} {ref : Reference} {a : Aggregation}
    (h : ref ∈ a.references outer) : ref.tables = a.scope outer := by
  rcases a with ⟨statistic, column, condition, subject⟩
  simp only [references, List.mem_append] at h
  rcases h with (h | h) | h
  · cases subject with
    | none => simp at h
    | some subject => exact Condition.tables_of_mem_references _ h
  · exact Condition.tables_of_mem_references _ h
  · cases column with
    | none => simp at h
    | some column =>
      simp only [List.mem_singleton] at h
      rw [h]

/-- The tables of the query of its own that an aggregate with a subject is. -/
def subjectTables (a : Aggregation) : List String :=
  a.subject.toList.flatMap Subject.tables

/-- Only a subject of its own brings tables into an aggregate. -/
theorem subjectTables_rename (r : Renaming) (outer : List String) (a : Aggregation) :
    (a.rename r outer).subjectTables = a.subjectTables.map r.table := by
  rcases a with ⟨statistic, column, condition, subject⟩
  cases subject <;> simp [rename, subjectTables]

end Aggregation

theorem Measure.flatMap_tables_nestedSubjects (m : Measure) :
    m.nestedSubjects.flatMap Subject.tables = m.aggregates.flatMap Aggregation.subjectTables := by
  rw [nestedSubjects, List.filterMap_eq_flatMap_toList, List.flatMap_assoc]
  rfl

theorem Measure.references_rename (r : Renaming) (tables : List String) (m : Measure) :
    Measure.references (tables.map r.table) (Measure.rename r tables m) =
      (Measure.references tables m).map r.reference :=
  Expression.references_rename r tables (Aggregation.references_rename r tables) m

theorem ColumnBody.references_rename (r : Renaming) (tables : List String) (body : ColumnBody) :
    (body.rename r tables).references (tables.map r.table) =
      (body.references tables).map r.reference := by
  cases body with
  | groupBy value => exact Operand.references_rename r tables value
  | cases arms =>
    simp only [rename, references, List.flatMap_map, List.map_flatMap,
      Condition.references_rename]
  | aggregation measure => exact Measure.references_rename r tables measure

namespace Expression

variable {α : Type}

/-- What an aggregate reads is read by every expression around it. -/
theorem mem_references_of_aggregate {leaf : α → List Reference} (tables : List String)
    {ref : Reference} {a : α} (e : Expression α) (ha : a ∈ e.aggregates) (href : ref ∈ leaf a) :
    ref ∈ references leaf tables e :=
  (mem_references_iff e).mpr (.inr ⟨a, ha, href⟩)

end Expression

namespace ColumnBody

def aggregates : ColumnBody → List Aggregation
  | .aggregation measure => measure.aggregates
  | _ => []

theorem aggregates_rename (r : Renaming) (tables : List String) (body : ColumnBody) :
    (body.rename r tables).aggregates = body.aggregates.map (Aggregation.rename r tables) := by
  cases body with
  | groupBy value => rfl
  | cases arms => rfl
  | aggregation measure => exact Expression.aggregates_rename r tables measure

/-- A column that is shown by an aggregate reads what the aggregate reads. -/
theorem mem_references_of_aggregate {tables : List String} {body : ColumnBody} {a : Aggregation}
    {ref : Reference} (ha : a ∈ body.aggregates) (href : ref ∈ a.references tables) :
    ref ∈ body.references tables := by
  cases body with
  | groupBy value => cases ha
  | cases arms => cases ha
  | aggregation measure => exact Expression.mem_references_of_aggregate tables measure ha href

end ColumnBody

/-- The items that were seen before stay, and each new one is added. -/
theorem foldl_firstSeen_mem {α : Type} [DecidableEq α] (xs seen : List α) (x : α) :
    x ∈ xs.foldl (fun seen x ↦ if x ∈ seen then seen else seen ++ [x]) seen ↔
      x ∈ seen ∨ x ∈ xs := by
  induction xs generalizing seen with
  | nil => simp
  | cons y ys ih =>
    rw [List.foldl_cons, ih]
    by_cases hy : y ∈ seen
    · simp only [if_pos hy, List.mem_cons]
      constructor
      · rintro (h | h)
        · exact .inl h
        · exact .inr (.inr h)
      · rintro (h | rfl | h)
        · exact .inl h
        · exact .inl hy
        · exact .inr h
    · rw [if_neg hy, List.mem_append, List.mem_singleton, List.mem_cons, or_assoc]

theorem mem_firstSeen {α : Type} [DecidableEq α] (xs : List α) (x : α) :
    x ∈ firstSeen xs ↔ x ∈ xs := by
  rw [firstSeen, foldl_firstSeen_mem]
  simp

/-- A list stays without repetitions if an element is added that it does not have. -/
theorem nodup_addLast {α : Type} [DecidableEq α] {xs : List α} (h : xs.Nodup) (x : α) :
    (if x ∈ xs then xs else xs ++ [x]).Nodup := by
  split
  · exact h
  · next hx =>
    rw [← List.concat_eq_append]
    exact List.Nodup.concat hx h

/-- What has been seen is not taken a second time. -/
theorem nodup_firstSeen {α : Type} [DecidableEq α] (xs : List α) : (firstSeen xs).Nodup := by
  have hfold (seen : List α) (hseen : seen.Nodup) :
      (xs.foldl (fun seen x ↦ if x ∈ seen then seen else seen ++ [x]) seen).Nodup := by
    induction xs generalizing seen with
    | nil => exact hseen
    | cons x rest ih => exact ih _ (nodup_addLast hseen x)
  exact hfold [] List.nodup_nil

namespace Indicator

/-- The aggregates of an indicator, in the order in which they are written. -/
def aggregates (indicator : Indicator) : List Aggregation :=
  indicator.columns.flatMap fun column ↦ column.body.aggregates

theorem aggregates_rename (r : Renaming) (indicator : Indicator) :
    (indicator.rename r).aggregates =
      indicator.aggregates.map (Aggregation.rename r indicator.subject.tables) := by
  simp only [aggregates, rename, List.flatMap_map, List.map_flatMap, ColumnBody.aggregates_rename]

/-- Renaming an indicator renames its references, in their places. -/
theorem references_rename (r : Renaming) (indicator : Indicator) :
    (indicator.rename r).references = indicator.references.map r.reference := by
  simp only [references, rename, List.map_append, Condition.references_rename,
    List.flatMap_map, List.map_flatMap, ColumnBody.references_rename]

theorem mem_references_of_aggregate {indicator : Indicator} {a : Aggregation} {ref : Reference}
    (ha : a ∈ indicator.aggregates) (href : ref ∈ a.references indicator.subject.tables) :
    ref ∈ indicator.references := by
  obtain ⟨column, hcolumn, ha⟩ := List.mem_flatMap.mp ha
  refine List.mem_append_right _ (List.mem_flatMap.mpr ⟨column, hcolumn, ?_⟩)
  exact ColumnBody.mem_references_of_aggregate ha href

/-- The tables of the main subject and of the nested ones, in the order in which they are written.
A table that is named twice stands here twice. -/
def mentionedTables (indicator : Indicator) : List String :=
  indicator.subject.tables ++ indicator.aggregates.flatMap Aggregation.subjectTables

/-- The tables are listed where they are mentioned first. -/
theorem tables_eq_firstSeen (indicator : Indicator) :
    indicator.tables = firstSeen indicator.mentionedTables := by
  rw [tables, mentionedTables, subjects, List.flatMap_cons, List.flatMap_assoc, aggregates,
    List.flatMap_assoc]
  congr 3
  funext column
  cases column.body with
  | groupBy value => rfl
  | cases arms => rfl
  | aggregation measure => exact measure.flatMap_tables_nestedSubjects

theorem mem_tables {indicator : Indicator} {table : String} :
    table ∈ indicator.tables ↔ table ∈ indicator.mentionedTables := by
  rw [tables_eq_firstSeen, mem_firstSeen]

/-- Renaming an indicator renames its tables, in their places. -/
theorem mentionedTables_rename (r : Renaming) (indicator : Indicator) :
    (indicator.rename r).mentionedTables = indicator.mentionedTables.map r.table := by
  rw [mentionedTables, mentionedTables, aggregates_rename, List.map_append, List.flatMap_map,
    List.map_flatMap]
  simp only [Aggregation.subjectTables_rename]
  rfl

theorem mem_tables_of_mem_subject {indicator : Indicator} {table : String}
    (h : table ∈ indicator.subject.tables) : table ∈ indicator.tables :=
  mem_tables.mpr (List.mem_append_left _ h)

theorem mem_tables_of_mem_aggregate {indicator : Indicator} {a : Aggregation}
    {subject : Subject} {table : String} (ha : a ∈ indicator.aggregates)
    (hsubject : a.subject = some subject) (h : table ∈ subject.tables) :
    table ∈ indicator.tables := by
  apply mem_tables.mpr
  refine List.mem_append_right _ (List.mem_flatMap.mpr ⟨a, ha, ?_⟩)
  rwa [Aggregation.subjectTables, hsubject, Option.toList_some, List.flatMap_singleton]

theorem mem_tables_of_mem_nested {indicator : Indicator} {column : Column} {measure : Measure}
    {a : Aggregation} {subject : Subject} {table : String} (hcolumn : column ∈ indicator.columns)
    (hbody : column.body = .aggregation measure) (ha : a ∈ measure.aggregates)
    (hsubject : a.subject = some subject) (h : table ∈ subject.tables) :
    table ∈ indicator.tables := by
  refine mem_tables_of_mem_aggregate (List.mem_flatMap.mpr ⟨column, hcolumn, ?_⟩) hsubject h
  rwa [hbody]

/-- The tables of an indicator after a renaming are new names of its tables. -/
theorem exists_of_mem_tables_rename {r : Renaming} {indicator : Indicator} {table : String}
    (h : table ∈ (indicator.rename r).tables) :
    ∃ old ∈ indicator.tables, r.table old = table := by
  rw [mem_tables, mentionedTables_rename] at h
  obtain ⟨old, hold, hname⟩ := List.mem_map.mp h
  exact ⟨old, mem_tables.mpr hold, hname⟩

/-- Every table that a column is looked up in is a table that the indicator names. -/
theorem mem_tables_of_mem_reference {indicator : Indicator} {ref : Reference} {table : String}
    (href : ref ∈ indicator.references) (h : table ∈ ref.tables) : table ∈ indicator.tables := by
  simp only [references, List.mem_append, List.mem_flatMap] at href
  rcases href with href | ⟨column, hcolumn, href⟩
  · rw [Condition.tables_of_mem_references _ href] at h
    exact mem_tables_of_mem_subject h
  · rcases hbody : column.body with value | arms | measure
    · rw [hbody] at href
      rw [Operand.tables_of_mem_references href] at h
      exact mem_tables_of_mem_subject h
    · rw [hbody] at href
      simp only [ColumnBody.references, List.mem_flatMap] at href
      obtain ⟨arm, -, href⟩ := href
      rw [Condition.tables_of_mem_references _ href] at h
      exact mem_tables_of_mem_subject h
    · rw [hbody] at href
      rcases Expression.mem_references measure href with htables | ⟨a, ha, href⟩
      · rw [htables] at h
        exact mem_tables_of_mem_subject h
      · rw [Aggregation.tables_of_mem_references href, Aggregation.scope] at h
        rcases hsubject : a.subject with _ | subject
        · rw [hsubject] at h
          exact mem_tables_of_mem_subject h
        · rw [hsubject, List.mem_append] at h
          rcases h with h | h
          · exact mem_tables_of_mem_nested hcolumn hbody ha hsubject h
          · exact mem_tables_of_mem_subject h

end Indicator

/-- The references that a list of scopes stands for. -/
def Scope.references (scopes : List Scope) : List Reference :=
  scopes.flatMap fun scope ↦ scope.columns.map fun column ↦ { tables := scope.tables, column }

theorem Scope.mem_references_iff {scopes : List Scope} {tables : List String} {column : String} :
    { tables, column } ∈ Scope.references scopes ↔
      ∃ scope ∈ scopes, scope.tables = tables ∧ column ∈ scope.columns := by
  simp [Scope.references, and_comm]

/-- Adding a reference to some scopes adds this one and no other. -/
theorem Scope.mem_references_add (scopes : List Scope) (ref other : Reference) :
    other ∈ Scope.references (Scope.add scopes ref) ↔
      other ∈ Scope.references scopes ∨ other = ref := by
  induction scopes with
  | nil => simp [Scope.add, Scope.references]
  | cons scope rest ih =>
    rw [Scope.add]
    split
    · rename_i htables
      simp only [Scope.references, List.flatMap_cons, List.mem_append]
      split
      · rename_i hcolumn
        constructor
        · exact .inl
        · rintro (h | rfl)
          · exact h
          · exact .inl (List.mem_map.mpr ⟨_, hcolumn, by rw [htables]⟩)
      · simp only [List.map_append, List.map_cons, List.map_nil, List.mem_append,
          List.mem_singleton, htables]
        rw [or_right_comm]
    · simp only [Scope.references, List.flatMap_cons, List.mem_append] at ih ⊢
      rw [ih, or_assoc]

/-- Whether no two scopes have the same tables, and none has a column twice. -/
structure Scope.Distinct (scopes : List Scope) : Prop where
  tables : (scopes.map Scope.tables).Nodup
  columns : ∀ scope ∈ scopes, scope.columns.Nodup

/-- A reference is added to a scope that is there, or to a new one with tables of its own. -/
theorem Scope.map_tables_add (scopes : List Scope) (ref : Reference) :
    (Scope.add scopes ref).map Scope.tables = scopes.map Scope.tables ∨
      ref.tables ∉ scopes.map Scope.tables ∧
        (Scope.add scopes ref).map Scope.tables = scopes.map Scope.tables ++ [ref.tables] := by
  induction scopes with
  | nil => exact .inr ⟨List.not_mem_nil, rfl⟩
  | cons scope rest ih =>
    rw [Scope.add]
    split
    · exact .inl rfl
    · next htables =>
      simp only [List.map_cons, List.mem_cons, List.cons_append, List.cons.injEq, true_and, not_or]
      rcases ih with hsame | ⟨hnew, hadded⟩
      · exact .inl hsame
      · exact .inr ⟨⟨Ne.symm htables, hnew⟩, hadded⟩

theorem Scope.nodup_columns_add {scopes : List Scope} (h : ∀ scope ∈ scopes, scope.columns.Nodup)
    (ref : Reference) : ∀ scope ∈ Scope.add scopes ref, scope.columns.Nodup := by
  induction scopes with
  | nil => simp [Scope.add]
  | cons first rest ih =>
    obtain ⟨hfirst, hrest⟩ := List.forall_mem_cons.mp h
    rw [Scope.add]
    split
    · exact List.forall_mem_cons.mpr ⟨nodup_addLast hfirst ref.column, hrest⟩
    · exact List.forall_mem_cons.mpr ⟨hfirst, ih hrest⟩

/-- There is one scope for a list of tables, and a column is in it once. -/
theorem Scope.Distinct.add {scopes : List Scope} (h : Scope.Distinct scopes) (ref : Reference) :
    Scope.Distinct (Scope.add scopes ref) where
  tables := by
    rcases Scope.map_tables_add scopes ref with hsame | ⟨hnew, hadded⟩
    · exact hsame ▸ h.tables
    · rw [hadded, ← List.concat_eq_append]
      exact List.Nodup.concat hnew h.tables
  columns := Scope.nodup_columns_add h.columns ref

/-- So each column of an indicator is asked for once in each of its scopes. -/
theorem Indicator.distinct_scopes (indicator : Indicator) : Scope.Distinct indicator.scopes := by
  have hfold (refs : List Reference) (scopes : List Scope) (h : Scope.Distinct scopes) :
      Scope.Distinct (refs.foldl Scope.add scopes) := by
    induction refs generalizing scopes with
    | nil => exact h
    | cons ref rest ih => exact ih _ (h.add ref)
  exact hfold indicator.references [] ⟨List.nodup_nil, by simp⟩

/-- The scopes of an indicator stand for its references, and for nothing else. -/
theorem Indicator.mem_references_scopes (indicator : Indicator) (ref : Reference) :
    ref ∈ Scope.references indicator.scopes ↔ ref ∈ indicator.references := by
  have hfold (refs : List Reference) (scopes : List Scope) :
      ref ∈ Scope.references (refs.foldl Scope.add scopes) ↔
        ref ∈ Scope.references scopes ∨ ref ∈ refs := by
    induction refs generalizing scopes with
    | nil => simp
    | cons head rest ih =>
      rw [List.foldl_cons, ih, Scope.mem_references_add, List.mem_cons, or_assoc]
  rw [Indicator.scopes, hfold]
  simp [Scope.references]

end Barometer
