import Barometer.Proofs.Indicator.References

/-!
# Renamings that change nothing

A renaming acts on the tables that an indicator names and on the columns that it reads. Where it
leaves every one of these as it is, it gives the indicator back, with its titles, labels, literals
and operators. The induction goes through the indicator as the renaming does: the columns of an
aggregate with a subject are looked up in the tables of that subject first.
-/

namespace Barometer

/-- Whether a renaming leaves the column of a reference as it is. -/
def Renaming.Keeps (r : Renaming) (ref : Reference) : Prop :=
  r.column ref.tables ref.column = ref.column

variable {r : Renaming}

/-- Tables that are kept one by one are kept as a list. -/
theorem Renaming.map_table_eq_self {tables : List String}
    (h : ∀ table ∈ tables, r.table table = table) : tables.map r.table = tables := by
  calc
    tables.map r.table = tables.map id := List.map_congr_left h
    _ = tables := List.map_id tables

namespace Expression

variable {α : Type} {leaf : α → List Reference} {f : α → α} {tables : List String}

mutual

/-- An expression stays the same if its columns are kept and its aggregates do, each as soon as its
own columns are kept. -/
theorem rename_eq_self (e : Expression α) (hrefs : ∀ ref ∈ references leaf tables e, r.Keeps ref)
    (hleaf : ∀ a ∈ e.aggregates, (∀ ref ∈ leaf a, r.Keeps ref) → f a = a) :
    rename f r tables e = e := by
  cases e with
  | literal value => rfl
  | column name =>
    have hkept : r.column tables name = name := hrefs _ (List.mem_singleton_self _)
    rw [rename, hkept]
  | operation op args => rw [rename, renameAll_eq_self args hrefs hleaf]
  | aggregate a => rw [rename, hleaf a (List.mem_singleton_self a) hrefs]

theorem renameAll_eq_self (args : List (Expression α))
    (hrefs : ∀ ref ∈ referencesAll leaf tables args, r.Keeps ref)
    (hleaf : ∀ a ∈ aggregatesOf args, (∀ ref ∈ leaf a, r.Keeps ref) → f a = a) :
    renameAll f r tables args = args := by
  cases args with
  | nil => rfl
  | cons arg rest =>
    obtain ⟨hrefs, hrestRefs⟩ := List.forall_mem_append.mp hrefs
    obtain ⟨hleaf, hrestLeaf⟩ := List.forall_mem_append.mp hleaf
    rw [renameAll, rename_eq_self arg hrefs hleaf, renameAll_eq_self rest hrestRefs hrestLeaf]

end

end Expression

theorem Operand.rename_eq_self {tables : List String} {e : Operand}
    (h : ∀ ref ∈ Operand.references tables e, r.Keeps ref) : Operand.rename r tables e = e := by
  apply Expression.rename_eq_self e h
  intro a
  exact a.elim

namespace Condition

variable {tables : List String}

mutual

/-- A condition has no other names than those it refers to. -/
theorem rename_eq_self (c : Condition) (h : ∀ ref ∈ references tables c, r.Keeps ref) :
    rename r tables c = c := by
  cases c with
  | empty => rfl
  | junction kind children => rw [rename, renameAll_eq_self children h]
  | compare op left right =>
    obtain ⟨hleft, hright⟩ := List.forall_mem_append.mp h
    rw [rename, Operand.rename_eq_self hleft, Operand.rename_eq_self hright]

theorem renameAll_eq_self (cs : List Condition)
    (h : ∀ ref ∈ referencesAll tables cs, r.Keeps ref) : renameAll r tables cs = cs := by
  cases cs with
  | nil => rfl
  | cons child rest =>
    obtain ⟨hchild, hrest⟩ := List.forall_mem_append.mp h
    rw [renameAll, rename_eq_self child hchild, renameAll_eq_self rest hrest]

end

end Condition

namespace Aggregation

/-- The subject of an aggregate may have tables that are kept, and conditions over them. -/
theorem rename_eq_self {outer : List String} {a : Aggregation}
    (hrefs : ∀ ref ∈ a.references outer, r.Keeps ref)
    (htables : ∀ table ∈ a.subjectTables, r.table table = table) : a.rename r outer = a := by
  rcases a with ⟨statistic, column, condition, subject⟩
  simp only [references, List.forall_mem_append] at hrefs
  obtain ⟨⟨hsubject, hcondition⟩, hcolumn⟩ := hrefs
  have hcolumn' : column.map (r.column (scope outer ⟨statistic, column, condition, subject⟩)) =
      column := by
    cases column with
    | none => rfl
    | some name => exact congrArg some (hcolumn _ (List.mem_singleton_self _))
  rw [rename, Condition.rename_eq_self condition hcondition, hcolumn']
  cases subject with
  | none => rfl
  | some subject =>
    have htables' : subject.tables.map r.table = subject.tables := by
      apply Renaming.map_table_eq_self
      intro table htable
      apply htables
      rwa [subjectTables, Option.toList_some, List.flatMap_singleton]
    rw [Option.map_some, htables', Condition.rename_eq_self subject.conditions hsubject]

end Aggregation

/-- Besides the references the tables of nested subjects must be kept. -/
theorem ColumnBody.rename_eq_self {tables : List String} {body : ColumnBody}
    (hrefs : ∀ ref ∈ body.references tables, r.Keeps ref)
    (htables : ∀ a ∈ body.aggregates, ∀ table ∈ a.subjectTables, r.table table = table) :
    body.rename r tables = body := by
  cases body with
  | groupBy value => rw [rename, Operand.rename_eq_self hrefs]
  | cases arms =>
    have harm : ∀ arm ∈ arms,
        { arm with condition := arm.condition.rename r tables } = id arm := by
      intro arm harm
      rw [Condition.rename_eq_self arm.condition fun ref href ↦
        hrefs ref (List.mem_flatMap.mpr ⟨arm, harm, href⟩)]
      rfl
    rw [rename, List.map_congr_left harm, List.map_id]
  | aggregation measure =>
    have hmeasure : Measure.rename r tables measure = measure := by
      apply Expression.rename_eq_self measure hrefs
      intro a ha hkept
      exact Aggregation.rename_eq_self hkept (htables a ha)
    rw [rename, hmeasure]

/-- A renaming that keeps the names of an indicator keeps the indicator. -/
theorem Indicator.rename_eq_self {indicator : Indicator}
    (htables : ∀ table ∈ indicator.mentionedTables, r.table table = table)
    (hrefs : ∀ ref ∈ indicator.references, r.Keeps ref) : indicator.rename r = indicator := by
  rcases indicator with ⟨⟨tables, conditions⟩, columns⟩
  obtain ⟨htables, hnested⟩ := List.forall_mem_append.mp htables
  obtain ⟨hconditions, hcolumns⟩ := List.forall_mem_append.mp hrefs
  have hcolumn : ∀ column ∈ columns,
      { column with body := column.body.rename r tables } = id column := by
    intro column hcolumn
    have hbody : column.body.rename r tables = column.body := by
      apply ColumnBody.rename_eq_self
      · intro ref href
        exact hcolumns ref (List.mem_flatMap.mpr ⟨column, hcolumn, href⟩)
      · intro a ha table htable
        have hmem : a ∈ columns.flatMap fun column ↦ column.body.aggregates :=
          List.mem_flatMap.mpr ⟨column, hcolumn, ha⟩
        exact hnested table (List.mem_flatMap.mpr ⟨a, hmem, htable⟩)
    rw [hbody]
    rfl
  rw [rename, Renaming.map_table_eq_self htables, Condition.rename_eq_self conditions hconditions,
    List.map_congr_left hcolumn, List.map_id]

end Barometer
