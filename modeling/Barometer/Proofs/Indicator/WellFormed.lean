import Barometer.Indicator.Names
import Barometer.Indicator.Reader
import Barometer.Proofs.Outcome

/-!
# Well-formed indicators

What reading makes sure of. Operations have arguments, columns of cases have arms, only rows are
counted without a column, and the subject of an aggregate has tables. Replacing names keeps all of
this, since it keeps the shape of an indicator.
-/

namespace Barometer

open Defect

/-! ## Definitions -/

namespace Expression

variable {α : Type}

mutual

/-- Whether every operation has arguments, and every aggregate is as it should be. -/
def WellFormed (kept : α → Prop) : Expression α → Prop
  | .literal _ => True
  | .column _ => True
  | .operation _ args => args ≠ [] ∧ AllWellFormed kept args
  | .aggregate a => kept a

def AllWellFormed (kept : α → Prop) : List (Expression α) → Prop
  | [] => True
  | arg :: rest => WellFormed kept arg ∧ AllWellFormed kept rest

end

end Expression

def Operand.WellFormed (e : Operand) : Prop := Expression.WellFormed (fun _ ↦ False) e

namespace Condition

mutual

def WellFormed : Condition → Prop
  | .empty => True
  | .junction _ children => AllWellFormed children
  | .compare _ left right => Operand.WellFormed left ∧ Operand.WellFormed right

def AllWellFormed : List Condition → Prop
  | [] => True
  | child :: rest => WellFormed child ∧ AllWellFormed rest

end

end Condition

structure Aggregation.WellFormed (a : Aggregation) : Prop where
  /-- Only rows can be counted without naming a column. -/
  column : a.column = none → a.statistic = .count
  condition : a.condition.WellFormed
  tables : ∀ subject, a.subject = some subject → subject.tables ≠ []
  conditions : ∀ subject, a.subject = some subject → subject.conditions.WellFormed

def Measure.WellFormed (m : Measure) : Prop := Expression.WellFormed Aggregation.WellFormed m

def ColumnBody.WellFormed : ColumnBody → Prop
  | .groupBy value => Operand.WellFormed value
  | .cases arms => arms ≠ [] ∧ ∀ arm ∈ arms, arm.condition.WellFormed
  | .aggregation measure => Measure.WellFormed measure

structure Indicator.WellFormed (indicator : Indicator) : Prop where
  conditions : indicator.subject.conditions.WellFormed
  columns : ∀ column ∈ indicator.columns, column.body.WellFormed

/-! ## Reading -/

namespace Expression

variable {α : Type} {leaf : Json → Except Defect α} {node : Json} {e : Expression α}

/-- What a node is read as. The key of an aggregate goes before that of a column, and that one
before the key of an operation. -/
inductive ReadsAs (leaf : Json → Except Defect α) : Json → Expression α → Prop
  | literal {node : Json} {value : Scalar} (hnode : ∀ members, node ≠ .object members) :
    ReadsAs leaf node (.literal value)
  | column {members : Json.Members} {name : String} (hagg : Json.get? members "agg" = none)
    (hcol : Json.get? members "col" = some (.string name)) (hname : isBlankName name = false) :
    ReadsAs leaf (.object members) (.column name)
  | aggregate {members : Json.Members} {a : α} (hagg : (Json.get? members "agg").isSome = true)
    (ha : leaf (.object members) = .ok a) : ReadsAs leaf (.object members) (.aggregate a)
  | operation {members : Json.Members} {op : Arithmetic} {items : List Json}
    {args : List (Expression α)} (hagg : Json.get? members "agg" = none)
    (hcol : Json.get? members "col" = none)
    (hargs : Json.get? members "args" = some (.array items)) (hne : items ≠ [])
    (hitems : readAll leaf items = .ok args) : ReadsAs leaf (.object members) (.operation op args)

/-- A name is a text that is not blank. -/
theorem columnName_eq_ok {name : Json} {column : String} (h : columnName node name = .ok column) :
    name = .string column ∧ isBlankName column = false := by
  unfold columnName at h
  split at h
  · split at h
    · cases h
    · rename_i hblank
      cases h
      exact ⟨rfl, Bool.eq_false_iff.mpr hblank⟩
  · cases h

/-- Whatever has been read from a node has one of the shapes that expressions are written in. -/
theorem readsAs_of_read (h : read leaf node = .ok e) : ReadsAs leaf node e := by
  unfold read at h
  split at h
  · rename_i members
    split at h
    · rename_i hagg
      obtain ⟨a, ha, rfl⟩ := Outcome.map_eq_ok.mp h
      exact .aggregate hagg ha
    · rename_i hagg
      rw [Option.not_isSome_iff_eq_none] at hagg
      split at h
      · rename_i name hcol
        obtain ⟨column, hcolumn, rfl⟩ := Outcome.map_eq_ok.mp h
        obtain ⟨rfl, hname⟩ := columnName_eq_ok hcolumn
        exact .column hagg hcol hname
      · rename_i hcol
        split at h
        · cases h
        · obtain ⟨op, -, h⟩ := Outcome.bind_eq_ok.mp h
          split at h
          · cases h
          · rename_i items hargs
            dsimp only at h
            split at h
            · cases h
            · rename_i hempty
              obtain ⟨args, hitems, h⟩ := Outcome.bind_eq_ok.mp h
              cases h
              exact .operation hagg hcol hargs (fun hnil ↦ hempty (List.isEmpty_iff.mpr hnil))
                hitems
          · cases h
  · cases h
  · rename_i hobject harray
    split at h
    · cases h
      exact .literal fun members ↦ hobject members
    · cases h

theorem readAll_eq_mapM (nodes : List Json) : readAll leaf nodes = nodes.mapM (read leaf) := by
  induction nodes with
  | nil =>
    rw [readAll]
    rfl
  | cons node rest ih => rw [readAll, List.mapM_cons, ih]

/-- By induction on the size of a node, since the arguments are found under a key. -/
theorem read_induction {motive : Json → Expression α → Prop}
    (literal : ∀ {node value}, (∀ members, node ≠ .object members) → motive node (.literal value))
    (column : ∀ {members name}, Json.get? members "agg" = none →
      Json.get? members "col" = some (.string name) → isBlankName name = false →
      motive (.object members) (.column name))
    (aggregate : ∀ {members a}, (Json.get? members "agg").isSome = true →
      leaf (.object members) = .ok a → motive (.object members) (.aggregate a))
    (operation : ∀ {members op items args}, Json.get? members "agg" = none →
      Json.get? members "col" = none → Json.get? members "args" = some (.array items) →
      args ≠ [] → (∀ arg ∈ args, ∃ item ∈ items, motive item arg) →
      motive (.object members) (.operation op args))
    {node : Json} {e : Expression α} (h : read leaf node = .ok e) : motive node e := by
  induction hsize : sizeOf node using Nat.strongRecOn generalizing node e with
  | _ size ih =>
    cases readsAs_of_read h with
    | literal hnode => exact literal hnode
    | column hagg hcol hname => exact column hagg hcol hname
    | aggregate hagg ha => exact aggregate hagg ha
    | @operation members op items args hagg hcol hargs hne hitems =>
      rw [readAll_eq_mapM] at hitems
      refine operation hagg hcol hargs ?_ fun arg harg ↦ ?_
      · rintro rfl
        exact hne (List.length_eq_zero_iff.mp (Outcome.length_of_mapM hitems).symm)
      · obtain ⟨item, hitem, hread⟩ := Outcome.exists_of_mem_mapM hitems harg
        refine ⟨item, hitem, ih _ ?_ hread rfl⟩
        have := Json.sizeOf_items_lt hargs
        have := Json.sizeOf_lt_of_mem hitem
        rw [Json.object.sizeOf_spec] at hsize
        omega

theorem allWellFormed_iff {kept : α → Prop} {es : List (Expression α)} :
    AllWellFormed kept es ↔ ∀ e ∈ es, e.WellFormed kept := by
  induction es with
  | nil => simp [AllWellFormed]
  | cons e rest ih => rw [AllWellFormed, ih, List.forall_mem_cons]

/-- What holds of all aggregates that are read holds of those within an expression. -/
theorem wellFormed_of_read {kept : α → Prop} (hleaf : ∀ node a, leaf node = .ok a → kept a)
    {node : Json} {e : Expression α} (h : read leaf node = .ok e) : e.WellFormed kept := by
  refine read_induction (motive := fun _ e ↦ e.WellFormed kept) ?_ ?_ ?_ ?_ h
  · intros
    trivial
  · intros
    trivial
  · intro members a _ ha
    exact hleaf _ a ha
  · intro members op items args _ _ _ hne hargs
    refine ⟨hne, allWellFormed_iff.mpr fun arg harg ↦ ?_⟩
    obtain ⟨_, -, hformed⟩ := hargs arg harg
    exact hformed

end Expression

theorem Operand.wellFormed_of_read {node : Json} {e : Operand} (h : Operand.read node = .ok e) :
    e.WellFormed :=
  Expression.wellFormed_of_read (fun _ a _ ↦ a.elim) h

namespace Condition

variable {node : Json} {c : Condition}

/-- What a node is read as: no condition, a junction of conditions that it lists, or a comparison of
operands. -/
inductive ReadsAs : Json → Condition → Prop
  | empty {node : Json} : ReadsAs node .empty
  | junction {node : Json} {items : List Json} {kind : Junction} {children : List Condition}
    (hsize : sizeOf items < sizeOf node) (hitems : readAll items = .ok children) :
    ReadsAs node (.junction kind children)
  | compare {node leftNode rightNode : Json} {op : Comparison} {left right : Operand}
    (hleft : Operand.read leftNode = .ok left) (hright : Operand.read rightNode = .ok right) :
    ReadsAs node (.compare op left right)

/-- Comparisons have two operands. -/
theorem readsAs_of_readComparison {key : String} {operands : Json}
    (h : readComparison node key operands = .ok c) : ReadsAs node c := by
  unfold readComparison at h
  split at h
  · cases h
  · split at h
    · obtain ⟨left, hleft, h⟩ := Outcome.bind_eq_ok.mp h
      obtain ⟨right, hright, h⟩ := Outcome.bind_eq_ok.mp h
      cases h
      exact .compare hleft hright
    · cases h

/-- A condition that has been read is a list, a junction or a comparison, or there is none. -/
theorem readsAs_of_read (h : read node = .ok c) : ReadsAs node c := by
  unfold read at h
  split at h
  · cases h
    exact .empty
  · cases h
    exact .empty
  · obtain ⟨children, hchildren, h⟩ := Outcome.bind_eq_ok.mp h
    cases h
    exact .junction (by simp) hchildren
  · cases h
    exact .empty
  · split at h
    · split at h
      · obtain ⟨children, hchildren, h⟩ := Outcome.bind_eq_ok.mp h
        cases h
        exact .junction (by simp; omega) hchildren
      · cases h
        have hnone : readAll [] = .ok [] := by rw [readAll]
        exact .junction (by simp) hnone
      · cases h
    · exact readsAs_of_readComparison h
  · cases h

theorem readAll_eq_mapM (nodes : List Json) : readAll nodes = nodes.mapM read := by
  induction nodes with
  | nil =>
    rw [readAll]
    rfl
  | cons node rest ih => rw [readAll, List.mapM_cons, ih]

/-- By induction on the size of a node, which lists the parts of a junction. -/
theorem read_induction {motive : Condition → Prop} (empty : motive .empty)
    (junction : ∀ {kind children}, (∀ child ∈ children, motive child) →
      motive (.junction kind children))
    (compare : ∀ {op left right leftNode rightNode}, Operand.read leftNode = .ok left →
      Operand.read rightNode = .ok right → motive (.compare op left right))
    {node : Json} {c : Condition} (h : read node = .ok c) : motive c := by
  induction hsize : sizeOf node using Nat.strongRecOn generalizing node c with
  | _ size ih =>
    cases readsAs_of_read h with
    | empty => exact empty
    | junction hsmaller hitems =>
      rw [readAll_eq_mapM] at hitems
      refine junction fun child hchild ↦ ?_
      obtain ⟨item, hitem, hread⟩ := Outcome.exists_of_mem_mapM hitems hchild
      have := Json.sizeOf_lt_of_mem hitem
      exact ih _ (by omega) hread rfl
    | compare hleft hright => exact compare hleft hright

theorem allWellFormed_iff {cs : List Condition} :
    AllWellFormed cs ↔ ∀ c ∈ cs, c.WellFormed := by
  induction cs with
  | nil => simp [AllWellFormed]
  | cons c rest ih => rw [AllWellFormed, ih, List.forall_mem_cons]

theorem wellFormed_of_read {node : Json} {c : Condition} (h : read node = .ok c) :
    c.WellFormed := by
  refine read_induction trivial ?_ ?_ h
  · intro kind children hchildren
    exact allWellFormed_iff.mpr hchildren
  · intro op left right _ _ hleft hright
    exact ⟨Operand.wellFormed_of_read hleft, Operand.wellFormed_of_read hright⟩

/-- Without a member of either key there is no condition. -/
theorem exists_read_of_readConditionAt {members : Json.Members} {key other : String}
    (h : readConditionAt members key other = .ok c) : c = .empty ∨ ∃ node, read node = .ok c := by
  unfold readConditionAt at h
  split at h
  · rename_i node _
    exact .inr ⟨node, h⟩
  · cases h
    exact .inl rfl

/-- A condition that may be left out. -/
theorem wellFormed_of_optional (h : c = .empty ∨ ∃ node, read node = .ok c) : c.WellFormed := by
  rcases h with rfl | ⟨node, hnode⟩
  · trivial
  · exact wellFormed_of_read hnode

end Condition

/-- What the members of a node are read as. -/
structure Subject.ReadsAs (members : Json.Members) (subject : Subject) : Prop where
  tables : ∃ nodes : List Json,
    nodes.mapM (Subject.readTable (.object members)) = .ok subject.tables
  conditions : subject.conditions = .empty ∨
    ∃ node, Condition.read node = .ok subject.conditions

/-- A subject has been read from its own members. -/
theorem Subject.readsAs_of_read {node : Json} {subject : Subject}
    (h : Subject.read node = .ok subject) :
    ∃ members, node = .object members ∧ Subject.ReadsAs members subject := by
  unfold Subject.read at h
  split at h
  · rename_i members
    split at h
    · rename_i nodes _
      obtain ⟨tables, htables, h⟩ := Outcome.bind_eq_ok.mp h
      obtain ⟨conditions, hconditions, h⟩ := Outcome.bind_eq_ok.mp h
      cases h
      exact ⟨members, rfl, ⟨nodes, htables⟩,
        Condition.exists_read_of_readConditionAt hconditions⟩
    · cases h
    · cases h
  · cases h

theorem Subject.wellFormed_of_read {node : Json} {subject : Subject}
    (h : Subject.read node = .ok subject) : subject.conditions.WellFormed := by
  obtain ⟨members, -, hreads⟩ := Subject.readsAs_of_read h
  exact Condition.wellFormed_of_optional hreads.conditions

namespace Aggregation

/-- A subject without tables is not kept. -/
theorem subject_of_readSubject {members : Json.Members} {subject : Subject}
    (h : readSubject members = .ok (some subject)) :
    subject.tables ≠ [] ∧ ∃ node, Subject.read node = .ok subject := by
  unfold readSubject at h
  split at h
  · cases h
  · cases h
  · rename_i node _ _
    obtain ⟨found, hfound, h⟩ := Outcome.bind_eq_ok.mp h
    cases hempty : found.tables.isEmpty with
    | true =>
      rw [hempty] at h
      cases h
    | false =>
      rw [hempty] at h
      cases h
      exact ⟨List.isEmpty_eq_false_iff.mp hempty, node, hfound⟩

/-- What the members of a node are read as. -/
structure ReadsAs (members : Json.Members) (a : Aggregation) : Prop where
  column : readColumn (.object members) (Json.get? members "col") = .ok a.column
  counts : a.column = none → a.statistic = .count
  condition : a.condition = .empty ∨ ∃ node, Condition.read node = .ok a.condition
  subject : readSubject members = .ok a.subject

/-- The members that an aggregate has been read from determine all of it. -/
theorem readsAs_of_read {node : Json} {a : Aggregation} (h : Aggregation.read node = .ok a) :
    ∃ members, node = .object members ∧ ReadsAs members a := by
  unfold Aggregation.read at h
  split at h
  · rename_i members
    obtain ⟨statistic, -, h⟩ := Outcome.bind_eq_ok.mp h
    obtain ⟨column, hcolumn, h⟩ := Outcome.bind_eq_ok.mp h
    dsimp only at h
    split at h
    · cases h
    · rename_i hchecked
      have hcounts : column = none → statistic = .count := by
        rintro rfl
        cases statistic with
        | count => rfl
        | _ => exact absurd rfl hchecked
      have hrest : ∀ condition : Condition,
          (condition = .empty ∨ ∃ node, Condition.read node = .ok condition) →
          ((readSubject members).bind fun subject ↦
            .ok { statistic, column, condition, subject }) = .ok a → ReadsAs members a := by
        intro condition hcondition h
        obtain ⟨subject, hsubject, h⟩ := Outcome.bind_eq_ok.mp h
        cases h
        exact ⟨hcolumn, hcounts, hcondition, hsubject⟩
      refine ⟨members, rfl, ?_⟩
      split at h
      · rename_i node _
        obtain ⟨condition, hcondition, h⟩ := Outcome.bind_eq_ok.mp h
        exact hrest condition (.inr ⟨node, hcondition⟩) h
      · exact hrest .empty (.inl rfl) h
  · cases h

/-- An aggregate that has been read has a column or counts rows, and its subject has tables. -/
theorem wellFormed_of_read {node : Json} {a : Aggregation} (h : Aggregation.read node = .ok a) :
    a.WellFormed := by
  obtain ⟨members, -, hreads⟩ := readsAs_of_read h
  have hsubject {subject : Subject} (h : a.subject = some subject) :
      subject.tables ≠ [] ∧ ∃ node, Subject.read node = .ok subject :=
    subject_of_readSubject (h ▸ hreads.subject)
  refine ⟨hreads.counts, Condition.wellFormed_of_optional hreads.condition,
    fun _ h ↦ (hsubject h).1, fun _ h ↦ ?_⟩
  obtain ⟨node, hnode⟩ := (hsubject h).2
  exact Subject.wellFormed_of_read hnode

end Aggregation

theorem Measure.wellFormed_of_read {node : Json} {m : Measure} (h : Measure.read node = .ok m) :
    m.WellFormed :=
  Expression.wellFormed_of_read (fun _ _ ↦ Aggregation.wellFormed_of_read) h

theorem CaseArm.condition_of_read {node : Json} {arm : CaseArm} (h : CaseArm.read node = .ok arm) :
    ∃ node, Condition.read node = .ok arm.condition := by
  unfold CaseArm.read at h
  split at h
  · split at h
    · cases h
    · rename_i node _
      obtain ⟨label, -, h⟩ := Outcome.bind_eq_ok.mp h
      obtain ⟨condition, hcondition, h⟩ := Outcome.bind_eq_ok.mp h
      cases h
      exact ⟨node, hcondition⟩
  · cases h

namespace Column

/-- What the members of a column of some kind are read as. -/
inductive ReadsBody (members : Json.Members) : String → ColumnBody → Prop
  | groupBy {node : Json} {value : Operand} (hvalue : Operand.read node = .ok value) :
    ReadsBody members "group_by" (.groupBy value)
  | aggregation {node : Json} {measure : Measure} (hexpr : Json.get? members "expr" = some node)
    (hmeasure : Measure.read node = .ok measure) :
    ReadsBody members "aggregation" (.aggregation measure)
  | cases {arms : List CaseArm} (hne : arms ≠ [])
    (harms : ∀ arm ∈ arms, ∃ node, Condition.read node = .ok arm.condition) :
    ReadsBody members "case" (.cases arms)

theorem readsBody_of_readBody {node : Json} {members : Json.Members} {kind : String}
    {body : ColumnBody} (h : readBody node members kind = .ok body) :
    ReadsBody members kind body := by
  unfold readBody at h
  split at h
  · split at h
    · obtain ⟨value, hvalue, h⟩ := Outcome.bind_eq_ok.mp h
      cases h
      exact .groupBy hvalue
    · cases h
  · split at h
    · rename_i node hexpr
      obtain ⟨measure, hmeasure, h⟩ := Outcome.bind_eq_ok.mp h
      cases h
      exact .aggregation hexpr hmeasure
    · cases h
  · split at h
    · obtain ⟨arms, harms, h⟩ := Outcome.bind_eq_ok.mp h
      cases h
      refine .cases ?_ fun arm harm ↦ ?_
      · rintro rfl
        cases Outcome.length_of_mapM harms
      · obtain ⟨node, -, hnode⟩ := Outcome.exists_of_mem_mapM harms harm
        exact CaseArm.condition_of_read hnode
    · cases h
    · cases h
  · cases h

/-- What a node is read as: its kind tells how the body is read. -/
theorem readsBody_of_read {node : Json} {column : Column} (h : Column.read node = .ok column) :
    ∃ members kind, node = .object members ∧ Json.get? members "type" = some (.string kind) ∧
      ReadsBody members kind column.body := by
  unfold Column.read at h
  split at h
  · rename_i members
    obtain ⟨kind, hkind, h⟩ := Outcome.bind_eq_ok.mp h
    obtain ⟨title, -, h⟩ := Outcome.bind_eq_ok.mp h
    obtain ⟨body, hbody, h⟩ := Outcome.bind_eq_ok.mp h
    cases h
    refine ⟨members, kind, rfl, ?_, readsBody_of_readBody hbody⟩
    unfold readText at hkind
    split at hkind
    · rename_i text htype
      cases hkind
      exact htype
    · cases hkind
    · cases hkind
  · cases h

/-- A case distinction that has been read has an arm, and the conditions of its arms have been read.
-/
theorem ReadsBody.wellFormed {members : Json.Members} {kind : String} {body : ColumnBody}
    (h : ReadsBody members kind body) : body.WellFormed := by
  cases h with
  | groupBy hvalue => exact Operand.wellFormed_of_read hvalue
  | aggregation _ hmeasure => exact Measure.wellFormed_of_read hmeasure
  | cases hne harms =>
    refine ⟨hne, fun arm harm ↦ ?_⟩
    obtain ⟨node, hnode⟩ := harms arm harm
    exact Condition.wellFormed_of_read hnode

theorem wellFormed_of_read {node : Json} {column : Column} (h : Column.read node = .ok column) :
    column.body.WellFormed := by
  obtain ⟨_, _, -, -, hbody⟩ := readsBody_of_read h
  exact hbody.wellFormed

end Column

namespace Indicator

/-- What the members of a node are read as. -/
structure ReadsAs (members : Json.Members) (indicator : Indicator) : Prop where
  subject : ∃ node, Subject.read node = .ok indicator.subject
  columns : ∃ nodes, Json.get? members "colonnes" = some (.array nodes) ∧
    nodes.mapM Column.read = .ok indicator.columns

/-- An indicator has been read from its own members, columns and all. -/
theorem readsAs_of_read {node : Json} {indicator : Indicator}
    (h : Indicator.read node = .ok indicator) :
    ∃ members, node = .object members ∧ ReadsAs members indicator := by
  unfold Indicator.read at h
  split at h
  · rename_i members
    split at h
    · cases h
    · rename_i node _
      obtain ⟨subject, hsubject, h⟩ := Outcome.bind_eq_ok.mp h
      split at h
      · rename_i nodes hnodes
        obtain ⟨columns, hcolumns, h⟩ := Outcome.bind_eq_ok.mp h
        cases h
        exact ⟨members, rfl, ⟨node, hsubject⟩, nodes, hnodes, hcolumns⟩
      · cases h
      · cases h
  · cases h

/-- Everything that compilation relies on is checked when an indicator is read. -/
theorem wellFormed_of_read {node : Json} {indicator : Indicator}
    (h : Indicator.read node = .ok indicator) : indicator.WellFormed := by
  obtain ⟨members, -, ⟨subject, hsubject⟩, nodes, -, hcolumns⟩ := readsAs_of_read h
  refine ⟨Subject.wellFormed_of_read hsubject, fun column hcolumn ↦ ?_⟩
  obtain ⟨node, -, hnode⟩ := Outcome.exists_of_mem_mapM hcolumns hcolumn
  exact Column.wellFormed_of_read hnode

end Indicator

/-! ## Renaming -/

namespace Expression

variable {α : Type} {kept : α → Prop}

mutual

/-- Renaming changes neither the operators nor the number of operands. -/
theorem WellFormed.rename (r : Renaming) (tables : List String) {f : α → α}
    (hf : ∀ a, kept a → kept (f a)) {e : Expression α} (h : e.WellFormed kept) :
    (Expression.rename f r tables e).WellFormed kept := by
  cases e with
  | literal value => trivial
  | column name => trivial
  | operation op args =>
    refine ⟨?_, AllWellFormed.rename r tables hf h.2⟩
    cases args with
    | nil => exact absurd rfl h.1
    | cons arg rest => exact List.cons_ne_nil _ _
  | aggregate a => exact hf a h

theorem AllWellFormed.rename (r : Renaming) (tables : List String) {f : α → α}
    (hf : ∀ a, kept a → kept (f a)) {es : List (Expression α)} (h : AllWellFormed kept es) :
    AllWellFormed kept (renameAll f r tables es) := by
  cases es with
  | nil => trivial
  | cons e rest => exact ⟨WellFormed.rename r tables hf h.1, AllWellFormed.rename r tables hf h.2⟩

end

end Expression

theorem Operand.WellFormed.rename (r : Renaming) (tables : List String) {e : Operand}
    (h : e.WellFormed) : (Operand.rename r tables e).WellFormed :=
  Expression.WellFormed.rename r tables (fun _ h ↦ h) h

namespace Condition

mutual

theorem WellFormed.rename (r : Renaming) (tables : List String) {c : Condition}
    (h : c.WellFormed) : (Condition.rename r tables c).WellFormed := by
  cases c with
  | empty => trivial
  | junction kind children => exact AllWellFormed.rename r tables h
  | compare op left right => exact ⟨h.1.rename r tables, h.2.rename r tables⟩

theorem AllWellFormed.rename (r : Renaming) (tables : List String) {cs : List Condition}
    (h : AllWellFormed cs) : AllWellFormed (renameAll r tables cs) := by
  cases cs with
  | nil => trivial
  | cons c rest => exact ⟨WellFormed.rename r tables h.1, AllWellFormed.rename r tables h.2⟩

end

end Condition

/-- A column that is there stays there, under another name. -/
theorem Aggregation.WellFormed.rename (r : Renaming) (outer : List String) {a : Aggregation}
    (h : a.WellFormed) : (Aggregation.rename r outer a).WellFormed where
  column := by
    intro hnone
    exact h.column (Option.map_eq_none_iff.mp hnone)
  condition := h.condition.rename r (a.scope outer)
  tables := by
    intro subject hsubject
    obtain ⟨old, hold, rfl⟩ := Option.map_eq_some_iff.mp hsubject
    intro hnil
    exact h.tables old hold (List.map_eq_nil_iff.mp hnil)
  conditions := by
    intro subject hsubject
    obtain ⟨old, hold, rfl⟩ := Option.map_eq_some_iff.mp hsubject
    exact (h.conditions old hold).rename r (a.scope outer)

theorem ColumnBody.WellFormed.rename (r : Renaming) (tables : List String) {body : ColumnBody}
    (h : body.WellFormed) : (ColumnBody.rename r tables body).WellFormed := by
  cases body with
  | groupBy value => exact Operand.WellFormed.rename r tables h
  | cases arms =>
    refine ⟨fun hnil ↦ h.1 (List.map_eq_nil_iff.mp hnil), fun arm harm ↦ ?_⟩
    obtain ⟨old, hold, rfl⟩ := List.mem_map.mp harm
    exact (h.2 old hold).rename r tables
  | aggregation measure =>
    exact Expression.WellFormed.rename r tables (fun _ ha ↦ ha.rename r tables) h

/-- Names have no part in what makes an indicator well formed. -/
theorem Indicator.WellFormed.rename (r : Renaming) {indicator : Indicator}
    (h : indicator.WellFormed) : (indicator.rename r).WellFormed where
  conditions := h.conditions.rename r indicator.subject.tables
  columns := by
    intro column hcolumn
    obtain ⟨old, hold, rfl⟩ := List.mem_map.mp hcolumn
    exact (h.columns old hold).rename r indicator.subject.tables

end Barometer
