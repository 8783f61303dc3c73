import Barometer.Proofs.Indicator.WellFormed

/-!
# What is looked at in a node

A node is read by some of its keys. Which these are depends on its kind and on the node: an
expression has other keys if it is an aggregate, a column or an operation, and in two places there
is a second spelling, which counts if the first one is absent. Two nodes that hold the same under
these keys are read alike, up to the defects that are found.
-/

namespace Barometer

open Defect

open Outcome (Alike)

/-! ## Kinds of nodes -/

/-- What is expected at a place of an indicator. -/
inductive NodeKind where
  | indicator
  | subject
  | column
  | arm
  | operand
  | measure
  | condition
  /-- The column of an aggregate, which may be in an object of its own. -/
  | aggregated
  | list (kind : NodeKind)
  /-- A text, or something else that has no nodes in it. -/
  | plain

namespace NodeKind

/-- A key and its second spelling. -/
def spelled (members : Json.Members) (key other : String) (kind : NodeKind) :
    List (String × NodeKind) :=
  if (Json.get? members key).isSome then [(key, kind)] else [(key, kind), (other, kind)]

/-- The keys of an expression whose arguments are of a kind. -/
def expressionParts (members : Json.Members) (kind : NodeKind)
    (aggregate : List (String × NodeKind)) : List (String × NodeKind) :=
  if (Json.get? members "agg").isSome then ("agg", .plain) :: aggregate
  else if (Json.get? members "col").isSome then [("agg", .plain), ("col", .plain)]
  else [("agg", .plain), ("col", .plain), ("op", .plain), ("args", .list kind)]

/-- The keys of the body of a column, by its type. -/
def bodyParts : Option Json → List (String × NodeKind)
  | some (.string "group_by") => [("expr", .operand)]
  | some (.string "aggregation") => [("expr", .measure)]
  | some (.string "case") => [("cases", .list .arm)]
  | _ => []

/-- The keys that are looked at in an object, and what is expected there. -/
def parts : NodeKind → Json.Members → List (String × NodeKind)
  | .indicator, _ => [("sujet", .subject), ("colonnes", .list .column)]
  | .subject, members =>
    ("tables", .list .plain) :: spelled members "conditions" "condition" .condition
  | .column, members =>
    ("type", .plain) :: ("titre", .plain) :: bodyParts (Json.get? members "type")
  | .arm, _ => [("when", .condition), ("label", .plain)]
  | .operand, members => expressionParts members .operand []
  | .measure, members => expressionParts members .measure
    (("col", .aggregated) :: ("condition", .condition) ::
      spelled members "subject" "sujet" .subject)
  | .condition, members => members.map fun member ↦
    (member.1, .list (if (Condition.junctionOfKey? member.1).isSome then .condition else .operand))
  | .aggregated, _ => [("col", .plain)]
  | .list _, _ => []
  | .plain, _ => []

/-- What is expected under a key; none if it is not looked at. -/
def part? (kind : NodeKind) (members : Json.Members) (key : String) : Option NodeKind :=
  (kind.parts members).lookup key

/-- What is expected in a list. -/
def item : NodeKind → NodeKind
  | .list kind => kind
  | .condition => .condition
  | _ => .plain

end NodeKind

/-! ## Nodes that are read alike -/

/-- Whether two values are both objects, both lists or equal. -/
inductive Json.SameShape : Json → Json → Prop
  | refl (value : Json) : SameShape value value
  | array (items items' : List Json) : SameShape (.array items) (.array items')
  | object (members members' : Members) : SameShape (.object members) (.object members')

namespace NodeKind

/-- Whether two nodes make no difference where a kind is expected. -/
def Same (kind : NodeKind) (v v' : Json) : Prop :=
  v.SameShape v' ∧
    match kind with
    | .indicator => Alike (Indicator.read v) (Indicator.read v')
    | .subject => Alike (Subject.read v) (Subject.read v')
    | .column => Alike (Column.read v) (Column.read v')
    | .arm => Alike (CaseArm.read v) (CaseArm.read v')
    | .operand => Alike (Operand.read v) (Operand.read v')
    | .measure => Alike (Measure.read v) (Measure.read v')
    | .condition => Alike (Condition.read v) (Condition.read v')
    | .aggregated => ∀ node node',
      Alike (Aggregation.readColumn node (some v)) (Aggregation.readColumn node' (some v'))
    | .list kind => ∀ items items', v = .array items → v' = .array items' →
      List.Forall₂ kind.Same items items'
    | .plain => True

/-- Whether a key leads to such nodes in both objects, or to none in both. -/
def SameAt (kind : NodeKind) (members members' : Json.Members) (key : String) : Prop :=
  Option.Rel kind.Same (Json.get? members key) (Json.get? members' key)

/-- Whether two objects hold the same under all keys that are looked at in the first one. -/
def SameParts (kind : NodeKind) (members members' : Json.Members) : Prop :=
  ∀ key part, kind.part? members key = some part → part.SameAt members members' key

end NodeKind

open NodeKind

variable {v v' : Json} {members members' : Json.Members} {kind : NodeKind} {key : String}

/-- Where containers are refused, those of the same shape are. -/
theorem Json.SameShape.alike {α : Type} {f g : Json → Except Defect α} (h : v.SameShape v')
    (hsame : ∀ v, Alike (f v) (g v))
    (harray : ∀ items items', Alike (f (.array items)) (g (.array items')))
    (hobject : ∀ members members', Alike (f (.object members)) (g (.object members'))) :
    Alike (f v) (g v') := by
  cases h with
  | refl v => exact hsame v
  | array items items' => exact harray items items'
  | object members members' => exact hobject members members'

/-- Members of one key are missing on both sides, or are there on both and the same. -/
theorem NodeKind.SameAt.cases (h : kind.SameAt members members' key) :
    (Json.get? members key = none ∧ Json.get? members' key = none) ∨
      ∃ v v', Json.get? members key = some v ∧ Json.get? members' key = some v' ∧
        kind.Same v v' := by
  unfold SameAt at h
  generalize Json.get? members key = o, Json.get? members' key = o' at h
  cases h with
  | none => exact .inl ⟨rfl, rfl⟩
  | some hsame => exact .inr ⟨_, _, rfl, rfl, hsame⟩

/-- What depends on one member alone is alike for objects that are the same at its key. -/
theorem NodeKind.SameAt.alike {α : Type} {f g : Option Json → Except Defect α}
    (h : kind.SameAt members members' key) (hnone : Alike (f none) (g none))
    (hsome : ∀ v v', kind.Same v v' → Alike (f (some v)) (g (some v'))) :
    Alike (f (Json.get? members key)) (g (Json.get? members' key)) := by
  obtain ⟨hv, hv'⟩ | ⟨v, v', hv, hv', hsame⟩ := h.cases
  · rw [hv, hv']
    exact hnone
  · rw [hv, hv']
    exact hsome v v' hsame

/-- A second spelling counts only where the first one is absent. -/
theorem NodeKind.SameAt.or {other : String} (h : kind.SameAt members members' key)
    (hother : Json.get? members key = none → kind.SameAt members members' other) :
    Option.Rel kind.Same ((Json.get? members key).or (Json.get? members other))
      ((Json.get? members' key).or (Json.get? members' other)) := by
  obtain ⟨hv, hv'⟩ | ⟨v, v', hv, hv', hsame⟩ := h.cases
  · rw [hv, hv', Option.none_or, Option.none_or]
    exact hother hv
  · rw [hv, hv']
    exact .some hsame

theorem NodeKind.SameAt.alike_plain {α : Type} {f g : Option Json → Except Defect α}
    (h : NodeKind.plain.SameAt members members' key) (hnone : Alike (f none) (g none))
    (hsame : ∀ v, Alike (f (some v)) (g (some v)))
    (harray : ∀ items items', Alike (f (some (.array items))) (g (some (.array items'))))
    (hobject : ∀ members members',
      Alike (f (some (.object members))) (g (some (.object members')))) :
    Alike (f (Json.get? members key)) (g (Json.get? members' key)) := by
  refine h.alike hnone fun v v' hv ↦ ?_
  cases hv.1 with
  | refl v => exact hsame v
  | array items items' => exact harray items items'
  | object members members' => exact hobject members members'

/-- In a list every node is replaced by one that makes no difference. -/
theorem NodeKind.Same.alike_list {α : Type} {f g : Json → Except Defect α}
    (h : kind.list.Same v v')
    (hitems : ∀ items items', List.Forall₂ kind.Same items items' →
      Alike (f (.array items)) (g (.array items')))
    (hobject : ∀ members members', Alike (f (.object members)) (g (.object members')))
    (hplain : ∀ v, (∀ items, v ≠ .array items) → Alike (f v) (g v)) : Alike (f v) (g v') := by
  obtain ⟨hshape, hsame⟩ := h
  cases hshape with
  | array items items' => exact hitems items items' (hsame items items' rfl rfl)
  | object members members' => exact hobject members members'
  | refl v =>
    cases v with
    | array items => exact hitems items items (hsame items items rfl rfl)
    | _ => exact hplain _ fun _ h ↦ by cases h

/-! ## Values -/

section Values

variable (node node' : Json)

theorem Expression.columnName_alike (h : v.SameShape v') :
    Alike (columnName node v) (columnName node' v') := by
  refine h.alike (fun v ↦ ?_) (fun _ _ ↦ .error _ _) (fun _ _ ↦ .error _ _)
  cases v with
  | string name => exact .ite (.error _ _) (.refl _)
  | _ => exact .error _ _

theorem Expression.operatorOf_alike (h : v.SameShape v') :
    Alike (operatorOf node v) (operatorOf node' v') := by
  refine h.alike (fun v ↦ ?_) (fun _ _ ↦ .error _ _) (fun _ _ ↦ .error _ _)
  cases v with
  | string name => exact .refl _
  | _ => exact .error _ _

theorem Subject.readTable_alike (h : v.SameShape v') :
    Alike (readTable node v) (readTable node' v') := by
  refine h.alike (fun v ↦ ?_) (fun _ _ ↦ .error _ _) (fun _ _ ↦ .error _ _)
  cases v with
  | string name => exact .ite (.error _ _) (.refl _)
  | _ => exact .error _ _

/-- Of a text everything is read, so nothing of it may differ. -/
theorem Column.readText_alike (part : Part) (h : NodeKind.plain.SameAt members members' key) :
    Alike (readText part key node (Json.get? members key))
      (readText part key node' (Json.get? members' key)) := by
  refine h.alike_plain (.error _ _) (fun v ↦ ?_) (fun _ _ ↦ .error _ _) (fun _ _ ↦ .error _ _)
  cases v with
  | string text => exact .refl _
  | _ => exact .error _ _

theorem CaseArm.readLabel_alike (h : NodeKind.plain.SameAt members members' key) :
    Alike (readLabel node (Json.get? members key)) (readLabel node' (Json.get? members' key)) := by
  refine h.alike_plain (.error _ _) (fun v ↦ ?_) (fun _ _ ↦ .error _ _) (fun _ _ ↦ .error _ _)
  cases v with
  | string label => exact .refl _
  | number n => exact .refl _
  | _ => exact .error _ _

/-- The function of an aggregate is a text. -/
theorem Aggregation.readStatistic_alike (h : NodeKind.plain.SameAt members members' key) :
    Alike (readStatistic node (Json.get? members key))
      (readStatistic node' (Json.get? members' key)) := by
  refine h.alike_plain (.error _ _) (fun v ↦ ?_) (fun _ _ ↦ .error _ _) (fun _ _ ↦ .error _ _)
  cases v with
  | string name => exact .refl _
  | _ => exact .error _ _

end Values

/-- What is listed under a key, where it may be necessary that something is. -/
def readListed {α : Type} (read : Json → Except Defect α) (needed : Bool)
    (absent refused : Defect) : Option Json → Except Defect (List α)
  | none => .error absent
  | some (.array items) =>
    if needed && items.isEmpty then .error refused else items.mapM read
  | some _ => .error refused

/-- A list is refused on both sides, or its items are read one by one. -/
theorem readListed_alike {α : Type} {f g : Json → Except Defect α}
    (h : kind.list.SameAt members members' key)
    (hkind : ∀ v v', kind.Same v v' → Alike (f v) (g v')) {needed : Bool}
    {absent absent' refused refused' : Defect} :
    Alike (readListed f needed absent refused (Json.get? members key))
      (readListed g needed absent' refused' (Json.get? members' key)) := by
  refine h.alike (.error _ _) fun v v' hsame ↦ ?_
  refine hsame.alike_list (f := fun v ↦ readListed f needed absent refused (some v))
    (g := fun v ↦ readListed g needed absent' refused' (some v)) (fun items items' hitems ↦ ?_)
    (fun _ _ ↦ .error _ _) (fun v hv ↦ ?_)
  · have hempty : items.isEmpty = items'.isEmpty := by cases hitems <;> rfl
    simp only [readListed, hempty]
    exact .ite (.error _ _) (.mapM (hitems.imp hkind))
  · cases v with
    | array items => exact absurd rfl (hv items)
    | _ => exact .error _ _

/-! ## Expressions -/

namespace Aggregation

/-- A column in an object of its own. -/
theorem readColumn_alike (h : NodeKind.plain.SameAt members members' "col") (node node' : Json) :
    Alike (readColumn node (some (.object members)))
      (readColumn node' (some (.object members'))) := by
  unfold readColumn
  dsimp only
  obtain ⟨hv, hv'⟩ | ⟨v, v', hv, hv', hshape, -⟩ := h.cases
  · rw [hv, hv']
    exact .error _ _
  · rw [hv, hv']
    cases hshape with
    | refl v =>
      cases v with
      | string name => exact .refl _
      | _ => exact .error _ _
    | array _ _ => exact .error _ _
    | object _ _ => exact .error _ _

end Aggregation

namespace Expression

variable {α : Type} {leaf : Json → Except Defect α}

/-- The members that decide what an expression is, in the order in which they are asked for. -/
theorem read_object (members : Json.Members) : read leaf (.object members) =
    if (Json.get? members "agg").isSome then (leaf (.object members)).map .aggregate
    else match Json.get? members "col" with
      | some name => (columnName (.object members) name).map .column
      | none =>
        match Json.get? members "op" with
        | none => .error (misshapen .expression (.object members))
        | some op => operatorOf (.object members) op >>= fun op ↦
          readListed (read leaf) true (lacking .operator "args" (.object members))
            (misshapen .operatorArguments (.object members)) (Json.get? members "args") >>=
              fun args ↦ .ok (.operation op args) := by
  rw [read]
  simp only [readAll_eq_mapM]
  split
  · rfl
  · cases Json.get? members "col" with
    | some name => rfl
    | none =>
      cases Json.get? members "op" with
      | none => rfl
      | some op =>
        refine bind_congr fun op ↦ ?_
        split
        · rename_i hargs
          rw [hargs]
          rfl
        · rename_i args hargs
          rw [hargs, readListed, Bool.true_and]
          split <;> rfl
        · rename_i hnot hargs
          rw [hargs, readListed]
          · rfl
          · exact hnot

theorem read_alike {aggregate : List (String × NodeKind)}
    (hparts : ∀ key part, (expressionParts members kind aggregate).lookup key = some part →
      part.SameAt members members' key)
    (hkind : ∀ v v', kind.Same v v' → Alike (read leaf v) (read leaf v'))
    (hleaf : (Json.get? members "agg").isSome →
      Alike (leaf (.object members)) (leaf (.object members'))) :
    Alike (read leaf (.object members)) (read leaf (.object members')) := by
  have hagg : NodeKind.plain.SameAt members members' "agg" := hparts "agg" .plain (by
    unfold expressionParts
    split
    · rfl
    · split <;> rfl)
  rw [read_object, read_object]
  -- The keys that are looked at next are known as soon as the one before is found to be absent.
  obtain ⟨ha, ha'⟩ | ⟨v, v', ha, ha', -⟩ := hagg.cases
  · have hnone : ¬ (Json.get? members "agg").isSome := by simp [ha]
    have hcol : NodeKind.plain.SameAt members members' "col" := hparts "col" .plain (by
      rw [expressionParts, if_neg hnone]
      split <;> rfl)
    rw [ha, ha']
    obtain ⟨hc, hc'⟩ | ⟨v, v', hc, hc', hshape, -⟩ := hcol.cases
    · have hoperation : expressionParts members kind aggregate =
          [("agg", .plain), ("col", .plain), ("op", .plain), ("args", .list kind)] := by
        rw [expressionParts, if_neg hnone, if_neg (by simp [hc])]
      rw [hoperation] at hparts
      have hargs : kind.list.SameAt members members' "args" := hparts "args" kind.list rfl
      rw [hc, hc']
      obtain ⟨ho, ho'⟩ | ⟨op, op', ho, ho', hshape, -⟩ := (hparts "op" .plain rfl).cases
      · rw [ho, ho']
        exact .error _ _
      · rw [ho, ho']
        exact (operatorOf_alike _ _ hshape).bind fun _ _ ↦
          (readListed_alike hargs hkind).bind fun _ _ ↦ .refl _
    · rw [hc, hc']
      exact (columnName_alike _ _ hshape).map _
  · rw [ha, ha']
    exact (hleaf (by rw [ha]; rfl)).map _

end Expression

/-! ## Conditions -/

namespace Condition

/-- The conditions of a junction. -/
def readChildren (node : Json) : Json → Except Defect (List Condition)
  | .array items => items.mapM read
  | .null => .ok []
  | _ => .error (misshapen .condition node)

/-- An object of one member is a junction or a comparison by the key of the member. -/
theorem read_member (key : String) (v : Json) : read (.object [(key, v)]) =
    match junctionOfKey? key with
    | some kind => (readChildren (.object [(key, v)]) v).map (.junction kind)
    | none => readComparison (.object [(key, v)]) key v := by
  rw [read]
  cases junctionOfKey? key with
  | none => rfl
  | some kind =>
    cases v with
    | array items =>
      simp only [readAll_eq_mapM]
      rfl
    | _ => rfl

theorem read_array {items : List Json} (hne : items ≠ []) :
    read (.array items) = (items.mapM read).map (.junction .list) := by
  rcases items with _ | ⟨item, rest⟩
  · exact absurd rfl hne
  · rw [read]
    simp only [readAll_eq_mapM]
    rfl

theorem readChildren_alike (h : NodeKind.condition.list.Same v v') (node node' : Json) :
    Alike (readChildren node v) (readChildren node' v') := by
  refine h.alike_list (fun items items' hitems ↦ ?_) (fun _ _ ↦ .error _ _) (fun v hv ↦ ?_)
  · exact .mapM (hitems.imp fun _ _ hsame ↦ hsame.2)
  · cases v with
    | array items => exact absurd rfl (hv items)
    | null => exact .refl _
    | _ => exact .error _ _

/-- A comparison without a list of operands is refused, for whatever reason comes first. -/
theorem exists_readComparison_eq_error (node : Json) (key : String)
    (h : ∀ items, v ≠ .array items) : ∃ e, readComparison node key v = .error e := by
  unfold readComparison
  cases Comparison.ofName? key with
  | none => exact ⟨_, rfl⟩
  | some op =>
    cases v with
    | array items => exact absurd rfl (h items)
    | _ => exact ⟨_, rfl⟩

theorem readComparison_alike (h : NodeKind.operand.list.Same v v') (node node' : Json) :
    Alike (readComparison node key v) (readComparison node' key v') := by
  have herror {v v' : Json} (hv : ∀ items, v ≠ .array items) (hv' : ∀ items, v' ≠ .array items) :
      Alike (readComparison node key v) (readComparison node' key v') := by
    obtain ⟨e, he⟩ := exists_readComparison_eq_error node key hv
    obtain ⟨e', he'⟩ := exists_readComparison_eq_error node' key hv'
    rw [he, he']
    exact .error e e'
  refine h.alike_list (fun items items' hitems ↦ ?_)
    (fun _ _ ↦ herror (fun _ h ↦ by cases h) fun _ h ↦ by cases h) (fun v hv ↦ herror hv hv)
  unfold readComparison
  cases Comparison.ofName? key with
  | none => exact .error _ _
  | some op =>
    rcases hitems with _ | ⟨hleft, _ | ⟨hright, _ | ⟨_, _⟩⟩⟩
    · exact .error _ _
    · exact .error _ _
    · exact hleft.2.bind fun _ _ ↦ hright.2.bind fun _ _ ↦ .refl _
    · exact .error _ _

/-- More than one key makes no condition. -/
theorem read_eq_error (h : 1 < members.length) :
    read (.object members) = .error (misshapen .condition (.object members)) := by
  rcases members with _ | ⟨first, _ | ⟨second, rest⟩⟩
  · cases h
  · exact absurd h (Nat.lt_irrefl 1)
  · rw [read] <;> simp

/-- Objects of several members are refused as conditions, and the order makes no difference there.
-/
theorem read_alike_of_perm (h : members.Perm members') :
    Alike (read (.object members)) (read (.object members')) := by
  by_cases hlength : 1 < members.length
  · rw [read_eq_error hlength, read_eq_error (h.length_eq ▸ hlength)]
    exact .error _ _
  · rcases members with _ | ⟨member, _ | ⟨second, rest⟩⟩
    · rw [h.nil_eq]
      exact .refl _
    · rw [List.singleton_perm.mp h]
      exact .refl _
    · exact absurd (Nat.succ_lt_succ (Nat.succ_pos rest.length)) hlength

theorem read_alike_of_member {before after : Json.Members} {part : NodeKind}
    (hpart : NodeKind.condition.part? (before ++ (key, v) :: after) key = some part)
    (h : part.Same v v') :
    Alike (read (.object (before ++ (key, v) :: after)))
      (read (.object (before ++ (key, v') :: after))) := by
  by_cases hlength : 1 < (before ++ (key, v) :: after).length
  -- With another key beside it there is no condition in either object.
  · have hlength' : 1 < (before ++ (key, v') :: after).length := by simpa using hlength
    rw [read_eq_error hlength, read_eq_error hlength']
    exact .error _ _
  · have hbefore : before = [] := by
      rw [← List.length_eq_zero_iff]
      simp at hlength
      omega
    have hafter : after = [] := by
      rw [← List.length_eq_zero_iff]
      simp at hlength
      omega
    subst hbefore hafter
    rw [List.nil_append, part?, parts, List.map_singleton, List.lookup_cons,
      beq_self_eq_true] at hpart
    cases hpart
    rw [List.nil_append, List.nil_append, read_member, read_member]
    cases hkey : junctionOfKey? key with
    | some kind =>
      rw [hkey] at h
      exact (readChildren_alike h _ _).map _
    | none =>
      rw [hkey] at h
      exact readComparison_alike h _ _

/-- No condition where none is written. -/
def readOption : Option Json → Except Defect Condition
  | some node => read node
  | none => .ok .empty

theorem readOption_alike {o o' : Option Json} (h : Option.Rel NodeKind.condition.Same o o') :
    Alike (readOption o) (readOption o') := by
  cases h with
  | none => exact .refl _
  | some hsame => exact hsame.2

theorem readConditionAt_eq (members : Json.Members) (key other : String) :
    readConditionAt members key other =
      readOption ((Json.get? members key).or (Json.get? members other)) := by
  unfold readConditionAt
  cases (Json.get? members key).or (Json.get? members other) <;> rfl

end Condition

/-! ## Subjects and aggregates -/

/-- A subject has its tables read before its conditions. -/
theorem Subject.read_object (members : Json.Members) : Subject.read (.object members) =
    readListed (readTable (.object members)) false (lacking .subject "tables" (.object members))
      (misshapen .subjectTables (.object members)) (Json.get? members "tables") >>= fun tables ↦
        readConditionAt members "conditions" "condition" >>= fun conditions ↦
          .ok { tables, conditions } := by
  rw [Subject.read]
  split
  · rename_i htables
    rw [htables]
    rfl
  · rename_i hnot htables
    rw [htables, readListed]
    · rfl
    · exact hnot
  · rename_i htables
    rw [htables]
    rfl

theorem Subject.read_alike (hparts : NodeKind.subject.SameParts members members') :
    Alike (Subject.read (.object members)) (Subject.read (.object members')) := by
  have htables : NodeKind.plain.list.SameAt members members' "tables" := hparts _ _ rfl
  have hfirst : NodeKind.condition.SameAt members members' "conditions" := hparts _ _ (by
    rw [part?, parts, spelled]
    split <;> rfl)
  have hsecond (hnone : Json.get? members "conditions" = none) :
      NodeKind.condition.SameAt members members' "condition" := hparts _ _ (by
    rw [part?, parts, spelled, hnone]
    rfl)
  rw [Subject.read_object, Subject.read_object, Condition.readConditionAt_eq,
    Condition.readConditionAt_eq]
  exact (readListed_alike htables fun _ _ htable ↦ readTable_alike _ _ htable.1).bind fun _ _ ↦
    (Condition.readOption_alike (hfirst.or hsecond)).bind fun _ _ ↦ .refl _

namespace Aggregation

/-- Only where the first key is missing is the second one looked at. -/
theorem readSubject_alike (hfirst : NodeKind.subject.SameAt members members' "subject")
    (hsecond : Json.get? members "subject" = none →
      NodeKind.subject.SameAt members members' "sujet") :
    Alike (readSubject members) (readSubject members') := by
  have h := hfirst.or hsecond
  unfold readSubject
  generalize (Json.get? members "subject").or (Json.get? members "sujet") = o,
    (Json.get? members' "subject").or (Json.get? members' "sujet") = o' at h
  cases h with
  | none => exact .refl _
  | some hsame =>
    obtain ⟨hshape, hread⟩ := hsame
    cases hshape with
    | refl v => exact .refl _
    | array _ _ => exact hread.bind fun _ _ ↦ .refl _
    | object _ _ => exact hread.bind fun _ _ ↦ .refl _

theorem read_object (members : Json.Members) : read (.object members) =
    readStatistic (.object members) (Json.get? members "agg") >>= fun statistic ↦
      readColumn (.object members) (Json.get? members "col") >>= fun column ↦
        if column.isNone && !statistic.isCount then
          .error (lacking .aggregation "col" (.object members))
        else Condition.readOption (Json.get? members "condition") >>= fun condition ↦
          readSubject members >>= fun subject ↦ .ok { statistic, column, condition, subject } := by
  rw [read]
  refine bind_congr fun statistic ↦ bind_congr fun column ↦ ?_
  cases column.isNone && !statistic.isCount with
  | true => rfl
  | false => cases Json.get? members "condition" <;> rfl

theorem read_alike (hagg : (Json.get? members "agg").isSome)
    (hparts : NodeKind.measure.SameParts members members') :
    Alike (read (.object members)) (read (.object members')) := by
  have hmeasure : NodeKind.measure.parts members =
      ("agg", .plain) :: ("col", .aggregated) :: ("condition", .condition) ::
        spelled members "subject" "sujet" .subject := by
    rw [parts, expressionParts, if_pos hagg]
  simp only [SameParts, part?, hmeasure] at hparts
  have hfirst : NodeKind.subject.SameAt members members' "subject" := hparts _ _ (by
    rw [spelled]
    split <;> rfl)
  have hsecond (hnone : Json.get? members "subject" = none) :
      NodeKind.subject.SameAt members members' "sujet" := hparts _ _ (by
    rw [spelled, hnone]
    rfl)
  have hcol : NodeKind.aggregated.SameAt members members' "col" := hparts _ _ rfl
  have hcolumn : Alike (readColumn (.object members) (Json.get? members "col"))
      (readColumn (.object members') (Json.get? members' "col")) :=
    hcol.alike (.refl _) fun _ _ hsame ↦ hsame.2 _ _
  rw [read_object, read_object]
  refine (readStatistic_alike _ _ (hparts _ _ rfl)).bind fun _ _ ↦ hcolumn.bind fun _ _ ↦ ?_
  refine .ite (.error _ _) ?_
  exact (Condition.readOption_alike (hparts "condition" .condition rfl)).bind fun _ _ ↦
    (readSubject_alike hfirst hsecond).bind fun _ _ ↦ .refl _

end Aggregation

/-- An arm is read from its condition and its label, and from nothing else. -/
theorem CaseArm.read_alike (hparts : NodeKind.arm.SameParts members members') :
    Alike (CaseArm.read (.object members)) (CaseArm.read (.object members')) := by
  have hwhen : NodeKind.condition.SameAt members members' "when" := hparts _ _ rfl
  rw [CaseArm.read, CaseArm.read]
  obtain ⟨hv, hv'⟩ | ⟨v, v', hv, hv', hsame⟩ := hwhen.cases
  · rw [hv, hv']
    exact .error _ _
  · rw [hv, hv']
    exact (readLabel_alike _ _ (hparts _ _ rfl)).bind fun _ _ ↦ hsame.2.bind fun _ _ ↦ .refl _

/-! ## Columns and indicators -/

namespace Column

theorem eq_string_of_readText {part : Part} {node : Json} {o : Option Json} {s : String}
    (h : readText part key node o = .ok s) : o = some (.string s) := by
  unfold readText at h
  split at h
  · cases h
    rfl
  · cases h
  · cases h

theorem readBody_case (node : Json) (members : Json.Members) : readBody node members "case" =
    readListed CaseArm.read true (lacking .caseColumn "cases" node) (misshapen .caseColumn node)
      (Json.get? members "cases") >>= fun arms ↦ .ok (.cases arms) := by
  unfold readBody
  rcases Json.get? members "cases" with _ | v
  · rfl
  · cases v with
    | array items => cases items <;> rfl
    | _ => rfl

/-- What the body of a column is read from depends on the type of the column. -/
theorem readBody_alike (hparts : NodeKind.column.SameParts members members') {type : String}
    (htype : Json.get? members "type" = some (.string type)) (node node' : Json) :
    Alike (readBody node members type) (readBody node' members' type) := by
  simp only [SameParts, part?, parts, htype] at hparts
  unfold readBody
  split
  · have hexpr : NodeKind.operand.SameAt members members' "expr" := hparts _ _ rfl
    obtain ⟨hv, hv'⟩ | ⟨v, v', hv, hv', hsame⟩ := hexpr.cases
    · rw [hv, hv']
      exact .error _ _
    · rw [hv, hv']
      exact hsame.2.bind fun _ _ ↦ .refl _
  · have hexpr : NodeKind.measure.SameAt members members' "expr" := hparts _ _ rfl
    obtain ⟨hv, hv'⟩ | ⟨v, v', hv, hv', hsame⟩ := hexpr.cases
    · rw [hv, hv']
      exact .error _ _
    · rw [hv, hv']
      exact hsame.2.bind fun _ _ ↦ .refl _
  · have hcases : NodeKind.arm.list.SameAt members members' "cases" := hparts _ _ rfl
    change Alike (readBody node members "case") (readBody node' members' "case")
    rw [readBody_case, readBody_case]
    exact (readListed_alike hcases fun _ _ harm ↦ harm.2).bind fun _ _ ↦ .refl _
  · exact .error _ _

theorem read_alike (hparts : NodeKind.column.SameParts members members') :
    Alike (read (.object members)) (read (.object members')) := by
  have htype := readText_alike (.object members) (.object members') .column
    (hparts "type" .plain rfl)
  have htitle := readText_alike (.object members) (.object members') .columnTitle
    (hparts "titre" .plain rfl)
  -- The type tells which keys the body has.
  refine htype.bind fun type hread ↦ htitle.bind fun _ _ ↦ ?_
  exact (readBody_alike hparts (eq_string_of_readText hread) _ _).bind fun _ _ ↦ .refl _

end Column

/-- Of an indicator the subject is read first, then the columns from left to right. -/
theorem Indicator.read_object (members : Json.Members) : Indicator.read (.object members) =
    match Json.get? members "sujet" with
    | none => .error (lacking .indicator "sujet" (.object members))
    | some node => Subject.read node >>= fun subject ↦
      readListed Column.read false (lacking .indicator "colonnes" (.object members))
        (misshapen .indicatorColumns (.object members)) (Json.get? members "colonnes") >>=
          fun columns ↦ .ok { subject, columns } := by
  rw [Indicator.read]
  cases Json.get? members "sujet" with
  | none => rfl
  | some node =>
    refine bind_congr fun subject ↦ ?_
    rcases Json.get? members "colonnes" with _ | v
    · rfl
    · cases v <;> rfl

/-- Whatever is read from an indicator is read from one that has the same parts. -/
theorem Indicator.read_alike (hparts : NodeKind.indicator.SameParts members members') :
    Alike (Indicator.read (.object members)) (Indicator.read (.object members')) := by
  have hsujet : NodeKind.subject.SameAt members members' "sujet" := hparts _ _ rfl
  have hcolonnes : NodeKind.column.list.SameAt members members' "colonnes" := hparts _ _ rfl
  rw [Indicator.read_object, Indicator.read_object]
  obtain ⟨hv, hv'⟩ | ⟨v, v', hv, hv', hsame⟩ := hsujet.cases
  · rw [hv, hv']
    exact .error _ _
  · rw [hv, hv']
    exact hsame.2.bind fun _ _ ↦
      (readListed_alike hcolonnes fun _ _ hcolumn ↦ hcolumn.2).bind fun _ _ ↦ .refl _

/-- An object that is no condition is read by the nodes under its keys. -/
theorem NodeKind.same_object (hkind : kind ≠ .condition)
    (hparts : kind.SameParts members members') :
    kind.Same (.object members) (.object members') := by
  rw [Same.eq_def]
  refine ⟨.object members members', ?_⟩
  cases kind with
  | indicator => exact Indicator.read_alike hparts
  | subject => exact Subject.read_alike hparts
  | column => exact Column.read_alike hparts
  | arm => exact CaseArm.read_alike hparts
  | operand => exact Expression.read_alike hparts (fun _ _ h ↦ h.2) fun _ ↦ .error _ _
  | measure =>
    exact Expression.read_alike hparts (fun _ _ h ↦ h.2) fun hagg ↦
      Aggregation.read_alike hagg hparts
  | condition => exact absurd rfl hkind
  | aggregated => exact Aggregation.readColumn_alike (hparts _ _ rfl)
  | list kind => exact fun _ _ h ↦ by cases h
  | plain => trivial

end Barometer
