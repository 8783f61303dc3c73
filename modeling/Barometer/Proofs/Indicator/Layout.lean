import Barometer.Proofs.Indicator.Nodes
import Barometer.Proofs.Json.Members
import Mathlib.Logic.Relation

/-!
# The layout of indicators

The order of members has no part in what an indicator is read as, and neither have members that are
not looked at, wherever they stand. A condition has one key only, so nothing can be added to it.
-/

namespace Barometer

open Outcome (Alike)

variable {v v' : Json} {members members' : Json.Members} {kind : NodeKind} {key : String}

namespace NodeKind

/-- One change of the layout of a node that stands where a kind is expected. -/
inductive Relaid : NodeKind → Json → Json → Prop
  /-- Members in another order. In an object each key stands once. -/
  | permuted {kind : NodeKind} {members members' : Json.Members}
    (hkeys : (members.map Prod.fst).Nodup) (hperm : members.Perm members') :
    Relaid kind (.object members) (.object members')
  /-- One more member, under a key that is not looked at. -/
  | unread {kind : NodeKind} {before after : Json.Members} {key : String} {value : Json}
    (hkind : kind ≠ .condition) (hkey : kind.part? (before ++ after) key = none) :
    Relaid kind (.object (before ++ after)) (.object (before ++ (key, value) :: after))
  /-- A change of a node under a key that is looked at. -/
  | member {kind part : NodeKind} {before after : Json.Members} {key : String}
    {value value' : Json} (hkey : kind.part? (before ++ (key, value) :: after) key = some part)
    (hvalue : Relaid part value value') :
    Relaid kind (.object (before ++ (key, value) :: after))
      (.object (before ++ (key, value') :: after))
  | item {kind : NodeKind} {before after : List Json} {value value' : Json}
    (hvalue : Relaid kind.item value value') :
    Relaid kind (.array (before ++ value :: after)) (.array (before ++ value' :: after))

/-- A node is the same as itself, by the parts that its kind reads. -/
theorem Same.refl (kind : NodeKind) (v : Json) : kind.Same v v := by
  induction kind generalizing v with
  | list kind ih =>
    refine ⟨.refl v, fun items items' h h' ↦ ?_⟩
    cases h.symm.trans h'
    exact List.forall₂_same.mpr fun item _ ↦ ih item
  | aggregated =>
    refine ⟨.refl v, fun node node' ↦ ?_⟩
    cases v with
    | object inner =>
      refine Aggregation.readColumn_alike ?_ node node'
      unfold SameAt
      cases Json.get? inner "col" with
      | none => exact .none
      | some v => exact .some ⟨.refl v, trivial⟩
    | array items => exact .error _ _
    | bool b => exact .error _ _
    | _ => exact .refl _
  | plain => exact ⟨.refl v, trivial⟩
  | _ => exact ⟨.refl v, .refl _⟩

theorem rel_refl (kind : NodeKind) (o : Option Json) : Option.Rel kind.Same o o := by
  cases o with
  | none => exact .none
  | some v => exact .some (Same.refl kind v)

theorem SameAt.of_eq (kind : NodeKind) (h : Json.get? members key = Json.get? members' key) :
    kind.SameAt members members' key := by
  rw [SameAt, h]
  exact kind.rel_refl _

/-- Within an object only the replaced member can make a difference. -/
theorem SameAt.of_member {before after : Json.Members} {other : String}
    (h : other = key → kind.Same v v') :
    kind.SameAt (before ++ (key, v) :: after) (before ++ (key, v') :: after) other := by
  rw [SameAt, Json.get?_append, Json.get?_append, Json.get?_cons, Json.get?_cons]
  by_cases hkey : other = key
  · rw [if_pos hkey, if_pos hkey]
    cases Json.get? before other with
    | none => exact .some (h hkey)
    | some w => exact kind.rel_refl (some w)
  · rw [if_neg hkey, if_neg hkey]
    exact kind.rel_refl _

/-- Of a list of nodes one item is replaced, and the others are the same. -/
theorem same_array {before after : List Json} (h : kind.item.Same v v') :
    kind.Same (.array (before ++ v :: after)) (.array (before ++ v' :: after)) := by
  have hitems : List.Forall₂ kind.item.Same (before ++ v :: after) (before ++ v' :: after) :=
    List.rel_append (List.forall₂_same.mpr fun w _ ↦ Same.refl _ w)
      (.cons h (List.forall₂_same.mpr fun w _ ↦ Same.refl _ w))
  rw [Same.eq_def]
  refine ⟨.array _ _, ?_⟩
  cases kind with
  | condition =>
    have hne (v : Json) : before ++ v :: after ≠ [] := by simp
    change Alike (Condition.read _) (Condition.read _)
    rw [Condition.read_array (hne v), Condition.read_array (hne v')]
    exact (Alike.mapM (hitems.imp fun _ _ hitem ↦ hitem.2)).map _
  | list kind =>
    intro items items' hv hv'
    cases hv
    cases hv'
    exact hitems
  | operand =>
    change Alike (Operand.read _) (Operand.read _)
    rw [Operand.read, Operand.read, Expression.read, Expression.read]
    exact .error _ _
  | measure =>
    change Alike (Measure.read _) (Measure.read _)
    rw [Measure.read, Measure.read, Expression.read, Expression.read]
    exact .error _ _
  | aggregated => exact fun _ _ ↦ .error _ _
  | plain => trivial
  | _ => exact .error _ _

/-- A change makes no difference at its place, so it makes none to the nodes around it. -/
theorem Relaid.same (h : kind.Relaid v v') : kind.Same v v' := by
  induction h with
  | @permuted kind members members' hkeys hperm =>
    by_cases hkind : kind = .condition
    · rw [hkind]
      exact ⟨.object _ _, Condition.read_alike_of_perm hperm⟩
    · exact same_object hkind fun key _ _ ↦ .of_eq _ (Json.get?_eq_of_perm hperm hkeys key)
  | @unread kind before after key value hkind hkey =>
    -- Every key that is looked at is another one.
    refine same_object hkind fun other part hpart ↦ .of_eq _ ?_
    have hne : other ≠ key := by
      rintro rfl
      rw [hkey] at hpart
      cases hpart
    exact (Json.get?_append_cons_of_ne hne before after value).symm
  | @member kind part before after key value value' hkey _ ih =>
    by_cases hkind : kind = .condition
    · subst hkind
      exact ⟨.object _ _, Condition.read_alike_of_member hkey ih⟩
    · refine same_object hkind fun other part' hpart ↦ .of_member ?_
      rintro rfl
      cases hkey.symm.trans hpart
      exact ih
  | item _ ih => exact same_array ih

end NodeKind

/-- Two nodes that differ in their layout only are the same indicator, or neither is one. -/
theorem Indicator.read_iff_of_relaid {node node' : Json}
    (h : Relation.EqvGen NodeKind.indicator.Relaid node node') (indicator : Indicator) :
    Indicator.read node = .ok indicator ↔ Indicator.read node' = .ok indicator := by
  induction h with
  | rel _ _ h => exact h.same.2 indicator
  | refl _ => exact Iff.rfl
  | symm _ _ _ ih => exact ih.symm
  | trans _ _ _ _ _ ih ih' => exact ih.trans ih'

namespace Layouts

open NodeKind Relation

/-- The column that is compared, in an object that may hold more. -/
def subject (column : Json.Members) : Json :=
  .object
    [("tables", .array [.string "etudiants"]),
      ("conditions", .object [("=", .array [.object column, .string "F"])])]

def column (first second : String × Json) : Json :=
  .object [first, second, ("expr", .object [("agg", .string "count")])]

def named : Json.Members := [("col", .string "genre")]

def explained : Json.Members := [("col", .string "genre"), ("texte", .string "Genre")]

def type : String × Json := ("type", .string "aggregation")

def title : String × Json := ("titre", .string "Femmes")

def columns : Json := .array [column type title]

/-- The title stands before the type. -/
def columns' : Json := .array [column title type]

def node : Json := .object [("sujet", subject named), ("colonnes", columns)]

/-- The columns stand before the subject, and a remark is added. -/
def node' : Json :=
  .object [("colonnes", columns'), ("remarque", .string "2024"), ("sujet", subject explained)]

def indicator : Indicator where
  subject :=
    { tables := ["etudiants"]
      conditions := .compare .eq (.column "genre") (.literal (.text "F")) }
  columns :=
    [{ title := "Femmes"
       body := .aggregation (.aggregate
        { statistic := .count, column := none, condition := .empty, subject := none }) }]

theorem relaid_subject : NodeKind.subject.Relaid (subject named) (subject explained) := by
  have hoperand : NodeKind.operand.Relaid (.object named) (.object explained) :=
    @Relaid.unread .operand named [] "texte" (.string "Genre") (by simp) rfl
  have hoperands : NodeKind.operand.list.Relaid (.array [.object named, .string "F"])
      (.array [.object explained, .string "F"]) :=
    @Relaid.item NodeKind.operand.list [] [.string "F"] _ _ hoperand
  have hcondition : NodeKind.condition.Relaid
      (.object [("=", .array [.object named, .string "F"])])
      (.object [("=", .array [.object explained, .string "F"])]) :=
    @Relaid.member .condition _ [] [] "=" _ _ rfl hoperands
  exact @Relaid.member .subject _ [("tables", .array [.string "etudiants"])] [] "conditions" _ _
    rfl hcondition

theorem relaid_columns : NodeKind.column.list.Relaid columns columns' := by
  have hcolumn : NodeKind.column.Relaid (column type title) (column title type) :=
    .permuted (by decide) (.swap _ _ _)
  exact @Relaid.item NodeKind.column.list [] [] _ _ hcolumn

/-- The two layouts are some steps apart, among them reordered members and members that nobody
reads. -/
theorem eqvGen_relaid : EqvGen NodeKind.indicator.Relaid node node' := by
  have hsubject : NodeKind.indicator.Relaid node
      (.object [("sujet", subject explained), ("colonnes", columns)]) :=
    @Relaid.member .indicator _ [] _ "sujet" _ _ rfl relaid_subject
  have hcolumns : NodeKind.indicator.Relaid
      (.object [("sujet", subject explained), ("colonnes", columns)])
      (.object [("sujet", subject explained), ("colonnes", columns')]) :=
    @Relaid.member .indicator _ [("sujet", subject explained)] [] "colonnes" _ _ rfl relaid_columns
  have hremark : NodeKind.indicator.Relaid
      (.object [("sujet", subject explained), ("colonnes", columns')])
      (.object [("sujet", subject explained), ("remarque", .string "2024"),
        ("colonnes", columns')]) :=
    @Relaid.unread .indicator [("sujet", subject explained)] _ "remarque" _ (by simp) rfl
  have hturned : NodeKind.indicator.Relaid
      (.object [("sujet", subject explained), ("remarque", .string "2024"),
        ("colonnes", columns')]) node' :=
    .permuted (by decide) (List.reverse_perm _).symm
  exact .trans _ _ _ (.rel _ _ hsubject) (.trans _ _ _ (.rel _ _ hcolumns)
    (.trans _ _ _ (.rel _ _ hremark) (.rel _ _ hturned)))

/-- The women among some students, asked for in two layouts. -/
theorem read_iff_of_relaid_layouts :
    Indicator.read node = .ok indicator ∧ Indicator.read node' = .ok indicator := by
  have hread : Indicator.read node = .ok indicator := by with_unfolding_all rfl
  exact ⟨hread, (Indicator.read_iff_of_relaid eqvGen_relaid indicator).mp hread⟩

end Layouts

end Barometer
