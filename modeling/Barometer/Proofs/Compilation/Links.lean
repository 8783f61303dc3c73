import Barometer.Naming.Catalog
import Mathlib.Data.Set.Function

/-!
# Links between tables

The predicate of a join is that of the link of its table to the tables before it: a rule, read in
one of its two directions, or the identity columns. A catalog that keeps the names of tables apart
renames links and finds no others.
-/

namespace Barometer

open Sql (Expr)

/-- How a table is linked to the tables before it. -/
inductive Link where
  /-- By a rule that has the earlier table on its left. -/
  | forward (rule : JoinRule)
  /-- By a rule that has the earlier table on its right. -/
  | backward (rule : JoinRule)
  | identity (first table : String)

namespace Link

/-- The predicate of a link, the earlier table on the left. -/
def predicate (identityColumn : String) : Link → Expr
  | .forward rule => .compare .eq rule.leftExpr rule.rightExpr
  | .backward rule => .compare .eq rule.rightExpr rule.leftExpr
  | .identity first table =>
    .compare .eq (.column (some first) identityColumn) (.column (some table) identityColumn)

/-- Both sides of a rule are renamed. Identity columns have the same name in all tables. -/
def rename (c : Catalog) : Link → Link
  | .forward rule => .forward (c.applyRule rule)
  | .backward rule => .backward (c.applyRule rule)
  | .identity first table => .identity (c.toRenaming.table first) (c.toRenaming.table table)

end Link

/-- The link of a table by a rule. -/
def JoinRule.link? (rule : JoinRule) (joined : List String) (table : String) : Option Link :=
  if rule.right = table ∧ rule.left ∈ joined then some (.forward rule)
  else if rule.left = table ∧ rule.right ∈ joined then some (.backward rule)
  else none

/-- Whether a rule links a table is decided without the expressions that are compared. -/
theorem JoinRule.predicate?_eq_map_link? (identityColumn : String) (rule : JoinRule)
    (joined : List String) (table : String) :
    rule.predicate? joined table =
      (rule.link? joined table).map (Link.predicate identityColumn) := by
  unfold predicate? link?
  split
  · rfl
  · split <;> rfl

namespace Options

/-- The link of a table by the first rule that has one. -/
def link (options : Options) (joined : List String) (table : String) : Link :=
  (options.joins.findSome? fun rule ↦ rule.link? joined table).getD
    (.identity (joined.headD table) table)

theorem joinPredicate_eq (options : Options) (joined : List String) (table : String) :
    options.joinPredicate joined table =
      (options.link joined table).predicate options.identityColumn := by
  have hfind : (options.joins.findSome? fun rule ↦ rule.predicate? joined table) =
      (options.joins.findSome? fun rule ↦ rule.link? joined table).map
        (Link.predicate options.identityColumn) := by
    rw [List.map_findSome?]
    congr 1
    funext rule
    exact rule.predicate?_eq_map_link? options.identityColumn joined table
  rw [joinPredicate, link, hfind]
  cases options.joins.findSome? fun rule ↦ rule.link? joined table <;> rfl

/-- Each table is joined once, in the order in which they are named. -/
theorem joinsAfter_tables (options : Options) (joined rest : List String) :
    (options.joinsAfter joined rest).map Sql.Join.table = rest := by
  induction rest generalizing joined with
  | nil => rfl
  | cons table rest ih => rw [joinsAfter, List.map_cons, ih]

/-- The tables that join rules speak of. -/
def ruleTables (options : Options) : List String :=
  options.joins.flatMap fun rule ↦ [rule.left, rule.right]

theorem left_mem_ruleTables {options : Options} {rule : JoinRule} (h : rule ∈ options.joins) :
    rule.left ∈ options.ruleTables :=
  List.mem_flatMap.mpr ⟨rule, h, by simp⟩

theorem right_mem_ruleTables {options : Options} {rule : JoinRule} (h : rule ∈ options.joins) :
    rule.right ∈ options.ruleTables :=
  List.mem_flatMap.mpr ⟨rule, h, by simp⟩

end Options

section Rename

variable {c : Catalog} {names : Set String}

/-- Different tables keep different names, so a renamed table is among renamed ones if it was
before. -/
theorem mem_map_of_injOn {f : String → String} (hf : Set.InjOn f names) {name : String}
    {joined : List String} (hname : name ∈ names) (hjoined : ∀ t ∈ joined, t ∈ names) :
    f name ∈ joined.map f ↔ name ∈ joined := by
  constructor
  · intro h
    obtain ⟨other, hother, heq⟩ := List.mem_map.mp h
    rwa [← hf (hjoined other hother) hname heq]
  · exact List.mem_map_of_mem

/-- A rule links the renamed tables as it links the tables. -/
theorem JoinRule.link?_applyRule (hc : Set.InjOn c.toRenaming.table names) {rule : JoinRule}
    {joined : List String} {table : String}
    (hleft : rule.left ∈ names) (hright : rule.right ∈ names)
    (hjoined : ∀ t ∈ joined, t ∈ names) (htable : table ∈ names) :
    (c.applyRule rule).link? (joined.map c.toRenaming.table) (c.toRenaming.table table) =
      (rule.link? joined table).map (Link.rename c) := by
  simp only [link?, Catalog.applyRule, hc.eq_iff hleft htable, hc.eq_iff hright htable,
    mem_map_of_injOn hc hleft hjoined, mem_map_of_injOn hc hright hjoined]
  split
  · rfl
  · split <;> rfl

/-- Rules and the identity column link renamed tables as they link the tables. -/
theorem Options.link_applyJoins (options : Options) (hc : Set.InjOn c.toRenaming.table names)
    (hrules : ∀ t ∈ options.ruleTables, t ∈ names) {joined : List String} {table : String}
    (hjoined : ∀ t ∈ joined, t ∈ names) (htable : table ∈ names) :
    (c.applyJoins options).link (joined.map c.toRenaming.table) (c.toRenaming.table table) =
      (options.link joined table).rename c := by
  have hfind (rules : List JoinRule) (hsub : rules ⊆ options.joins) :
      ((rules.map c.applyRule).findSome? fun rule ↦
          rule.link? (joined.map c.toRenaming.table) (c.toRenaming.table table)) =
        (rules.findSome? fun rule ↦ rule.link? joined table).map (Link.rename c) := by
    induction rules with
    | nil => rfl
    | cons rule rest ih =>
      have hrule : rule ∈ options.joins := hsub List.mem_cons_self
      have hlink := JoinRule.link?_applyRule hc (hrules _ (left_mem_ruleTables hrule))
        (hrules _ (right_mem_ruleTables hrule)) hjoined htable
      rw [List.map_cons, List.findSome?_cons, List.findSome?_cons, hlink,
        ih fun _ h ↦ hsub (List.mem_cons_of_mem _ h)]
      cases rule.link? joined table <;> rfl
  have hfirst : (joined.map c.toRenaming.table).headD (c.toRenaming.table table) =
      c.toRenaming.table (joined.headD table) := by
    cases joined <;> rfl
  rw [link, link, Catalog.applyJoins, hfind options.joins (List.Subset.refl _), hfirst]
  cases options.joins.findSome? fun rule ↦ rule.link? joined table <;> rfl

end Rename

end Barometer
