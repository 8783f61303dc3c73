import Barometer.Proofs.Naming.Joins
import Mathlib.Data.List.Forall2

/-!
# Joins and the sides of rules

Every table of a query is joined by an equality of two columns: one of a table before it, and one of
its own. The first rule between the two says which columns these are, and without any rule they are
the identity columns of the first table and of this one. A rule between two tables says the same
with its sides exchanged, so the statement of an indicator does not depend on how rules are written.
-/

namespace Barometer

namespace JoinRule

def leftSide (rule : JoinRule) : Side := { table := rule.left, column := rule.leftColumn }

def rightSide (rule : JoinRule) : Side := { table := rule.right, column := rule.rightColumn }

/-- The rule with its sides exchanged. -/
def swap (rule : JoinRule) : JoinRule where
  left := rule.right
  right := rule.left
  leftColumn := rule.rightColumn
  rightColumn := rule.leftColumn

/-- Whether a rule is another one, which may be written with its sides exchanged if they belong to
two tables. -/
def IsSameAs (rule other : JoinRule) : Prop :=
  other = rule ∨ rule.left ≠ rule.right ∧ other = rule.swap

/-- Whether a rule compares a side of a table that is joined already with one of a table that is
joined to it. A rule of a table with itself is read from left to right. -/
inductive Links (rule : JoinRule) (joined : List String) : Side → Side → Prop
  | forward : rule.left ∈ joined → Links rule joined rule.leftSide rule.rightSide
  | backward : rule.right ∈ joined → rule.left ≠ rule.right →
    Links rule joined rule.rightSide rule.leftSide

variable {rule other : JoinRule} {joined : List String} {table : String}

/-- A rule compares its two sides, the joined one first. -/
theorem predicate?_eq_some_iff {predicate : Sql.Expr} :
    rule.predicate? joined table = some predicate ↔
      ∃ earlier later, rule.Links joined earlier later ∧ later.table = table ∧
        predicate = .compare .eq earlier.expr later.expr := by
  constructor
  · intro h
    unfold predicate? at h
    split at h
    · rename_i hforward
      cases h
      exact ⟨rule.leftSide, rule.rightSide, .forward hforward.2, hforward.1, rfl⟩
    · split at h
      · rename_i hforward hbackward
        cases h
        -- if both sides were of this table, the rule would be read from left to right
        have hne : rule.left ≠ rule.right := fun heq ↦
          hforward ⟨heq ▸ hbackward.1, heq ▸ hbackward.2⟩
        exact ⟨rule.rightSide, rule.leftSide, .backward hbackward.2 hne, hbackward.1, rfl⟩
      · cases h
  · rintro ⟨earlier, later, hlinks, rfl, rfl⟩
    cases hlinks with
    | forward hjoined => exact if_pos ⟨rfl, hjoined⟩
    | backward hjoined hne =>
      rw [predicate?, if_neg fun h ↦ hne h.1.symm]
      exact if_pos ⟨rfl, hjoined⟩

/-- A rule says nothing about tables that it does not link. -/
theorem predicate?_eq_none_iff :
    rule.predicate? joined table = none ↔
      ∀ earlier later, rule.Links joined earlier later → later.table ≠ table := by
  rw [Option.eq_none_iff_forall_ne_some]
  constructor
  · intro h earlier later hlinks htable
    exact h _ (predicate?_eq_some_iff.mpr ⟨earlier, later, hlinks, htable, rfl⟩)
  · intro h predicate hpredicate
    obtain ⟨earlier, later, hlinks, htable, -⟩ := predicate?_eq_some_iff.mp hpredicate
    exact h earlier later hlinks htable

/-- A rule between two tables links them in either order of its sides. -/
theorem links_swap_iff (hne : rule.left ≠ rule.right) {earlier later : Side} :
    rule.swap.Links joined earlier later ↔ rule.Links joined earlier later := by
  constructor
  · rintro (hjoined | ⟨hjoined, -⟩)
    · exact .backward hjoined hne
    · exact .forward hjoined
  · rintro (hjoined | ⟨hjoined, -⟩)
    · exact .backward hjoined hne.symm
    · exact .forward hjoined

/-- Rules that say the same compare the same columns in the same order. -/
theorem IsSameAs.predicate?_eq (h : rule.IsSameAs other) (joined : List String) (table : String) :
    other.predicate? joined table = rule.predicate? joined table := by
  obtain rfl | ⟨hne, rfl⟩ := h
  · rfl
  · apply Option.ext
    intro predicate
    rw [predicate?_eq_some_iff, predicate?_eq_some_iff]
    simp only [links_swap_iff hne]

end JoinRule

namespace Options

variable {options other : Options}

/-- Whether two sides are those that a table is joined by: those of the first rule that links it to
the tables before it, or the identity columns of the first of these and of the table, if no rule
links it. -/
def Compares (options : Options) (joined : List String) (table : String) (earlier later : Side) :
    Prop :=
  (∃ before rule after, options.joins = before ++ rule :: after ∧
    (∀ skipped ∈ before, ∀ e l, skipped.Links joined e l → l.table ≠ table) ∧
    rule.Links joined earlier later ∧ later.table = table) ∨
  (∀ rule ∈ options.joins, ∀ e l, rule.Links joined e l → l.table ≠ table) ∧
    joined.head? = some earlier.table ∧ earlier.column = options.identityColumn ∧
    later = { table, column := options.identityColumn }

/-- Where something is joined already, two sides are compared. -/
theorem exists_compares (options : Options) {joined : List String} (hsome : joined ≠ [])
    (table : String) :
    ∃ earlier later, options.Compares joined table earlier later ∧
      options.joinPredicate joined table = .compare .eq earlier.expr later.expr := by
  unfold joinPredicate
  split
  · rename_i predicate hfind
    obtain ⟨before, rule, after, hjoins, hrule, hbefore⟩ := List.findSome?_eq_some_iff.mp hfind
    obtain ⟨earlier, later, hlinks, htable, rfl⟩ := JoinRule.predicate?_eq_some_iff.mp hrule
    refine ⟨earlier, later, .inl ⟨before, rule, after, hjoins, fun skipped hskipped ↦ ?_, hlinks,
      htable⟩, rfl⟩
    exact JoinRule.predicate?_eq_none_iff.mp (hbefore skipped hskipped)
  · rename_i hnone
    obtain ⟨first, others, rfl⟩ := List.exists_cons_of_ne_nil hsome
    refine ⟨{ table := first, column := options.identityColumn }, _,
      .inr ⟨fun rule hrule ↦ ?_, rfl, rfl, rfl⟩, rfl⟩
    exact JoinRule.predicate?_eq_none_iff.mp (List.findSome?_eq_none_iff.mp hnone rule hrule)

theorem Compares.earlier_mem {joined : List String} {table : String} {earlier later : Side}
    (h : options.Compares joined table earlier later) : earlier.table ∈ joined := by
  obtain ⟨_, _, _, -, -, hlinks, -⟩ | ⟨-, hhead, -, -⟩ := h
  · cases hlinks with
    | forward hjoined => exact hjoined
    | backward hjoined _ => exact hjoined
  · exact List.mem_of_mem_head? hhead

theorem Compares.later_table {joined : List String} {table : String} {earlier later : Side}
    (h : options.Compares joined table earlier later) : later.table = table := by
  obtain ⟨_, _, _, -, -, -, htable⟩ | ⟨-, -, -, rfl⟩ := h
  · exact htable
  · rfl

/-- Each table is joined to those before it. -/
theorem getElem?_joinsAfter (options : Options) (joined rest : List String) (i : Nat) :
    (options.joinsAfter joined rest)[i]? = rest[i]?.map fun table ↦
      { table, on := some (options.joinPredicate (joined ++ rest.take i) table) } := by
  induction rest generalizing joined i with
  | nil => rfl
  | cons table rest ih =>
    cases i with
    | zero => simp [joinsAfter]
    | succ i =>
      rw [joinsAfter, List.getElem?_cons_succ, List.getElem?_cons_succ, ih, List.take_succ_cons,
        List.append_assoc, List.singleton_append]

theorem findSome?_predicate?_eq {rules rules' : List JoinRule}
    (h : List.Forall₂ JoinRule.IsSameAs rules rules') (joined : List String) (table : String) :
    (rules'.findSome? fun rule ↦ rule.predicate? joined table) =
      rules.findSome? fun rule ↦ rule.predicate? joined table := by
  induction h with
  | nil => rfl
  | cons hsame _ ih => rw [List.findSome?_cons, List.findSome?_cons, hsame.predicate?_eq, ih]

/-- Rules are asked in turn, so saying the same one by one is enough. -/
theorem joinPredicate_eq_of_forall₂ {rules : List JoinRule}
    (h : List.Forall₂ JoinRule.IsSameAs options.joins rules) :
    { options with joins := rules }.joinPredicate = options.joinPredicate := by
  funext joined table
  rw [joinPredicate, joinPredicate, findSome?_predicate?_eq h]

theorem sources_congr (h : other.joinPredicate = options.joinPredicate) :
    other.sources = options.sources := by
  have hjoins (joined rest : List String) :
      other.joinsAfter joined rest = options.joinsAfter joined rest := by
    induction rest generalizing joined with
    | nil => rfl
    | cons table rest ih => rw [joinsAfter, joinsAfter, h, ih]
  funext tables
  cases tables with
  | nil => rfl
  | cons first rest => rw [sources, sources, hjoins]

end Options

/-- A query depends on the options only through its joins. -/
theorem Indicator.toQuery_congr {options other : Options} (h : other.sources = options.sources)
    (indicator : Indicator) : indicator.toQuery other = indicator.toQuery options := by
  have haggregation : Aggregation.toSql other = Aggregation.toSql options := by
    funext a
    rw [Aggregation.toSql, Aggregation.toSql, h]
  have hbody : ColumnBody.toSql other = ColumnBody.toSql options := by
    funext body
    cases body with
    | groupBy value => rfl
    | cases arms => rfl
    | aggregation measure =>
      rw [ColumnBody.toSql, ColumnBody.toSql, Measure.toSql, Measure.toSql, haggregation]
  rw [toQuery, toQuery, h, columnExprs, columnExprs, hbody]

/-- The tables of a subject are read in their order. Each but the first is joined by an equality of
a column of a table before it with one of its own: those of the first rule between them, or else the
identity columns of the first table and of this one. Rules between two tables may be written with
their sides exchanged. -/
theorem Options.sources_compare (options : Options) (first : String) (rest : List String) :
    ∃ joins, options.sources (first :: rest) = .ok (first, joins) ∧
      joins.map Sql.Join.table = rest ∧
      (∀ i join, joins[i]? = some join →
        ∃ earlier later : Side, join.on = some (.compare .eq earlier.expr later.expr) ∧
          earlier.table ∈ (first :: rest).take (i + 1) ∧ later.table = join.table ∧
          options.Compares ((first :: rest).take (i + 1)) join.table earlier later) ∧
      ∀ rules, List.Forall₂ JoinRule.IsSameAs options.joins rules →
        { options with joins := rules }.sources (first :: rest) = .ok (first, joins) ∧
          ∀ indicator : Indicator,
            indicator.toQuery { options with joins := rules } = indicator.toQuery options ∧
              indicator.toStatement { options with joins := rules } =
                indicator.toStatement options := by
  refine ⟨options.joinsAfter [first] rest, rfl, options.joinsAfter_tables [first] rest,
    fun i join hjoin ↦ ?_, fun rules hrules ↦ ?_⟩
  · rw [getElem?_joinsAfter] at hjoin
    obtain ⟨table, -, rfl⟩ := Option.map_eq_some_iff.mp hjoin
    have hsome : [first] ++ rest.take i ≠ [] := List.cons_ne_nil first _
    obtain ⟨earlier, later, hcompares, hpredicate⟩ := options.exists_compares hsome table
    exact ⟨earlier, later, congrArg some hpredicate, hcompares.earlier_mem, hcompares.later_table,
      hcompares⟩
  · have hsources : { options with joins := rules }.sources = options.sources :=
      sources_congr (joinPredicate_eq_of_forall₂ hrules)
    refine ⟨by rw [hsources, sources], fun indicator ↦ ?_⟩
    have hquery := indicator.toQuery_congr hsources
    exact ⟨hquery, by rw [Indicator.toStatement, Indicator.toStatement, hquery]⟩

namespace Stays

def rule : JoinRule where
  left := "insertion"
  right := "mobilite"
  leftColumn := "code"
  rightColumn := "etudiant_ref"

/-- The options for three tables, two of them with a rule of their own. -/
def options : Options where
  dialect := .sqlite
  identityColumn := "idEtudiant"
  joins := [rule]

/-- The rule stands with the later table on its left, and the same is joined if it does not. -/
theorem sources_compare_stays :
    ∃ joins, options.sources ["etudiants", "mobilite", "insertion"] = .ok ("etudiants", joins) ∧
      joins.map Sql.Join.on =
        [some (.compare .eq (Side.expr ⟨"etudiants", "idEtudiant"⟩)
            (Side.expr ⟨"mobilite", "idEtudiant"⟩)),
          some (.compare .eq (Side.expr ⟨"mobilite", "etudiant_ref"⟩)
            (Side.expr ⟨"insertion", "code"⟩))] ∧
      { options with joins := [rule.swap] }.sources ["etudiants", "mobilite", "insertion"] =
        .ok ("etudiants", joins) := by
  obtain ⟨joins, hsources, -, -, hswap⟩ :=
    options.sources_compare "etudiants" ["mobilite", "insertion"]
  have hsame : List.Forall₂ JoinRule.IsSameAs options.joins [rule.swap] :=
    .cons (.inr ⟨by decide, rfl⟩) .nil
  refine ⟨joins, hsources, ?_, (hswap _ hsame).1⟩
  cases hsources
  rfl

end Stays

end Barometer
