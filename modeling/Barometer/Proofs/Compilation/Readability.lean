import Barometer.Proofs.Compilation.Links
import Barometer.Proofs.Indicator.WellFormed
import Barometer.Proofs.Sql.Readability

/-!
# Telling indicators apart

Whatever has been read as an indicator is compiled to a regular query. Its tokens therefore say what
the query is: the same tokens come from queries that differ at most in the operator of an operation
with one argument, and in the connective of a junction with one part.
-/

namespace Barometer

open Sql (Expr)

theorem Scalar.toSql_isTerm (value : Scalar) : value.toSql.IsTerm := by
  cases value with
  | text s =>
    rw [toSql]
    cases Text.Canonical.text? s <;> trivial
  | _ => trivial

namespace Expression

variable {α β ε : Type} {kept : α → Prop} {kept' : β → Prop}

mutual

theorem WellFormed.toSql_isTerm {leaf : α → Expr} (hleaf : ∀ a, kept a → (leaf a).IsTerm)
    {e : Expression α} (h : e.WellFormed kept) : (toSql leaf e).IsTerm := by
  cases e with
  | literal value => exact value.toSql_isTerm
  | column name => exact rfl
  | operation op args =>
    refine ⟨?_, AllWellFormed.toSqlAll_allTerms hleaf h.2⟩
    cases args with
    | nil => exact absurd rfl h.1
    | cons arg rest => exact List.cons_ne_nil _ _
  | aggregate a => exact hleaf a h

theorem AllWellFormed.toSqlAll_allTerms {leaf : α → Expr} (hleaf : ∀ a, kept a → (leaf a).IsTerm)
    {es : List (Expression α)} (h : AllWellFormed kept es) :
    Expr.AllTerms (toSqlAll leaf es) := by
  cases es with
  | nil => trivial
  | cons e rest =>
    exact ⟨WellFormed.toSql_isTerm hleaf h.1, AllWellFormed.toSqlAll_allTerms hleaf h.2⟩

end

mutual

/-- Compiling the aggregates leaves the operators and the numbers of their operands as they are. -/
theorem WellFormed.of_traverse {f : α → Except ε β}
    (hf : ∀ a b, kept a → f a = .ok b → kept' b) {e : Expression α} (h : e.WellFormed kept)
    {e' : Expression β} (htraverse : traverse f e = .ok e') : e'.WellFormed kept' := by
  cases e with
  | literal value =>
    cases htraverse
    trivial
  | column name =>
    cases htraverse
    trivial
  | operation op args =>
    obtain ⟨args', hargs, rfl⟩ := Outcome.map_eq_ok.mp htraverse
    obtain ⟨hall, hlength⟩ := AllWellFormed.of_traverseAll hf h.2 hargs
    refine ⟨?_, hall⟩
    rintro rfl
    exact h.1 (List.length_eq_zero_iff.mp hlength.symm)
  | aggregate a =>
    obtain ⟨b, hb, rfl⟩ := Outcome.map_eq_ok.mp htraverse
    exact hf a b h hb

theorem AllWellFormed.of_traverseAll {f : α → Except ε β}
    (hf : ∀ a b, kept a → f a = .ok b → kept' b) {es : List (Expression α)}
    (h : AllWellFormed kept es) {es' : List (Expression β)}
    (htraverse : traverseAll f es = .ok es') :
    AllWellFormed kept' es' ∧ es'.length = es.length := by
  cases es with
  | nil =>
    cases htraverse
    exact ⟨trivial, rfl⟩
  | cons e rest =>
    obtain ⟨e', he, htraverse⟩ := Outcome.bind_eq_ok.mp htraverse
    obtain ⟨rest', hrest, htraverse⟩ := Outcome.bind_eq_ok.mp htraverse
    cases htraverse
    obtain ⟨hall, hlength⟩ := AllWellFormed.of_traverseAll hf h.2 hrest
    exact ⟨⟨WellFormed.of_traverse hf h.1 he, hall⟩, congrArg (· + 1) hlength⟩

end

end Expression

namespace Operand

variable {e : Operand}

theorem WellFormed.toSql_isTerm (h : e.WellFormed) : e.toSql.IsTerm :=
  Expression.WellFormed.toSql_isTerm (fun a ↦ a.elim) h

/-- A pattern is a term, whether it is a literal or not. -/
theorem WellFormed.toPattern_isTerm (h : e.WellFormed) : e.toPattern.IsTerm := by
  cases e with
  | literal value =>
    rw [toPattern]
    cases value.canonicalText? with
    | none => exact value.toSql_isTerm
    | some form => trivial
  | column name => exact rfl
  | operation op args => exact WellFormed.toSql_isTerm h
  | aggregate a => exact a.elim

end Operand

/-- Both sides are terms, so no sign of a condition stands within them. -/
theorem Comparison.toSql_isCondition (op : Comparison) {left right : Operand}
    (hleft : left.WellFormed) (hright : right.WellFormed) :
    (op.toSql left right).IsCondition := by
  unfold toSql
  split
  · exact hleft.toSql_isTerm
  · split
    · exact ⟨hleft.toSql_isTerm, hright.toPattern_isTerm⟩
    · exact ⟨hleft.toSql_isTerm, hright.toPattern_isTerm⟩
    · split
      · exact ⟨hleft.toSql_isTerm, hright.toPattern_isTerm⟩
      · split
        · exact ⟨hright.toSql_isTerm, hleft.toPattern_isTerm⟩
        · exact ⟨hleft.toSql_isTerm, hright.toSql_isTerm⟩

namespace Condition

mutual

/-- A condition is a comparison, a junction, or what always holds. -/
theorem WellFormed.toSql_isCondition {c : Condition} (h : c.WellFormed) :
    c.toSql.IsCondition := by
  cases c with
  | empty => trivial
  | junction kind children =>
    rcases children with _ | ⟨child, rest⟩
    · cases kind <;> trivial
    · have hchild := WellFormed.toSql_isCondition h.1
      have hrest := AllWellFormed.toSqlAll_allConditions h.2
      rcases rest with _ | ⟨second, rest⟩
      · cases kind with
        | list => exact hchild
        | and => exact ⟨List.cons_ne_nil _ _, hchild, trivial⟩
        | or => exact ⟨List.cons_ne_nil _ _, hchild, trivial⟩
      · cases kind <;> exact ⟨List.cons_ne_nil _ _, hchild, hrest⟩
  | compare op left right => exact op.toSql_isCondition h.1 h.2

theorem AllWellFormed.toSqlAll_allConditions {cs : List Condition} (h : AllWellFormed cs) :
    Expr.AllConditions (toSqlAll cs) := by
  cases cs with
  | nil => trivial
  | cons child rest =>
    exact ⟨WellFormed.toSql_isCondition h.1, AllWellFormed.toSqlAll_allConditions h.2⟩

end

theorem WellFormed.filter_optionCondition {c : Condition} (h : c.WellFormed) :
    Expr.OptionCondition c.filter := by
  unfold filter
  split
  · trivial
  · exact h.toSql_isCondition

/-- Of two conditions the conjunction has those that are not empty. -/
theorem WellFormed.conjunction {c d : Condition} (hc : c.WellFormed) (hd : d.WellFormed) :
    (conjunction [c, d]).WellFormed := by
  unfold Condition.conjunction
  cases hempty : c.isEmpty <;> cases hempty' : d.isEmpty <;>
    simp only [List.filter, hempty, hempty']
  · exact ⟨hc, hd, trivial⟩
  · exact hc
  · exact hd
  · trivial

end Condition

namespace Options

/-- Every table is joined on the equality of two columns. -/
theorem isLinked_of_mem_joinsAfter (options : Options) {joined tables : List String}
    {join : Sql.Join} (h : join ∈ options.joinsAfter joined tables) : join.IsLinked := by
  induction tables generalizing joined with
  | nil => cases h
  | cons table rest ih =>
    rcases List.mem_cons.mp h with rfl | h
    · refine ⟨_, rfl, ?_⟩
      rw [joinPredicate_eq]
      cases options.link joined table <;> exact ⟨_, _, _, _, rfl⟩
    · exact ih h

theorem isLinked_of_mem_sources {options : Options} {tables : List String} {first : String}
    {joins : List Sql.Join} (h : options.sources tables = .ok (first, joins)) :
    ∀ join ∈ joins, join.IsLinked := by
  cases tables with
  | nil => cases h
  | cons table rest =>
    cases h
    exact fun join hjoin ↦ options.isLinked_of_mem_joinsAfter hjoin

end Options

theorem Statistic.call_isTerm {statistic : Statistic} {arg : Option Expr} {call : Expr}
    (harg : ∀ e, arg = some e → e.IsTerm) (h : statistic.call arg = .ok call) : call.IsTerm := by
  cases arg with
  | none =>
    cases statistic <;> cases h
    exact ⟨List.cons_ne_nil _ _, trivial, trivial⟩
  | some arg =>
    have hterm := harg arg rfl
    cases statistic <;> cases h <;> exact ⟨List.cons_ne_nil _ _, hterm, trivial⟩

namespace Aggregation

variable {options : Options} {a : Aggregation}

/-- What is collected under a condition is a case distinction of one arm. -/
theorem collected_isTerm {value : Expr} (h : a.collected = .ok value) : value.IsTerm := by
  unfold collected at h
  split at h
  · cases h
    trivial
  · split at h
    · cases h
      exact rfl
    · cases h

/-- An aggregate is a call or a query between brackets. -/
theorem WellFormed.toSql_isTerm (hwell : a.WellFormed) {e : Expr}
    (h : a.toSql options = .ok e) : e.IsTerm := by
  have hcolumn : ∀ e, a.column.map columnExpr = some e → e.IsTerm := by
    intro e he
    obtain ⟨name, -, rfl⟩ := Option.map_eq_some_iff.mp he
    exact rfl
  unfold toSql at h
  split at h
  · rename_i subject hsubject
    obtain ⟨⟨first, joins⟩, hsources, h⟩ := Outcome.bind_eq_ok.mp h
    obtain ⟨call, hcall, h⟩ := Outcome.bind_eq_ok.mp h
    cases h
    have hfilter := ((hwell.conditions subject hsubject).conjunction
      hwell.condition).filter_optionCondition
    exact ⟨⟨⟨Statistic.call_isTerm hcolumn hcall, rfl⟩, trivial⟩,
      Options.isLinked_of_mem_sources hsources, hfilter, trivial⟩
  · split at h
    · exact Statistic.call_isTerm hcolumn h
    · obtain ⟨value, hvalue, h⟩ := Outcome.bind_eq_ok.mp h
      refine Statistic.call_isTerm (fun e he ↦ ?_) h
      cases he
      exact ⟨⟨hwell.condition.toSql_isCondition, collected_isTerm hvalue, trivial⟩, rfl⟩

end Aggregation

theorem Measure.WellFormed.toSql_isTerm {options : Options} {m : Measure} (hwell : m.WellFormed)
    {e : Expr} (h : m.toSql options = .ok e) : e.IsTerm := by
  obtain ⟨m', hm', rfl⟩ := Outcome.map_eq_ok.mp h
  have hleaves : ∀ (a : Aggregation) (e : Expr), a.WellFormed → a.toSql options = .ok e →
      e.IsTerm := fun a e ha he ↦ ha.toSql_isTerm he
  have hwell' : m'.WellFormed Expr.IsTerm := Expression.WellFormed.of_traverse hleaves hwell hm'
  exact hwell'.toSql_isTerm fun a ha ↦ ha

theorem ColumnBody.WellFormed.toSql_isTerm {options : Options} {body : ColumnBody}
    (hwell : body.WellFormed) {e : Expr} (h : body.toSql options = .ok e) : e.IsTerm := by
  cases body with
  | groupBy value =>
    cases h
    exact Operand.WellFormed.toSql_isTerm hwell
  | cases arms =>
    cases h
    refine ⟨(Expr.allArms_iff _).mpr fun arm harm ↦ ?_, rfl⟩
    obtain ⟨a, ha, rfl⟩ := List.mem_map.mp harm
    exact ⟨(hwell.2 a ha).toSql_isCondition, trivial⟩
  | aggregation m => exact Measure.WellFormed.toSql_isTerm hwell h

namespace Indicator

variable {options : Options} {indicator : Indicator}

/-- Everything that a query shows is a term. -/
theorem WellFormed.isTerm_of_mem_columnExprs (hwell : indicator.WellFormed) {exprs : List Expr}
    (h : indicator.columnExprs options = .ok exprs) : ∀ e ∈ exprs, e.IsTerm := by
  intro e he
  obtain ⟨column, hcolumn, hbody⟩ := Outcome.exists_of_mem_mapM h he
  exact (hwell.columns column hcolumn).toSql_isTerm hbody

/-- The query of an indicator that is well-formed has a label on every item, and is regular. -/
theorem WellFormed.toQuery_isRegular (hwell : indicator.WellFormed) {query : Sql.Query}
    (h : indicator.toQuery options = .ok query) : query.IsRegular true := by
  obtain ⟨⟨first, joins⟩, hsources, h⟩ := Outcome.bind_eq_ok.mp h
  obtain ⟨exprs, hexprs, h⟩ := Outcome.bind_eq_ok.mp h
  cases h
  have hterms := hwell.isTerm_of_mem_columnExprs hexprs
  refine ⟨(Sql.Item.allRegular_iff _ _).mpr fun item hitem ↦ ?_,
    Options.isLinked_of_mem_sources hsources, hwell.conditions.filter_optionCondition,
    (Expr.allTerms_iff _).mpr fun e he ↦ ?_⟩
  · obtain ⟨column, e, he, rfl⟩ := exists_of_mem_items hitem
    exact ⟨hterms e he, rfl⟩
  · exact hterms e (mem_of_mem_groupExprs he)

/-- Two indicators that have been read and compiled, each with options of its own, have the same
tokens if and only if their queries are the same but for operators and connectives that have only
one operand, and are not written. -/
theorem tokens_eq_iff_visible_eq {node node' : Json} {indicator indicator' : Indicator}
    (hread : Indicator.read node = .ok indicator) (hread' : Indicator.read node' = .ok indicator')
    {options options' : Options} {query query' : Sql.Query}
    (hquery : indicator.toQuery options = .ok query)
    (hquery' : indicator'.toQuery options' = .ok query') (dialect : Sql.Dialect) :
    query.tokens dialect = query'.tokens dialect ↔ query.visible = query'.visible := by
  have hregular := (Indicator.wellFormed_of_read hread).toQuery_isRegular hquery
  have hregular' := (Indicator.wellFormed_of_read hread').toQuery_isRegular hquery'
  exact Sql.Query.tokens_eq_iff hregular hregular'

end Indicator

namespace Difference

def columnNode (name : String) : Json := .object [("col", .string name)]

def minusNode (left right : Json) : Json :=
  .object [("op", .string "-"), ("args", .array [left, right])]

/-- An indicator of one table, grouped by a value. -/
def node (value : Json) : Json :=
  .object
    [("sujet", .object [("tables", .array [.string "insertion"])]),
      ("colonnes", .array [.object
        [("type", .string "group_by"), ("titre", .string "Reste"), ("expr", value)]])]

def indicator (value : Operand) : Indicator where
  subject := { tables := ["insertion"], conditions := .empty }
  columns := [{ title := "Reste", body := .groupBy value }]

def leftNode : Json :=
  node (minusNode (minusNode (columnNode "brut") (columnNode "taxes")) (columnNode "frais"))

def left : Indicator :=
  indicator (.operation .sub [.operation .sub [.column "brut", .column "taxes"], .column "frais"])

def rightNode : Json :=
  node (minusNode (columnNode "brut") (minusNode (columnNode "taxes") (columnNode "frais")))

def right : Indicator :=
  indicator (.operation .sub [.column "brut", .operation .sub [.column "taxes", .column "frais"]])

/-- Two differences of the same three columns, grouped to the left and to the right. -/
theorem tokens_left_ne_right :
    ∃ query query', left.toQuery .default = .ok query ∧ right.toQuery .default = .ok query' ∧
      ∀ dialect, query.tokens dialect ≠ query'.tokens dialect := by
  refine ⟨_, _, rfl, rfl, fun dialect htokens ↦ ?_⟩
  have hleft : Indicator.read leftNode = .ok left := by
    with_unfolding_all rfl
  have hright : Indicator.read rightNode = .ok right := by
    with_unfolding_all rfl
  have hvisible := (Indicator.tokens_eq_iff_visible_eq hleft hright rfl rfl dialect).mp htokens
  cases hvisible

end Difference

end Barometer
