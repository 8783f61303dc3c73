import Barometer.Proofs.Compilation.Statements
import Barometer.Proofs.Indicator.References

/-!
# Joins of a compiled query

Joins stand in the main query of an indicator and in the queries of its aggregates, and nowhere
else: conditions and operands have no queries of their own. Each of them joins a table of the
indicator to the tables written before it, with the predicate that the options have for them.
-/

namespace Barometer

namespace Sql

mutual

/-- Whether all joins in an expression are of one kind, given the tables before them. -/
def Expr.EachJoin (P : List String → Join → Prop) : Expr → Prop
  | .column _ _ => True
  | .literal _ => True
  | .operation _ args => Expr.EachJoinAll P args
  | .compare _ left right => left.EachJoin P ∧ right.EachJoin P
  | .isNull operand _ => operand.EachJoin P
  | .like operand pattern _ => operand.EachJoin P ∧ pattern.EachJoin P
  | .junction _ children => Expr.EachJoinAll P children
  | .call _ args _ => Expr.EachJoinAll P args
  | .cases arms otherwise => Expr.EachJoinArms P arms ∧ Expr.EachJoinOption P otherwise
  | .subquery query => query.EachJoin P
  | .star => True
  | .always => True

def Expr.EachJoinAll (P : List String → Join → Prop) : List Expr → Prop
  | [] => True
  | e :: rest => e.EachJoin P ∧ Expr.EachJoinAll P rest

def Expr.EachJoinArms (P : List String → Join → Prop) : List (Expr × Expr) → Prop
  | [] => True
  | (condition, value) :: rest =>
    condition.EachJoin P ∧ value.EachJoin P ∧ Expr.EachJoinArms P rest

def Expr.EachJoinOption (P : List String → Join → Prop) : Option Expr → Prop
  | none => True
  | some e => e.EachJoin P

def Item.EachJoinAll (P : List String → Join → Prop) : List Item → Prop
  | [] => True
  | { expr, label := _ } :: rest => expr.EachJoin P ∧ Item.EachJoinAll P rest

/-- The joins of a query itself, and those in their predicates. -/
def Join.EachJoinAll (P : List String → Join → Prop) (before : List String) : List Join → Prop
  | [] => True
  | { table, on } :: rest =>
    (P before { table, on } ∧ Expr.EachJoinOption P on) ∧
      Join.EachJoinAll P (before ++ [table]) rest

/-- Whether all joins of a query and of the queries in it are of one kind, given the tables of the
same query that are written before them. -/
def Query.EachJoin (P : List String → Join → Prop) : Query → Prop
  | { select, source, joins, filter, groupBy } =>
    Item.EachJoinAll P select ∧ Join.EachJoinAll P source.toList joins ∧
      Expr.EachJoinOption P filter ∧ Expr.EachJoinAll P groupBy

end

section Lists

variable {P : List String → Join → Prop}

theorem Expr.eachJoinAll_iff (es : List Expr) :
    Expr.EachJoinAll P es ↔ ∀ e ∈ es, e.EachJoin P := by
  induction es with
  | nil => simp [Expr.EachJoinAll]
  | cons e rest ih => rw [Expr.EachJoinAll, ih, List.forall_mem_cons]

theorem Expr.eachJoinArms_iff (arms : List (Expr × Expr)) :
    Expr.EachJoinArms P arms ↔ ∀ arm ∈ arms, arm.1.EachJoin P ∧ arm.2.EachJoin P := by
  induction arms with
  | nil => simp [Expr.EachJoinArms]
  | cons arm rest ih => rw [Expr.EachJoinArms, ih, List.forall_mem_cons, and_assoc]

theorem Item.eachJoinAll_iff (items : List Item) :
    Item.EachJoinAll P items ↔ ∀ item ∈ items, item.expr.EachJoin P := by
  induction items with
  | nil => simp [Item.EachJoinAll]
  | cons item rest ih =>
    rcases item with ⟨expr, label⟩
    rw [Item.EachJoinAll, ih, List.forall_mem_cons]

end Lists

end Sql

open Sql (Expr)

section Compilation

variable {P : List String → Sql.Join → Prop}

theorem Scalar.toSql_eachJoin (value : Scalar) : value.toSql.EachJoin P := by
  cases value with
  | text s =>
    rw [toSql]
    cases Text.Canonical.text? s <;> trivial
  | _ => trivial

namespace Expression

variable {α : Type}

mutual

/-- The joins in an expression are those in its aggregates. -/
theorem toSql_eachJoin {leaf : α → Expr} (e : Expression α)
    (hleaf : ∀ a ∈ e.aggregates, (leaf a).EachJoin P) : (toSql leaf e).EachJoin P := by
  cases e with
  | literal value => exact value.toSql_eachJoin
  | column name => trivial
  | operation op args => exact toSqlAll_eachJoin args hleaf
  | aggregate a => exact hleaf a List.mem_cons_self

theorem toSqlAll_eachJoin {leaf : α → Expr} (args : List (Expression α))
    (hleaf : ∀ a ∈ aggregatesOf args, (leaf a).EachJoin P) :
    Expr.EachJoinAll P (toSqlAll leaf args) := by
  cases args with
  | nil => trivial
  | cons arg rest =>
    simp only [aggregatesOf, List.mem_append] at hleaf
    exact ⟨toSql_eachJoin arg fun a ha ↦ hleaf a (.inl ha),
      toSqlAll_eachJoin rest fun a ha ↦ hleaf a (.inr ha)⟩

end

end Expression

theorem Operand.toSql_eachJoin (e : Operand) : e.toSql.EachJoin P :=
  Expression.toSql_eachJoin e fun a ↦ a.elim

theorem Operand.toPattern_eachJoin (e : Operand) : e.toPattern.EachJoin P := by
  cases e with
  | literal value =>
    rw [toPattern]
    cases value.canonicalText? with
    | none => exact value.toSql_eachJoin
    | some form => trivial
  | column name => trivial
  | operation op args => exact Operand.toSql_eachJoin (.operation op args)
  | aggregate a => exact a.elim

theorem Comparison.toSql_eachJoin (op : Comparison) (left right : Operand) :
    (op.toSql left right).EachJoin P := by
  have hleft : left.toSql.EachJoin P := left.toSql_eachJoin
  have hright : right.toSql.EachJoin P := right.toSql_eachJoin
  have hleftPattern : left.toPattern.EachJoin P := left.toPattern_eachJoin
  have hrightPattern : right.toPattern.EachJoin P := right.toPattern_eachJoin
  unfold toSql
  split
  · exact hleft
  · split
    · exact ⟨hleft, hrightPattern⟩
    · exact ⟨hleft, hrightPattern⟩
    · split
      · exact ⟨hleft, hrightPattern⟩
      · split
        · exact ⟨hright, hleftPattern⟩
        · exact ⟨hleft, hright⟩

namespace Condition

mutual

/-- There are no joins in a condition. -/
theorem toSql_eachJoin (c : Condition) : c.toSql.EachJoin P := by
  cases c with
  | empty => trivial
  | junction kind children =>
    rcases children with _ | ⟨child, rest⟩
    · cases kind <;> trivial
    · have hchild : child.toSql.EachJoin P := toSql_eachJoin child
      have hrest : Expr.EachJoinAll P (toSqlAll rest) := toSqlAll_eachJoin rest
      rcases rest with _ | ⟨second, rest⟩
      · cases kind with
        | list => exact hchild
        | and => exact ⟨hchild, trivial⟩
        | or => exact ⟨hchild, trivial⟩
      · cases kind <;> exact ⟨hchild, hrest⟩
  | compare op left right => exact op.toSql_eachJoin left right

theorem toSqlAll_eachJoin (cs : List Condition) : Expr.EachJoinAll P (toSqlAll cs) := by
  cases cs with
  | nil => trivial
  | cons child rest => exact ⟨toSql_eachJoin child, toSqlAll_eachJoin rest⟩

end

theorem filter_eachJoin (c : Condition) : Expr.EachJoinOption P c.filter := by
  unfold filter
  split
  · trivial
  · exact c.toSql_eachJoin

end Condition

/-- A join of a table of one kind, to tables of this kind, as compilation writes it. -/
def Options.Writes (options : Options) (tables : String → Prop)
    (P : List String → Sql.Join → Prop) : Prop :=
  ∀ joined table, joined ≠ [] → (∀ t ∈ joined, tables t) → tables table →
    P joined { table, on := some (options.joinPredicate joined table) }

namespace Options

variable {options : Options} {tables : String → Prop}

/-- What tables are joined on has no joins of its own. -/
theorem joinPredicate_eachJoin (options : Options) (joined : List String) (table : String) :
    (options.joinPredicate joined table).EachJoin P := by
  unfold joinPredicate
  split
  · rename_i predicate hfind
    obtain ⟨rule, -, hpredicate⟩ := List.exists_of_findSome?_eq_some hfind
    unfold JoinRule.predicate? at hpredicate
    split at hpredicate
    · cases hpredicate
      exact ⟨trivial, trivial⟩
    · split at hpredicate
      · cases hpredicate
        exact ⟨trivial, trivial⟩
      · cases hpredicate
  · exact ⟨trivial, trivial⟩

/-- A table that is joined later finds all those before it. -/
theorem Writes.joinsAfter (hwrites : options.Writes tables P) {joined rest : List String}
    (hsome : joined ≠ []) (hjoined : ∀ t ∈ joined, tables t) (hrest : ∀ t ∈ rest, tables t) :
    Sql.Join.EachJoinAll P joined (options.joinsAfter joined rest) := by
  induction rest generalizing joined with
  | nil => trivial
  | cons table rest ih =>
    have htable := hrest table List.mem_cons_self
    refine ⟨⟨hwrites joined table hsome hjoined htable,
      options.joinPredicate_eachJoin joined table⟩, ih (by simp) (fun t ht ↦ ?_) fun t ht ↦
        hrest t (List.mem_cons_of_mem table ht)⟩
    rcases List.mem_append.mp ht with ht | ht
    · exact hjoined t ht
    · rwa [List.mem_singleton.mp ht]

/-- The first table is not joined to anything. -/
theorem Writes.sources (hwrites : options.Writes tables P) {names : List String}
    (hnames : ∀ t ∈ names, tables t) {first : String} {joins : List Sql.Join}
    (h : options.sources names = .ok (first, joins)) : Sql.Join.EachJoinAll P [first] joins := by
  cases names with
  | nil => cases h
  | cons table rest =>
    cases h
    refine hwrites.joinsAfter (by simp) (fun t ht ↦ ?_) fun t ht ↦
      hnames t (List.mem_cons_of_mem _ ht)
    rw [List.mem_singleton.mp ht]
    exact hnames _ List.mem_cons_self

end Options

theorem Statistic.call_eachJoin {statistic : Statistic} {arg : Option Expr} {call : Expr}
    (harg : Expr.EachJoinOption P arg) (h : statistic.call arg = .ok call) : call.EachJoin P := by
  cases arg with
  | none =>
    cases statistic <;> cases h
    exact ⟨trivial, trivial⟩
  | some arg => cases statistic <;> cases h <;> exact ⟨harg, trivial⟩

variable {options : Options} {tables : String → Prop}

/-- Only a subject of its own brings joins into an aggregate. -/
theorem Aggregation.toSql_eachJoin (hwrites : options.Writes tables P) {a : Aggregation}
    (htables : ∀ subject, a.subject = some subject → ∀ t ∈ subject.tables, tables t) {e : Expr}
    (h : a.toSql options = .ok e) : e.EachJoin P := by
  have harg : Expr.EachJoinOption P (a.column.map columnExpr) := by
    cases a.column <;> trivial
  unfold toSql at h
  split at h
  · rename_i subject hsubject
    obtain ⟨⟨first, joins⟩, hsources, h⟩ := Outcome.bind_eq_ok.mp h
    obtain ⟨call, hcall, h⟩ := Outcome.bind_eq_ok.mp h
    cases h
    exact ⟨⟨Statistic.call_eachJoin harg hcall, trivial⟩,
      hwrites.sources (htables subject hsubject) hsources, Condition.filter_eachJoin _, trivial⟩
  · split at h
    · exact Statistic.call_eachJoin harg h
    · obtain ⟨value, hvalue, h⟩ := Outcome.bind_eq_ok.mp h
      have hcollected : value.EachJoin P := by
        unfold collected at hvalue
        split at hvalue
        · cases hvalue
          trivial
        · split at hvalue
          · cases hvalue
            trivial
          · cases hvalue
      have hcases : Expr.EachJoinOption P (some (.cases [(a.condition.toSql, value)] none)) :=
        ⟨⟨a.condition.toSql_eachJoin, hcollected, trivial⟩, trivial⟩
      exact Statistic.call_eachJoin hcases h

namespace Indicator

/-- The joins of nested queries are written for tables of the indicator. -/
theorem columnExprs_eachJoin {indicator : Indicator} (hwrites : options.Writes tables P)
    (htables : ∀ t ∈ indicator.tables, tables t) {exprs : List Expr}
    (h : indicator.columnExprs options = .ok exprs) : ∀ e ∈ exprs, e.EachJoin P := by
  intro e he
  obtain ⟨column, hcolumn, hbody⟩ := Outcome.exists_of_mem_mapM h he
  cases hkind : column.body with
  | groupBy value =>
    rw [hkind] at hbody
    cases hbody
    exact value.toSql_eachJoin
  | cases arms =>
    rw [hkind] at hbody
    cases hbody
    refine ⟨(Expr.eachJoinArms_iff _).mpr fun arm harm ↦ ?_, trivial⟩
    obtain ⟨a, -, rfl⟩ := List.mem_map.mp harm
    exact ⟨a.condition.toSql_eachJoin, trivial⟩
  | aggregation measure =>
    rw [hkind] at hbody
    obtain ⟨m', hm', rfl⟩ := Outcome.map_eq_ok.mp hbody
    refine Expression.toSql_eachJoin m' fun b hb ↦ ?_
    obtain ⟨a, ha, hab⟩ := Expression.exists_of_mem_traverse hm' hb
    refine Aggregation.toSql_eachJoin hwrites (fun subject hsubject t ht ↦ ?_) hab
    exact htables t (mem_tables_of_mem_nested hcolumn hkind ha hsubject ht)

/-- All joins of the query of an indicator are written by its options, for its tables. -/
theorem toQuery_eachJoin {indicator : Indicator} (hwrites : options.Writes tables P)
    (htables : ∀ t ∈ indicator.tables, tables t) {query : Sql.Query}
    (h : indicator.toQuery options = .ok query) : query.EachJoin P := by
  obtain ⟨⟨first, joins⟩, hsources, h⟩ := Outcome.bind_eq_ok.mp h
  obtain ⟨exprs, hexprs, h⟩ := Outcome.bind_eq_ok.mp h
  cases h
  have heach := columnExprs_eachJoin hwrites htables hexprs
  refine ⟨(Sql.Item.eachJoinAll_iff _).mpr fun item hitem ↦ ?_, ?_,
    indicator.subject.conditions.filter_eachJoin,
    (Expr.eachJoinAll_iff _).mpr fun e he ↦ heach e (mem_of_mem_groupExprs he)⟩
  · obtain ⟨column, e, he, rfl⟩ := exists_of_mem_items hitem
    exact heach e he
  · exact hwrites.sources (fun t ht ↦ htables t (mem_tables_of_mem_subject ht)) hsources

end Indicator

end Compilation

end Barometer
