import Barometer.Proofs.Compilation.Links
import Barometer.Proofs.Outcome
import Barometer.Proofs.Sql.Vocabulary

/-!
# Statements of indicators

The queries that indicators compile to have operators and functions of indicators only, whatever the
names and texts in them. Their statements are scanned as they were meant: texts and names stay
between their quotes, and nothing outside of quotes ends the statement or begins a comment.
-/

namespace Barometer

open Sql (Expr)

theorem Scalar.toSql_known (value : Scalar) : value.toSql.Known := by
  cases value with
  | text s =>
    rw [toSql]
    cases Text.Canonical.text? s <;> trivial
  | _ => trivial

namespace Expression

variable {α β ε : Type}

mutual

theorem toSql_known {leaf : α → Expr} (e : Expression α)
    (hleaf : ∀ a ∈ e.aggregates, (leaf a).Known) : (toSql leaf e).Known := by
  cases e with
  | literal value => exact value.toSql_known
  | column name => trivial
  | operation op args => exact ⟨⟨op, rfl⟩, toSqlAll_known args hleaf⟩
  | aggregate a => exact hleaf a (by simp [aggregates])

theorem toSqlAll_known {leaf : α → Expr} (args : List (Expression α))
    (hleaf : ∀ a ∈ aggregatesOf args, (leaf a).Known) : Expr.KnownAll (toSqlAll leaf args) := by
  cases args with
  | nil => trivial
  | cons arg rest =>
    simp only [aggregatesOf, List.mem_append] at hleaf
    exact ⟨toSql_known arg fun a ha ↦ hleaf a (.inl ha),
      toSqlAll_known rest fun a ha ↦ hleaf a (.inr ha)⟩

end

mutual

/-- The aggregates of an expression after a traversal are the results for those before it. -/
theorem exists_of_mem_traverse {f : α → Except ε β} {e : Expression α} {e' : Expression β}
    (h : traverse f e = .ok e') {b : β} (hb : b ∈ e'.aggregates) :
    ∃ a ∈ e.aggregates, f a = .ok b := by
  cases e with
  | literal value =>
    cases h
    cases hb
  | column name =>
    cases h
    cases hb
  | operation op args =>
    rw [traverse, Outcome.map_eq_ok] at h
    obtain ⟨args', hargs, rfl⟩ := h
    exact exists_of_mem_traverseAll hargs hb
  | aggregate a =>
    rw [traverse, Outcome.map_eq_ok] at h
    obtain ⟨c, hc, rfl⟩ := h
    cases List.mem_singleton.mp hb
    exact ⟨a, List.mem_cons_self, hc⟩

/-- Each compiled aggregate comes from one that was there. -/
theorem exists_of_mem_traverseAll {f : α → Except ε β} {args : List (Expression α)}
    {args' : List (Expression β)} (h : traverseAll f args = .ok args') {b : β}
    (hb : b ∈ aggregatesOf args') : ∃ a ∈ aggregatesOf args, f a = .ok b := by
  cases args with
  | nil =>
    cases h
    cases hb
  | cons arg rest =>
    rw [traverseAll, Outcome.bind_eq_ok] at h
    obtain ⟨e, he, h⟩ := h
    obtain ⟨es, hes, h⟩ := Outcome.bind_eq_ok.mp h
    cases h
    rw [aggregatesOf, List.mem_append] at hb
    rcases hb with hb | hb
    · obtain ⟨a, ha, hab⟩ := exists_of_mem_traverse he hb
      exact ⟨a, List.mem_append_left _ ha, hab⟩
    · obtain ⟨a, ha, hab⟩ := exists_of_mem_traverseAll hes hb
      exact ⟨a, List.mem_append_right _ ha, hab⟩

end

end Expression

theorem Operand.toSql_known (e : Operand) : e.toSql.Known :=
  Expression.toSql_known e fun a ↦ a.elim

theorem Operand.toPattern_known (e : Operand) : e.toPattern.Known := by
  cases e with
  | literal value =>
    rw [toPattern]
    cases value.canonicalText? with
    | none => exact value.toSql_known
    | some form => trivial
  | column name => trivial
  | operation op args => exact Operand.toSql_known (.operation op args)
  | aggregate a => exact a.elim

/-- The signs of comparisons are fixed, whatever stands beside them. -/
theorem Comparison.toSql_known (op : Comparison) (left right : Operand) :
    (op.toSql left right).Known := by
  unfold toSql
  split
  · exact left.toSql_known
  · split
    · exact ⟨left.toSql_known, right.toPattern_known⟩
    · exact ⟨left.toSql_known, right.toPattern_known⟩
    · split
      · exact ⟨left.toSql_known, right.toPattern_known⟩
      · split
        · exact ⟨right.toSql_known, left.toPattern_known⟩
        · exact ⟨left.toSql_known, right.toSql_known⟩

namespace Condition

mutual

theorem toSql_known (c : Condition) : c.toSql.Known := by
  cases c with
  | empty => trivial
  | junction kind children =>
    rcases children with _ | ⟨child, rest⟩
    · cases kind <;> trivial
    · have hchild := toSql_known child
      have hrest := toSqlAll_known rest
      rcases rest with _ | ⟨second, rest⟩
      · cases kind with
        | list => exact hchild
        | and => exact ⟨hchild, trivial⟩
        | or => exact ⟨hchild, trivial⟩
      · cases kind <;> exact ⟨hchild, hrest⟩
  | compare op left right => exact op.toSql_known left right

theorem toSqlAll_known (cs : List Condition) : Expr.KnownAll (toSqlAll cs) := by
  cases cs with
  | nil => trivial
  | cons child rest => exact ⟨toSql_known child, toSqlAll_known rest⟩

end

theorem filter_known (c : Condition) : Expr.KnownOption c.filter := by
  unfold filter
  split
  · trivial
  · exact c.toSql_known

end Condition

namespace Options

variable (options : Options)

/-- Tables are joined on two columns, whose names are quoted if need be. -/
theorem joinPredicate_known (joined : List String) (table : String) :
    (options.joinPredicate joined table).Known := by
  rw [joinPredicate_eq]
  cases options.link joined table <;> exact ⟨trivial, trivial⟩

theorem joinsAfter_known (joined rest : List String) :
    Sql.Join.KnownAll (options.joinsAfter joined rest) := by
  induction rest generalizing joined with
  | nil => trivial
  | cons table rest ih => exact ⟨options.joinPredicate_known joined table, ih (joined ++ [table])⟩

theorem sources_known {tables : List String} {first : String} {joins : List Sql.Join}
    (h : options.sources tables = .ok (first, joins)) : Sql.Join.KnownAll joins := by
  cases tables with
  | nil => cases h
  | cons table rest =>
    cases h
    exact options.joinsAfter_known [first] rest

end Options

theorem Statistic.call_known {statistic : Statistic} {arg : Option Expr} {call : Expr}
    (harg : Expr.KnownOption arg) (h : statistic.call arg = .ok call) : call.Known := by
  cases arg with
  | none =>
    cases statistic <;> cases h
    exact ⟨⟨.count, rfl⟩, trivial, trivial⟩
  | some arg => cases statistic <;> cases h <;> exact ⟨⟨_, rfl⟩, harg, trivial⟩

theorem Aggregation.collected_known {a : Aggregation} {value : Expr}
    (h : a.collected = .ok value) : value.Known := by
  unfold collected at h
  split at h
  · cases h
    trivial
  · split at h
    · cases h
      trivial
    · cases h

/-- The names of functions are among a few. -/
theorem Aggregation.toSql_known {options : Options} {a : Aggregation} {e : Expr}
    (h : a.toSql options = .ok e) : e.Known := by
  have hcolumn : Expr.KnownOption (a.column.map columnExpr) := by
    cases a.column <;> trivial
  unfold toSql at h
  split at h
  · obtain ⟨⟨first, joins⟩, hsources, h⟩ := Outcome.bind_eq_ok.mp h
    obtain ⟨call, hcall, h⟩ := Outcome.bind_eq_ok.mp h
    cases h
    exact ⟨⟨Statistic.call_known hcolumn hcall, trivial⟩, options.sources_known hsources,
      Condition.filter_known _, trivial⟩
  · split at h
    · exact Statistic.call_known hcolumn h
    · obtain ⟨value, hvalue, h⟩ := Outcome.bind_eq_ok.mp h
      have hcases : Expr.KnownOption (some (.cases [(a.condition.toSql, value)] none)) :=
        ⟨⟨a.condition.toSql_known, collected_known hvalue, trivial⟩, trivial⟩
      exact Statistic.call_known hcases h

theorem Measure.toSql_known {options : Options} {m : Measure} {e : Expr}
    (h : m.toSql options = .ok e) : e.Known := by
  rw [toSql, Outcome.map_eq_ok] at h
  obtain ⟨m', hm', rfl⟩ := h
  refine Expression.toSql_known m' fun leaf hleaf ↦ ?_
  obtain ⟨a, -, ha⟩ := Expression.exists_of_mem_traverse hm' hleaf
  exact Aggregation.toSql_known ha

theorem ColumnBody.toSql_known {options : Options} {body : ColumnBody} {e : Expr}
    (h : body.toSql options = .ok e) : e.Known := by
  cases body with
  | groupBy value =>
    cases h
    exact value.toSql_known
  | cases arms =>
    cases h
    refine ⟨(Expr.knownArms_iff _).mpr fun arm harm ↦ ?_, trivial⟩
    obtain ⟨a, -, rfl⟩ := List.mem_map.mp harm
    exact ⟨a.condition.toSql_known, trivial⟩
  | aggregation m => exact Measure.toSql_known h

namespace Indicator

theorem columnExprs_known {options : Options} {indicator : Indicator} {exprs : List Expr}
    (h : indicator.columnExprs options = .ok exprs) : ∀ e ∈ exprs, e.Known := by
  intro e he
  obtain ⟨column, -, hcolumn⟩ := Outcome.exists_of_mem_mapM h he
  exact ColumnBody.toSql_known hcolumn

/-- No compiled query has an operator or a function that is not of this library. -/
theorem toQuery_known {options : Options} {indicator : Indicator} {query : Sql.Query}
    (h : indicator.toQuery options = .ok query) : query.Known := by
  obtain ⟨⟨first, joins⟩, hsources, h⟩ := Outcome.bind_eq_ok.mp h
  obtain ⟨exprs, hexprs, h⟩ := Outcome.bind_eq_ok.mp h
  cases h
  have hknown := columnExprs_known hexprs
  refine ⟨(Sql.Item.knownAll_iff _).mpr fun item hitem ↦ ?_, options.sources_known hsources,
    Condition.filter_known _, (Expr.knownAll_iff _).mpr fun e he ↦ ?_⟩
  · obtain ⟨column, e, he, rfl⟩ := exists_of_mem_items hitem
    exact hknown e he
  · exact hknown e (mem_of_mem_groupExprs he)

/-- No name and no text of an indicator, of the join rules or of the options gets out of its place
in the statement, in either dialect. The pieces are all of the statement: written again, they are
the same text. -/
theorem scan_statement {options : Options} {indicator : Indicator} {query : Sql.Query}
    (dialect : Sql.Dialect) (h : indicator.toQuery options = .ok query) :
    ∃ pieces, Sql.Scanner.scan (query.statement dialect) = some pieces ∧
      pieces.flatMap Sql.Piece.written = (query.statement dialect).toList ∧
      Sql.Intact (query.statementTokens dialect) pieces := by
  have hphrase := Sql.Query.phrase dialect query (toQuery_known h)
  have hscan := hphrase.scan_textOf
  exact ⟨_, hscan, Sql.Scanner.written_of_scan hscan, hphrase.intact⟩

end Indicator

namespace Hostile

def indicator : Indicator where
  subject := { tables := ["t\"; DROP TABLE t; --"], conditions := .empty }
  columns :=
    [{ title := "\") --"
       body := .cases [{ condition := .empty, label := "x'; DROP TABLE t; --" }] }]

/-- An indicator all of whose names try to end the statement. -/
theorem scan_statement_hostile :
    ∃ query pieces, indicator.toQuery .default = .ok query ∧
      Sql.Scanner.scan (query.statement .sqlite) = some pieces ∧
      pieces.flatMap Sql.Piece.written = (query.statement .sqlite).toList ∧
      Sql.Intact (query.statementTokens .sqlite) pieces ∧
      pieces.filterMap Sql.Piece.region? =
        [('\x27', "x'; DROP TABLE t; --"), ('"', "\") --"), ('"', "t\"; DROP TABLE t; --"),
          ('\x27', "x'; DROP TABLE t; --")] := by
  obtain ⟨pieces, hscan, hwritten, hintact⟩ :=
    Indicator.scan_statement .sqlite (rfl : indicator.toQuery .default = .ok _)
  exact ⟨_, pieces, rfl, hscan, hwritten, hintact, hintact.regions.trans rfl⟩

end Hostile

end Barometer
