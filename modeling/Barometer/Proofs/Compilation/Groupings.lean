import Barometer.Proofs.Compilation.Conditions
import Barometer.Proofs.Compilation.Readability
import Barometer.Proofs.Compilation.Statements
import Barometer.Proofs.Sql.Groupings
import Mathlib.Data.List.Forall2

/-!
# What is shown and what rows are grouped by

A query shows one item for each column, under its title, and groups its rows by the expressions of
the columns that are no aggregates, in the same order. So an entry of the grouping is written as its
item is, without the title. Nothing else in a statement groups rows: expressions have no clause of
this kind, and neither have the subqueries of aggregates.
-/

namespace Barometer

open Sql (Expr Ungrouped)

section Compilation

variable {dialect : Sql.Dialect}

theorem Scalar.isUngrouped_toSql (value : Scalar) : value.toSql.IsUngrouped dialect := by
  cases value with
  | text s =>
    rw [toSql]
    cases Text.Canonical.text? s <;> exact Expr.isUngrouped_literal _
  | _ => exact Expr.isUngrouped_literal _

namespace Expression

variable {α : Type} {leaf : α → Expr}

mutual

/-- An expression groups rows only if one of its aggregates does. -/
theorem isUngrouped_toSql (e : Expression α)
    (hleaf : ∀ a ∈ e.aggregates, (leaf a).IsUngrouped dialect) :
    (toSql leaf e).IsUngrouped dialect := by
  cases e with
  | literal value => exact value.isUngrouped_toSql
  | column name => exact Expr.isUngrouped_column none name
  | operation op args => exact Expr.isUngrouped_operation op.sign (isUngrouped_toSqlAll args hleaf)
  | aggregate a => exact hleaf a List.mem_cons_self

theorem isUngrouped_toSqlAll (args : List (Expression α))
    (hleaf : ∀ a ∈ aggregatesOf args, (leaf a).IsUngrouped dialect) :
    ∀ e ∈ toSqlAll leaf args, e.IsUngrouped dialect := by
  cases args with
  | nil => exact List.forall_mem_nil _
  | cons arg rest =>
    simp only [aggregatesOf, List.mem_append] at hleaf
    exact List.forall_mem_cons.mpr ⟨isUngrouped_toSql arg fun a ha ↦ hleaf a (.inl ha),
      isUngrouped_toSqlAll rest fun a ha ↦ hleaf a (.inr ha)⟩

end

end Expression

namespace Operand

theorem isUngrouped_toSql (e : Operand) : e.toSql.IsUngrouped dialect :=
  Expression.isUngrouped_toSql e fun a ↦ a.elim

theorem isUngrouped_toPattern (e : Operand) : e.toPattern.IsUngrouped dialect := by
  cases e with
  | literal value =>
    rw [toPattern]
    cases value.canonicalText? with
    | none => exact value.isUngrouped_toSql
    | some form => exact Expr.isUngrouped_literal _
  | column name => exact Expr.isUngrouped_column none name
  | operation op args => exact Operand.isUngrouped_toSql (.operation op args)
  | aggregate a => exact a.elim

end Operand

/-- None of the ways in which a comparison is written has a clause. -/
theorem Comparison.isUngrouped_toSql (op : Comparison) (left right : Operand) :
    (op.toSql left right).IsUngrouped dialect := by
  have hleft : left.toSql.IsUngrouped dialect := left.isUngrouped_toSql
  have hright : right.toSql.IsUngrouped dialect := right.isUngrouped_toSql
  have hlike (negated : Bool) :
      (Expr.like left.toSql right.toPattern negated).IsUngrouped dialect :=
    Expr.isUngrouped_like negated hleft right.isUngrouped_toPattern
  unfold toSql
  split
  · exact Expr.isUngrouped_isNull _ hleft
  · split
    · exact hlike false
    · exact hlike true
    · split
      · exact hlike _
      · split
        · exact Expr.isUngrouped_like _ hright left.isUngrouped_toPattern
        · exact Expr.isUngrouped_compare _ hleft hright

namespace Condition

mutual

/-- Conditions have no aggregates, and so no queries within them. -/
theorem isUngrouped_toSql (c : Condition) : c.toSql.IsUngrouped dialect := by
  cases c with
  | empty => exact Expr.isUngrouped_always
  | junction kind children =>
    rcases children with _ | ⟨child, rest⟩
    · cases kind <;> exact Expr.isUngrouped_always
    · have hchild : child.toSql.IsUngrouped dialect := isUngrouped_toSql child
      have hjunction : (Expr.junction kind.connective
          (child.toSql :: toSqlAll rest)).IsUngrouped dialect :=
        Expr.isUngrouped_junction _ (List.forall_mem_cons.mpr ⟨hchild, isUngrouped_toSqlAll rest⟩)
      rcases rest with _ | ⟨second, rest⟩
      · cases kind with
        | list => exact hchild
        | and => exact hjunction
        | or => exact hjunction
      · cases kind <;> exact hjunction
  | compare op left right => exact op.isUngrouped_toSql left right

theorem isUngrouped_toSqlAll (cs : List Condition) :
    ∀ e ∈ toSqlAll cs, e.IsUngrouped dialect := by
  cases cs with
  | nil => exact List.forall_mem_nil _
  | cons child rest =>
    exact List.forall_mem_cons.mpr ⟨isUngrouped_toSql child, isUngrouped_toSqlAll rest⟩

end

theorem isUngrouped_of_filter {c : Condition} {e : Expr} (h : c.filter = some e) :
    e.IsUngrouped dialect := by
  unfold filter at h
  split at h
  · cases h
  · cases h
    exact c.isUngrouped_toSql

end Condition

/-- Tables are joined on conditions alone. -/
theorem Options.isUngrouped_of_sources {options : Options} {tables : List String} {first : String}
    {joins : List Sql.Join} (h : options.sources tables = .ok (first, joins)) :
    ∀ join ∈ joins, ∀ on, join.on = some on → on.IsUngrouped dialect := by
  intro join hjoin on hon
  obtain ⟨link, hlink, table, column, table', column', rfl⟩ := isLinked_of_mem_sources h join hjoin
  cases hon.symm.trans hlink
  exact Expr.isUngrouped_compare _ (Expr.isUngrouped_column _ _) (Expr.isUngrouped_column _ _)

theorem Statistic.isUngrouped_call {statistic : Statistic} {arg : Option Expr} {call : Expr}
    (harg : ∀ e, arg = some e → e.IsUngrouped dialect) (h : statistic.call arg = .ok call) :
    call.IsUngrouped dialect := by
  cases arg with
  | none =>
    cases statistic <;> cases h
    exact Expr.isUngrouped_call _ _ (List.forall_mem_singleton.mpr Expr.isUngrouped_star)
  | some arg =>
    have hone : ∀ e ∈ [arg], e.IsUngrouped dialect := List.forall_mem_singleton.mpr (harg arg rfl)
    cases statistic <;> cases h <;> exact Expr.isUngrouped_call _ _ hone

namespace Aggregation

theorem isUngrouped_collected {a : Aggregation} {value : Expr} (h : a.collected = .ok value) :
    value.IsUngrouped dialect := by
  unfold collected at h
  split at h
  · cases h
    exact Expr.isUngrouped_literal _
  · split at h
    · cases h
      exact Expr.isUngrouped_column none _
    · cases h

/-- The query of an aggregate has no groups. -/
theorem isUngrouped_toSql {options : Options} {a : Aggregation} {e : Expr}
    (h : a.toSql options = .ok e) : e.IsUngrouped dialect := by
  have hcolumn : ∀ e, a.column.map columnExpr = some e → e.IsUngrouped dialect := by
    intro e he
    obtain ⟨name, -, rfl⟩ := Option.map_eq_some_iff.mp he
    exact Expr.isUngrouped_column none name
  unfold toSql at h
  split at h
  · rename_i subject _
    obtain ⟨⟨first, joins⟩, hsources, h⟩ := Outcome.bind_eq_ok.mp h
    obtain ⟨call, hcall, h⟩ := Outcome.bind_eq_ok.mp h
    cases h
    have hcalled : call.IsUngrouped dialect := Statistic.isUngrouped_call hcolumn hcall
    have hsourced : Ungrouped ((a.subjectQuery subject first joins call).sourceTokens dialect) :=
      Sql.Query.ungrouped_sourceTokens (Options.isUngrouped_of_sources hsources) fun e he ↦
        Condition.isUngrouped_of_filter he
    have hfront : Ungrouped ((a.subjectQuery subject first joins call).front dialect) :=
      Sql.Query.ungrouped_front (List.forall_mem_singleton.mpr hcalled) hsourced
    exact (Sql.Query.ungrouped_tokens hfront rfl).parenthesized
  · split at h
    · exact Statistic.isUngrouped_call hcolumn h
    · obtain ⟨value, hvalue, h⟩ := Outcome.bind_eq_ok.mp h
      refine Statistic.isUngrouped_call (fun e he ↦ ?_) h
      cases he
      exact Expr.isUngrouped_cases (List.forall_mem_singleton.mpr
        ⟨a.condition.isUngrouped_toSql, isUngrouped_collected hvalue⟩)

end Aggregation

/-- A nested query shows an aggregate alone, so it has no keys. -/
theorem ColumnBody.isUngrouped_toSql {options : Options} {body : ColumnBody} {e : Expr}
    (h : body.toSql options = .ok e) : e.IsUngrouped dialect := by
  cases body with
  | groupBy value =>
    cases h
    exact value.isUngrouped_toSql
  | cases arms =>
    cases h
    refine Expr.isUngrouped_cases fun arm harm ↦ ?_
    obtain ⟨a, -, rfl⟩ := List.mem_map.mp harm
    exact ⟨a.condition.isUngrouped_toSql, Expr.isUngrouped_literal _⟩
  | aggregation measure =>
    obtain ⟨m', hm', rfl⟩ := Outcome.map_eq_ok.mp h
    refine Expression.isUngrouped_toSql m' fun leaf hleaf ↦ ?_
    obtain ⟨a, -, ha⟩ := Expression.exists_of_mem_traverse hm' hleaf
    exact Aggregation.isUngrouped_toSql ha

end Compilation

namespace ColumnBody

/-- What a column adds to the keys. -/
def key? : ColumnBody → Option Sql.Expr
  | .groupBy e => some (Operand.toSql e)
  | .cases arms => some (.cases (arms.map CaseArm.toSql) none)
  | .aggregation _ => none

/-- Grouping columns are those that have a key. -/
theorem isGrouping_iff {body : ColumnBody} :
    body.isGrouping = true ↔ ∃ key, body.key? = some key := by
  cases body <;> simp [isGrouping, key?]

theorem toSql_of_key? {body : ColumnBody} {key : Sql.Expr} (h : body.key? = some key)
    (options : Options) : body.toSql options = .ok key := by
  cases body with
  | aggregation measure => cases h
  | _ =>
    cases h
    rfl

end ColumnBody

namespace Indicator

variable {options : Options} {indicator : Indicator} {query : Sql.Query}

/-- The keys come in the order of the columns that have them. -/
theorem groupExprs_eq_filterMap {columns : List Column} {exprs : List Sql.Expr}
    (h : columns.mapM (fun column ↦ column.body.toSql options) = .ok exprs) :
    groupExprs columns exprs = columns.filterMap fun column ↦ column.body.key? := by
  induction columns generalizing exprs with
  | nil => rfl
  | cons column rest ih =>
    rw [List.mapM_cons] at h
    obtain ⟨e, he, h⟩ := Outcome.bind_eq_ok.mp h
    obtain ⟨es, hes, h⟩ := Outcome.bind_eq_ok.mp h
    cases h
    have hrest := ih hes
    unfold groupExprs at hrest ⊢
    rw [List.zip_cons_cons, List.filter_cons, List.filterMap_cons]
    cases hkey : column.body.key? with
    | none =>
      have hgrouping : ¬ column.body.isGrouping = true := by
        simp [ColumnBody.isGrouping_iff, hkey]
      rw [if_neg hgrouping]
      exact hrest
    | some key =>
      have hgrouping : column.body.isGrouping = true :=
        ColumnBody.isGrouping_iff.mpr ⟨key, hkey⟩
      cases he.symm.trans (ColumnBody.toSql_of_key? hkey options)
      rw [if_pos hgrouping, List.map_cons, hrest]

/-- The keys are those of the columns. -/
theorem groupBy_eq_filterMap (h : indicator.toQuery options = .ok query) :
    query.groupBy = indicator.columns.filterMap fun column ↦ column.body.key? := by
  obtain ⟨first, exprs, -, hexprs, -, -, -, hgroupBy⟩ := fields_of_toQuery h
  exact hgroupBy.trans (groupExprs_eq_filterMap hexprs)

/-- Rows are grouped if some column is for grouping. -/
theorem groupBy_ne_nil_iff (h : indicator.toQuery options = .ok query) :
    query.groupBy ≠ [] ↔ ∃ column ∈ indicator.columns, column.body.isGrouping = true := by
  rw [groupBy_eq_filterMap h, Ne, List.filterMap_eq_nil_iff]
  push Not
  simp only [ColumnBody.isGrouping_iff, Option.ne_none_iff_exists']

theorem ungrouped_sourceTokens (h : indicator.toQuery options = .ok query)
    (dialect : Sql.Dialect) : Ungrouped (query.sourceTokens dialect) := by
  obtain ⟨first, exprs, hsources, -, -, -, hfilter, -⟩ := fields_of_toQuery h
  apply Sql.Query.ungrouped_sourceTokens
  · exact Options.isUngrouped_of_sources hsources
  · intro e he
    rw [hfilter] at he
    exact Condition.isUngrouped_of_filter he

/-- Nothing in front of the clause groups rows, not even in a nested query. -/
theorem ungrouped_front (h : indicator.toQuery options = .ok query) (dialect : Sql.Dialect) :
    Ungrouped (query.front dialect) := by
  obtain ⟨first, exprs, -, hexprs, -, hselect, -, -⟩ := fields_of_toQuery h
  refine Sql.Query.ungrouped_front (fun item hitem ↦ ?_) (ungrouped_sourceTokens h dialect)
  rw [hselect] at hitem
  obtain ⟨column, e, he, rfl⟩ := exists_of_mem_items hitem
  obtain ⟨_, -, hbody⟩ := Outcome.exists_of_mem_mapM hexprs he
  exact ColumnBody.isUngrouped_toSql hbody

/-- A column and the item that shows it. -/
def IsShownAs (options : Options) (column : Column) (item : Sql.Item) : Prop :=
  column.body.toSql options = .ok item.expr ∧ item.label = some column.title

/-- The columns that rows are grouped by, each with its item. -/
def groupingItems (columns : List Column) (items : List Sql.Item) : List (Column × Sql.Item) :=
  (columns.zip items).filter fun shown ↦ shown.1.body.isGrouping

theorem forall₂_isShownAs {columns : List Column} {exprs : List Expr}
    (h : columns.mapM (fun column ↦ column.body.toSql options) = .ok exprs) :
    List.Forall₂ (IsShownAs options) columns (columns.zipWith Column.toItem exprs) := by
  induction columns generalizing exprs with
  | nil => exact .nil
  | cons column rest ih =>
    rw [List.mapM_cons] at h
    obtain ⟨e, he, h⟩ := Outcome.bind_eq_ok.mp h
    obtain ⟨es, hes, h⟩ := Outcome.bind_eq_ok.mp h
    cases h
    exact .cons ⟨he, rfl⟩ (ih hes)

/-- The keys are the expressions of the items that are grouped by. -/
theorem groupExprs_eq_map (columns : List Column) (exprs : List Expr) :
    groupExprs columns exprs =
      (groupingItems columns (columns.zipWith Column.toItem exprs)).map fun shown ↦
        shown.2.expr := by
  induction columns generalizing exprs with
  | nil => rfl
  | cons column rest ih =>
    cases exprs with
    | nil => rfl
    | cons e es =>
      have hrest := ih es
      unfold groupExprs groupingItems at hrest ⊢
      rw [List.zipWith_cons_cons, List.zip_cons_cons, List.zip_cons_cons, List.filter_cons,
        List.filter_cons]
      split
      · rw [List.map_cons, List.map_cons, hrest]
        rfl
      · exact hrest

/-- Each column is shown by the item in its place, under its title. The keys of the grouping belong
to the columns that are no aggregates, in their order, and are written as their items without the
title. A statement is what it shows, then the tables and the filter, then the keys if there are
any, and rows are grouped in it if and only if there is such a column. -/
theorem select_matches_groupBy (h : indicator.toQuery options = .ok query)
    (dialect : Sql.Dialect) :
    List.Forall₂ (IsShownAs options) indicator.columns query.select ∧
    List.Forall₂ (fun shown key ↦ key = shown.2.expr ∧
        shown.2.sql dialect = key.sql dialect ++ " AS " ++ Sql.quotedName shown.1.title)
      (groupingItems indicator.columns query.select) query.groupBy ∧
    query.statement dialect = "SELECT" ++ Sql.listText " " (query.select.map (·.sql dialect)) ++
      Sql.textOf (query.sourceTokens dialect) ++
        Sql.listText " GROUP BY " (query.groupBy.map (·.sql dialect)) ++ ";" ∧
    Ungrouped (query.sourceTokens dialect) ∧
    (.keyword .groupBy ∈ query.statementTokens dialect ↔
      ∃ column ∈ indicator.columns, column.body.isGrouping = true) := by
  obtain ⟨first, exprs, -, hexprs, -, hselect, -, hgroupBy⟩ := fields_of_toQuery h
  have hshown : List.Forall₂ (IsShownAs options) indicator.columns query.select := by
    rw [hselect]
    exact forall₂_isShownAs hexprs
  have hkeys : query.groupBy =
      (groupingItems indicator.columns query.select).map fun shown ↦ shown.2.expr := by
    rw [hgroupBy, hselect, groupExprs_eq_map]
  refine ⟨hshown, ?_, Sql.Query.statement_eq dialect query, ungrouped_sourceTokens h dialect, ?_⟩
  · rw [hkeys, List.forall₂_map_right_iff, List.forall₂_same]
    intro shown hmem
    have hlabel := (List.forall₂_zip hshown (List.mem_filter.mp hmem).1).2
    exact ⟨rfl, Sql.Item.sql_of_label hlabel dialect⟩
  · rw [Sql.Query.groupBy_mem_statementTokens_iff (ungrouped_front h dialect),
      groupBy_ne_nil_iff h]

end Indicator

namespace Towns

def count : Aggregation :=
  { statistic := .count, column := none, condition := .empty, subject := none }

def regional : CaseArm :=
  { condition := .compare .eq (.column "ville") (.literal (.text "%sur-Garonne")),
    label := "Garonne" }

def indicator : Indicator where
  subject := { tables := ["etudiants"], conditions := .empty }
  columns :=
    [{ title := "N", body := .aggregation (.aggregate count) },
      { title := "Ville", body := .groupBy (.column "ville") },
      { title := "Origine", body := .cases [regional] }]

/-- Students by the town they come from and whether it is one of the region, the count first. -/
theorem select_matches_groupBy_towns :
    ∃ query, indicator.toQuery .default = .ok query ∧ query.select.length = 3 ∧
      query.groupBy.length = 2 ∧ .keyword .groupBy ∈ query.statementTokens .sqlite := by
  have h : indicator.toQuery .default = .ok _ := rfl
  obtain ⟨hshown, hkeys, -, -, hclause⟩ := Indicator.select_matches_groupBy h .sqlite
  exact ⟨_, h, hshown.length_eq.symm, hkeys.length_eq.symm,
    hclause.mpr ⟨_, List.mem_cons_of_mem _ List.mem_cons_self, rfl⟩⟩

end Towns

end Barometer
