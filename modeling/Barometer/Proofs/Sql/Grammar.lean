import Barometer.Sql.Query

/-!
# The grammar of queries

The queries of indicators are built from terms and conditions. A term is one token or has a token of
its own at its end. A condition can be a term with more behind it, so conditions only stand where
something closes them. Two things about such a query are not written: the operator of an operation
with one argument, and the connective of a junction with one part.
-/

namespace Barometer.Sql

mutual

/-- The expression without what does not show in its tokens. -/
def Expr.visible : Expr → Expr
  | .column table name => .column table name
  | .literal value => .literal value
  | .operation sign args =>
    .operation (if args.length = 1 then "" else sign) (Expr.visibleAll args)
  | .compare relation left right => .compare relation left.visible right.visible
  | .isNull operand negated => .isNull operand.visible negated
  | .like operand pattern negated => .like operand.visible pattern.visible negated
  | .junction connective children =>
    .junction (if children.length = 1 then .and else connective) (Expr.visibleAll children)
  | .call function args distinct => .call function (Expr.visibleAll args) distinct
  | .cases arms otherwise => .cases (Expr.visibleArms arms) (Expr.visibleOption otherwise)
  | .subquery query => .subquery query.visible
  | .star => .star
  | .always => .always

def Expr.visibleAll : List Expr → List Expr
  | [] => []
  | e :: rest => e.visible :: Expr.visibleAll rest

def Expr.visibleArms : List (Expr × Expr) → List (Expr × Expr)
  | [] => []
  | (condition, value) :: rest => (condition.visible, value.visible) :: Expr.visibleArms rest

def Expr.visibleOption : Option Expr → Option Expr
  | none => none
  | some e => some e.visible

def Item.visible : Item → Item
  | { expr, label } => { expr := expr.visible, label }

def Item.visibleAll : List Item → List Item
  | [] => []
  | item :: rest => item.visible :: Item.visibleAll rest

def Join.visible : Join → Join
  | { table, on } => { table, on := Expr.visibleOption on }

def Join.visibleAll : List Join → List Join
  | [] => []
  | join :: rest => join.visible :: Join.visibleAll rest

/-- The query without what does not show in its tokens. -/
def Query.visible : Query → Query
  | { select, source, joins, filter, groupBy } =>
    { select := Item.visibleAll select
      source
      joins := Join.visibleAll joins
      filter := Expr.visibleOption filter
      groupBy := Expr.visibleAll groupBy }

end

theorem Expr.visibleAll_eq_map (es : List Expr) : Expr.visibleAll es = es.map Expr.visible := by
  induction es with
  | nil => rfl
  | cons e rest ih => rw [Expr.visibleAll, ih, List.map_cons]

theorem Expr.visibleArms_eq_map (arms : List (Expr × Expr)) :
    Expr.visibleArms arms = arms.map fun arm ↦ (arm.1.visible, arm.2.visible) := by
  induction arms with
  | nil => rfl
  | cons arm rest ih => rw [Expr.visibleArms, ih, List.map_cons]

theorem Expr.visibleOption_eq_map (e : Option Expr) :
    Expr.visibleOption e = e.map Expr.visible := by
  cases e with
  | none => rfl
  | some e => rfl

theorem Item.visibleAll_eq_map (items : List Item) :
    Item.visibleAll items = items.map Item.visible := by
  induction items with
  | nil => rfl
  | cons item rest ih => rw [Item.visibleAll, ih, List.map_cons]

theorem Join.visibleAll_eq_map (joins : List Join) :
    Join.visibleAll joins = joins.map Join.visible := by
  induction joins with
  | nil => rfl
  | cons join rest ih => rw [Join.visibleAll, ih, List.map_cons]

section Lists

variable (dialect : Dialect)

theorem Expr.tokensAll_eq_map (es : List Expr) :
    Expr.tokensAll dialect es = es.map (Expr.tokens dialect) := by
  induction es with
  | nil => rfl
  | cons e rest ih => rw [Expr.tokensAll, ih, List.map_cons]

/-- The tokens of one arm of a case distinction. -/
def Expr.armTokens (arm : Expr × Expr) : List Token :=
  [.space, .keyword .when, .space] ++ arm.1.tokens dialect ++ [.space, .keyword .then, .space] ++
    arm.2.tokens dialect

theorem Expr.tokensArms_eq_flatMap (arms : List (Expr × Expr)) :
    Expr.tokensArms dialect arms = arms.flatMap (Expr.armTokens dialect) := by
  induction arms with
  | nil => rfl
  | cons arm rest ih => rw [Expr.tokensArms, ih, List.flatMap_cons, Expr.armTokens]

theorem Item.tokensAll_eq_map (items : List Item) :
    Item.tokensAll dialect items = items.map (Item.tokens dialect) := by
  induction items with
  | nil => rfl
  | cons item rest ih => rw [Item.tokensAll, ih, List.map_cons]

theorem Join.tokensAll_eq_flatMap (joins : List Join) :
    Join.tokensAll dialect joins = joins.flatMap (Join.tokens dialect) := by
  induction joins with
  | nil => rfl
  | cons join rest ih => rw [Join.tokensAll, ih, List.flatMap_cons]

/-- What may be there, behind a keyword of its own. -/
def clause {α : Type} (word : Keyword) (write : α → List Token) : Option α → List Token
  | none => []
  | some a => [.space, .keyword word, .space] ++ write a

/-- What is listed, if anything is, behind the tokens that lead to it. -/
def listing {α : Type} (lead : List Token) (write : α → List Token) (as : List α) : List Token :=
  if as.isEmpty then [] else lead ++ separated commaSpace (as.map write)

/-- What stands behind the first keyword of a query. -/
def Query.body (query : Query) : List Token :=
  listing [.space] (Item.tokens dialect) query.select ++
    (clause .from (fun table ↦ [.name table]) query.source ++
      (query.joins.flatMap (Join.tokens dialect) ++
        (clause .where (Expr.tokens dialect) query.filter ++
          listing [.space, .keyword .groupBy, .space] (Expr.tokens dialect) query.groupBy)))

theorem Expr.tokensAfter_eq_clause (word : Keyword) (e : Option Expr) :
    Expr.tokensAfter dialect [.space, .keyword word, .space] e =
      clause word (Expr.tokens dialect) e := by
  cases e with
  | none => rfl
  | some e => rfl

theorem Query.tokens_eq (query : Query) :
    query.tokens dialect = .keyword .select :: query.body dialect := by
  rcases query with ⟨select, source, joins, filter, groupBy⟩
  rw [Query.tokens.eq_def]
  simp only [Query.body, Item.tokensAll_eq_map, Join.tokensAll_eq_flatMap,
    Expr.tokensAfter_eq_clause, Expr.tokensAll_eq_map, List.append_assoc, List.cons_append]
  cases source <;> rfl

end Lists

/-- One part is written without the separator. -/
theorem separated_of_length_eq_one (separator separator' : List Token) {parts : List (List Token)}
    (h : parts.length = 1) : separated separator parts = separated separator' parts := by
  obtain ⟨part, rfl⟩ := List.length_eq_one_iff.mp h
  rfl

theorem separated_ite (one other : Token) (parts : List (List Token)) :
    separated [.space, if parts.length = 1 then one else other, .space] parts =
      separated [.space, other, .space] parts := by
  split
  · rename_i hone
    exact separated_of_length_eq_one _ _ hone
  · rfl

mutual

/-- What is left out of an expression has no tokens. -/
theorem Expr.tokens_visible (dialect : Dialect) (e : Expr) :
    e.visible.tokens dialect = e.tokens dialect := by
  cases e with
  | column table name => rfl
  | literal value => rfl
  | operation sign args =>
    have hargs := Expr.tokensAll_visibleAll dialect args
    have hsign := separated_ite (.operator "") (.operator sign) (Expr.tokensAll dialect args)
    rw [Expr.tokensAll_eq_map, List.length_map, ← Expr.tokensAll_eq_map] at hsign
    rw [Expr.visible, Expr.tokens, Expr.tokens, hargs, ← hsign, apply_ite Token.operator]
  | compare relation left right =>
    rw [Expr.visible, Expr.tokens, Expr.tokens, Expr.tokens_visible dialect left,
      Expr.tokens_visible dialect right]
  | isNull operand negated =>
    rw [Expr.visible, Expr.tokens, Expr.tokens, Expr.tokens_visible dialect operand]
  | like operand pattern negated =>
    rw [Expr.visible, Expr.tokens, Expr.tokens, Expr.tokens_visible dialect operand,
      Expr.tokens_visible dialect pattern]
  | junction connective children =>
    have hchildren := Expr.tokensAll_visibleAll dialect children
    have hword := separated_ite (.keyword .and) (.keyword connective.keyword)
      (Expr.tokensAll dialect children)
    rw [Expr.tokensAll_eq_map, List.length_map, ← Expr.tokensAll_eq_map] at hword
    rw [Expr.visible, Expr.tokens, Expr.tokens, hchildren, ← hword,
      apply_ite Connective.keyword, apply_ite Token.keyword, Connective.keyword]
  | call function args distinct =>
    rw [Expr.visible, Expr.tokens, Expr.tokens, Expr.tokensAll_visibleAll dialect args]
  | cases arms otherwise =>
    rw [Expr.visible, Expr.tokens, Expr.tokens, Expr.tokensArms_visibleArms dialect arms,
      Expr.tokensAfter_visibleOption dialect _ otherwise]
  | subquery query =>
    rw [Expr.visible, Expr.tokens, Expr.tokens, Query.tokens_visible dialect query]
  | star => rfl
  | always => rfl

theorem Expr.tokensAll_visibleAll (dialect : Dialect) (es : List Expr) :
    Expr.tokensAll dialect (Expr.visibleAll es) = Expr.tokensAll dialect es := by
  cases es with
  | nil => rfl
  | cons e rest =>
    rw [Expr.visibleAll, Expr.tokensAll, Expr.tokensAll, Expr.tokens_visible dialect e,
      Expr.tokensAll_visibleAll dialect rest]

theorem Expr.tokensArms_visibleArms (dialect : Dialect) (arms : List (Expr × Expr)) :
    Expr.tokensArms dialect (Expr.visibleArms arms) = Expr.tokensArms dialect arms := by
  rcases arms with _ | ⟨⟨condition, value⟩, rest⟩
  · rfl
  · rw [Expr.visibleArms, Expr.tokensArms, Expr.tokensArms, Expr.tokens_visible dialect condition,
      Expr.tokens_visible dialect value, Expr.tokensArms_visibleArms dialect rest]

theorem Expr.tokensAfter_visibleOption (dialect : Dialect) (lead : List Token) (e : Option Expr) :
    Expr.tokensAfter dialect lead (Expr.visibleOption e) = Expr.tokensAfter dialect lead e := by
  cases e with
  | none => rfl
  | some e =>
    rw [Expr.visibleOption, Expr.tokensAfter, Expr.tokensAfter, Expr.tokens_visible dialect e]

theorem Item.tokensAll_visibleAll (dialect : Dialect) (items : List Item) :
    Item.tokensAll dialect (Item.visibleAll items) = Item.tokensAll dialect items := by
  rcases items with _ | ⟨⟨expr, label⟩, rest⟩
  · rfl
  · rw [Item.visibleAll, Item.visible, Item.tokensAll, Item.tokensAll,
      Item.tokensAll_visibleAll dialect rest]
    cases label <;> rw [Item.tokens, Item.tokens, Expr.tokens_visible dialect expr]

theorem Join.tokensAll_visibleAll (dialect : Dialect) (joins : List Join) :
    Join.tokensAll dialect (Join.visibleAll joins) = Join.tokensAll dialect joins := by
  rcases joins with _ | ⟨⟨table, on⟩, rest⟩
  · rfl
  · rw [Join.visibleAll, Join.visible, Join.tokensAll, Join.tokensAll, Join.tokens, Join.tokens,
      Expr.tokensAfter_visibleOption dialect _ on, Join.tokensAll_visibleAll dialect rest]

/-- What is left out of a query has no part in its tokens. -/
theorem Query.tokens_visible (dialect : Dialect) (query : Query) :
    query.visible.tokens dialect = query.tokens dialect := by
  rcases query with ⟨select, source, joins, filter, groupBy⟩
  have hselect : (Item.visibleAll select).isEmpty = select.isEmpty := by
    rw [Item.visibleAll_eq_map, List.isEmpty_map]
  have hgroupBy : (Expr.visibleAll groupBy).isEmpty = groupBy.isEmpty := by
    rw [Expr.visibleAll_eq_map, List.isEmpty_map]
  simp only [Query.visible, Query.tokens, hselect, hgroupBy,
    Item.tokensAll_visibleAll dialect select, Join.tokensAll_visibleAll dialect joins,
    Expr.tokensAfter_visibleOption dialect _ filter, Expr.tokensAll_visibleAll dialect groupBy]

end

/-- Whether an expression is the equality of two columns with their tables, as joins have it. -/
def Expr.IsLink (e : Expr) : Prop :=
  ∃ table column table' column',
    e = .compare .eq (.column (some table) column) (.column (some table') column')

def Join.IsLinked (join : Join) : Prop := ∃ link, join.on = some link ∧ link.IsLink

mutual

/-- Whether an expression can stand where nothing around it tells its end. -/
def Expr.IsTerm : Expr → Prop
  | .column table _ => table = none
  | .literal _ => True
  | .operation _ args => args ≠ [] ∧ Expr.AllTerms args
  | .call _ args _ => args ≠ [] ∧ Expr.AllTerms args
  | .cases arms otherwise => Expr.AllArms arms ∧ otherwise = none
  | .subquery query => query.IsRegular false
  | .star => True
  | _ => False

/-- Whether an expression can be a filter, or a part of one. -/
def Expr.IsCondition : Expr → Prop
  | .compare _ left right => left.IsTerm ∧ right.IsTerm
  | .isNull operand _ => operand.IsTerm
  | .like operand pattern _ => operand.IsTerm ∧ pattern.IsTerm
  | .junction _ children => children ≠ [] ∧ Expr.AllConditions children
  | .always => True
  | _ => False

def Expr.AllTerms : List Expr → Prop
  | [] => True
  | e :: rest => e.IsTerm ∧ Expr.AllTerms rest

def Expr.AllConditions : List Expr → Prop
  | [] => True
  | e :: rest => e.IsCondition ∧ Expr.AllConditions rest

def Expr.AllArms : List (Expr × Expr) → Prop
  | [] => True
  | (condition, value) :: rest => condition.IsCondition ∧ value.IsTerm ∧ Expr.AllArms rest

def Expr.OptionCondition : Option Expr → Prop
  | none => True
  | some e => e.IsCondition

def Item.AllRegular (labelled : Bool) : List Item → Prop
  | [] => True
  | { expr, label } :: rest =>
    (expr.IsTerm ∧ label.isSome = labelled) ∧ Item.AllRegular labelled rest

/-- Whether a query is built from terms and conditions, and either all of its items have labels or
none has one. -/
def Query.IsRegular (labelled : Bool) : Query → Prop
  | { select, source := _, joins, filter, groupBy } =>
    Item.AllRegular labelled select ∧ (∀ join ∈ joins, join.IsLinked) ∧
      Expr.OptionCondition filter ∧ Expr.AllTerms groupBy

end

theorem Expr.allTerms_iff (es : List Expr) : Expr.AllTerms es ↔ ∀ e ∈ es, e.IsTerm := by
  induction es with
  | nil => simp [Expr.AllTerms]
  | cons e rest ih => rw [Expr.AllTerms, ih, List.forall_mem_cons]

theorem Expr.allConditions_iff (es : List Expr) :
    Expr.AllConditions es ↔ ∀ e ∈ es, e.IsCondition := by
  induction es with
  | nil => simp [Expr.AllConditions]
  | cons e rest ih => rw [Expr.AllConditions, ih, List.forall_mem_cons]

theorem Expr.optionCondition_iff (o : Option Expr) :
    Expr.OptionCondition o ↔ ∀ c, o = some c → c.IsCondition := by
  cases o with
  | none => simp [Expr.OptionCondition]
  | some c => simp [Expr.OptionCondition]

/-- An arm of a case distinction: a value, under a condition. -/
def Expr.IsArm (arm : Expr × Expr) : Prop := arm.1.IsCondition ∧ arm.2.IsTerm

theorem Expr.allArms_iff (arms : List (Expr × Expr)) :
    Expr.AllArms arms ↔ ∀ arm ∈ arms, Expr.IsArm arm := by
  induction arms with
  | nil => simp [Expr.AllArms]
  | cons arm rest ih => rw [Expr.AllArms, ih, List.forall_mem_cons, IsArm, and_assoc]

/-- An item of a regular query. -/
def Item.IsRegular (labelled : Bool) (item : Item) : Prop :=
  item.expr.IsTerm ∧ item.label.isSome = labelled

theorem Item.allRegular_iff (labelled : Bool) (items : List Item) :
    Item.AllRegular labelled items ↔ ∀ item ∈ items, item.IsRegular labelled := by
  induction items with
  | nil => simp [Item.AllRegular]
  | cons item rest ih =>
    rcases item with ⟨expr, label⟩
    rw [Item.AllRegular, ih, List.forall_mem_cons, Item.IsRegular]

end Barometer.Sql
