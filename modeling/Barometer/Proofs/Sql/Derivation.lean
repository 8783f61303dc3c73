import Barometer.Proofs.Sql.Grammar

/-!
# A grammar of statements

The productions that the tokens of statements are derived with, spaces included, without reference
to the trees they are written from.  A statement selects something from a table that others may be
joined to, each by an equality of two columns; everything that is listed has at least one member.
-/

namespace Barometer.Sql

/-- What a part of a statement is. -/
inductive Symbol where
  | expression
  | condition
  /-- A value and the condition it is taken under. -/
  | arm
  /-- What is selected, possibly under a title. -/
  | item
  | join
  | filter
  | grouping
  | query
  | statement
  | optional (part : Symbol)
  /-- One part or more. -/
  | list (separator : List Token) (part : Symbol)

namespace Dialect

/-- The left side of a match without regard to case. -/
def matched : Dialect → List Token → List Token
  | .postgres, operand => operand
  | .sqlite, operand => .function "LOWER" :: .leftParen :: operand ++ [.rightParen]

/-- The keyword of such a match. -/
def matching : Dialect → Keyword
  | .postgres => .ilike
  | .sqlite => .like

end Dialect

/-- The tokens that can be derived from a symbol. -/
inductive Derives (dialect : Dialect) : Symbol → List Token → Prop
  | absent (part : Symbol) : Derives dialect (.optional part) []
  | present {part : Symbol} {tokens : List Token} (htokens : Derives dialect part tokens) :
    Derives dialect (.optional part) tokens
  | single (separator : List Token) {part : Symbol} {tokens : List Token}
    (htokens : Derives dialect part tokens) : Derives dialect (.list separator part) tokens
  | further {separator : List Token} {part : Symbol} {first rest : List Token}
    (hfirst : Derives dialect part first) (hrest : Derives dialect (.list separator part) rest) :
    Derives dialect (.list separator part) (first ++ separator ++ rest)
  | column (name : String) : Derives dialect .expression [.name name]
  | literal (value : Literal) : Derives dialect .expression [.literal value]
  | operation (sign : String) {args : List Token}
    (hargs : Derives dialect (.list [.space, .operator sign, .space] .expression) args) :
    Derives dialect .expression (.leftParen :: args ++ [.rightParen])
  | rows (function : String) :
    Derives dialect .expression [.function function, .leftParen, .star, .rightParen]
  | call (function : String) {arg : List Token} (harg : Derives dialect .expression arg) :
    Derives dialect .expression (.function function :: .leftParen :: arg ++ [.rightParen])
  | distinctCall (function : String) {arg : List Token} (harg : Derives dialect .expression arg) :
    Derives dialect .expression
      (.function function :: .leftParen :: .keyword .distinct :: .space :: arg ++ [.rightParen])
  | cases {arms : List Token} (harms : Derives dialect (.list [] .arm) arms) :
    Derives dialect .expression (.keyword .case :: arms ++ [.space, .keyword .end])
  | subquery {query : List Token} (hquery : Derives dialect .query query) :
    Derives dialect .expression (.leftParen :: query ++ [.rightParen])
  | arm {condition value : List Token} (hcondition : Derives dialect .condition condition)
    (hvalue : Derives dialect .expression value) :
    Derives dialect .arm ([.space, .keyword .when, .space] ++ condition ++
      [.space, .keyword .then, .space] ++ value)
  | compare (relation : Relation) {left right : List Token}
    (hleft : Derives dialect .expression left) (hright : Derives dialect .expression right) :
    Derives dialect .condition (left ++ [.space, .relation relation, .space] ++ right)
  | isNull {operand : List Token} (hoperand : Derives dialect .expression operand) :
    Derives dialect .condition (operand ++ [.space, .keyword .isNull])
  | isNotNull {operand : List Token} (hoperand : Derives dialect .expression operand) :
    Derives dialect .condition (operand ++ [.space, .keyword .isNotNull])
  | like {operand pattern : List Token} (hoperand : Derives dialect .expression operand)
    (hpattern : Derives dialect .expression pattern) :
    Derives dialect .condition
      (dialect.matched operand ++ [.space, .keyword dialect.matching, .space] ++ pattern)
  | notLike {operand pattern : List Token} (hoperand : Derives dialect .expression operand)
    (hpattern : Derives dialect .expression pattern) :
    Derives dialect .condition (dialect.matched operand ++
      [.space, .keyword .not, .space, .keyword dialect.matching, .space] ++ pattern)
  | junction (connective : Connective) {children : List Token}
    (hchildren :
      Derives dialect (.list [.space, .keyword connective.keyword, .space] .condition) children) :
    Derives dialect .condition (.leftParen :: children ++ [.rightParen])
  | always : Derives dialect .condition [.literal (.int 1), .relation .eq, .literal (.int 1)]
  | item {expression : List Token} (hexpression : Derives dialect .expression expression) :
    Derives dialect .item expression
  | titled (title : String) {expression : List Token}
    (hexpression : Derives dialect .expression expression) :
    Derives dialect .item (expression ++ [.space, .keyword .as, .space, .label title])
  | join (table left leftColumn right rightColumn : String) :
    Derives dialect .join
      [.space, .keyword .join, .space, .name table, .space, .keyword .on, .space,
        .name left, .dot, .name leftColumn, .space, .relation .eq, .space,
        .name right, .dot, .name rightColumn]
  | filter {condition : List Token} (hcondition : Derives dialect .condition condition) :
    Derives dialect .filter ([.space, .keyword .where, .space] ++ condition)
  | grouping {groups : List Token}
    (hgroups : Derives dialect (.list commaSpace .expression) groups) :
    Derives dialect .grouping ([.space, .keyword .groupBy, .space] ++ groups)
  | query (table : String) {items joins filter grouping : List Token}
    (hitems : Derives dialect (.list commaSpace .item) items)
    (hjoins : Derives dialect (.optional (.list [] .join)) joins)
    (hfilter : Derives dialect (.optional .filter) filter)
    (hgrouping : Derives dialect (.optional .grouping) grouping) :
    Derives dialect .query (.keyword .select :: .space :: items ++
      ([.space, .keyword .from, .space, .name table] ++ (joins ++ (filter ++ grouping))))
  | statement {query : List Token} (hquery : Derives dialect .query query) :
    Derives dialect .statement (query ++ [.semicolon])

namespace Derives

variable {dialect : Dialect}

/-- Parts with a separator between them are a list, if there is at least one. -/
theorem separated {separator : List Token} {part : Symbol} {parts : List (List Token)}
    (hne : parts ≠ []) (hparts : ∀ tokens ∈ parts, Derives dialect part tokens) :
    Derives dialect (.list separator part) (Sql.separated separator parts) := by
  induction parts with
  | nil => exact absurd rfl hne
  | cons first rest ih =>
    have hfirst := hparts first List.mem_cons_self
    rcases rest with _ | ⟨second, others⟩
    · exact .single separator hfirst
    · exact .further hfirst
        (ih (List.cons_ne_nil _ _) fun tokens h ↦ hparts tokens (List.mem_cons_of_mem first h))

theorem listed {α : Type} {separator : List Token} {part : Symbol} {write : α → List Token}
    {as : List α} (hne : as ≠ []) (has : ∀ a ∈ as, Derives dialect part (write a)) :
    Derives dialect (.list separator part) (Sql.separated separator (as.map write)) := by
  refine separated (fun hnil ↦ hne (List.map_eq_nil_iff.mp hnil)) fun tokens htokens ↦ ?_
  obtain ⟨a, ha, rfl⟩ := List.mem_map.mp htokens
  exact has a ha

theorem flatMap {α : Type} {part : Symbol} {write : α → List Token} {as : List α} (hne : as ≠ [])
    (has : ∀ a ∈ as, Derives dialect part (write a)) :
    Derives dialect (.list [] part) (as.flatMap write) := by
  induction as with
  | nil => exact absurd rfl hne
  | cons first rest ih =>
    have hfirst := has first List.mem_cons_self
    rcases rest with _ | ⟨second, others⟩
    · rw [List.flatMap_singleton]
      exact .single [] hfirst
    · have hrest := ih (List.cons_ne_nil _ _) fun a h ↦ has a (List.mem_cons_of_mem first h)
      have hboth := further hfirst hrest
      rwa [List.append_nil, ← List.flatMap_cons] at hboth

theorem likeTokens {operand pattern : List Token} (hoperand : Derives dialect .expression operand)
    (hpattern : Derives dialect .expression pattern) (negated : Bool) :
    Derives dialect .condition (Sql.likeTokens dialect operand pattern negated) := by
  cases negated with
  | false =>
    have h := like hoperand hpattern
    cases dialect <;> simpa [Sql.likeTokens, Dialect.matched, Dialect.matching] using h
  | true =>
    have h := notLike hoperand hpattern
    cases dialect <;> simpa [Sql.likeTokens, Dialect.matched, Dialect.matching] using h

theorem isNullTokens {operand : List Token} (hoperand : Derives dialect .expression operand)
    (negated : Bool) :
    Derives dialect .condition
      (operand ++ [.space, .keyword (if negated then .isNotNull else .isNull)]) := by
  cases negated with
  | false => exact .isNull hoperand
  | true => exact .isNotNull hoperand

/-- A case distinction without a last value, from its arms. -/
theorem casesTokens {arms : List (Expr × Expr)} (hne : arms ≠ [])
    (hconditions : ∀ arm ∈ arms, Derives dialect .condition (arm.1.tokens dialect))
    (hvalues : ∀ arm ∈ arms, Derives dialect .expression (arm.2.tokens dialect)) :
    Derives dialect .expression ((Expr.cases arms none).tokens dialect) := by
  have harms : Derives dialect (.list [] .arm) (Expr.tokensArms dialect arms) := by
    rw [Expr.tokensArms_eq_flatMap]
    exact flatMap hne fun arm harm ↦ .arm (hconditions arm harm) (hvalues arm harm)
  rw [Expr.tokens, Expr.tokensAfter, List.append_nil]
  exact .cases harms

/-- A join on the equality of two columns is a join of the grammar. -/
theorem link {join : Join} (h : join.IsLinked) : Derives dialect .join (join.tokens dialect) := by
  obtain ⟨_, hon, left, leftColumn, right, rightColumn, rfl⟩ := h
  rcases join with ⟨table, on⟩
  cases hon
  exact .join table left leftColumn right rightColumn

theorem joinTokens {joins : List Join} (hjoins : ∀ join ∈ joins, join.IsLinked) :
    Derives dialect (.optional (.list [] .join)) (joins.flatMap (Join.tokens dialect)) := by
  cases joins with
  | nil => exact .absent _
  | cons first rest =>
    exact .present (flatMap (List.cons_ne_nil _ _) fun join hjoin ↦ link (hjoins join hjoin))

theorem filterTokens {filter : Option Expr}
    (hfilter : ∀ condition ∈ filter, Derives dialect .condition (condition.tokens dialect)) :
    Derives dialect (.optional .filter) (clause .where (Expr.tokens dialect) filter) := by
  cases filter with
  | none => exact .absent _
  | some condition => exact .present (.filter (hfilter condition rfl))

theorem groupingTokens {groupBy : List Expr}
    (hgroupBy : ∀ e ∈ groupBy, Derives dialect .expression (e.tokens dialect)) :
    Derives dialect (.optional .grouping)
      (listing [.space, .keyword .groupBy, .space] (Expr.tokens dialect) groupBy) := by
  cases groupBy with
  | nil => exact .absent _
  | cons first rest => exact .present (.grouping (listed (List.cons_ne_nil _ _) hgroupBy))

/-- A query with items and a table, from its parts. -/
theorem queryTokens {query : Query} {table : String} (hsource : query.source = some table)
    (hselect : query.select ≠ [])
    (hitems : ∀ item ∈ query.select, Derives dialect .item (item.tokens dialect))
    (hjoins : ∀ join ∈ query.joins, join.IsLinked)
    (hfilter : ∀ condition ∈ query.filter,
      Derives dialect .condition (condition.tokens dialect))
    (hgroupBy : ∀ e ∈ query.groupBy, Derives dialect .expression (e.tokens dialect)) :
    Derives dialect .query (query.tokens dialect) := by
  have htokens : query.tokens dialect = .keyword .select :: .space ::
      Sql.separated commaSpace (query.select.map (Item.tokens dialect)) ++
      ([.space, .keyword .from, .space, .name table] ++
        (query.joins.flatMap (Join.tokens dialect) ++
          (clause .where (Expr.tokens dialect) query.filter ++
            listing [.space, .keyword .groupBy, .space] (Expr.tokens dialect) query.groupBy))) := by
    have hempty : ¬ query.select.isEmpty = true := fun h ↦ hselect (List.isEmpty_iff.mp h)
    rw [Query.tokens_eq, Query.body, hsource, listing, if_neg hempty]
    rfl
  rw [htokens]
  exact .query table (listed hselect hitems) (joinTokens hjoins) (filterTokens hfilter)
    (groupingTokens hgroupBy)

/-- No expression begins with the keyword that ends a select list. -/
theorem exists_cons_of_expression {tokens : List Token} (h : Derives dialect .expression tokens) :
    ∃ first rest, tokens = first :: rest ∧ first ≠ .keyword .from := by
  cases h <;> exact ⟨_, _, rfl, by simp⟩

/-- A list of columns cannot begin with the keyword behind it. -/
theorem exists_cons_of_item {tokens : List Token} (h : Derives dialect .item tokens) :
    ∃ first rest, tokens = first :: rest ∧ first ≠ .keyword .from := by
  cases h with
  | item hexpression => exact exists_cons_of_expression hexpression
  | titled title hexpression =>
    obtain ⟨first, rest, rfl, hfirst⟩ := exists_cons_of_expression hexpression
    exact ⟨first, _, rfl, hfirst⟩

theorem exists_cons_of_items {tokens : List Token}
    (h : Derives dialect (.list commaSpace .item) tokens) :
    ∃ first rest, tokens = first :: rest ∧ first ≠ .keyword .from := by
  cases h with
  | single _ hitem => exact exists_cons_of_item hitem
  | further hitem _ =>
    obtain ⟨first, rest, rfl, hfirst⟩ := exists_cons_of_item hitem
    exact ⟨first, _, rfl, hfirst⟩

/-- The tokens of a query that selects nothing are not a statement. -/
theorem select_ne_nil {query : Query} {table : String} (hsource : query.source = some table)
    (h : Derives dialect .statement (query.statementTokens dialect)) : query.select ≠ [] := by
  intro hselect
  generalize htokens : query.statementTokens dialect = tokens at h
  cases h with
  | statement hquery =>
    cases hquery with
    | query table' hitems _ _ _ =>
      obtain ⟨first, rest, rfl, hfirst⟩ := exists_cons_of_items hitems
      rw [Query.statementTokens, Query.tokens_eq, Query.body, hsource, hselect] at htokens
      simp only [listing, clause, List.isEmpty_nil, if_true, List.nil_append, List.cons_append,
        List.cons.injEq, true_and] at htokens
      exact hfirst htokens.1.symm

end Derives

end Barometer.Sql
