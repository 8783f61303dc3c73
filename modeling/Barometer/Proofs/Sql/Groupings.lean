import Barometer.Proofs.Sql.Grammar

/-!
# Groupings in statements

The clause that groups rows is told by its keyword. It is not written for an expression unless for
one of its parts, and for a query it is the last clause, with the texts of its entries one after the
other.
-/

namespace Barometer.Sql

theorem textOf_append (l r : List Token) : textOf (l ++ r) = textOf l ++ textOf r := by
  rw [textOf, List.map_append, String.join_append]
  rfl

/-- The text of an item, with its title. -/
def Item.sql (dialect : Dialect) (item : Item) : String := textOf (item.tokens dialect)

theorem Item.sql_of_label {item : Item} {title : String} (h : item.label = some title)
    (dialect : Dialect) :
    item.sql dialect = item.expr.sql dialect ++ " AS " ++ quotedName title := by
  rcases item with ⟨expr, label⟩
  cases h
  have htitle : textOf [.space, .keyword .as, .space, .label title] =
      " AS " ++ quotedName title := by
    simp [textOf, Token.sql, Keyword.text, String.join_cons, ← String.append_assoc]
  rw [sql, tokens, textOf_append, htitle, Expr.sql, String.append_assoc]

theorem textOf_separated (parts : List (List Token)) :
    textOf (separated commaSpace parts) = ", ".intercalate (parts.map textOf) := by
  induction parts with
  | nil => rfl
  | cons part rest ih =>
    rcases rest with _ | ⟨next, others⟩
    · rw [List.map_singleton, String.intercalate_singleton, separated]
    · have hne : (next :: others).map textOf ≠ [] := List.cons_ne_nil _ _
      calc
        _ = textOf (part ++ commaSpace ++ separated commaSpace (next :: others)) := rfl
        _ = textOf part ++ ", " ++ textOf (separated commaSpace (next :: others)) := by
          rw [textOf_append, textOf_append]
          rfl
        _ = textOf part ++ ", " ++ ", ".intercalate ((next :: others).map textOf) := by rw [ih]
        _ = ", ".intercalate ((part :: next :: others).map textOf) :=
          (String.intercalate_cons_of_ne_nil hne).symm

/-- The text of what is listed, behind a word of its own. -/
def listText (lead : String) (parts : List String) : String :=
  if parts.isEmpty then "" else lead ++ ", ".intercalate parts

theorem textOf_listing {α : Type} (lead : List Token) (write : α → List Token) (as : List α) :
    textOf (listing lead write as) =
      listText (textOf lead) (as.map fun a ↦ textOf (write a)) := by
  unfold listing listText
  rw [List.isEmpty_map]
  split
  · rfl
  · rw [textOf_append, textOf_separated, List.map_map]
    rfl

/-- Whether nothing is grouped in a part of a statement. -/
def Ungrouped (tokens : List Token) : Prop := .keyword .groupBy ∉ tokens

namespace Ungrouped

variable {l r : List Token} {dialect : Dialect}

theorem append (hl : Ungrouped l) (hr : Ungrouped r) : Ungrouped (l ++ r) := by
  unfold Ungrouped at *
  simp [hl, hr]

theorem separated {separator : List Token} {parts : List (List Token)}
    (hseparator : Ungrouped separator) (h : ∀ part ∈ parts, Ungrouped part) :
    Ungrouped (separated separator parts) := by
  induction parts with
  | nil => exact List.not_mem_nil
  | cons part rest ih =>
    rw [List.forall_mem_cons] at h
    rcases rest with _ | ⟨next, others⟩
    · exact h.1
    · exact (h.1.append hseparator).append (ih h.2)

theorem parenthesized (h : Ungrouped l) : Ungrouped (.leftParen :: l ++ [.rightParen]) := by
  unfold Ungrouped at *
  simp [h]

end Ungrouped

/-- Whether nothing is grouped in an expression, its subqueries included. -/
def Expr.IsUngrouped (dialect : Dialect) (e : Expr) : Prop := Ungrouped (e.tokens dialect)

namespace Expr

variable {dialect : Dialect}

theorem isUngrouped_column (table : Option String) (name : String) :
    (Expr.column table name).IsUngrouped dialect := by
  cases table <;> simp [IsUngrouped, Ungrouped, tokens]

theorem isUngrouped_literal (value : Literal) : (Expr.literal value).IsUngrouped dialect := by
  simp [IsUngrouped, Ungrouped, tokens]

theorem isUngrouped_always : Expr.always.IsUngrouped dialect := by
  simp [IsUngrouped, Ungrouped, tokens]

theorem isUngrouped_star : Expr.star.IsUngrouped dialect := by
  simp [IsUngrouped, Ungrouped, tokens]

theorem ungrouped_of_mem_tokensAll {es : List Expr} (h : ∀ e ∈ es, e.IsUngrouped dialect) :
    ∀ part ∈ tokensAll dialect es, Ungrouped part := by
  rw [tokensAll_eq_map]
  exact List.forall_mem_map.mpr h

theorem isUngrouped_operation (sign : String) {args : List Expr}
    (h : ∀ arg ∈ args, arg.IsUngrouped dialect) : (operation sign args).IsUngrouped dialect := by
  have hsign : Ungrouped [.space, .operator sign, .space] := by simp [Ungrouped]
  exact (Ungrouped.separated hsign (ungrouped_of_mem_tokensAll h)).parenthesized

theorem isUngrouped_junction (connective : Connective) {children : List Expr}
    (h : ∀ child ∈ children, child.IsUngrouped dialect) :
    (junction connective children).IsUngrouped dialect := by
  have hword : Ungrouped [.space, .keyword connective.keyword, .space] := by
    cases connective <;> simp [Ungrouped, Connective.keyword]
  exact (Ungrouped.separated hword (ungrouped_of_mem_tokensAll h)).parenthesized

theorem isUngrouped_call (function : String) {args : List Expr} (distinct : Bool)
    (h : ∀ arg ∈ args, arg.IsUngrouped dialect) :
    (call function args distinct).IsUngrouped dialect := by
  have hargs : Ungrouped (Sql.separated commaSpace (tokensAll dialect args)) :=
    .separated (by simp [Ungrouped, commaSpace]) (ungrouped_of_mem_tokensAll h)
  unfold Ungrouped at hargs
  cases distinct <;> simp [IsUngrouped, Ungrouped, tokens, hargs]

theorem isUngrouped_compare (relation : Relation) {left right : Expr}
    (hleft : left.IsUngrouped dialect) (hright : right.IsUngrouped dialect) :
    (compare relation left right).IsUngrouped dialect := by
  have hsign : Ungrouped [.space, .relation relation, .space] := by simp [Ungrouped]
  exact (hleft.append hsign).append hright

theorem isUngrouped_isNull {operand : Expr} (negated : Bool)
    (h : operand.IsUngrouped dialect) : (isNull operand negated).IsUngrouped dialect :=
  h.append (by cases negated <;> simp [Ungrouped])

theorem isUngrouped_like {operand pattern : Expr} (negated : Bool)
    (hoperand : operand.IsUngrouped dialect) (hpattern : pattern.IsUngrouped dialect) :
    (like operand pattern negated).IsUngrouped dialect := by
  unfold IsUngrouped Ungrouped at *
  cases dialect <;> cases negated <;> simp [tokens, likeTokens, hoperand, hpattern]

theorem isUngrouped_cases {arms : List (Expr × Expr)}
    (h : ∀ arm ∈ arms, arm.1.IsUngrouped dialect ∧ arm.2.IsUngrouped dialect) :
    (cases arms none).IsUngrouped dialect := by
  have harms : Ungrouped (tokensArms dialect arms) := by
    rw [tokensArms_eq_flatMap]
    intro hmem
    obtain ⟨arm, harm, ht⟩ := List.mem_flatMap.mp hmem
    obtain ⟨hcondition, hvalue⟩ := h arm harm
    unfold IsUngrouped Ungrouped at hcondition hvalue
    simp [armTokens, hcondition, hvalue] at ht
  unfold Ungrouped at harms
  simp [IsUngrouped, Ungrouped, tokens, tokensAfter, harms]

end Expr

namespace Query

variable (dialect : Dialect) (query : Query)

/-- What is written of a query between its items and its grouping: the tables and the filter. -/
def sourceTokens : List Token :=
  clause .from (fun table ↦ [.name table]) query.source ++
    query.joins.flatMap (Join.tokens dialect) ++
    clause .where (Expr.tokens dialect) query.filter

/-- What is written of a query before its rows are grouped. -/
def front : List Token :=
  .keyword .select :: listing [.space] (Item.tokens dialect) query.select ++
    query.sourceTokens dialect

theorem tokens_eq_front : query.tokens dialect = query.front dialect ++
    listing [.space, .keyword .groupBy, .space] (Expr.tokens dialect) query.groupBy := by
  rw [tokens_eq, body, front, sourceTokens]
  simp only [List.append_assoc, List.cons_append]

theorem statement_eq : query.statement dialect =
    "SELECT" ++ listText " " (query.select.map (Item.sql dialect)) ++
      textOf (query.sourceTokens dialect) ++
        listText " GROUP BY " (query.groupBy.map (Expr.sql dialect)) ++ ";" := by
  have hselect : textOf (listing [.space] (Item.tokens dialect) query.select) =
      listText " " (query.select.map (Item.sql dialect)) := textOf_listing _ _ _
  have hgroupBy : textOf (listing [.space, .keyword .groupBy, .space] (Expr.tokens dialect)
      query.groupBy) = listText " GROUP BY " (query.groupBy.map (Expr.sql dialect)) :=
    textOf_listing _ _ _
  have hword : textOf [.keyword .select] = "SELECT" := rfl
  have hsemicolon : textOf [.semicolon] = ";" := rfl
  have hfront : query.front dialect = [.keyword .select] ++
      listing [.space] (Item.tokens dialect) query.select ++ query.sourceTokens dialect := rfl
  rw [statement, statementTokens, tokens_eq_front, hfront, textOf_append, textOf_append,
    textOf_append, textOf_append, hselect, hgroupBy, hword, hsemicolon]

variable {dialect query}

theorem ungrouped_sourceTokens
    (hjoins : ∀ join ∈ query.joins, ∀ on, join.on = some on → on.IsUngrouped dialect)
    (hfilter : ∀ e, query.filter = some e → e.IsUngrouped dialect) :
    Ungrouped (query.sourceTokens dialect) := by
  have hsource : Ungrouped (clause .from (fun table ↦ [.name table]) query.source) := by
    cases query.source <;> simp [Ungrouped, clause]
  have hjoined : Ungrouped (query.joins.flatMap (Join.tokens dialect)) := by
    intro hmem
    obtain ⟨⟨table, on⟩, hjoin, ht⟩ := List.mem_flatMap.mp hmem
    cases on with
    | none => simp [Join.tokens, Expr.tokensAfter] at ht
    | some on =>
      have hon := hjoins _ hjoin on rfl
      unfold Expr.IsUngrouped Ungrouped at hon
      simp [Join.tokens, Expr.tokensAfter, hon] at ht
  have hwhere : Ungrouped (clause .where (Expr.tokens dialect) query.filter) := by
    cases hkind : query.filter with
    | none => exact List.not_mem_nil
    | some e =>
      have hword : Ungrouped [.space, .keyword .where, .space] := by simp [Ungrouped]
      exact hword.append (hfilter e hkind)
  exact (hsource.append hjoined).append hwhere

theorem ungrouped_front (hselect : ∀ item ∈ query.select, item.expr.IsUngrouped dialect)
    (hsources : Ungrouped (query.sourceTokens dialect)) : Ungrouped (query.front dialect) := by
  have hitems : Ungrouped (listing [.space] (Item.tokens dialect) query.select) := by
    unfold listing
    split
    · exact List.not_mem_nil
    · have hparts : ∀ part ∈ query.select.map (Item.tokens dialect), Ungrouped part := by
        rw [List.forall_mem_map]
        rintro ⟨expr, label⟩ hitem
        cases label with
        | none => exact hselect _ hitem
        | some title => exact (hselect _ hitem).append (by simp [Ungrouped])
      have hcomma : Ungrouped commaSpace := by simp [Ungrouped, commaSpace]
      have hspace : Ungrouped [.space] := by simp [Ungrouped]
      exact hspace.append (.separated hcomma hparts)
  have hword : Ungrouped [.keyword .select] := by simp [Ungrouped]
  exact (hword.append hitems).append hsources

theorem ungrouped_tokens (hfront : Ungrouped (query.front dialect))
    (hgroupBy : query.groupBy = []) : Ungrouped (query.tokens dialect) := by
  rw [tokens_eq_front, hgroupBy]
  exact hfront.append List.not_mem_nil

/-- A statement has a clause that groups rows if there are keys to group them by. -/
theorem groupBy_mem_statementTokens_iff (hfront : Ungrouped (query.front dialect)) :
    .keyword .groupBy ∈ query.statementTokens dialect ↔ query.groupBy ≠ [] := by
  rw [statementTokens, tokens_eq_front]
  constructor
  · intro hmem hgroupBy
    rw [hgroupBy] at hmem
    have hsemicolon : Ungrouped [.semicolon] := by simp [Ungrouped]
    exact hfront.append hsemicolon (by simpa [listing] using hmem)
  · intro hsome
    have hkeys : query.groupBy.isEmpty = false := by simpa using hsome
    simp [listing, hkeys]

end Query

end Barometer.Sql
