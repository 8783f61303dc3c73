import Barometer.Proofs.Sql.Grammar

/-!
# The two dialects

What is written for SQLite is what is written for PostgreSQL with each pattern match
`x [NOT] ILIKE p` replaced by `LOWER(x) [NOT] LIKE p`. Matches inside of `x` and `p` are replaced as
well, and the other tokens stay as they are. There is only one way to do so.
-/

namespace Barometer.Sql

structure PatternMatch where
  operand : Expr
  pattern : Expr
  negated : Bool

mutual

/-- The pattern matches of an expression or a query at any depth, each before those inside of it,
from left to right. -/
def Expr.patternMatches : Expr → List PatternMatch
  | .column _ _ => []
  | .literal _ => []
  | .operation _ args => Expr.patternMatchesAll args
  | .compare _ left right => left.patternMatches ++ right.patternMatches
  | .isNull operand _ => operand.patternMatches
  | .like operand pattern negated =>
    { operand, pattern, negated } :: (operand.patternMatches ++ pattern.patternMatches)
  | .junction _ children => Expr.patternMatchesAll children
  | .call _ args _ => Expr.patternMatchesAll args
  | .cases arms otherwise =>
    Expr.patternMatchesArms arms ++ Expr.patternMatchesOption otherwise
  | .subquery query => query.patternMatches
  | .star => []
  | .always => []

def Expr.patternMatchesAll : List Expr → List PatternMatch
  | [] => []
  | e :: rest => e.patternMatches ++ Expr.patternMatchesAll rest

def Expr.patternMatchesArms : List (Expr × Expr) → List PatternMatch
  | [] => []
  | (condition, value) :: rest =>
    condition.patternMatches ++ value.patternMatches ++ Expr.patternMatchesArms rest

def Expr.patternMatchesOption : Option Expr → List PatternMatch
  | none => []
  | some e => e.patternMatches

def Item.patternMatchesAll : List Item → List PatternMatch
  | [] => []
  | { expr, label := _ } :: rest => expr.patternMatches ++ Item.patternMatchesAll rest

def Join.patternMatchesAll : List Join → List PatternMatch
  | [] => []
  | { table := _, on } :: rest => Expr.patternMatchesOption on ++ Join.patternMatchesAll rest

def Query.patternMatches : Query → List PatternMatch
  | { select, source := _, joins, filter, groupBy } =>
    Item.patternMatchesAll select ++ Join.patternMatchesAll joins ++
      Expr.patternMatchesOption filter ++ Expr.patternMatchesAll groupBy

end

namespace PatternMatch

def negation (m : PatternMatch) : List Token := if m.negated then [.space, .keyword .not] else []

/-- `x [NOT] ILIKE p`. -/
def written (m : PatternMatch) : List Token :=
  m.operand.tokens .postgres ++ (m.negation ++ [.space, .keyword .ilike, .space]) ++
    m.pattern.tokens .postgres

/-- `LOWER(x) [NOT] LIKE p`, where the sides may be written in another way. -/
def lowered (m : PatternMatch) (operand pattern : List Token) : List Token :=
  .function "LOWER" :: .leftParen :: operand ++ [.rightParen] ++
    (m.negation ++ [.space, .keyword .like, .space]) ++ pattern

end PatternMatch

theorem Token.isMatching_iff {t : Token} : t.isMatching = true ↔ t = .keyword .ilike := by
  constructor
  · intro h
    unfold isMatching at h
    split at h
    · rfl
    · cases h
  · rintro rfl
    rfl

/-- A place is told by how many of a kind stand before it. -/
theorem append_cons_inj {α : Type} {p : α → Bool} {a b : α} (ha : p a = true) (hb : p b = true)
    {l l' r r' : List α} (h : l ++ a :: r = l' ++ b :: r') (hcount : l.countP p = l'.countP p) :
    l = l' := by
  induction l generalizing l' with
  | nil =>
    rcases l' with _ | ⟨c, l'⟩
    · rfl
    · cases h
      rw [List.countP_nil, List.countP_cons_of_pos ha] at hcount
      omega
  | cons c l ih =>
    rcases l' with _ | ⟨d, l'⟩
    · cases h
      rw [List.countP_nil, List.countP_cons_of_pos hb] at hcount
      omega
    · obtain ⟨rfl, hrest⟩ := List.cons.inj h
      rw [List.countP_cons, List.countP_cons] at hcount
      rw [ih hrest (Nat.add_right_cancel hcount)]

/-- Whether `s'` is `s` with the matches replaced: these are all that `s` has, and `ILIKE` does not
stand elsewhere in it. -/
inductive Rewords : List PatternMatch → List Token → List Token → Prop
  | nil : Rewords [] [] []
  | token {t : Token} (ht : t ≠ .keyword .ilike) {ms : List PatternMatch} {s s' : List Token}
    (hrest : Rewords ms s s') : Rewords ms (t :: s) (t :: s')
  | replaced (m : PatternMatch) {x p : List Token}
    (hoperand : Rewords m.operand.patternMatches (m.operand.tokens .postgres) x)
    (hpattern : Rewords m.pattern.patternMatches (m.pattern.tokens .postgres) p)
    {ms : List PatternMatch} {s s' : List Token} (hrest : Rewords ms s s') :
    Rewords (m :: (m.operand.patternMatches ++ m.pattern.patternMatches) ++ ms)
      (m.written ++ s) (m.lowered x p ++ s')

namespace Rewords

variable {α : Type} {ms ns : List PatternMatch} {r r' s s' : List Token}

theorem append (h : Rewords ms s s') (hr : Rewords ns r r') :
    Rewords (ms ++ ns) (s ++ r) (s' ++ r') := by
  induction h with
  | nil => exact hr
  | token ht _ ih => exact .token ht ih
  | replaced m hoperand hpattern _ _ _ ih =>
    have h := replaced m hoperand hpattern ih
    simpa only [List.append_assoc, List.cons_append] using h

/-- Where nothing is matched, nothing changes. -/
theorem refl (s : List Token) (h : .keyword .ilike ∉ s) : Rewords [] s s := by
  induction s with
  | nil => exact .nil
  | cons t rest ih =>
    rw [List.mem_cons, not_or] at h
    exact .token (Ne.symm h.1) (ih h.2)

/-- What is fixed may stand in front, -/
theorem after (h : Rewords ms s s') (r : List Token) (hr : .keyword .ilike ∉ r) :
    Rewords ms (r ++ s) (r ++ s') :=
  (refl r hr).append h

/-- and behind. -/
theorem before (h : Rewords ms s s') (r : List Token) (hr : .keyword .ilike ∉ r) :
    Rewords ms (s ++ r) (s' ++ r) := by
  have hboth := h.append (refl r hr)
  rwa [List.append_nil] at hboth

theorem parenthesized (h : Rewords ms s s') :
    Rewords ms (.leftParen :: s ++ [.rightParen]) (.leftParen :: s' ++ [.rightParen]) :=
  .token (by simp) (h.before [.rightParen] (by simp))

section Lists

variable {find : α → List PatternMatch} {write write' : α → List Token} {as : List α}
  (has : ∀ a ∈ as, Rewords (find a) (write a) (write' a))

include has

theorem separated {separator : List Token} (hseparator : .keyword .ilike ∉ separator) :
    Rewords (as.flatMap find) (Sql.separated separator (as.map write))
      (Sql.separated separator (as.map write')) := by
  induction as with
  | nil => exact .nil
  | cons a rest ih =>
    obtain ⟨ha, hrest⟩ := List.forall_mem_cons.mp has
    rcases rest with _ | ⟨b, rest⟩
    · rwa [List.flatMap_singleton]
    · exact (ha.before separator hseparator).append (ih hrest)

theorem flatMap : Rewords (as.flatMap find) (as.flatMap write) (as.flatMap write') := by
  induction as with
  | nil => exact .nil
  | cons a rest ih =>
    obtain ⟨ha, hrest⟩ := List.forall_mem_cons.mp has
    exact ha.append (ih hrest)

theorem listing {lead : List Token} (hlead : .keyword .ilike ∉ lead) :
    Rewords (as.flatMap find) (listing lead write as) (Sql.listing lead write' as) := by
  rcases as with _ | ⟨a, rest⟩
  · exact .nil
  · exact (separated has (by simp [commaSpace])).after lead hlead

end Lists

theorem clause {word : Keyword} (hword : word ≠ .ilike) {find : α → List PatternMatch}
    {write write' : α → List Token} {o : Option α}
    (ho : ∀ a ∈ o, Rewords (find a) (write a) (write' a)) :
    Rewords (o.toList.flatMap find) (Sql.clause word write o) (Sql.clause word write' o) := by
  cases o with
  | none => exact .nil
  | some a =>
    rw [Option.toList_some, List.flatMap_singleton]
    exact (ho a rfl).after [.space, .keyword word, .space] (by simpa using hword.symm)

/-- Without a match there is nothing to be reworded. -/
theorem eq_of_nil (h : Rewords [] s s') : s = s' := by
  generalize hms : ([] : List PatternMatch) = ms at h
  induction h with
  | nil => rfl
  | token _ _ ih => rw [ih hms]
  | replaced => cases hms

/-- The first match stands somewhere, behind tokens that match nothing. -/
theorem exists_eq_append_written {m : PatternMatch} (h : Rewords (m :: ms) s s') :
    ∃ l rest, l.countP Token.isMatching = 0 ∧ s = l ++ (m.written ++ rest) := by
  generalize hall : m :: ms = all at h
  induction h with
  | nil => cases hall
  | @token t ht _ _ _ _ ih =>
    obtain ⟨l, rest, hl, rfl⟩ := ih hall
    exact ⟨t :: l, rest, by rwa [List.countP_cons_of_neg (by rwa [Token.isMatching_iff])], rfl⟩
  | replaced m' _ _ _ _ _ _ =>
    cases hall
    exact ⟨[], _, rfl, rfl⟩

/-- The keyword of a match has as many others before it as there are in the operand. So the match
has its place. -/
theorem eq_nil_of_append_written {m : PatternMatch} {l : List Token}
    (hl : l.countP Token.isMatching = 0) (h : l ++ (m.written ++ r) = m.written ++ s) : l = [] := by
  have hsplit : (l ++ (m.operand.tokens .postgres ++ m.negation ++ [.space])) ++
        .keyword .ilike :: (.space :: m.pattern.tokens .postgres ++ r) =
      (m.operand.tokens .postgres ++ m.negation ++ [.space]) ++
        .keyword .ilike :: (.space :: m.pattern.tokens .postgres ++ s) := by
    simpa [PatternMatch.written] using h
  have hfront := append_cons_inj (p := Token.isMatching) rfl rfl hsplit (by
    rw [List.countP_append, hl, Nat.zero_add])
  exact List.append_left_eq_self.mp hfront

/-- A match is written with its keyword, so no other token stands in its place. -/
theorem token_ne_written {m : PatternMatch} {t : Token} (ht : t ≠ .keyword .ilike)
    (h : Rewords (m :: ms) s s') : t :: s ≠ m.written ++ r := by
  intro heq
  obtain ⟨l, rest, hl, rfl⟩ := exists_eq_append_written h
  have hcount : (t :: l).countP Token.isMatching = 0 := by
    rwa [List.countP_cons_of_neg (by rwa [Token.isMatching_iff])]
  exact List.cons_ne_nil _ _ (eq_nil_of_append_written hcount heq)

/-- There is one result only. -/
theorem unique (h : Rewords ms s s') (h' : Rewords ms s r') : s' = r' := by
  -- Both replace the first match at the same place, so they take the same steps.
  induction h generalizing r' with
  | nil => exact eq_of_nil h'
  | @token t ht ms s s' hrest ih =>
    generalize hwritten : t :: s = written at h'
    cases h' with
    | nil => cases hwritten
    | token _ hrest' =>
      cases hwritten
      rw [ih hrest']
    | replaced m _ _ _ => exact absurd hwritten (token_ne_written ht hrest)
  | @replaced m x p hoperand hpattern ms s s' hrest ihoperand ihpattern ih =>
    generalize hall : m :: (m.operand.patternMatches ++ m.pattern.patternMatches) ++ ms = all at h'
    generalize hwritten : m.written ++ s = written at h'
    cases h' with
    | nil => cases hall
    | token ht hrest' =>
      cases hall
      exact absurd hwritten.symm (token_ne_written ht hrest')
    | replaced m' hoperand' hpattern' hrest' =>
      obtain ⟨rfl, hlater⟩ := List.cons.inj hall
      cases List.append_cancel_left hlater
      cases List.append_cancel_left hwritten
      rw [ihoperand hoperand', ihpattern hpattern', ih hrest']

end Rewords

theorem Expr.patternMatchesAll_eq_flatMap (es : List Expr) :
    Expr.patternMatchesAll es = es.flatMap Expr.patternMatches := by
  induction es with
  | nil => rfl
  | cons e rest ih => rw [Expr.patternMatchesAll, ih, List.flatMap_cons]

theorem Expr.patternMatchesArms_eq_flatMap (arms : List (Expr × Expr)) :
    Expr.patternMatchesArms arms =
      arms.flatMap fun arm ↦ arm.1.patternMatches ++ arm.2.patternMatches := by
  induction arms with
  | nil => rfl
  | cons arm rest ih => rw [Expr.patternMatchesArms, ih, List.flatMap_cons]

theorem Expr.patternMatchesOption_eq_flatMap (e : Option Expr) :
    Expr.patternMatchesOption e = e.toList.flatMap Expr.patternMatches := by
  cases e with
  | none => rfl
  | some e => exact (List.append_nil _).symm

theorem Item.patternMatchesAll_eq_flatMap (items : List Item) :
    Item.patternMatchesAll items = items.flatMap fun item ↦ item.expr.patternMatches := by
  induction items with
  | nil => rfl
  | cons item rest ih =>
    rcases item with ⟨expr, label⟩
    rw [Item.patternMatchesAll, ih, List.flatMap_cons]

theorem Join.patternMatchesAll_eq_flatMap (joins : List Join) :
    Join.patternMatchesAll joins =
      joins.flatMap fun join ↦ Expr.patternMatchesOption join.on := by
  induction joins with
  | nil => rfl
  | cons join rest ih =>
    rcases join with ⟨table, on⟩
    rw [Join.patternMatchesAll, ih, List.flatMap_cons]

/-- Whether the tokens of an expression for the one database are those for the other reworded. -/
def Expr.IsReworded (e : Expr) : Prop :=
  Rewords e.patternMatches (e.tokens .postgres) (e.tokens .sqlite)

namespace Rewords

theorem listed {es : List Expr} (hes : ∀ e ∈ es, e.IsReworded) (separator : List Token)
    (hseparator : .keyword .ilike ∉ separator) :
    Rewords (Expr.patternMatchesAll es)
      (Sql.separated separator (Expr.tokensAll .postgres es))
      (Sql.separated separator (Expr.tokensAll .sqlite es)) := by
  rw [Expr.patternMatchesAll_eq_flatMap, Expr.tokensAll_eq_map, Expr.tokensAll_eq_map]
  exact separated hes hseparator

theorem following {o : Option Expr} (ho : ∀ e ∈ o, e.IsReworded) (word : Keyword)
    (hword : word ≠ .ilike) :
    Rewords (Expr.patternMatchesOption o)
      (Expr.tokensAfter .postgres [.space, .keyword word, .space] o)
      (Expr.tokensAfter .sqlite [.space, .keyword word, .space] o) := by
  rw [Expr.patternMatchesOption_eq_flatMap, Expr.tokensAfter_eq_clause, Expr.tokensAfter_eq_clause]
  exact clause hword ho

theorem like {operand pattern : Expr} (hoperand : operand.IsReworded)
    (hpattern : pattern.IsReworded) (negated : Bool) :
    (Expr.like operand pattern negated).IsReworded := by
  have h := replaced { operand, pattern, negated } hoperand hpattern nil
  cases negated <;>
    simpa [Expr.IsReworded, Expr.patternMatches, Expr.tokens, likeTokens, PatternMatch.written,
      PatternMatch.lowered, PatternMatch.negation] using h

theorem item {item : Item} (h : item.expr.IsReworded) :
    Rewords item.expr.patternMatches (item.tokens .postgres) (item.tokens .sqlite) := by
  rcases item with ⟨expr, _ | title⟩
  · exact h
  · exact h.before [.space, .keyword .as, .space, .label title] (by simp)

theorem arm {arm : Expr × Expr} (hcondition : arm.1.IsReworded) (hvalue : arm.2.IsReworded) :
    Rewords (arm.1.patternMatches ++ arm.2.patternMatches) (Expr.armTokens .postgres arm)
      (Expr.armTokens .sqlite arm) := by
  have hwhen := hcondition.after [.space, .keyword .when, .space] (by simp)
  exact (hwhen.before [.space, .keyword .then, .space] (by simp)).append hvalue

theorem join {join : Join} (h : ∀ on ∈ join.on, on.IsReworded) :
    Rewords (Expr.patternMatchesOption join.on) (join.tokens .postgres) (join.tokens .sqlite) := by
  rcases join with ⟨table, on⟩
  exact (following h .on (by simp)).after [.space, .keyword .join, .space, .name table] (by simp)

end Rewords

mutual

/-- Matches within the sides of a match are reworded as well. -/
theorem Expr.isReworded (e : Expr) : e.IsReworded := by
  cases e with
  | column table name =>
    cases table with
    | none => exact .refl [.name name] (by simp)
    | some table => exact .refl [.name table, .dot, .name name] (by simp)
  | literal value => exact .refl [.literal value] (by simp)
  | operation sign args =>
    have hargs := Rewords.listed (Expr.isReworded_of_mem args) [.space, .operator sign, .space]
      (by simp)
    exact hargs.parenthesized
  | compare relation left right =>
    have hleft := (Expr.isReworded left).before [.space, .relation relation, .space] (by simp)
    exact hleft.append (Expr.isReworded right)
  | isNull operand negated =>
    exact (Expr.isReworded operand).before
      [.space, .keyword (if negated then .isNotNull else .isNull)] (by cases negated <;> simp)
  | like operand pattern negated =>
    exact .like (Expr.isReworded operand) (Expr.isReworded pattern) negated
  | junction connective children =>
    have hchildren := Rewords.listed (Expr.isReworded_of_mem children)
      [.space, .keyword connective.keyword, .space]
      (by cases connective <;> simp [Connective.keyword])
    exact hchildren.parenthesized
  | call function args distinct =>
    have hargs := Rewords.listed (Expr.isReworded_of_mem args) commaSpace (by simp [commaSpace])
    have hinside := hargs.after (if distinct then [.keyword .distinct, .space] else [])
      (by cases distinct <;> simp)
    exact .token (by simp) hinside.parenthesized
  | cases arms otherwise =>
    have harms := Rewords.flatMap (Expr.rewords_of_mem_arms arms)
    rw [← Expr.patternMatchesArms_eq_flatMap, ← Expr.tokensArms_eq_flatMap,
      ← Expr.tokensArms_eq_flatMap] at harms
    have hotherwise := Rewords.following (Expr.isReworded_of_eq_some otherwise) .else (by simp)
    exact .token (by simp) ((harms.append hotherwise).before [.space, .keyword .end] (by simp))
  | subquery query => exact (Query.rewords query).parenthesized
  | star => exact .refl [.star] (by simp)
  | always => exact .refl [.literal (.int 1), .relation .eq, .literal (.int 1)] (by simp)

theorem Expr.isReworded_of_mem (es : List Expr) : ∀ e ∈ es, e.IsReworded := by
  cases es with
  | nil => exact List.forall_mem_nil _
  | cons e rest =>
    exact List.forall_mem_cons.mpr ⟨Expr.isReworded e, Expr.isReworded_of_mem rest⟩

theorem Expr.rewords_of_mem_arms (arms : List (Expr × Expr)) :
    ∀ arm ∈ arms, Rewords (arm.1.patternMatches ++ arm.2.patternMatches)
      (Expr.armTokens .postgres arm) (Expr.armTokens .sqlite arm) := by
  rcases arms with _ | ⟨⟨condition, value⟩, rest⟩
  · exact List.forall_mem_nil _
  · exact List.forall_mem_cons.mpr
      ⟨.arm (Expr.isReworded condition) (Expr.isReworded value), Expr.rewords_of_mem_arms rest⟩

theorem Expr.isReworded_of_eq_some (o : Option Expr) : ∀ e ∈ o, e.IsReworded := by
  cases o with
  | none => exact fun e he ↦ by cases he
  | some e =>
    intro e' he'
    cases he'
    exact Expr.isReworded e

theorem Item.rewords_of_mem (items : List Item) : ∀ item ∈ items,
    Rewords item.expr.patternMatches (item.tokens .postgres) (item.tokens .sqlite) := by
  rcases items with _ | ⟨⟨expr, label⟩, rest⟩
  · exact List.forall_mem_nil _
  · exact List.forall_mem_cons.mpr ⟨.item (Expr.isReworded expr), Item.rewords_of_mem rest⟩

theorem Join.rewords_of_mem (joins : List Join) : ∀ join ∈ joins,
    Rewords (Expr.patternMatchesOption join.on) (join.tokens .postgres)
      (join.tokens .sqlite) := by
  rcases joins with _ | ⟨⟨table, on⟩, rest⟩
  · exact List.forall_mem_nil _
  · exact List.forall_mem_cons.mpr
      ⟨.join (Expr.isReworded_of_eq_some on), Join.rewords_of_mem rest⟩

/-- A query is reworded match by match, in the order in which they are written. -/
theorem Query.rewords (query : Query) :
    Rewords query.patternMatches (query.tokens .postgres) (query.tokens .sqlite) := by
  rcases query with ⟨select, source, joins, filter, groupBy⟩
  have hselect := Rewords.listing (Item.rewords_of_mem select)
    (show .keyword .ilike ∉ [Token.space] by simp)
  have hjoins := Rewords.flatMap (Join.rewords_of_mem joins)
  have hfilter := Rewords.clause (show Keyword.where ≠ .ilike by simp)
    (Expr.isReworded_of_eq_some filter)
  have hgroupBy := Rewords.listing (Expr.isReworded_of_mem groupBy)
    (show .keyword .ilike ∉ [Token.space, .keyword .groupBy, .space] by simp)
  have hfrom := (hjoins.append (hfilter.append hgroupBy)).after
    (clause .from (fun table ↦ [.name table]) source) (by cases source <;> simp [clause])
  rw [Query.tokens_eq, Query.tokens_eq, Query.patternMatches, Item.patternMatchesAll_eq_flatMap,
    Join.patternMatchesAll_eq_flatMap, Expr.patternMatchesOption_eq_flatMap,
    Expr.patternMatchesAll_eq_flatMap, List.append_assoc, List.append_assoc]
  exact .token (by simp) (hselect.append hfrom)

end

/-- The statement for SQLite is the only rewording of the one for PostgreSQL. -/
theorem Query.rewords_statementTokens_iff (query : Query) (s : List Token) :
    Rewords query.patternMatches (query.statementTokens .postgres) s ↔
      s = query.statementTokens .sqlite := by
  have hquery := query.rewords.before [.semicolon] (by simp)
  constructor
  · exact fun h ↦ h.unique hquery
  · rintro rfl
    exact hquery

end Barometer.Sql
