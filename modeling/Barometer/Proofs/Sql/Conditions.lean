import Barometer.Proofs.Sql.Parts

/-!
# Reading terms and conditions back

Two terms that begin in the same way are the same, and end in the same place, and so are two
conditions. The one thing in the way is that a condition can begin with a term: then the condition
goes on with a relation or a keyword, and no term around the first one goes on like this.
-/

namespace Barometer.Sql

/-! ## First tokens -/

/-- Whether a term or a condition can begin with a token. -/
def Token.opens : Token → Bool
  | .keyword word => word == .case
  | .rightParen => false
  | _ => true

/-- The term that a token is the whole of. -/
def Token.atom? : Token → Option Expr
  | .name text => some (.column none text)
  | .literal value => some (.literal value)
  | .star => some .star
  | _ => none

namespace Expr

variable {dialect : Dialect} {e c : Expr}

/-- By its first token a term can be told from what goes on behind one. -/
theorem IsTerm.exists_first (h : e.IsTerm) (dialect : Dialect) :
    ∃ t rest, e.tokens dialect = t :: rest ∧ t.opens = true := by
  cases e with
  | column table name =>
    cases (h : table = none)
    exact ⟨_, _, rfl, rfl⟩
  | literal value => exact ⟨_, _, rfl, rfl⟩
  | operation sign args => exact ⟨_, _, rfl, rfl⟩
  | call function args distinct => exact ⟨_, _, rfl, rfl⟩
  | cases arms otherwise => exact ⟨_, _, rfl, rfl⟩
  | subquery query => exact ⟨_, _, rfl, rfl⟩
  | star => exact ⟨_, _, rfl, rfl⟩
  | _ => exact h.elim

theorem tokens_ne_of_exists_first
    (h : ∃ t rest, e.tokens dialect = t :: rest ∧ t.opens = true) {t : Token}
    (ht : t.opens = false) (r s : List Token) : e.tokens dialect ++ r ≠ t :: s := by
  obtain ⟨first, rest, htokens, hfirst⟩ := h
  rw [htokens]
  intro heq
  cases heq
  rw [hfirst] at ht
  cases ht

theorem IsTerm.tokens_ne (h : e.IsTerm) {t : Token} (ht : t.opens = false) (r s : List Token) :
    e.tokens dialect ++ r ≠ t :: s :=
  tokens_ne_of_exists_first (h.exists_first dialect) ht r s

/-- A term that begins with a token which is a term of its own is this term. -/
theorem IsTerm.eq_atom (h : e.IsTerm) {t : Token} {atom : Expr} (ht : t.atom? = some atom)
    {r s : List Token} (heq : e.tokens dialect ++ r = t :: s) : e = atom ∧ r = s := by
  cases e with
  | column table name =>
    cases (h : table = none)
    cases heq
    cases ht
    exact ⟨rfl, rfl⟩
  | literal value =>
    cases heq
    cases ht
    exact ⟨rfl, rfl⟩
  | star =>
    cases heq
    cases ht
    exact ⟨rfl, rfl⟩
  | operation sign args =>
    cases heq
    cases ht
  | call function args distinct =>
    cases heq
    cases ht
  | cases arms otherwise =>
    cases heq
    cases ht
  | subquery query =>
    cases heq
    cases ht
  | _ => exact h.elim

/-! ## What stands behind the first term of a condition -/

/-- A term as the left side of a pattern match has it. -/
def matched (dialect : Dialect) (operand : Expr) : Expr :=
  match dialect with
  | .postgres => operand
  | .sqlite => .call "LOWER" [operand] false

/-- What stands between the two sides of a pattern match. -/
def matchSign (dialect : Dialect) (negated : Bool) : List Token :=
  (if negated then [.space, .keyword .not] else []) ++
    [.space, .keyword (match dialect with | .postgres => .ilike | .sqlite => .like), .space]

theorem tokens_like (operand pattern : Expr) (negated : Bool) :
    (Expr.like operand pattern negated).tokens dialect =
      (operand.matched dialect).tokens dialect ++
        (matchSign dialect negated ++ pattern.tokens dialect) := by
  cases dialect <;> cases negated <;>
    simp [tokens, likeTokens, matched, matchSign, tokensAll, separated]

theorem IsTerm.matched (h : e.IsTerm) : (e.matched dialect).IsTerm := by
  cases dialect with
  | postgres => exact h
  | sqlite => exact ⟨List.cons_ne_nil _ _, h, trivial⟩

def isJunction : Expr → Bool
  | .junction _ _ => true
  | _ => false

/-- Whether tokens can go on with a condition behind its first term. -/
def goesOn : List Token → Bool
  | .relation _ :: _ => true
  | .space :: .relation _ :: _ => true
  | .space :: .keyword _ :: _ => true
  | _ => false

/-- The term that a condition begins with, if it is not a junction. -/
def head (dialect : Dialect) : Expr → Expr
  | .compare _ left _ => left
  | .isNull operand _ => operand
  | .like operand _ _ => operand.matched dialect
  | _ => .literal (.int 1)

/-- What stands behind the first term of a condition. -/
def tail (dialect : Dialect) : Expr → List Token
  | .compare relation _ right => [.space, .relation relation, .space] ++ right.tokens dialect
  | .isNull _ negated => [.space, .keyword (if negated then .isNotNull else .isNull)]
  | .like _ pattern negated => matchSign dialect negated ++ pattern.tokens dialect
  | _ => [.relation .eq, .literal (.int 1)]

section Head

variable (h : c.IsCondition) (hkind : c.isJunction = false)

include h hkind

theorem IsCondition.head : (c.head dialect).IsTerm := by
  cases c with
  | compare relation left right => exact h.1
  | isNull operand negated => exact h
  | like operand pattern negated => exact h.1.matched
  | always => trivial
  | junction connective children => cases hkind
  | _ => exact h.elim

theorem IsCondition.tokens_append (r : List Token) :
    c.tokens dialect ++ r = (c.head dialect).tokens dialect ++ (c.tail dialect ++ r) := by
  cases c with
  | compare relation left right => simp [tokens, Expr.head, tail]
  | isNull operand negated => simp [tokens, Expr.head, tail]
  | like operand pattern negated =>
    simp only [tokens_like, Expr.head, tail, List.append_assoc]
  | always => rfl
  | junction connective children => cases hkind
  | _ => exact h.elim

theorem IsCondition.goesOn_tail (r : List Token) : goesOn (c.tail dialect ++ r) = true := by
  cases c with
  | compare relation left right => rfl
  | isNull operand negated => rfl
  | like operand pattern negated => cases dialect <;> cases negated <;> rfl
  | always => rfl
  | junction connective children => cases hkind
  | _ => exact h.elim

end Head

theorem IsCondition.exists_first (h : c.IsCondition) :
    ∃ t rest, c.tokens dialect = t :: rest ∧ t.opens = true := by
  cases hjunction : c.isJunction with
  | false =>
    have hhead : (c.head dialect).IsTerm := h.head hjunction
    obtain ⟨t, rest, hfirst, ht⟩ := hhead.exists_first dialect
    have htokens : c.tokens dialect ++ [] = _ := h.tokens_append hjunction []
    rw [hfirst, List.append_nil, List.append_nil, List.cons_append] at htokens
    exact ⟨t, _, htokens, ht⟩
  | true =>
    cases c with
    | junction connective children => exact ⟨_, _, rfl, rfl⟩
    | _ => cases hjunction

theorem IsCondition.tokens_ne (h : c.IsCondition) {t : Token} (ht : t.opens = false)
    (r s : List Token) : c.tokens dialect ++ r ≠ t :: s :=
  tokens_ne_of_exists_first h.exists_first ht r s

/-! ## Terms -/

/-- How a term is read: as itself among terms, and in conditions only where they go on. -/
structure ReadsAsTerm (dialect : Dialect) (e : Expr) : Prop where
  once : ReadOnce (tokens dialect) visible IsTerm e
  inside : ∀ c : Expr, c.IsCondition → ∀ r s, e.tokens dialect ++ r = c.tokens dialect ++ s →
    c.isJunction = false ∧ goesOn r = true

/-- How a condition is read: as itself among conditions, and as a term with more behind it. -/
structure ReadsAsCondition (dialect : Dialect) (c : Expr) : Prop where
  once : ReadOnce (tokens dialect) visible IsCondition c
  around : ∀ e : Expr, e.IsTerm → ∀ r s, c.tokens dialect ++ r = e.tokens dialect ++ s →
    c.isJunction = false ∧ goesOn s = true

/-- What a term is among terms decides what it is in conditions other than junctions. -/
theorem ReadsAsTerm.of_once (honce : ReadOnce (tokens dialect) visible IsTerm e)
    (hjunction : ∀ connective children, (junction connective children).IsCondition → ∀ r s,
      e.tokens dialect ++ r ≠ (junction connective children).tokens dialect ++ s) :
    e.ReadsAsTerm dialect where
  once := honce
  inside := by
    intro c hc r s h
    cases hkind : c.isJunction with
    | false =>
      rw [hc.tokens_append hkind] at h
      obtain ⟨-, rfl⟩ := honce _ (hc.head hkind) _ _ h
      exact ⟨rfl, hc.goesOn_tail hkind s⟩
    | true =>
      cases c with
      | junction connective children => exact absurd h (hjunction connective children hc r s)
      | _ => cases hkind

theorem ReadsAsTerm.atom {t : Token} (he : e.tokens dialect = [t]) (ht : t.atom? = some e) :
    e.ReadsAsTerm dialect := by
  refine .of_once (fun e' he' r s h ↦ ?_) (fun connective children _ r s h ↦ ?_)
  · rw [he] at h
    obtain ⟨rfl, rfl⟩ := he'.eq_atom ht h.symm
    exact ⟨rfl, rfl⟩
  · rw [he] at h
    cases h
    cases ht

/-! ### Groups in parentheses -/

/-- A term in parentheses is an operation or a subquery. -/
theorem IsTerm.eq_group (h : e.IsTerm) {r s : List Token}
    (heq : e.tokens dialect ++ r = .leftParen :: s) :
    (∃ sign args, e = .operation sign args) ∨ ∃ query, e = .subquery query := by
  cases e with
  | operation sign args => exact .inl ⟨sign, args, rfl⟩
  | subquery query => exact .inr ⟨query, rfl⟩
  | column table name =>
    cases (h : table = none)
    cases heq
  | literal value => cases heq
  | call function args distinct => cases heq
  | cases arms otherwise => cases heq
  | star => cases heq
  | _ => exact h.elim

theorem exists_tokens_operation {sign : String} {args : List Expr} (hargs : args ≠ []) :
    ∃ a ∈ args, ∃ rest, (∀ r, (operation sign args).tokens dialect ++ r =
      .leftParen :: (a.tokens dialect ++ (rest ++ .rightParen :: r))) ∧
      ∀ r, goesOn (rest ++ .rightParen :: r) = false := by
  obtain ⟨a, args, rfl⟩ := List.exists_cons_of_ne_nil hargs
  obtain ⟨rest, hrest, hcases⟩ := exists_separated [.space, .operator sign, .space]
    (a.tokens dialect) (tokensAll dialect args)
  refine ⟨a, List.mem_cons_self, rest, fun r ↦ ?_, fun r ↦ ?_⟩
  · rw [tokens, tokensAll, hrest]
    simp
  · rcases hcases with rfl | ⟨x, rfl⟩ <;> rfl

theorem exists_tokens_junction {connective : Connective} {children : List Expr}
    (hchildren : children ≠ []) :
    ∃ c ∈ children, ∃ rest, ∀ r, (junction connective children).tokens dialect ++ r =
      .leftParen :: (c.tokens dialect ++ (rest ++ .rightParen :: r)) := by
  obtain ⟨c, children, rfl⟩ := List.exists_cons_of_ne_nil hchildren
  obtain ⟨rest, hrest, -⟩ := exists_separated [.space, .keyword connective.keyword, .space]
    (c.tokens dialect) (tokensAll dialect children)
  refine ⟨c, List.mem_cons_self, rest, fun r ↦ ?_⟩
  rw [tokens, tokensAll, hrest]
  simp

theorem tokens_subquery (query : Query) (r : List Token) :
    (subquery query).tokens dialect ++ r =
      .leftParen :: .keyword .select :: (query.body dialect ++ .rightParen :: r) := by
  rw [tokens, query.tokens_eq]
  simp

/-- The sign between the first two operands is the sign of the whole operation. -/
theorem ReadsAsTerm.operation {sign : String} {args : List Expr} (hargs : args ≠ [])
    (hterm : ∀ a ∈ args, a.IsTerm) (hread : ∀ a ∈ args, a.ReadsAsTerm dialect) :
    (Expr.operation sign args).ReadsAsTerm dialect := by
  refine .of_once (fun e' he' r s h ↦ ?_) (fun connective children hc r s h ↦ ?_)
  · rcases he'.eq_group h.symm with ⟨sign', args', rfl⟩ | ⟨query, rfl⟩
    · have honce : ∀ a ∈ args, ReadOnce (tokens dialect) visible IsTerm a :=
        fun a ha ↦ (hread a ha).once
      have hterms := (allTerms_iff args').mp he'.2
      have hlists : separated [.space, .operator sign, .space] (args.map (tokens dialect)) ++
          (.rightParen :: r) =
          separated [.space, .operator sign', .space] (args'.map (tokens dialect)) ++
            (.rightParen :: s) := by
        simpa [tokens, tokensAll_eq_map] using h
      obtain ⟨hmap, hrest, hsign⟩ := read_separated honce hterms hargs he'.1 hlists rfl
        (by simp) (by simp)
      have hlength : args.length = args'.length := by
        simpa using congrArg List.length hmap
      cases hrest
      refine ⟨?_, rfl⟩
      rw [visible, visible, visibleAll_eq_map, visibleAll_eq_map, hmap, hlength]
      rcases hsign with hone | hsign
      · rw [hlength] at hone
        rw [if_pos hone, if_pos hone]
      · cases hsign
        rfl
    · obtain ⟨a, ha, rest, hwrite, -⟩ := exists_tokens_operation hargs
      rw [hwrite, tokens_subquery] at h
      exact absurd (List.tail_eq_of_cons_eq h) ((hterm a ha).tokens_ne rfl _ _)
  · obtain ⟨a, ha, rest, hwrite, hbehind⟩ := exists_tokens_operation hargs
    obtain ⟨c, hmem, rest', hwrite'⟩ := exists_tokens_junction hc.1
    rw [hwrite, hwrite'] at h
    have hcondition := (allConditions_iff children).mp hc.2 c hmem
    have hgoes := ((hread a ha).inside c hcondition _ _ (List.tail_eq_of_cons_eq h)).2
    rw [hbehind] at hgoes
    cases hgoes

/-- Behind an opening bracket only a query begins with its keyword. -/
theorem ReadsAsTerm.subquery {query : Query}
    (hread : ∀ query' : Query, query'.IsRegular false → ∀ r s,
      query.body dialect ++ .rightParen :: r = query'.body dialect ++ .rightParen :: s →
        query.visible = query'.visible ∧ r = s) : (Expr.subquery query).ReadsAsTerm dialect := by
  refine .of_once (fun e' he' r s h ↦ ?_) (fun connective children hc r s h ↦ ?_)
  · rw [tokens_subquery] at h
    rcases he'.eq_group h.symm with ⟨sign', args', rfl⟩ | ⟨query', rfl⟩
    · obtain ⟨a, ha, rest, hwrite, -⟩ := exists_tokens_operation he'.1
      rw [hwrite] at h
      have hterm := (allTerms_iff args').mp he'.2 a ha
      exact absurd (List.tail_eq_of_cons_eq h).symm (hterm.tokens_ne rfl _ _)
    · rw [tokens_subquery] at h
      have hbody := List.tail_eq_of_cons_eq (List.tail_eq_of_cons_eq h)
      obtain ⟨hvisible, hrest⟩ := hread query' he' r s hbody
      exact ⟨by rw [visible, visible, hvisible], hrest⟩
  · obtain ⟨c, hmem, rest', hwrite'⟩ := exists_tokens_junction hc.1
    rw [tokens_subquery, hwrite'] at h
    have hcondition := (allConditions_iff children).mp hc.2 c hmem
    exact absurd (List.tail_eq_of_cons_eq h).symm (hcondition.tokens_ne rfl _ _)

/-! ### Calls and case distinctions -/

/-- A term that begins with the name of a function is a call of it. -/
theorem IsTerm.eq_call (h : e.IsTerm) {function : String} {r s : List Token}
    (heq : e.tokens dialect ++ r = .function function :: s) :
    ∃ args distinct, e = .call function args distinct := by
  cases e with
  | call function' args distinct =>
    cases heq
    exact ⟨args, distinct, rfl⟩
  | column table name =>
    cases (h : table = none)
    cases heq
  | literal value => cases heq
  | operation sign args => cases heq
  | cases arms otherwise => cases heq
  | subquery query => cases heq
  | star => cases heq
  | _ => exact h.elim

/-- A term that begins with a keyword is a case distinction. -/
theorem IsTerm.eq_cases (h : e.IsTerm) {word : Keyword} {r s : List Token}
    (heq : e.tokens dialect ++ r = .keyword word :: s) :
    ∃ arms otherwise, e = .cases arms otherwise := by
  cases e with
  | cases arms otherwise => exact ⟨arms, otherwise, rfl⟩
  | column table name =>
    cases (h : table = none)
    cases heq
  | literal value => cases heq
  | operation sign args => cases heq
  | call function args distinct => cases heq
  | subquery query => cases heq
  | star => cases heq
  | _ => exact h.elim

/-- What stands between the parentheses of a call. -/
theorem tokens_call (function : String) (args : List Expr) (distinct : Bool) (r : List Token) :
    (call function args distinct).tokens dialect ++ r =
      .function function :: .leftParen ::
        ((if distinct then [.keyword .distinct, .space] else []) ++
          (separated commaSpace (args.map (tokens dialect)) ++ .rightParen :: r)) := by
  simp [tokens, tokensAll_eq_map]

theorem exists_tokens_args (dialect : Dialect) {args : List Expr} (hargs : args ≠ [])
    (r : List Token) :
    ∃ a ∈ args, ∃ rest, separated commaSpace (args.map (tokens dialect)) ++ r =
      a.tokens dialect ++ rest := by
  obtain ⟨a, args, rfl⟩ := List.exists_cons_of_ne_nil hargs
  obtain ⟨rest, hrest, -⟩ :=
    exists_separated commaSpace (a.tokens dialect) (args.map (tokens dialect))
  exact ⟨a, List.mem_cons_self, rest ++ r, by rw [List.map_cons, hrest, List.append_assoc]⟩

/-- Arguments end at the bracket, so what follows does not matter. -/
theorem ReadsAsTerm.call {function : String} {args : List Expr} {distinct : Bool}
    (hargs : args ≠ []) (hterm : ∀ a ∈ args, a.IsTerm)
    (hread : ∀ a ∈ args, a.ReadsAsTerm dialect) :
    (Expr.call function args distinct).ReadsAsTerm dialect := by
  refine .of_once (fun e' he' r s h ↦ ?_) (fun connective children hc r s h ↦ ?_)
  · obtain ⟨args', distinct', rfl⟩ := he'.eq_call h.symm
    have honce : ∀ a ∈ args, ReadOnce (tokens dialect) visible IsTerm a :=
      fun a ha ↦ (hread a ha).once
    have hterms := (allTerms_iff args').mp he'.2
    rw [tokens_call, tokens_call] at h
    have hinside := List.tail_eq_of_cons_eq (List.tail_eq_of_cons_eq h)
    have hlists (h : separated commaSpace (args.map (tokens dialect)) ++ .rightParen :: r =
        separated commaSpace (args'.map (tokens dialect)) ++ .rightParen :: s) :
        (Expr.call function args distinct).visible = (Expr.call function args' distinct).visible ∧
          r = s := by
      obtain ⟨hmap, hrest, -⟩ :=
        read_separated honce hterms hargs he'.1 h rfl (by simp) (by simp)
      cases hrest
      exact ⟨by rw [visible, visible, visibleAll_eq_map, visibleAll_eq_map, hmap], rfl⟩
    cases distinct <;> cases distinct'
    · exact hlists hinside
    · obtain ⟨a, ha, rest, hwrite⟩ :=
        exists_tokens_args dialect hargs (.rightParen :: r)
      rw [hwrite] at hinside
      exact absurd hinside ((hterm a ha).tokens_ne rfl _ _)
    · obtain ⟨a, ha, rest, hwrite⟩ :=
        exists_tokens_args dialect he'.1 (.rightParen :: s)
      rw [hwrite] at hinside
      exact absurd hinside.symm ((hterms a ha).tokens_ne rfl _ _)
    · exact hlists (List.append_cancel_left hinside)
  · cases h

theorem readOnce_arm {arm : Expr × Expr} (hcondition : arm.1.ReadsAsCondition dialect)
    (hvalue : arm.2.ReadsAsTerm dialect) :
    ReadOnce (armTokens dialect) (fun arm ↦ (arm.1.visible, arm.2.visible)) IsArm arm := by
  intro arm' harm' r s h
  have hwhen : arm.1.tokens dialect ++ ([Token.space, .keyword .then, .space] ++
      (arm.2.tokens dialect ++ r)) = arm'.1.tokens dialect ++
        ([Token.space, .keyword .then, .space] ++ (arm'.2.tokens dialect ++ s)) := by
    simpa [armTokens] using h
  obtain ⟨hone, hrest⟩ := hcondition.once arm'.1 harm'.1 _ _ hwhen
  obtain ⟨htwo, hend⟩ := hvalue.once arm'.2 harm'.2 _ _ (List.append_cancel_left hrest)
  exact ⟨Prod.ext hone htwo, hend⟩

/-- The tokens of a case distinction without an arm for what remains. -/
theorem tokens_cases (arms : List (Expr × Expr)) (r : List Token) :
    (cases arms none).tokens dialect ++ r =
      .keyword .case :: (arms.flatMap (armTokens dialect) ++ .space :: .keyword .end :: r) := by
  simp [tokens, tokensArms_eq_flatMap, tokensAfter]

theorem ReadsAsTerm.cases {arms : List (Expr × Expr)}
    (hcondition : ∀ arm ∈ arms, arm.1.ReadsAsCondition dialect)
    (hvalue : ∀ arm ∈ arms, arm.2.ReadsAsTerm dialect) :
    (Expr.cases arms none).ReadsAsTerm dialect := by
  refine .of_once (fun e' he' r s h ↦ ?_) (fun connective children hc r s h ↦ ?_)
  · obtain ⟨arms', otherwise, rfl⟩ := he'.eq_cases h.symm
    obtain ⟨harms', rfl⟩ := he'
    rw [tokens_cases, tokens_cases] at h
    have honce : ∀ arm ∈ arms, ReadOnce (armTokens dialect)
        (fun arm ↦ (arm.1.visible, arm.2.visible)) IsArm arm :=
      fun arm harm ↦ readOnce_arm (hcondition arm harm) (hvalue arm harm)
    have hend (arm : Expr × Expr) (x y : List Token) :
        .space :: .keyword .end :: x ≠ armTokens dialect arm ++ y := by
      intro h
      cases h
    obtain ⟨hmap, hrest⟩ := read_flatMap honce ((allArms_iff arms').mp harms')
      (fun arm _ x ↦ hend arm r x) (fun arm _ x ↦ hend arm s x) (List.tail_eq_of_cons_eq h)
    cases hrest
    exact ⟨by rw [visible, visible, visibleArms_eq_map, visibleArms_eq_map, hmap], rfl⟩
  · cases h

/-! ## Conditions -/

/-- A condition that is not a junction is read by its first term, and then by what is behind. -/
theorem ReadsAsCondition.of_head (hc : c.IsCondition) (hkind : c.isJunction = false)
    (hhead : (c.head dialect).ReadsAsTerm dialect)
    (htail : ∀ c' : Expr, c'.IsCondition → c'.isJunction = false →
      (c.head dialect).visible = (c'.head dialect).visible → ∀ r s,
        c.tail dialect ++ r = c'.tail dialect ++ s → c.visible = c'.visible ∧ r = s) :
    c.ReadsAsCondition dialect where
  once := by
    intro c' hc' r s h
    rw [hc.tokens_append hkind] at h
    have hkind' := (hhead.inside c' hc' _ _ h).1
    rw [hc'.tokens_append hkind'] at h
    obtain ⟨hvisible, hrest⟩ := hhead.once _ (hc'.head hkind') _ _ h
    exact htail c' hc' hkind' hvisible r s hrest
  around := by
    intro e he r s h
    rw [hc.tokens_append hkind] at h
    obtain ⟨-, rfl⟩ := hhead.once e he _ _ h
    exact ⟨hkind, hc.goesOn_tail hkind r⟩

theorem ReadsAsCondition.always : Expr.always.ReadsAsCondition dialect := by
  refine .of_head trivial rfl (ReadsAsTerm.atom rfl rfl) fun c' hc' hkind hvisible r s h ↦ ?_
  cases c' with
  | always =>
    cases h
    exact ⟨rfl, rfl⟩
  | compare relation left right => cases h
  | isNull operand negated => cases h
  | like operand pattern negated => cases dialect <;> cases negated <;> cases h
  | junction connective children => cases hkind
  | _ => exact hc'.elim

/-- A comparison ends where its right side does, if nothing goes on there. -/
theorem ReadsAsCondition.compare {relation : Relation} {left right : Expr}
    (hc : (Expr.compare relation left right).IsCondition) (hleft : left.ReadsAsTerm dialect)
    (hright : right.ReadsAsTerm dialect) :
    (Expr.compare relation left right).ReadsAsCondition dialect := by
  refine .of_head hc rfl hleft fun c' hc' hkind hvisible r s h ↦ ?_
  cases c' with
  | compare relation' left' right' =>
    have hsign : [Token.space, .relation relation, .space] ++ (right.tokens dialect ++ r) =
        [Token.space, .relation relation', .space] ++ (right'.tokens dialect ++ s) := h
    obtain ⟨hrelation, hrest⟩ := List.append_inj hsign rfl
    cases hrelation
    obtain ⟨hvisible', hend⟩ := hright.once right' hc'.2 r s hrest
    rw [head, head] at hvisible
    exact ⟨by rw [visible, visible, hvisible, hvisible'], hend⟩
  | isNull operand negated => cases h
  | like operand pattern negated => cases dialect <;> cases negated <;> cases h
  | always => cases h
  | junction connective children => cases hkind
  | _ => exact hc'.elim

theorem ReadsAsCondition.isNull {operand : Expr} {negated : Bool}
    (hc : (Expr.isNull operand negated).IsCondition) (hoperand : operand.ReadsAsTerm dialect) :
    (Expr.isNull operand negated).ReadsAsCondition dialect := by
  refine .of_head hc rfl hoperand fun c' hc' hkind hvisible r s h ↦ ?_
  cases c' with
  | isNull operand' negated' =>
    rw [head, head] at hvisible
    have hnegated : negated = negated' ∧ r = s := by
      cases negated <;> cases negated' <;> cases h <;> exact ⟨rfl, rfl⟩
    exact ⟨by rw [visible, visible, hvisible, hnegated.1], hnegated.2⟩
  | compare relation left right => cases h
  | like operand pattern negated' =>
    cases dialect <;> cases negated <;> cases negated' <;> cases h
  | always => cases h
  | junction connective children => cases hkind
  | _ => exact hc'.elim

theorem matchSign_append_inj {negated negated' : Bool} {r s : List Token}
    (h : matchSign dialect negated ++ r = matchSign dialect negated' ++ s) :
    negated = negated' ∧ r = s := by
  cases dialect <;> cases negated <;> cases negated' <;> cases h <;> exact ⟨rfl, rfl⟩

theorem visible_matched_inj {operand operand' : Expr}
    (h : (operand.matched dialect).visible = (operand'.matched dialect).visible) :
    operand.visible = operand'.visible := by
  cases dialect with
  | postgres => exact h
  | sqlite => simpa [matched, visible, visibleAll] using h

theorem ReadsAsTerm.matched (h : e.ReadsAsTerm dialect) (he : e.IsTerm) :
    (e.matched dialect).ReadsAsTerm dialect := by
  cases dialect with
  | postgres => exact h
  | sqlite =>
    refine ReadsAsTerm.call (List.cons_ne_nil _ _) ?_ ?_
    · exact List.forall_mem_singleton.mpr he
    · exact List.forall_mem_singleton.mpr h

/-- A lowered operand hides nothing of the operand. -/
theorem ReadsAsCondition.like {operand pattern : Expr} {negated : Bool}
    (hc : (Expr.like operand pattern negated).IsCondition) (hoperand : operand.ReadsAsTerm dialect)
    (hpattern : pattern.ReadsAsTerm dialect) :
    (Expr.like operand pattern negated).ReadsAsCondition dialect := by
  refine .of_head hc rfl (hoperand.matched hc.1) fun c' hc' hkind hvisible r s h ↦ ?_
  cases c' with
  | like operand' pattern' negated' =>
    rw [tail, tail, List.append_assoc, List.append_assoc] at h
    obtain ⟨rfl, hrest⟩ := matchSign_append_inj h
    obtain ⟨hvisible', hend⟩ := hpattern.once pattern' hc'.2 r s hrest
    exact ⟨by rw [visible, visible, visible_matched_inj hvisible, hvisible'], hend⟩
  | compare relation left right => cases dialect <;> cases negated <;> cases h
  | isNull operand' negated' => cases dialect <;> cases negated <;> cases negated' <;> cases h
  | always => cases dialect <;> cases negated <;> cases h
  | junction connective children => cases hkind
  | _ => exact hc'.elim

theorem keyword_injective : Function.Injective Connective.keyword := by
  intro a b h
  cases a <;> cases b <;> first | rfl | cases h

/-- The keyword between the first two conditions is that of the whole junction. -/
theorem ReadsAsCondition.junction {connective : Connective} {children : List Expr}
    (hc : (Expr.junction connective children).IsCondition)
    (hread : ∀ c ∈ children, c.ReadsAsCondition dialect) :
    (Expr.junction connective children).ReadsAsCondition dialect := by
  have hchildren := (allConditions_iff children).mp hc.2
  -- A term that begins in the same way is in parentheses, and so is what it begins with.
  have hterm : ∀ e : Expr, e.IsTerm → ∀ r s,
      (Expr.junction connective children).tokens dialect ++ r ≠ e.tokens dialect ++ s := by
    intro e he r s h
    obtain ⟨c, hmem, rest, hwrite⟩ := exists_tokens_junction hc.1
    rw [hwrite] at h
    rcases he.eq_group h.symm with ⟨sign, args, rfl⟩ | ⟨query, rfl⟩
    · obtain ⟨a, ha, rest', hwrite', hbehind⟩ := exists_tokens_operation he.1
      rw [hwrite'] at h
      have hgoes := ((hread c hmem).around a ((allTerms_iff args).mp he.2 a ha) _ _
        (List.tail_eq_of_cons_eq h)).2
      rw [hbehind] at hgoes
      cases hgoes
    · rw [tokens_subquery] at h
      exact (hchildren c hmem).tokens_ne rfl _ _ (List.tail_eq_of_cons_eq h)
  refine ⟨fun c' hc' r s h ↦ ?_, fun e he r s h ↦ absurd h (hterm e he r s)⟩
  cases hkind : c'.isJunction with
  | false =>
    rw [hc'.tokens_append hkind] at h
    exact absurd h (hterm _ (hc'.head hkind) _ _)
  | true =>
    cases c' with
    | junction connective' children' =>
      have honce : ∀ c ∈ children, ReadOnce (tokens dialect) visible IsCondition c :=
        fun c hmem ↦ (hread c hmem).once
      have hlists : separated [.space, .keyword connective.keyword, .space]
          (children.map (tokens dialect)) ++ (.rightParen :: r) =
          separated [.space, .keyword connective'.keyword, .space]
            (children'.map (tokens dialect)) ++ (.rightParen :: s) := by
        simpa [tokens, tokensAll_eq_map] using h
      obtain ⟨hmap, hrest, hword⟩ := read_separated honce ((allConditions_iff children').mp hc'.2)
        hc.1 hc'.1 hlists rfl (by simp) (by simp)
      have hlength : children.length = children'.length := by
        simpa using congrArg List.length hmap
      cases hrest
      refine ⟨?_, rfl⟩
      rw [visible, visible, visibleAll_eq_map, visibleAll_eq_map, hmap, hlength]
      rcases hword with hone | hword
      · rw [hlength] at hone
        rw [if_pos hone, if_pos hone]
      · have hconnective : connective.keyword = connective'.keyword := by
          simpa using hword
        rw [keyword_injective hconnective]
    | _ => cases hkind

end Expr

end Barometer.Sql
