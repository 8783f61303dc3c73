import Barometer.Proofs.Sql.Lexer
import Barometer.Proofs.Sql.Mentions
import Barometer.Proofs.Sql.Vocabulary

/-!
# Reading the names of a query

The names of what a query mentions stand in its statement. Where a name stands, a mark stands before
it and a mark behind it. So what is before it, the name and what is behind it are read apart from
each other, and what is read of the name depends on the name only. There is one exception: the
number one goes on with a point behind it, and with a column behind that unless the column is in
quotes.
-/

namespace Barometer.Sql

/-! ## Points -/

theorem getLast?_append_ne {α : Type} {a : α} {l r : List α} (hl : l.getLast? ≠ some a)
    (hr : r.getLast? ≠ some a) : (l ++ r).getLast? ≠ some a := by
  rw [List.getLast?_append]
  cases hlast : r.getLast? with
  | none => exact hl
  | some b =>
    rw [hlast] at hr
    exact hr

/-- Points stand behind names only, of which none has a point before it. -/
structure Pointed (ts : List Token) : Prop where
  last : ts.getLast? ≠ some .dot
  behind : ∀ before after, ts = before ++ .dot :: after →
    ∃ earlier table, before = earlier ++ [.name table] ∧ earlier.getLast? ≠ some .dot

namespace Pointed

variable {l r : List Token}

theorem of_forall {ts : List Token} (h : ∀ t ∈ ts, t ≠ .dot) : Pointed ts where
  last hlast := h _ (List.mem_of_getLast? hlast) rfl
  behind before after hts := by
    rw [hts] at h
    exact absurd rfl (h .dot (by simp))

theorem column (table name : String) : Pointed [.name table, .dot, .name name] where
  last := by simp
  behind before after hts := by
    rcases before with _ | ⟨t, _ | ⟨t', _ | ⟨t'', rest⟩⟩⟩ <;> simp at hts
    exact ⟨[], table, by simp [hts], by simp⟩

theorem append (hl : Pointed l) (hr : Pointed r) : Pointed (l ++ r) where
  last := getLast?_append_ne hl.last hr.last
  behind before after hts := by
    rcases List.append_eq_append_iff.mp hts with ⟨later, rfl, hr'⟩ | ⟨later, hl', hlater⟩
    · obtain ⟨earlier, table, rfl, hearlier⟩ := hr.behind later after hr'
      exact ⟨l ++ earlier, table, (List.append_assoc l earlier _).symm,
        getLast?_append_ne hl.last hearlier⟩
    · cases later with
      | nil =>
        obtain ⟨earlier, table, hnil, -⟩ := hr.behind [] after hlater.symm
        simp at hnil
      | cons t later =>
        obtain ⟨rfl, -⟩ := List.cons.inj hlater
        exact hl.behind before later hl'

theorem nil : Pointed [] := of_forall (by simp)

theorem commaSpace : Pointed Sql.commaSpace := of_forall (by simp [Sql.commaSpace])

theorem single {t : Token} (ht : t ≠ .dot) : Pointed [t] := of_forall (by simpa using ht)

theorem parenthesized (h : Pointed l) : Pointed (.leftParen :: l ++ [.rightParen]) :=
  ((single (t := .leftParen) (by simp)).append h).append (single (by simp))

theorem separated {separator : List Token} (hseparator : Pointed separator)
    {parts : List (List Token)} (hparts : ∀ part ∈ parts, Pointed part) :
    Pointed (Sql.separated separator parts) := by
  fun_induction Sql.separated separator parts with
  | case1 => exact nil
  | case2 part => exact hparts part List.mem_cons_self
  | case3 part rest hrest ih =>
    exact ((hparts part List.mem_cons_self).append hseparator).append
      (ih fun other hother ↦ hparts other (List.mem_cons_of_mem part hother))

theorem like (dialect : Dialect) (hl : Pointed l) (hr : Pointed r) (negated : Bool) :
    Pointed (likeTokens dialect l r negated) := by
  have hwords : Pointed (if negated then [.space, .keyword .not] else []) := by
    split
    · exact of_forall (by simp)
    · exact nil
  cases dialect with
  | postgres => exact ((hl.append hwords).append (of_forall (by simp))).append hr
  | sqlite =>
    have hoperand := (single (t := .function "LOWER") (by simp)).append hl.parenthesized
    exact ((hoperand.append hwords).append (of_forall (by simp))).append hr

end Pointed

mutual

/-- No expression ends with a point. -/
theorem Expr.pointed (dialect : Dialect) (e : Expr) : Pointed (e.tokens dialect) := by
  cases e with
  | column table name =>
    cases table with
    | none => exact .single (by simp)
    | some table => exact .column table name
  | literal value => exact .single (by simp)
  | operation sign args =>
    exact (Pointed.separated (.of_forall (by simp)) (Expr.pointedAll dialect args)).parenthesized
  | compare relation left right =>
    exact ((Expr.pointed dialect left).append (.of_forall (by simp))).append
      (Expr.pointed dialect right)
  | isNull operand negated => exact (Expr.pointed dialect operand).append (.of_forall (by simp))
  | like operand pattern negated =>
    exact .like dialect (Expr.pointed dialect operand) (Expr.pointed dialect pattern) negated
  | junction connective children =>
    exact (Pointed.separated (.of_forall (by simp))
      (Expr.pointedAll dialect children)).parenthesized
  | call function args distinct =>
    have hdistinct : Pointed (if distinct then [.keyword .distinct, .space] else []) := by
      split
      · exact .of_forall (by simp)
      · exact .nil
    have hargs := Pointed.separated .commaSpace (Expr.pointedAll dialect args)
    exact (Pointed.single (t := .function function) (by simp)).append
      (hdistinct.append hargs).parenthesized
  | cases arms otherwise =>
    have hcase := (Pointed.single (t := .keyword .case) (by simp)).append
      (Expr.pointedArms dialect arms)
    exact (hcase.append (Expr.pointedAfter dialect (by simp) otherwise)).append
      (.of_forall (by simp))
  | subquery query => exact (Query.pointed dialect query).parenthesized
  | star => exact .single (by simp)
  | always => exact .of_forall (by simp [Expr.tokens])

theorem Expr.pointedAll (dialect : Dialect) (es : List Expr) :
    ∀ part ∈ Expr.tokensAll dialect es, Pointed part := by
  cases es with
  | nil => simp [Expr.tokensAll]
  | cons e rest =>
    rw [Expr.tokensAll, List.forall_mem_cons]
    exact ⟨Expr.pointed dialect e, Expr.pointedAll dialect rest⟩

theorem Expr.pointedArms (dialect : Dialect) (arms : List (Expr × Expr)) :
    Pointed (Expr.tokensArms dialect arms) := by
  rcases arms with _ | ⟨⟨condition, value⟩, rest⟩
  · exact .nil
  · exact ((((Pointed.of_forall (by simp)).append (Expr.pointed dialect condition)).append
      (.of_forall (by simp))).append (Expr.pointed dialect value)).append
      (Expr.pointedArms dialect rest)

theorem Expr.pointedAfter (dialect : Dialect) {lead : List Token} (hlead : ∀ t ∈ lead, t ≠ .dot)
    (e : Option Expr) : Pointed (Expr.tokensAfter dialect lead e) := by
  cases e with
  | none => exact .nil
  | some e => exact (Pointed.of_forall hlead).append (Expr.pointed dialect e)

theorem Item.pointedAll (dialect : Dialect) (items : List Item) :
    ∀ part ∈ Item.tokensAll dialect items, Pointed part := by
  rcases items with _ | ⟨⟨expr, label⟩, rest⟩
  · simp [Item.tokensAll]
  · rw [Item.tokensAll, List.forall_mem_cons]
    refine ⟨?_, Item.pointedAll dialect rest⟩
    cases label with
    | none => exact Expr.pointed dialect expr
    | some title => exact (Expr.pointed dialect expr).append (.of_forall (by simp))

theorem Join.pointedAll (dialect : Dialect) (joins : List Join) :
    Pointed (Join.tokensAll dialect joins) := by
  rcases joins with _ | ⟨⟨table, on⟩, rest⟩
  · exact .nil
  · exact ((Pointed.of_forall (by simp)).append (Expr.pointedAfter dialect (by simp) on)).append
      (Join.pointedAll dialect rest)

theorem Query.pointed (dialect : Dialect) (query : Query) : Pointed (query.tokens dialect) := by
  rcases query with ⟨select, source, joins, filter, groupBy⟩
  have hitems : Pointed (if select.isEmpty then []
      else .space :: separated commaSpace (Item.tokensAll dialect select)) := by
    split
    · exact .nil
    · exact (Pointed.single (t := .space) (by simp)).append
        (.separated .commaSpace (Item.pointedAll dialect select))
  have hfrom : Pointed (match source with
      | none => []
      | some table => [.space, .keyword .from, .space, .name table]) := by
    cases source with
    | none => exact .nil
    | some table => exact .of_forall (by simp)
  have hgroups : Pointed (if groupBy.isEmpty then []
      else [.space, .keyword .groupBy, .space] ++
        separated commaSpace (Expr.tokensAll dialect groupBy)) := by
    split
    · exact .nil
    · exact (Pointed.of_forall (by simp)).append
        (.separated .commaSpace (Expr.pointedAll dialect groupBy))
  have hselect := (Pointed.single (t := .keyword .select) (by simp)).append hitems
  exact (((hselect.append hfrom).append (Join.pointedAll dialect joins)).append
    (Expr.pointedAfter dialect (by simp) filter)).append hgroups

end

/-! ## Where mentions stand -/

theorem mem_separated (separator : List Token) {parts : List (List Token)} {t : Token} :
    (∃ part ∈ parts, t ∈ part) → t ∈ separated separator parts := by
  fun_induction separated separator parts with
  | case1 => simp
  | case2 part => simp
  | case3 part rest hrest ih =>
    rintro ⟨other, hother, ht⟩
    rcases List.mem_cons.mp hother with rfl | hother
    · simp [ht]
    · exact List.mem_append_right _ (ih ⟨other, hother, ht⟩)

section Written

variable (dialect : Dialect) {m : Mention}

theorem name_mem_likeTokens {l r : List Token} {t : Token} (h : t ∈ l ∨ t ∈ r) (negated : Bool) :
    t ∈ likeTokens dialect l r negated := by
  cases dialect <;> rcases h with h | h <;> simp [likeTokens, h]

mutual

/-- What an expression mentions is written somewhere in it. -/
theorem Expr.name_mem_tokens {tables : List String} (e : Expr) (h : m ∈ e.mentions tables) :
    .name m.name ∈ e.tokens dialect := by
  cases e with
  | column table name =>
    cases List.mem_singleton.mp h
    cases table <;> simp [Expr.tokens, Mention.name]
  | literal value => cases h
  | operation sign args =>
    have hargs := mem_separated [.space, .operator sign, .space] (Expr.name_mem_tokensAll args h)
    exact List.mem_append_left _ (List.mem_cons_of_mem _ hargs)
  | compare relation left right =>
    rcases List.mem_append.mp h with h | h
    · simp [Expr.tokens, Expr.name_mem_tokens left h]
    · simp [Expr.tokens, Expr.name_mem_tokens right h]
  | isNull operand negated => exact List.mem_append_left _ (Expr.name_mem_tokens operand h)
  | like operand pattern negated =>
    refine name_mem_likeTokens dialect ?_ negated
    rcases List.mem_append.mp h with h | h
    · exact .inl (Expr.name_mem_tokens operand h)
    · exact .inr (Expr.name_mem_tokens pattern h)
  | junction connective children =>
    have hchildren := mem_separated [.space, .keyword connective.keyword, .space]
      (Expr.name_mem_tokensAll children h)
    exact List.mem_append_left _ (List.mem_cons_of_mem _ hchildren)
  | call function args distinct =>
    have hargs := mem_separated commaSpace (Expr.name_mem_tokensAll args h)
    simp [Expr.tokens, hargs]
  | cases arms otherwise =>
    rcases List.mem_append.mp h with h | h
    · simp [Expr.tokens, Expr.name_mem_tokensArms arms h]
    · simp [Expr.tokens, Expr.name_mem_tokensAfter _ otherwise h]
  | subquery query =>
    exact List.mem_append_left _ (List.mem_cons_of_mem _ (Query.name_mem_tokens query h))
  | star => cases h
  | always => cases h

theorem Expr.name_mem_tokensAll {tables : List String} (es : List Expr)
    (h : m ∈ Expr.mentionsAll tables es) :
    ∃ part ∈ Expr.tokensAll dialect es, .name m.name ∈ part := by
  cases es with
  | nil => cases h
  | cons e rest =>
    rcases List.mem_append.mp h with h | h
    · exact ⟨_, List.mem_cons_self, Expr.name_mem_tokens e h⟩
    · obtain ⟨part, hpart, hname⟩ := Expr.name_mem_tokensAll rest h
      exact ⟨part, List.mem_cons_of_mem _ hpart, hname⟩

theorem Expr.name_mem_tokensArms {tables : List String} (arms : List (Expr × Expr))
    (h : m ∈ Expr.mentionsArms tables arms) : .name m.name ∈ Expr.tokensArms dialect arms := by
  rcases arms with _ | ⟨⟨condition, value⟩, rest⟩
  · cases h
  · rw [Expr.mentionsArms, List.mem_append, List.mem_append] at h
    rcases h with (h | h) | h
    · simp [Expr.tokensArms, Expr.name_mem_tokens condition h]
    · simp [Expr.tokensArms, Expr.name_mem_tokens value h]
    · simp [Expr.tokensArms, Expr.name_mem_tokensArms rest h]

theorem Expr.name_mem_tokensAfter {tables : List String} (lead : List Token) (e : Option Expr)
    (h : m ∈ Expr.mentionsOption tables e) : .name m.name ∈ Expr.tokensAfter dialect lead e := by
  cases e with
  | none => cases h
  | some e => exact List.mem_append_right _ (Expr.name_mem_tokens e h)

theorem Item.name_mem_tokensAll {tables : List String} (items : List Item)
    (h : m ∈ Item.mentionsAll tables items) :
    ∃ part ∈ Item.tokensAll dialect items, .name m.name ∈ part := by
  rcases items with _ | ⟨⟨expr, label⟩, rest⟩
  · cases h
  · rcases List.mem_append.mp h with h | h
    · refine ⟨_, List.mem_cons_self, ?_⟩
      have hexpr := Expr.name_mem_tokens expr h
      cases label <;> simp [Item.tokens, hexpr]
    · obtain ⟨part, hpart, hname⟩ := Item.name_mem_tokensAll rest h
      exact ⟨part, List.mem_cons_of_mem _ hpart, hname⟩

theorem Join.name_mem_tokensAll {tables : List String} (joins : List Join)
    (h : m ∈ Join.mentionsAll tables joins) : .name m.name ∈ Join.tokensAll dialect joins := by
  rcases joins with _ | ⟨⟨table, on⟩, rest⟩
  · cases h
  · rw [Join.mentionsAll, List.cons_append, List.mem_cons, List.mem_append, List.mem_filter] at h
    rcases h with rfl | ⟨h, -⟩ | h
    · simp [Join.tokensAll, Join.tokens, Mention.name]
    · simp [Join.tokensAll, Join.tokens, Expr.name_mem_tokensAfter _ on h]
    · simp [Join.tokensAll, Join.name_mem_tokensAll rest h]

/-- What a query mentions is written in it. -/
theorem Query.name_mem_tokens {outer : List String} (query : Query)
    (h : m ∈ query.mentions outer) : .name m.name ∈ query.tokens dialect := by
  rcases query with ⟨select, source, joins, filter, groupBy⟩
  simp only [Query.mentions, List.mem_append] at h
  rcases h with (((h | h) | h) | h) | h
  · cases source with
    | none => cases h
    | some table =>
      cases List.mem_singleton.mp h
      simp [Query.tokens, Mention.name]
  · simp [Query.tokens, Join.name_mem_tokensAll joins h]
  · have hselect := mem_separated commaSpace (Item.name_mem_tokensAll select h)
    cases select with
    | nil => cases h
    | cons item rest => simp [Query.tokens, hselect]
  · simp [Query.tokens, Expr.name_mem_tokensAfter _ filter h]
  · have hgroups := mem_separated commaSpace (Expr.name_mem_tokensAll groupBy h)
    cases groupBy with
    | nil => cases h
    | cons e rest => simp [Query.tokens, hgroups]

end

end Written

/-! ## Reading a name where it stands -/

namespace Spaced

variable {l r : List Token} {t : Token} (h : Spaced (l ++ t :: r)) (ht : t.isMark = false)

include h ht

theorem isMark_of_getLast? : ∀ s ∈ l.getLast?, s.isMark = true := by
  intro s hs
  have hmark := (List.isChain_append.mp h).2.2 s hs t rfl
  rw [ht] at hmark
  exact hmark.resolve_right Bool.false_ne_true

theorem isMark_of_head? : ∀ s ∈ r.head?, s.isMark = true := by
  intro s hs
  have hmark := (List.isChain_cons.mp (List.isChain_append.mp h).2.1).1 s hs
  rw [ht] at hmark
  exact hmark.resolve_left Bool.false_ne_true

end Spaced

namespace Lexer

variable {lexicon : Lexicon} {before after : List Token} {name : String}

/-- Nothing goes on from the tokens before a name, unless the last of them is a point. -/
theorem feed_before_of_ne_dot (hspaced : Spaced (before ++ .name name :: after))
    (hdot : before.getLast? ≠ some .dot) :
    (feed lexicon .idle (before.flatMap Token.pieces)).2 = .idle := by
  rcases List.eq_nil_or_concat before with rfl | ⟨init, t, rfl⟩
  · rfl
  · rw [List.concat_eq_append] at hspaced hdot ⊢
    have hmark := hspaced.isMark_of_getLast? rfl t (by simp)
    have hne : t ≠ .dot := fun h ↦ hdot (by simp [h])
    rw [List.flatMap_append, feed_append, List.flatMap_singleton]
    exact feed_of_isMark hmark hne _

theorem lexemes_name_append_iff {ps rest : List Piece}
    (hbefore : ∀ p ∈ ((Token.name name).pieces ++ rest).head?,
      (feed lexicon .idle ps).2.EndsBefore p)
    (hbehind : ∀ p ∈ rest.head?, (feed lexicon .idle (Token.name name).pieces).2.EndsBefore p) :
    lexemes lexicon (ps ++ ((Token.name name).pieces ++ rest)) =
      lexemes lexicon ps ++ .identifier name :: lexemes lexicon rest ↔
        ¬ IsAmbiguous lexicon name := by
  rw [lexemes_append hbefore, lexemes_append hbehind, ← lexemes_name_iff,
    List.append_cancel_left_eq, ← List.singleton_append, List.append_cancel_right_eq]

/-- What goes on as a number is not read as a name. -/
theorem lexemes_append_ne_of_number {ps qs rest : List Piece} {seen : List Char}
    {others : List Lexeme}
    (hgoes : feed lexicon (feed lexicon .idle ps).2 qs = feed lexicon (.number seen) rest)
    (hlonger : ∀ more, ((feed lexicon .idle ps).2.lexemes lexicon).head? ≠
      some (.number (String.ofList (more ++ seen).reverse))) :
    lexemes lexicon (ps ++ qs) ≠ lexemes lexicon ps ++ .identifier name :: others := by
  obtain ⟨more, behind, hnumber⟩ := exists_number_of_feed lexicon seen rest
  intro hread
  rw [lexemes, feed_append, hgoes] at hread
  simp only [lexemes, List.append_assoc, hnumber, List.append_cancel_left_eq] at hread
  cases hlast : (feed lexicon .idle ps).2.lexemes lexicon with
  | nil =>
    rw [hlast] at hread
    cases hread
  | cons first more' =>
    rw [hlast] at hread hlonger
    exact hlonger more (congrArg some (List.cons.inj hread).1.symm)

/-- Behind a number and a point a plain name is read as a part of the number. -/
theorem lexemes_behind_one_ne {ps : List Piece}
    (hrun : (feed lexicon .idle ps).2 = .number ['.', '1']) (hplain : isPlain name = true)
    (hstar : name ≠ "*") (rest : List Piece) (others : List Lexeme) :
    lexemes lexicon (ps ++ ((Token.name name).pieces ++ rest)) ≠
      lexemes lexicon ps ++ .identifier name :: others := by
  obtain ⟨c, s, hname, hc⟩ : ∃ c s, name.toList = c :: s ∧ isWordCharacter c = true := by
    by_cases hone : name = "1"
    · subst hone
      exact ⟨'1', [], rfl, by decide⟩
    · obtain ⟨c, s, hname, hc⟩ := exists_nameStart_of_isPlain hplain hone hstar
      exact ⟨c, s, hname, isWordCharacter_of_isNameCharacter (isNameCharacter_of_isNameStart hc)⟩
  have hextend : (Run.number ['.', '1']).extend? c = some (.number [c, '.', '1']) := by
    simp [Run.extend?, hc]
  have hgoes : feed lexicon (feed lexicon .idle ps).2 ((Token.name name).pieces ++ rest) =
      feed lexicon (.number [c, '.', '1']) (s.map .plain ++ rest) := by
    rw [hrun, pieces_of_isPlain hplain, hname]
    simp [feed, step, hextend]
  refine lexemes_append_ne_of_number hgoes fun more hmore ↦ ?_
  rw [hrun] at hmore
  have hsame := String.ofList_inj.mp (Lexeme.number.inj (Option.some.inj hmore))
  have hlength := congrArg List.length hsame
  simp only [List.length_reverse, List.length_append, List.length_cons, List.length_nil] at hlength
  omega

section Pieces

variable {ps rest : List Piece}
  (hrest : ∀ p ∈ rest.head?, ∀ run : Run,
    run = .idle ∨ (∃ seen, run = .word seen) → run.EndsBefore p)

include hrest

/-- A name that stands apart is read as itself unless it is ambiguous. -/
theorem lexemes_apart_iff
    (hrun : (feed lexicon .idle ps).2 = .idle ∨ (feed lexicon .idle ps).2 = .point) :
    lexemes lexicon (ps ++ ((Token.name name).pieces ++ rest)) =
      lexemes lexicon ps ++ .identifier name :: lexemes lexicon rest ↔
        ¬ IsAmbiguous lexicon name := by
  by_cases hname : name = "1"
  · subst hname
    -- The number goes on as far as it can, so it is not read apart from what is behind it.
    refine iff_of_false ?_ fun h ↦ h (.inl rfl)
    rcases hrun with hrun | hrun
    · exact lexemes_append_ne_of_number (by rw [hrun]; rfl) (by simp [hrun, Run.lexemes])
    · exact lexemes_append_ne_of_number (by rw [hrun]; rfl) (by simp [hrun, Run.lexemes])
  · refine lexemes_name_append_iff ?_ fun p hp ↦ hrest p hp _ (feed_name_of_ne_one lexicon hname)
    rw [List.head?_append_of_ne_nil _ (pieces_name_ne_nil name)]
    exact endsBefore_name hname hrun

/-- Quotes end the number one with a point behind it. -/
theorem lexemes_behind_one_iff (hrun : (feed lexicon .idle ps).2 = .number ['.', '1']) :
    lexemes lexicon (ps ++ ((Token.name name).pieces ++ rest)) =
      lexemes lexicon ps ++ .identifier name :: lexemes lexicon rest ↔ isPlain name = false := by
  cases hplain : isPlain name with
  | false =>
    have hone : name ≠ "1" := by
      rintro rfl
      exact absurd hplain (by decide)
    have hclear : ¬ IsAmbiguous lexicon name := fun hambiguous ↦ by
      cases hplain.symm.trans (isPlain_of_isAmbiguous hambiguous)
    rw [lexemes_name_append_iff ?_ fun p hp ↦ hrest p hp _ (feed_name_of_ne_one lexicon hone)]
    · exact iff_of_true hclear rfl
    · rw [pieces_of_not_isPlain hplain]
      rintro _ ⟨⟩
      trivial
  | true =>
    refine iff_of_false ?_ Bool.noConfusion
    by_cases hstar : name = "*"
    · -- A star ends the number too, but it is a sign.
      subst hstar
      have hends : (Run.number ['.', '1']).EndsBefore (.plain '*') := rfl
      rw [lexemes_name_append_iff (by rw [hrun]; rintro _ ⟨⟩; exact hends)
        fun p hp ↦ hrest p hp _ (feed_name_of_ne_one lexicon (by decide)), not_not]
      exact .inr (.inl rfl)
    · exact lexemes_behind_one_ne hrun hplain hstar rest _

end Pieces

section Place

variable (hspaced : Spaced (before ++ .name name :: after))
  (hpointed : Pointed (before ++ .name name :: after))

include hspaced hpointed

/-- Nothing goes on into a name but a point, and the number one with a point behind it. -/
theorem feed_before (lexicon : Lexicon) :
    ((∀ earlier, before ≠ earlier ++ [.name "1", .dot]) ∧
      ((feed lexicon .idle (before.flatMap Token.pieces)).2 = .idle ∨
        (feed lexicon .idle (before.flatMap Token.pieces)).2 = .point)) ∨
    ((∃ earlier, before = earlier ++ [.name "1", .dot]) ∧
      (feed lexicon .idle (before.flatMap Token.pieces)).2 = .number ['.', '1']) := by
  by_cases hdot : before.getLast? = some .dot
  · obtain ⟨init, rfl⟩ := List.getLast?_eq_some_iff.mp hdot
    obtain ⟨earlier, table, rfl, hearlier⟩ := hpointed.behind init (.name name :: after) (by simp)
    have hspaced' : Spaced (earlier ++ .name table :: (.dot :: .name name :: after)) := by
      simpa using hspaced
    have hread : (feed lexicon .idle
        ((earlier ++ [Token.name table] ++ [Token.dot]).flatMap Token.pieces)).2 =
          (feed lexicon (feed lexicon .idle (Token.name table).pieces).2 Token.dot.pieces).2 := by
      rw [List.flatMap_append, List.flatMap_append, List.flatMap_singleton,
        List.flatMap_singleton, feed_append, feed_append,
        feed_before_of_ne_dot hspaced' hearlier]
    rw [hread]
    by_cases htable : table = "1"
    · subst htable
      exact .inr ⟨⟨earlier, by simp⟩, rfl⟩
    · refine .inl ⟨fun other hother ↦ htable ?_, .inr ?_⟩
      · rw [List.append_assoc] at hother
        have hlast := (List.append_inj' hother rfl).2
        exact Token.name.inj (List.cons.inj hlast).1
      · rcases feed_name_of_ne_one lexicon htable with hrun | ⟨seen, hrun⟩ <;>
          rw [hrun] <;> rfl
  · refine .inl ⟨fun earlier hearlier ↦ hdot (by simp [hearlier]), .inl ?_⟩
    exact feed_before_of_ne_dot hspaced hdot

/-- Between marks a name is read as itself if and only if it is not ambiguous, and is in quotes
where the number one goes on into it. -/
theorem lexemes_place_iff (lexicon : Lexicon) {rest : List Piece}
    (hrest : ∀ p ∈ rest.head?, ∀ run : Run,
      run = .idle ∨ (∃ seen, run = .word seen) → run.EndsBefore p) :
    lexemes lexicon (before.flatMap Token.pieces ++ ((Token.name name).pieces ++ rest)) =
      lexemes lexicon (before.flatMap Token.pieces) ++
        .identifier name :: lexemes lexicon rest ↔
      ¬ IsAmbiguous lexicon name ∧
        ∀ earlier, before = earlier ++ [.name "1", .dot] → isPlain name = false := by
  rcases feed_before hspaced hpointed lexicon with
    ⟨hone, hbefore⟩ | ⟨⟨earlier, hearlier⟩, hbefore⟩
  · rw [and_iff_left fun earlier h ↦ absurd h (hone earlier)]
    exact lexemes_apart_iff hrest hbefore
  · rw [lexemes_behind_one_iff hrest hbefore]
    refine ⟨fun hquoted ↦ ⟨fun hambiguous ↦ ?_, fun _ _ ↦ hquoted⟩, fun h ↦ h.2 earlier hearlier⟩
    cases hquoted.symm.trans (isPlain_of_isAmbiguous hambiguous)

end Place

/-! ## Statements -/

/-- Whether a name is read as itself where it stands: it is one lexeme, between what is read of the
tokens before it and what is read of those behind it. -/
def ReadsName (lexicon : Lexicon) (before : List Token) (name : String)
    (after : List Token) : Prop :=
  ∃ left right, lex lexicon (textOf before) = some left ∧
    lex lexicon (textOf after) = some right ∧
    lex lexicon (textOf (before ++ .name name :: after)) = some (left ++ .identifier name :: right)

theorem lex_tokens {ts : List Token} (hspaced : Spaced ts) (hord : ∀ t ∈ ts, t.IsOrdinary) :
    lex lexicon (textOf ts) = some (lexemes lexicon (ts.flatMap Token.pieces)) := by
  have hend : ∀ c ∈ ([] : List Char).head?, Text.isQuote c = false := by simp
  have hscan := Phrase.scanFrom_tokens hspaced hord hend
  rw [List.append_nil] at hscan
  rw [lex, Scanner.scan, Phrase.toList_textOf, hscan, Scanner.scanFrom, Option.map_some,
    List.append_nil, Option.map_some]

/-- The same with the end of the statement. -/
theorem lex_tokens_semicolon {ts : List Token} (hspaced : Spaced ts)
    (hord : ∀ t ∈ ts, t.IsOrdinary) :
    lex lexicon (textOf (ts ++ [.semicolon])) =
      some (lexemes lexicon (ts.flatMap Token.pieces ++ [.plain ';'])) := by
  rw [lex, Phrase.scan_part hspaced hord, Option.map_some]

/-- Neither a mark nor the end of the statement goes on with a word. -/
theorem endsBefore_of_head? {rest : List Token} (hmark : ∀ t ∈ rest.head?, t.isMark = true) :
    ∀ p ∈ (rest.flatMap Token.pieces ++ [Piece.plain ';']).head?, ∀ run : Run,
      run = .idle ∨ (∃ seen, run = .word seen) → run.EndsBefore p := by
  cases rest with
  | nil =>
    rintro _ ⟨⟩ run (rfl | ⟨seen, rfl⟩) <;> rfl
  | cons t rest =>
    have ht := hmark t rfl
    obtain ⟨c, s, -, hpieces, -⟩ := Token.pieces_of_isMark ht
    intro p hp run hrun
    refine endsBefore_of_isMark ht hrun p ?_
    rw [List.flatMap_cons, List.append_assoc, hpieces] at hp
    rw [hpieces]
    exact hp

end Lexer

/-- What stands in a statement before its end stands in the query. -/
theorem Query.exists_tokens_of_place {query : Query} {dialect : Dialect}
    {before after : List Token} {name : String}
    (hplace : query.statementTokens dialect = before ++ .name name :: after) :
    ∃ rest, after = rest ++ [.semicolon] ∧
      query.tokens dialect = before ++ .name name :: rest := by
  rcases List.eq_nil_or_concat after with rfl | ⟨rest, t, rfl⟩
  · have hlast := (List.append_inj' hplace rfl).2
    cases hlast
  · rw [List.concat_eq_append, ← List.cons_append, ← List.append_assoc] at hplace
    obtain ⟨htokens, hlast⟩ := List.append_inj' hplace rfl
    cases hlast
    exact ⟨rest, List.concat_eq_append, htokens⟩

/-- In the statement of a query a name is read as itself if and only if it is not ambiguous, and is
in quotes where it stands behind a table that is called by the number one. -/
theorem Query.readsName_iff (lexicon : Lexicon) {query : Query} (hknown : query.Known)
    {dialect : Dialect} {before after : List Token} {name : String}
    (hplace : query.statementTokens dialect = before ++ .name name :: after) :
    Lexer.ReadsName lexicon before name after ↔
      ¬ Lexer.IsAmbiguous lexicon name ∧
        ∀ earlier, before = earlier ++ [.name "1", .dot] → isPlain name = false := by
  obtain ⟨rest, rfl, htokens⟩ := Query.exists_tokens_of_place hplace
  have hpointed := Query.pointed dialect query
  have hspaced := (Query.phrase dialect query hknown).spaced
  have hord := (Query.phrase dialect query hknown).ordinary
  rw [htokens] at hpointed hspaced hord
  have hbefore : Lexer.lex lexicon (textOf before) = some _ :=
    Lexer.lex_tokens hspaced.left_of_append fun t ht ↦ hord t (by simp [ht])
  have hafter : Lexer.lex lexicon (textOf (rest ++ [.semicolon])) = some _ :=
    Lexer.lex_tokens_semicolon (List.isChain_append.mp hspaced).2.1.tail
      fun t ht ↦ hord t (by simp [ht])
  have hwhole : Lexer.lex lexicon (textOf (before ++ .name name :: (rest ++ [.semicolon]))) =
      some (Lexer.lexemes lexicon (before.flatMap Token.pieces ++
        ((Token.name name).pieces ++ (rest.flatMap Token.pieces ++ [.plain ';'])))) := by
    rw [← List.cons_append, ← List.append_assoc, Lexer.lex_tokens_semicolon hspaced hord,
      List.flatMap_append, List.flatMap_cons, List.append_assoc, List.append_assoc]
  have hplaced := Lexer.lexemes_place_iff hspaced hpointed lexicon
    (Lexer.endsBefore_of_head? (hspaced.isMark_of_head? rfl))
  rw [← hplaced]
  constructor
  · rintro ⟨left, right, hleft, hright, hread⟩
    rw [hbefore] at hleft
    rw [hafter] at hright
    rw [hwhole] at hread
    cases hleft
    cases hright
    exact Option.some.inj hread
  · exact fun hread ↦ ⟨_, _, hbefore, hafter, by rw [hwhole, hread]⟩

end Barometer.Sql
