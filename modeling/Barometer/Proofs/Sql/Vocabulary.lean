import Barometer.Proofs.Sql.Phrase

/-!
# The vocabulary of queries

Queries over the operators and the aggregate functions of indicators. Names, titles and literals in
them are arbitrary. The tokens of such a query are a phrase, in either dialect.
-/

namespace Barometer.Sql

mutual

/-- Whether all operators and functions of an expression are those of indicators. -/
def Expr.Known : Expr → Prop
  | .column _ _ => True
  | .literal _ => True
  | .operation sign args => (∃ op : Arithmetic, sign = op.sign) ∧ Expr.KnownAll args
  | .compare _ left right => left.Known ∧ right.Known
  | .isNull operand _ => operand.Known
  | .like operand pattern _ => operand.Known ∧ pattern.Known
  | .junction _ children => Expr.KnownAll children
  | .call function args _ =>
    (∃ statistic : Statistic, function = statistic.sqlName) ∧ Expr.KnownAll args
  | .cases arms otherwise => Expr.KnownArms arms ∧ Expr.KnownOption otherwise
  | .subquery query => query.Known
  | .star => True
  | .always => True

def Expr.KnownAll : List Expr → Prop
  | [] => True
  | e :: rest => e.Known ∧ Expr.KnownAll rest

def Expr.KnownArms : List (Expr × Expr) → Prop
  | [] => True
  | (condition, value) :: rest => condition.Known ∧ value.Known ∧ Expr.KnownArms rest

def Expr.KnownOption : Option Expr → Prop
  | none => True
  | some e => e.Known

def Item.KnownAll : List Item → Prop
  | [] => True
  | { expr, label := _ } :: rest => expr.Known ∧ Item.KnownAll rest

def Join.KnownAll : List Join → Prop
  | [] => True
  | { table := _, on } :: rest => Expr.KnownOption on ∧ Join.KnownAll rest

def Query.Known : Query → Prop
  | { select, source := _, joins, filter, groupBy } =>
    Item.KnownAll select ∧ Join.KnownAll joins ∧ Expr.KnownOption filter ∧ Expr.KnownAll groupBy

end

theorem Expr.knownAll_iff (es : List Expr) : Expr.KnownAll es ↔ ∀ e ∈ es, e.Known := by
  induction es with
  | nil => simp [Expr.KnownAll]
  | cons e rest ih => rw [Expr.KnownAll, ih, List.forall_mem_cons]

theorem Expr.knownArms_iff (arms : List (Expr × Expr)) :
    Expr.KnownArms arms ↔ ∀ arm ∈ arms, arm.1.Known ∧ arm.2.Known := by
  induction arms with
  | nil => simp [Expr.KnownArms]
  | cons arm rest ih => rw [Expr.KnownArms, ih, List.forall_mem_cons, and_assoc]

theorem Item.knownAll_iff (items : List Item) :
    Item.KnownAll items ↔ ∀ item ∈ items, item.expr.Known := by
  induction items with
  | nil => simp [Item.KnownAll]
  | cons item rest ih =>
    rcases item with ⟨expr, label⟩
    rw [Item.KnownAll, ih, List.forall_mem_cons]

section Parts

variable {l r : List Token} {t : Token}

/-- A token between spaces, and a phrase behind it. -/
theorem Phrase.lead (ht : Phrase [t]) (hr : Phrase r) : Clause ([.space, t, .space] ++ r) :=
  (ht.append hr.space).space

theorem Phrase.joined (hl : Phrase l) (ht : Phrase [t]) (hr : Phrase r) :
    Phrase (l ++ [.space, t, .space] ++ r) := by
  rw [List.append_assoc]
  exact hl.append (ht.lead hr)

theorem Phrase.name (text : String) : Phrase [.name text] :=
  .single trivial (by simp) (by simp)

theorem Phrase.keyword (word : Keyword) : Phrase [.keyword word] :=
  .single trivial (by simp) (by simp)

theorem Phrase.literal (value : Literal) : Phrase [.literal value] :=
  .single trivial (by simp) (by simp)

theorem Phrase.relation (relation : Relation) : Phrase [.relation relation] :=
  .single trivial (by simp) (by simp)

/-- Parts with a separator between them, if the separator can stand between any two phrases. -/
theorem Phrase.separated {separator : List Token}
    (hsep : ∀ l r, Phrase l → Phrase r → Phrase (l ++ separator ++ r)) {parts : List (List Token)}
    (hparts : ∀ part ∈ parts, Phrase part) : Phrase (Sql.separated separator parts) := by
  fun_induction Sql.separated separator parts with
  | case1 => exact .nil
  | case2 part => exact hparts part List.mem_cons_self
  | case3 part rest hrest ih =>
    exact hsep part _ (hparts part List.mem_cons_self)
      (ih fun other hother ↦ hparts other (List.mem_cons_of_mem part hother))

theorem Phrase.separatedBy (ht : Phrase [t]) {parts : List (List Token)}
    (hparts : ∀ part ∈ parts, Phrase part) :
    Phrase (Sql.separated [.space, t, .space] parts) :=
  .separated (fun _ _ hl hr ↦ hl.joined ht hr) hparts

theorem Phrase.listed {parts : List (List Token)} (hparts : ∀ part ∈ parts, Phrase part) :
    Phrase (Sql.separated commaSpace parts) := by
  refine .separated (fun l r hl hr ↦ ?_) hparts
  rw [List.append_assoc]
  exact hl.append hr.space.comma

/-- A function and its arguments. -/
theorem Phrase.call {function : String} (hfunction : Phrase [.function function])
    (hr : Phrase r) : Phrase (.function function :: (.leftParen :: r ++ [.rightParen])) :=
  hfunction.append hr.parenthesized

theorem Phrase.like (dialect : Dialect) (hl : Phrase l) (hr : Phrase r) (negated : Bool) :
    Phrase (likeTokens dialect l r negated) := by
  have hnot : Clause (if negated then [.space, .keyword .not] else []) := by
    split
    · exact (Phrase.keyword .not).space
    · exact .nil
  cases dialect with
  | postgres => exact (hl.append hnot).joined (.keyword .ilike) hr
  | sqlite =>
    have hoperand := Phrase.call (.single (.inl rfl) (by simp) (by simp)) hl
    exact (hoperand.append hnot).joined (.keyword .like) hr

end Parts

theorem Phrase.operator (op : Arithmetic) : Phrase [.operator op.sign] :=
  .single ⟨op, rfl⟩ (by simp) (by simp)

theorem Phrase.function (statistic : Statistic) : Phrase [.function statistic.sqlName] :=
  .single (.inr ⟨statistic, rfl⟩) (by simp) (by simp)

mutual

/-- An expression of known operators and functions is a phrase. -/
theorem Expr.phrase (dialect : Dialect) (e : Expr) (h : e.Known) : Phrase (e.tokens dialect) := by
  cases e with
  | column table name =>
    cases table with
    | none => exact .name name
    | some table =>
      exact (Phrase.name table).append ((Phrase.name name).mark rfl (by simp) (by simp) trivial)
  | literal value => exact .literal value
  | operation sign args =>
    obtain ⟨⟨op, rfl⟩, hargs⟩ := h
    have hparts := Phrase.separatedBy (.operator op) (Expr.phraseAll dialect args hargs)
    exact hparts.parenthesized.toPhrase
  | compare relation left right =>
    exact (Expr.phrase dialect left h.1).joined (.relation relation) (Expr.phrase dialect right h.2)
  | isNull operand negated =>
    exact (Expr.phrase dialect operand h).append (Phrase.keyword _).space
  | like operand pattern negated =>
    exact .like dialect (Expr.phrase dialect operand h.1) (Expr.phrase dialect pattern h.2) negated
  | junction connective children =>
    have hparts := Phrase.separatedBy (.keyword connective.keyword)
      (Expr.phraseAll dialect children h)
    exact hparts.parenthesized.toPhrase
  | call function args distinct =>
    obtain ⟨⟨statistic, rfl⟩, hargs⟩ := h
    have hlist := Phrase.listed (Expr.phraseAll dialect args hargs)
    have hinside : Phrase ((if distinct then [.keyword .distinct, .space] else []) ++
        separated commaSpace (Expr.tokensAll dialect args)) := by
      split
      · exact (Phrase.keyword .distinct).append hlist.space
      · exact hlist
    exact Phrase.call (.function statistic) hinside
  | cases arms otherwise =>
    have hend : Clause [.space, .keyword .end] := (Phrase.keyword .end).space
    exact (((Phrase.keyword .case).append (Expr.clauseArms dialect arms h.1)).append
      (Expr.clauseAfter dialect (.keyword .else) otherwise h.2)).append hend
  | subquery query => exact (Query.phrase dialect query h).parenthesized.toPhrase
  | star => exact .single trivial (by simp) (by simp)
  | always =>
    exact (Phrase.literal (.int 1)).append
      ((Phrase.literal (.int 1)).mark rfl (by simp) (by simp) trivial)

theorem Expr.phraseAll (dialect : Dialect) (es : List Expr) (h : Expr.KnownAll es) :
    ∀ part ∈ Expr.tokensAll dialect es, Phrase part := by
  cases es with
  | nil => simp [Expr.tokensAll]
  | cons e rest =>
    rw [Expr.tokensAll, List.forall_mem_cons]
    exact ⟨Expr.phrase dialect e h.1, Expr.phraseAll dialect rest h.2⟩

theorem Expr.clauseArms (dialect : Dialect) (arms : List (Expr × Expr)) (h : Expr.KnownArms arms) :
    Clause (Expr.tokensArms dialect arms) := by
  rcases arms with _ | ⟨⟨condition, value⟩, rest⟩
  · exact .nil
  · rw [Expr.tokensArms]
    have hwhen := Phrase.lead (.keyword .when) (Expr.phrase dialect condition h.1)
    have hthen := Phrase.lead (.keyword .then) (Expr.phrase dialect value h.2.1)
    have harm := (hwhen.append hthen).append (Expr.clauseArms dialect rest h.2.2)
    rwa [← List.append_assoc] at harm

theorem Expr.clauseAfter (dialect : Dialect) {t : Token} (ht : Phrase [t]) (e : Option Expr)
    (h : Expr.KnownOption e) : Clause (Expr.tokensAfter dialect [.space, t, .space] e) := by
  cases e with
  | none => exact .nil
  | some e => exact ht.lead (Expr.phrase dialect e h)

theorem Item.phraseAll (dialect : Dialect) (items : List Item) (h : Item.KnownAll items) :
    ∀ part ∈ Item.tokensAll dialect items, Phrase part := by
  rcases items with _ | ⟨⟨expr, label⟩, rest⟩
  · simp [Item.tokensAll]
  · rw [Item.tokensAll, List.forall_mem_cons]
    refine ⟨?_, Item.phraseAll dialect rest h.2⟩
    have hexpr := Expr.phrase dialect expr h.1
    cases label with
    | none => exact hexpr
    | some title =>
      have htitle : Phrase [.label title] := .single trivial (by simp) (by simp)
      exact hexpr.append ((Phrase.keyword .as).lead htitle)

theorem Join.clauseAll (dialect : Dialect) (joins : List Join) (h : Join.KnownAll joins) :
    Clause (Join.tokensAll dialect joins) := by
  rcases joins with _ | ⟨⟨table, on⟩, rest⟩
  · exact .nil
  · have hjoin := (Phrase.keyword .join).lead (.name table)
    exact (hjoin.append (Expr.clauseAfter dialect (.keyword .on) on h.1)).append
      (Join.clauseAll dialect rest h.2)

/-- So a statement has its only semicolon at its end. -/
theorem Query.phrase (dialect : Dialect) (query : Query) (h : query.Known) :
    Phrase (query.tokens dialect) := by
  rcases query with ⟨select, source, joins, filter, groupBy⟩
  obtain ⟨hselect, hjoins, hfilter, hgroupBy⟩ := h
  have hitems : Clause (if select.isEmpty then []
      else .space :: separated commaSpace (Item.tokensAll dialect select)) := by
    split
    · exact .nil
    · exact (Phrase.listed (Item.phraseAll dialect select hselect)).space
  have hfrom : Clause (match source with
      | none => []
      | some table => [.space, .keyword .from, .space, .name table]) := by
    cases source with
    | none => exact .nil
    | some table => exact (Phrase.keyword .from).lead (.name table)
  have hgroups : Clause (if groupBy.isEmpty then []
      else [.space, .keyword .groupBy, .space] ++
        separated commaSpace (Expr.tokensAll dialect groupBy)) := by
    split
    · exact .nil
    · exact (Phrase.keyword .groupBy).lead (.listed (Expr.phraseAll dialect groupBy hgroupBy))
  exact (((((Phrase.keyword .select).append hitems).append hfrom).append
    (Join.clauseAll dialect joins hjoins)).append
    (Expr.clauseAfter dialect (.keyword .where) filter hfilter)).append hgroups

end

end Barometer.Sql
