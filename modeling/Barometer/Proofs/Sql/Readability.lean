import Barometer.Proofs.Sql.Conditions

/-!
# Reading queries back

A regular query can be told from its tokens, but for what does not show in them. Its clauses begin
with different keywords, and each is read up to the next.
-/

namespace Barometer.Sql

/-- Whether tokens begin with the end of a query, or with a clause of one of some kinds. -/
def Continues (words : List Keyword) (r : List Token) : Prop :=
  r = [] ∨ (∃ s, r = .rightParen :: s) ∨ ∃ word ∈ words, ∃ s, r = .space :: .keyword word :: s

namespace Continues

variable {α : Type} {words : List Keyword} {r : List Token}

theorem weaken (h : Continues words r) (word : Keyword) : Continues (word :: words) r := by
  rcases h with h | h | ⟨other, hmem, s, h⟩
  · exact .inl h
  · exact .inr (.inl h)
  · exact .inr (.inr ⟨other, List.mem_cons_of_mem word hmem, s, h⟩)

theorem of_keyword {word : Keyword} (s : List Token) :
    Continues (word :: words) (.space :: .keyword word :: s) :=
  .inr (.inr ⟨word, List.mem_cons_self, s, rfl⟩)

theorem clause (h : Continues words r) (word : Keyword) (write : α → List Token) (o : Option α) :
    Continues (word :: words) (Sql.clause word write o ++ r) := by
  cases o with
  | none => exact h.weaken word
  | some a => exact .of_keyword _

theorem joins (h : Continues words r) (dialect : Dialect) (joins : List Join) :
    Continues (.join :: words) (joins.flatMap (Join.tokens dialect) ++ r) := by
  rcases joins with _ | ⟨⟨table, on⟩, rest⟩
  · exact h.weaken .join
  · exact .of_keyword _

theorem listing (h : Continues words r) (word : Keyword) (write : α → List Token) (as : List α) :
    Continues (word :: words) (Sql.listing [.space, .keyword word, .space] write as ++ r) := by
  cases as with
  | nil => exact h.weaken word
  | cons a rest => exact .of_keyword _

theorem ne (h : Continues words r) {word : Keyword} (hword : word ∉ words) (x : List Token) :
    r ≠ .space :: .keyword word :: x := by
  rcases h with rfl | ⟨s, rfl⟩ | ⟨other, hmem, s, rfl⟩
  · exact nofun
  · exact nofun
  · intro heq
    cases heq
    exact hword hmem

theorem head_ne_comma (h : Continues words r) : r.head? ≠ some .comma := by
  rcases h with rfl | ⟨s, rfl⟩ | ⟨word, -, s, rfl⟩
  · exact nofun
  · exact nofun
  · exact nofun

/-- No item of a select list can begin where a clause does. -/
theorem ne_term (h : Continues words r) (hwords : .case ∉ words) {dialect : Dialect} {e : Expr}
    (he : e.IsTerm) (x : List Token) : r ≠ .space :: (e.tokens dialect ++ x) := by
  rcases h with rfl | ⟨s, rfl⟩ | ⟨word, hmem, s, rfl⟩
  · exact nofun
  · exact nofun
  · intro heq
    have hopens : (Token.keyword word).opens = false := by
      have hne : word ≠ .case := fun hcase ↦ hwords (hcase ▸ hmem)
      simpa [Token.opens] using hne
    exact he.tokens_ne hopens x s (List.tail_eq_of_cons_eq heq).symm

end Continues

/-- An item ends at a comma or at the next keyword. -/
theorem Item.readOnce {dialect : Dialect} {labelled : Bool} {item : Item}
    (hread : item.expr.ReadsAsTerm dialect) (h : item.IsRegular labelled) :
    ReadOnce (Item.tokens dialect) Item.visible (Item.IsRegular labelled) item := by
  intro item' h' r s heq
  rcases item with ⟨expr, label⟩
  rcases item' with ⟨expr', label'⟩
  have hlabels : label.isSome = label'.isSome := h.2.trans h'.2.symm
  cases label with
  | none =>
    cases label' with
    | none =>
      obtain ⟨hvisible, hrest⟩ := hread.once expr' h'.1 r s heq
      exact ⟨by rw [visible, visible, hvisible], hrest⟩
    | some title' => cases hlabels
  | some title =>
    cases label' with
    | none => cases hlabels
    | some title' =>
      rw [tokens, tokens, List.append_assoc, List.append_assoc] at heq
      obtain ⟨hvisible, hrest⟩ := hread.once expr' h'.1 _ _ heq
      cases hrest
      exact ⟨by rw [visible, visible, hvisible], rfl⟩

theorem Join.readOnce {dialect : Dialect} {join : Join} (h : join.IsLinked) :
    ReadOnce (Join.tokens dialect) Join.visible Join.IsLinked join := by
  intro join' h' r s heq
  rcases join with ⟨table, on⟩
  rcases join' with ⟨table', on'⟩
  obtain ⟨_, rfl, left, leftColumn, right, rightColumn, rfl⟩ := h
  obtain ⟨_, rfl, left', leftColumn', right', rightColumn', rfl⟩ := h'
  cases heq
  exact ⟨rfl, rfl⟩

theorem readOnce_table (table : String) :
    ReadOnce (fun table ↦ [Token.name table]) id (fun _ ↦ True) table := by
  intro table' _ r s h
  cases h
  exact ⟨rfl, rfl⟩

theorem Item.exists_tokens (dialect : Dialect) (item : Item) :
    ∃ rest, item.tokens dialect = item.expr.tokens dialect ++ rest := by
  rcases item with ⟨expr, label⟩
  cases label with
  | none => exact ⟨[], (List.append_nil _).symm⟩
  | some title => exact ⟨_, rfl⟩

/-- No item can begin where a clause does. -/
theorem Continues.ne_item {words : List Keyword} {r : List Token} (h : Continues words r)
    (hwords : .case ∉ words) (dialect : Dialect) {item : Item} (hitem : item.expr.IsTerm)
    (x : List Token) : r ≠ [.space] ++ (item.tokens dialect ++ x) := by
  obtain ⟨rest, hrest⟩ := item.exists_tokens dialect
  rw [hrest, List.append_assoc]
  exact h.ne_term hwords hitem _

theorem Continues.ne_join {words : List Keyword} {r : List Token} (h : Continues words r)
    (hwords : .join ∉ words) (dialect : Dialect) (join : Join) (x : List Token) :
    r ≠ join.tokens dialect ++ x := by
  rcases join with ⟨table, on⟩
  exact h.ne hwords _

/-- The clauses of a query are read from the left, each up to the next. -/
theorem Query.read {dialect : Dialect} {labelled : Bool} {query query' : Query}
    (h : query.IsRegular labelled) (h' : query'.IsRegular labelled)
    (hselect : ∀ item ∈ query.select, item.expr.ReadsAsTerm dialect)
    (hfilter : ∀ c, query.filter = some c → c.ReadsAsCondition dialect)
    (hgroupBy : ∀ e ∈ query.groupBy, e.ReadsAsTerm dialect) {r s : List Token}
    (hr : Continues [] r) (hs : Continues [] s)
    (heq : query.body dialect ++ r = query'.body dialect ++ s) :
    query.visible = query'.visible ∧ r = s := by
  rcases query with ⟨select, source, joins, filter, groupBy⟩
  rcases query' with ⟨select', source', joins', filter', groupBy'⟩
  obtain ⟨hitems, hjoins, hcondition, hgroups⟩ := h
  obtain ⟨hitems', hjoins', hcondition', hgroups'⟩ := h'
  rw [Item.allRegular_iff] at hitems hitems'
  rw [Expr.allTerms_iff] at hgroups hgroups'
  -- What begins behind each clause, from the last one to the first.
  have hr₁ := hr.listing .groupBy (Expr.tokens dialect) groupBy
  have hs₁ := hs.listing .groupBy (Expr.tokens dialect) groupBy'
  have hr₂ := hr₁.clause .where (Expr.tokens dialect) filter
  have hs₂ := hs₁.clause .where (Expr.tokens dialect) filter'
  have hr₃ := hr₂.joins dialect joins
  have hs₃ := hs₂.joins dialect joins'
  have hr₄ := hr₃.clause .from (fun table ↦ [.name table]) source
  have hs₄ := hs₃.clause .from (fun table ↦ [.name table]) source'
  simp only [body, List.append_assoc] at heq
  obtain ⟨hselect', heq⟩ := read_listing
    (fun item hitem ↦ Item.readOnce (hselect item hitem) (hitems item hitem)) hitems'
    hr₄.head_ne_comma hs₄.head_ne_comma
    (fun item hitem ↦ hr₄.ne_item (by decide) dialect (hitems' item hitem).1)
    (fun item hitem ↦ hs₄.ne_item (by decide) dialect (hitems item hitem).1) heq
  obtain ⟨hsource, heq⟩ := read_clause (fun table _ ↦ readOnce_table table) (fun _ _ ↦ trivial)
    (hr₃.ne (by decide)) (hs₃.ne (by decide)) heq
  obtain ⟨hjoin, heq⟩ := read_flatMap (fun join hjoin ↦ Join.readOnce (hjoins join hjoin)) hjoins'
    (fun join _ ↦ hr₂.ne_join (by decide) dialect join)
    (fun join _ ↦ hs₂.ne_join (by decide) dialect join) heq
  obtain ⟨hfilter', heq⟩ := read_clause (fun c hc ↦ (hfilter c hc).once)
    (fun c hc ↦ (Expr.optionCondition_iff _).mp hcondition' c hc)
    (hr₁.ne (by decide)) (hs₁.ne (by decide)) heq
  obtain ⟨hgroupBy', heq⟩ := read_listing (fun e he ↦ (hgroupBy e he).once) hgroups'
    hr.head_ne_comma hs.head_ne_comma (fun e _ x ↦ hr.ne (by decide) _)
    (fun e _ x ↦ hs.ne (by decide) _) heq
  rw [Option.map_id, id, id] at hsource
  refine ⟨?_, heq⟩
  simp only [visible, Item.visibleAll_eq_map, Join.visibleAll_eq_map, Expr.visibleAll_eq_map,
    Expr.visibleOption_eq_map, hselect', hsource, hjoin, hfilter', hgroupBy']

mutual

/-- Each term is read in one way, however many are within it. -/
theorem Expr.readsAsTerm (dialect : Dialect) (e : Expr) (h : e.IsTerm) :
    e.ReadsAsTerm dialect := by
  cases e with
  | column table name =>
    cases (h : table = none)
    exact .atom rfl rfl
  | literal value => exact .atom rfl rfl
  | operation sign args =>
    exact .operation h.1 ((Expr.allTerms_iff args).mp h.2)
      (Expr.readsAsTerm_of_mem dialect args h.2)
  | call function args distinct =>
    exact .call h.1 ((Expr.allTerms_iff args).mp h.2)
      (Expr.readsAsTerm_of_mem dialect args h.2)
  | cases arms otherwise =>
    cases h.2
    have harms := Expr.reads_of_mem_arms dialect arms h.1
    exact .cases (fun arm harm ↦ (harms arm harm).1) fun arm harm ↦ (harms arm harm).2
  | subquery query =>
    refine .subquery fun query' h' r s heq ↦ ?_
    obtain ⟨hvisible, hrest⟩ := Query.reads dialect query h h' (.inr (.inl ⟨r, rfl⟩))
      (.inr (.inl ⟨s, rfl⟩)) heq
    exact ⟨hvisible, List.tail_eq_of_cons_eq hrest⟩
  | star => exact .atom rfl rfl
  | _ => exact h.elim

theorem Expr.readsAsCondition (dialect : Dialect) (c : Expr) (h : c.IsCondition) :
    c.ReadsAsCondition dialect := by
  cases c with
  | compare relation left right =>
    exact .compare h (Expr.readsAsTerm dialect left h.1)
      (Expr.readsAsTerm dialect right h.2)
  | isNull operand negated =>
    exact .isNull h (Expr.readsAsTerm dialect operand h)
  | like operand pattern negated =>
    exact .like h (Expr.readsAsTerm dialect operand h.1)
      (Expr.readsAsTerm dialect pattern h.2)
  | junction connective children =>
    exact .junction h (Expr.readsAsCondition_of_mem dialect children h.2)
  | always => exact .always
  | _ => exact h.elim

theorem Expr.readsAsTerm_of_mem (dialect : Dialect) (es : List Expr) (h : Expr.AllTerms es) :
    ∀ e ∈ es, e.ReadsAsTerm dialect := by
  cases es with
  | nil => exact fun e he ↦ absurd he List.not_mem_nil
  | cons e rest =>
    exact List.forall_mem_cons.mpr
      ⟨Expr.readsAsTerm dialect e h.1, Expr.readsAsTerm_of_mem dialect rest h.2⟩

theorem Expr.readsAsCondition_of_mem (dialect : Dialect) (cs : List Expr)
    (h : Expr.AllConditions cs) : ∀ c ∈ cs, c.ReadsAsCondition dialect := by
  cases cs with
  | nil => exact fun c hc ↦ absurd hc List.not_mem_nil
  | cons c rest =>
    exact List.forall_mem_cons.mpr
      ⟨Expr.readsAsCondition dialect c h.1, Expr.readsAsCondition_of_mem dialect rest h.2⟩

theorem Expr.reads_of_mem_arms (dialect : Dialect) (arms : List (Expr × Expr))
    (h : Expr.AllArms arms) :
    ∀ arm ∈ arms, arm.1.ReadsAsCondition dialect ∧ arm.2.ReadsAsTerm dialect := by
  rcases arms with _ | ⟨⟨condition, value⟩, rest⟩
  · exact fun arm harm ↦ absurd harm List.not_mem_nil
  · exact List.forall_mem_cons.mpr
      ⟨⟨Expr.readsAsCondition dialect condition h.1, Expr.readsAsTerm dialect value h.2.1⟩,
        Expr.reads_of_mem_arms dialect rest h.2.2⟩

theorem Expr.readsAsCondition_of_option (dialect : Dialect) (o : Option Expr)
    (h : Expr.OptionCondition o) : ∀ c, o = some c → c.ReadsAsCondition dialect := by
  cases o with
  | none => exact nofun
  | some c =>
    rintro _ ⟨⟩
    exact Expr.readsAsCondition dialect c h

theorem Item.readsAsTerm_of_mem (dialect : Dialect) {labelled : Bool} (items : List Item)
    (h : Item.AllRegular labelled items) : ∀ item ∈ items, item.expr.ReadsAsTerm dialect := by
  rcases items with _ | ⟨⟨expr, label⟩, rest⟩
  · exact fun item hitem ↦ absurd hitem List.not_mem_nil
  · exact List.forall_mem_cons.mpr
      ⟨Expr.readsAsTerm dialect expr h.1.1, Item.readsAsTerm_of_mem dialect rest h.2⟩

/-- A query without anything behind it that could go on is read in one way. -/
theorem Query.reads (dialect : Dialect) {labelled : Bool} (query : Query)
    (h : query.IsRegular labelled) {query' : Query} (h' : query'.IsRegular labelled)
    {r s : List Token} (hr : Continues [] r) (hs : Continues [] s)
    (heq : query.body dialect ++ r = query'.body dialect ++ s) :
    query.visible = query'.visible ∧ r = s := by
  rcases query with ⟨select, source, joins, filter, groupBy⟩
  exact Query.read h h' (Item.readsAsTerm_of_mem dialect select h.1)
    (Expr.readsAsCondition_of_option dialect filter h.2.2.1)
    (Expr.readsAsTerm_of_mem dialect groupBy h.2.2.2) hr hs heq

end

/-- Regular queries with the same tokens look the same. -/
theorem Query.tokens_eq_iff {dialect : Dialect} {labelled : Bool} {query query' : Query}
    (h : query.IsRegular labelled) (h' : query'.IsRegular labelled) :
    query.tokens dialect = query'.tokens dialect ↔ query.visible = query'.visible := by
  constructor
  · intro htokens
    rw [query.tokens_eq, query'.tokens_eq] at htokens
    have hbody : query.body dialect ++ [] = query'.body dialect ++ [] :=
      congrArg (· ++ []) (List.tail_eq_of_cons_eq htokens)
    exact (Query.reads dialect query h h' (.inl rfl) (.inl rfl) hbody).1
  · intro hvisible
    rw [← query.tokens_visible, hvisible, query'.tokens_visible]

end Barometer.Sql
