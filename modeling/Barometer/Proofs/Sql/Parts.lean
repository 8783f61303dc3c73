import Barometer.Proofs.Sql.Grammar

/-!
# Reading lists back

A part is read once if nothing else of its kind begins with its tokens. Lists of such parts, with or
without separators, and clauses with such parts in them are told apart too, if what follows cannot
be taken for one more part.
-/

namespace Barometer.Sql

section Lists

variable {α β : Type}

/-- Whether everything of a kind that begins with the tokens of `a` looks the same as `a`, and what
follows it is the same too. -/
def ReadOnce (write : α → List Token) (look : α → β) (kind : α → Prop) (a : α) : Prop :=
  ∀ b, kind b → ∀ r s, write a ++ r = write b ++ s → look a = look b ∧ r = s

variable {write : α → List Token} {look : α → β} {kind : α → Prop} {as bs : List α}
  (has : ∀ a ∈ as, ReadOnce write look kind a) (hbs : ∀ b ∈ bs, kind b) {r s : List Token}

include has hbs

/-- Lists of parts are told apart, and so are their separators, if there are any. A list ends where
no separator can begin. -/
theorem read_separated {t : Token} {separator separator' : List Token}
    (hnonempty : as ≠ []) (hnonempty' : bs ≠ [])
    (h : separated (t :: separator) (as.map write) ++ r =
      separated (t :: separator') (bs.map write) ++ s)
    (hlength : separator.length = separator'.length) (hr : r.head? ≠ some t)
    (hs : s.head? ≠ some t) :
    as.map look = bs.map look ∧ r = s ∧ (as.length = 1 ∨ separator = separator') := by
  induction as generalizing bs with
  | nil => exact absurd rfl hnonempty
  | cons a rest ih =>
    rcases bs with _ | ⟨b, rest'⟩
    · exact absurd rfl hnonempty'
    have ha := has a List.mem_cons_self b (hbs b List.mem_cons_self)
    rcases rest with _ | ⟨a', rest⟩ <;> rcases rest' with _ | ⟨b', rest'⟩
    · obtain ⟨hlook, rfl⟩ := ha r s h
      exact ⟨congrArg (fun x ↦ [x]) hlook, rfl, .inl rfl⟩
    · have hone : write a ++ r = write b ++ (t :: separator' ++
          (separated (t :: separator') ((b' :: rest').map write) ++ s)) := by
        simpa [separated] using h
      have hrest := (ha _ _ hone).2
      exact absurd (by rw [hrest]; rfl) hr
    · have hone : write a ++ (t :: separator ++
          (separated (t :: separator) ((a' :: rest).map write) ++ r)) = write b ++ s := by
        simpa [separated] using h
      have hrest := (ha _ _ hone).2
      exact absurd (by rw [← hrest]; rfl) hs
    · have hfirst : write a ++ (t :: separator ++
          (separated (t :: separator) ((a' :: rest).map write) ++ r)) =
          write b ++ (t :: separator' ++
            (separated (t :: separator') ((b' :: rest').map write) ++ s)) := by
        simpa [separated] using h
      obtain ⟨hlook, htail⟩ := ha _ _ hfirst
      obtain ⟨hseparator, hrest⟩ := List.append_inj htail (congrArg (· + 1) hlength)
      cases hseparator
      obtain ⟨hmap, hrs, -⟩ := ih (fun x hx ↦ has x (List.mem_cons_of_mem a hx))
        (fun x hx ↦ hbs x (List.mem_cons_of_mem b hx)) (List.cons_ne_nil _ _)
        (List.cons_ne_nil _ _) hrest
      exact ⟨by rw [List.map_cons, hlook, hmap, ← List.map_cons], hrs, .inr rfl⟩

/-- Parts one after the other are told apart, up to where no part can begin. -/
theorem read_flatMap (hr : ∀ b, kind b → ∀ x, r ≠ write b ++ x)
    (hs : ∀ a ∈ as, ∀ x, s ≠ write a ++ x) (h : as.flatMap write ++ r = bs.flatMap write ++ s) :
    as.map look = bs.map look ∧ r = s := by
  induction as generalizing bs with
  | nil =>
    rcases bs with _ | ⟨b, rest'⟩
    · exact ⟨rfl, h⟩
    · rw [List.flatMap_cons, List.append_assoc] at h
      exact absurd h (hr b (hbs b List.mem_cons_self) _)
  | cons a rest ih =>
    rw [List.flatMap_cons, List.append_assoc] at h
    rcases bs with _ | ⟨b, rest'⟩
    · exact absurd h.symm (hs a List.mem_cons_self _)
    · rw [List.flatMap_cons, List.append_assoc] at h
      obtain ⟨hlook, htail⟩ := has a List.mem_cons_self b (hbs b List.mem_cons_self) _ _ h
      obtain ⟨hmap, hrs⟩ := ih (fun x hx ↦ has x (List.mem_cons_of_mem a hx))
        (fun x hx ↦ hbs x (List.mem_cons_of_mem b hx))
        (fun x hx ↦ hs x (List.mem_cons_of_mem a hx)) htail
      exact ⟨by rw [List.map_cons, List.map_cons, hlook, hmap], hrs⟩

end Lists

/-- The first part of a list, and what stands between it and the end. -/
theorem exists_separated (separator part : List Token) (parts : List (List Token)) :
    ∃ rest, separated separator (part :: parts) = part ++ rest ∧
      (rest = [] ∨ ∃ x, rest = separator ++ x) := by
  cases parts with
  | nil => exact ⟨[], (List.append_nil part).symm, .inl rfl⟩
  | cons other parts => exact ⟨_, List.append_assoc _ _ _, .inr ⟨_, rfl⟩⟩

section Clauses

variable {α β : Type} {write : α → List Token} {look : α → β} {kind : α → Prop}
  {r s : List Token}

theorem read_clause {word : Keyword} {o o' : Option α}
    (ho : ∀ a, o = some a → ReadOnce write look kind a) (ho' : ∀ b, o' = some b → kind b)
    (hr : ∀ x, r ≠ .space :: .keyword word :: x) (hs : ∀ x, s ≠ .space :: .keyword word :: x)
    (h : clause word write o ++ r = clause word write o' ++ s) :
    o.map look = o'.map look ∧ r = s := by
  cases o with
  | none =>
    cases o' with
    | none => exact ⟨rfl, h⟩
    | some b => exact absurd h (hr _)
  | some a =>
    cases o' with
    | none => exact absurd h.symm (hs _)
    | some b =>
      have hpart : [Token.space, .keyword word, .space] ++ (write a ++ r) =
          [Token.space, .keyword word, .space] ++ (write b ++ s) := h
      obtain ⟨hlook, hrest⟩ := ho a rfl b (ho' b rfl) r s (List.append_cancel_left hpart)
      exact ⟨congrArg some hlook, hrest⟩

theorem read_listing {lead : List Token} {as bs : List α}
    (has : ∀ a ∈ as, ReadOnce write look kind a) (hbs : ∀ b ∈ bs, kind b)
    (hr : r.head? ≠ some .comma) (hs : s.head? ≠ some .comma)
    (hr' : ∀ b ∈ bs, ∀ x, r ≠ lead ++ (write b ++ x))
    (hs' : ∀ a ∈ as, ∀ x, s ≠ lead ++ (write a ++ x))
    (h : listing lead write as ++ r = listing lead write bs ++ s) :
    as.map look = bs.map look ∧ r = s := by
  have hfirst (x : α) (xs : List α) (y : List Token) : ∃ z,
      listing lead write (x :: xs) ++ y = lead ++ (write x ++ z) := by
    obtain ⟨rest, hrest, -⟩ := exists_separated commaSpace (write x) (xs.map write)
    refine ⟨rest ++ y, ?_⟩
    rw [listing, if_neg (by simp), List.map_cons, hrest, List.append_assoc, List.append_assoc]
  rcases as with _ | ⟨a, as⟩ <;> rcases bs with _ | ⟨b, bs⟩
  · exact ⟨rfl, h⟩
  · obtain ⟨z, hz⟩ := hfirst b bs s
    rw [hz] at h
    exact absurd h (hr' b List.mem_cons_self z)
  · obtain ⟨z, hz⟩ := hfirst a as r
    rw [hz] at h
    exact absurd h.symm (hs' a List.mem_cons_self z)
  · rw [listing, listing, if_neg (by simp), if_neg (by simp), List.append_assoc,
      List.append_assoc] at h
    obtain ⟨hmap, hrest, -⟩ := read_separated has hbs (List.cons_ne_nil _ _)
      (List.cons_ne_nil _ _) (List.append_cancel_left h) rfl hr hs
    exact ⟨hmap, hrest⟩

end Clauses

end Barometer.Sql
