import Mathlib.Data.List.Forall2

/-!
# Steps that can fail

A list of steps stops at the first one that fails. What every step keeps holds at the end of a run
that does not fail, and just before the step at which it fails.
-/

namespace Barometer.Outcome

variable {α β γ ε : Type}

/-- Of two steps both succeed. -/
theorem bind_eq_ok {x : Except ε α} {f : α → Except ε β} {b : β} :
    (x >>= f) = .ok b ↔ ∃ a, x = .ok a ∧ f a = .ok b := by
  cases x with
  | error e => simp [bind, Except.bind]
  | ok a => simp [bind, Except.bind]

/-- Or else one of them fails, and the second one only after the first. -/
theorem bind_eq_error {x : Except ε α} {f : α → Except ε β} {e : ε} :
    (x >>= f) = .error e ↔ x = .error e ∨ ∃ a, x = .ok a ∧ f a = .error e := by
  cases x with
  | error e' => simp [bind, Except.bind]
  | ok a => simp [bind, Except.bind]

theorem map_eq_ok {x : Except ε α} {f : α → β} {b : β} :
    x.map f = .ok b ↔ ∃ a, x = .ok a ∧ f a = b := by
  cases x with
  | error e => simp [Except.map]
  | ok a => simp [Except.map]

theorem mapError_eq_ok {ε' : Type} {x : Except ε α} {f : ε → ε'} {a : α} :
    x.mapError f = .ok a ↔ x = .ok a := by
  cases x with
  | error e => simp [Except.mapError]
  | ok b => simp [Except.mapError]

/-- Errors in other words are errors all the same. -/
theorem mapError_eq_error {ε' : Type} {x : Except ε α} {f : ε → ε'} {e : ε'} :
    x.mapError f = .error e ↔ ∃ e', x = .error e' ∧ f e' = e := by
  cases x with
  | error e' =>
    constructor
    · intro h
      exact ⟨e', rfl, Except.error.inj h⟩
    · rintro ⟨_, h, rfl⟩
      cases h
      rfl
  | ok a =>
    constructor
    · intro h
      cases h
    · rintro ⟨_, h, -⟩
      cases h

/-- Steps on changed elements give changed results, in the same places. -/
theorem mapM_map {α' β' : Type} {f : α → Except ε β} {f' : α' → Except ε β'} {g : α → α'}
    {e : β → β'} {xs : List α} (h : ∀ x ∈ xs, f' (g x) = (f x).map e) :
    (xs.map g).mapM f' = (xs.mapM f).map (List.map e) := by
  induction xs with
  | nil => rfl
  | cons x rest ih =>
    rw [List.map_cons, List.mapM_cons, List.mapM_cons, h x List.mem_cons_self,
      ih fun y hy ↦ h y (List.mem_cons_of_mem x hy)]
    rcases f x with failure | y
    · rfl
    · rcases rest.mapM f with failure | ys <;> rfl

/-- Every outcome is that of an item. -/
theorem exists_of_mem_mapM {f : α → Except ε β} {xs : List α} {ys : List β}
    (h : xs.mapM f = .ok ys) {y : β} (hy : y ∈ ys) : ∃ x ∈ xs, f x = .ok y := by
  induction xs generalizing ys with
  | nil =>
    cases h
    cases hy
  | cons x rest ih =>
    rw [List.mapM_cons, bind_eq_ok] at h
    obtain ⟨z, hz, h⟩ := h
    obtain ⟨zs, hzs, h⟩ := bind_eq_ok.mp h
    cases h
    rcases List.mem_cons.mp hy with rfl | hy
    · exact ⟨x, List.mem_cons_self, hz⟩
    · obtain ⟨x', hx', hy'⟩ := ih hzs hy
      exact ⟨x', List.mem_cons_of_mem x hx', hy'⟩

theorem exists_mem_of_mapM {f : α → Except ε β} {xs : List α} {ys : List β}
    (h : xs.mapM f = .ok ys) {x : α} (hx : x ∈ xs) : ∃ y ∈ ys, f x = .ok y := by
  induction xs generalizing ys with
  | nil => cases hx
  | cons first rest ih =>
    rw [List.mapM_cons] at h
    obtain ⟨y, hy, h⟩ := bind_eq_ok.mp h
    obtain ⟨ys', hys, h⟩ := bind_eq_ok.mp h
    cases h
    rcases List.mem_cons.mp hx with rfl | hx
    · exact ⟨y, List.mem_cons_self, hy⟩
    · obtain ⟨z, hz, hfz⟩ := ih hys hx
      exact ⟨z, List.mem_cons_of_mem y hz, hfz⟩

theorem length_of_mapM {f : α → Except ε β} {xs : List α} {ys : List β}
    (h : xs.mapM f = .ok ys) : ys.length = xs.length := by
  induction xs generalizing ys with
  | nil =>
    cases h
    rfl
  | cons x rest ih =>
    rw [List.mapM_cons, bind_eq_ok] at h
    obtain ⟨z, -, h⟩ := h
    obtain ⟨zs, hzs, h⟩ := bind_eq_ok.mp h
    cases h
    exact congrArg (· + 1) (ih hzs)

/-- A list of steps succeeds if each one does. -/
theorem exists_mapM {f : α → Except ε β} {xs : List α} (h : ∀ x ∈ xs, ∃ y, f x = .ok y) :
    ∃ ys, xs.mapM f = .ok ys := by
  induction xs with
  | nil => exact ⟨[], rfl⟩
  | cons x rest ih =>
    obtain ⟨y, hy⟩ := h x List.mem_cons_self
    obtain ⟨ys, hys⟩ := ih fun x' hx' ↦ h x' (List.mem_cons_of_mem x hx')
    exact ⟨y :: ys, by rw [List.mapM_cons, hy, hys]; rfl⟩

/-- Whether two steps give the same result, or both fail. -/
def Alike (x y : Except ε α) : Prop := ∀ a, x = .ok a ↔ y = .ok a

namespace Alike

theorem refl (x : Except ε α) : Alike x x := fun _ ↦ Iff.rfl

theorem error (e e' : ε) : Alike (.error e : Except ε α) (.error e') := fun _ ↦ by simp

/-- The steps that follow may differ as far as they are not taken. -/
theorem bind {x y : Except ε α} {f g : α → Except ε β} (h : Alike x y)
    (hfg : ∀ a, x = .ok a → Alike (f a) (g a)) : Alike (x >>= f) (y >>= g) := by
  intro b
  rw [bind_eq_ok, bind_eq_ok]
  constructor
  · rintro ⟨a, ha, hb⟩
    exact ⟨a, (h a).mp ha, (hfg a ha b).mp hb⟩
  · rintro ⟨a, ha, hb⟩
    have hx := (h a).mpr ha
    exact ⟨a, hx, (hfg a hx b).mpr hb⟩

theorem map {x y : Except ε α} (h : Alike x y) (f : α → β) : Alike (x.map f) (y.map f) := by
  intro b
  simp only [map_eq_ok, h _]

theorem ite {c : Prop} [Decidable c] {x x' y y' : Except ε α} (hx : Alike x x') (hy : Alike y y') :
    Alike (if c then x else y) (if c then x' else y') := by
  split
  · exact hx
  · exact hy

/-- Lists of steps that are alike side by side are alike. -/
theorem mapM {α' : Type} {f : α → Except ε β} {g : α' → Except ε β} {xs : List α} {ys : List α'}
    (h : List.Forall₂ (fun x y ↦ Alike (f x) (g y)) xs ys) : Alike (xs.mapM f) (ys.mapM g) := by
  induction h with
  | nil => exact .refl _
  | cons hfirst _ ih =>
    rw [List.mapM_cons, List.mapM_cons]
    exact hfirst.bind fun _ _ ↦ ih.bind fun _ _ ↦ .refl _

end Alike

section Run

variable {f : β → α → Except ε β}

/-- The steps of a run that does not fail; `kept` speaks of the steps that have been taken. -/
theorem foldlM_ok (kept : List α → β → Prop)
    (hstep : ∀ done x b b', kept done b → f b x = .ok b' → kept (done ++ [x]) b')
    {xs : List α} {b b' : β} (hb : kept [] b) (h : xs.foldlM f b = .ok b') : kept xs b' := by
  have hrun : ∀ (xs done : List α) (b : β), kept done b → xs.foldlM f b = .ok b' →
      kept (done ++ xs) b' := by
    intro xs
    induction xs with
    | nil =>
      intro done b hb h
      cases h
      simpa using hb
    | cons x rest ih =>
      intro done b hb h
      rw [List.foldlM_cons, bind_eq_ok] at h
      obtain ⟨c, hc, hrest⟩ := h
      simpa using ih (done ++ [x]) c (hstep done x b c hb hc) hrest
  exact hrun xs [] b hb h

/-- A run that fails does so at one of its steps. -/
theorem foldlM_error (kept : List α → β → Prop)
    (hstep : ∀ done x b b', kept done b → f b x = .ok b' → kept (done ++ [x]) b')
    {xs : List α} {b : β} {e : ε} (hb : kept [] b) (h : xs.foldlM f b = .error e) :
    ∃ taken x c, x ∈ xs ∧ kept taken c ∧ f c x = .error e := by
  have hrun : ∀ (xs done : List α) (b : β), kept done b → xs.foldlM f b = .error e →
      ∃ taken x c, x ∈ xs ∧ kept taken c ∧ f c x = .error e := by
    intro xs
    induction xs with
    | nil =>
      intro done b hb h
      cases h
    | cons x rest ih =>
      intro done b hb h
      rw [List.foldlM_cons, bind_eq_error] at h
      rcases h with h | ⟨c, hc, hrest⟩
      · exact ⟨done, x, b, List.mem_cons_self, hb, h⟩
      · obtain ⟨taken, y, d, hy, hd, hfail⟩ := ih (done ++ [x]) c (hstep done x b c hb hc) hrest
        exact ⟨taken, y, d, List.mem_cons_of_mem x hy, hd, hfail⟩
  exact hrun xs [] b hb h

/-- Every step of a run that does not fail is taken somewhere. -/
theorem exists_step_of_foldlM_ok {xs : List α} {b b' : β} (h : xs.foldlM f b = .ok b') {x : α}
    (hx : x ∈ xs) : ∃ c c', f c x = .ok c' := by
  induction xs generalizing b with
  | nil => cases hx
  | cons y rest ih =>
    rw [List.foldlM_cons, bind_eq_ok] at h
    obtain ⟨c, hc, hrest⟩ := h
    rcases List.mem_cons.mp hx with rfl | hx
    · exact ⟨b, c, hc⟩
    · exact ih hrest hx

end Run

end Barometer.Outcome
