import Barometer.Dictionary

/-!
# Reading dictionaries back

An entry that has been set is what a look-up finds, and no other key is touched. This holds for any
list of entries, in the order of their keys or not.
-/

namespace Barometer.Dictionary

@[simp] theorem get?_nil {α : Type} (key : String) : get? ([] : Dictionary α) key = none := rfl

theorem get?_cons {α : Type} (key k : String) (v : α) (rest : Dictionary α) :
    get? ((k, v) :: rest) key = if key = k then some v else get? rest key := by
  by_cases h : key = k
  · simp [get?, h]
  · simp [get?, List.lookup_cons, h, beq_false_of_ne h]

/-- Only what is in a dictionary is found in it. -/
theorem mem_of_get?_eq_some {α : Type} {key : String} {v : α} {entries : Dictionary α}
    (h : get? entries key = some v) : (key, v) ∈ entries := by
  induction entries with
  | nil => cases h
  | cons entry rest ih =>
    rcases entry with ⟨k, w⟩
    rw [get?_cons] at h
    split at h
    · rename_i hkey
      cases h
      rw [hkey]
      exact List.mem_cons_self
    · exact List.mem_cons_of_mem _ (ih h)

/-- A new entry takes the place of one with the same key, and of no other. -/
theorem get?_insert {α : Type} (key : String) (value : α) (entries : Dictionary α)
    (other : String) :
    get? (insert key value entries) other =
      if other = key then some value else get? entries other := by
  induction entries with
  | nil => rw [insert, get?_cons]
  | cons entry rest ih =>
    rcases entry with ⟨k, v⟩
    rw [insert]
    split
    · rw [get?_cons]
    · split
      · rename_i hkey
        subst hkey
        rw [get?_cons, get?_cons]
        split <;> rfl
      · rename_i hkey
        rw [get?_cons, get?_cons, ih]
        by_cases h : other = k
        · rw [if_pos h, if_pos h, if_neg (fun heq ↦ hkey (heq.symm.trans h))]
        · rw [if_neg h, if_neg h]

end Barometer.Dictionary
