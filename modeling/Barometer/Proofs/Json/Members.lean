import Barometer.Json.Basic
import Mathlib.Data.List.Basic

/-!
# Members of objects

What a name leads to after a key has been set, and objects in which every key stands once: these are
kept as they are, in their order.
-/

namespace Barometer.Json

theorem get?_cons (key k : String) (v : Json) (members : Members) :
    get? ((k, v) :: members) key = if key = k then some v else get? members key := by
  by_cases h : key = k
  · simp [get?, h]
  · simp [get?, List.lookup_cons, h, beq_false_of_ne h]

/-- A new value is found under its key, and the others are found as before. -/
theorem get?_put (key : String) (value : Json) (members : Members) (other : String) :
    get? (put key value members) other =
      if other = key then some value else get? members other := by
  induction members with
  | nil => rw [put, get?_cons]
  | cons member rest ih =>
    rcases member with ⟨k, v⟩
    rw [put]
    by_cases hkey : k = key
    · rw [if_pos hkey, get?_cons, get?_cons, hkey]
      split <;> rfl
    · rw [if_neg hkey, get?_cons, get?_cons, ih]
      by_cases h : other = k
      · rw [if_pos h, if_pos h, if_neg fun heq ↦ hkey (h.symm.trans heq)]
      · rw [if_neg h, if_neg h]

/-- A new key goes to the end. -/
theorem put_of_notMem {key : String} {members : Members} (h : key ∉ members.map Prod.fst)
    (value : Json) : put key value members = members ++ [(key, value)] := by
  induction members with
  | nil => rfl
  | cons member rest ih =>
    obtain ⟨k, v⟩ := member
    rw [List.map_cons, List.mem_cons, not_or] at h
    rw [put, if_neg fun heq ↦ h.1 heq.symm, ih h.2, List.cons_append]

theorem get?_append (l r : Members) (key : String) :
    get? (l ++ r) key = (get? l key).or (get? r key) := List.lookup_append

theorem get?_append_cons_of_ne {key other : String} (h : other ≠ key) (l r : Members) (v : Json) :
    get? (l ++ (key, v) :: r) other = get? (l ++ r) other := by
  rw [get?_append, get?_append, get?_cons, if_neg h]

/-- With different keys every member can be found. -/
theorem get?_eq_some_iff {members : Members} (hkeys : (members.map Prod.fst).Nodup) {key : String}
    {v : Json} : get? members key = some v ↔ (key, v) ∈ members := by
  induction members with
  | nil => simp [get?]
  | cons member rest ih =>
    rcases member with ⟨k, w⟩
    obtain ⟨hk, hrest⟩ := List.nodup_cons.mp hkeys
    rw [get?_cons, List.mem_cons]
    by_cases h : key = k
    · subst h
      have hnot : (key, v) ∉ rest := fun hmem ↦ hk (List.mem_map.mpr ⟨_, hmem, rfl⟩)
      simp [hnot, eq_comm]
    · simp [h, ih hrest]

/-- Where every key stands once, the order of the members has no part in what a name leads to. -/
theorem get?_eq_of_perm {members members' : Members} (h : members.Perm members')
    (hkeys : (members.map Prod.fst).Nodup) (key : String) :
    get? members key = get? members' key := by
  have hkeys' : (members'.map Prod.fst).Nodup := (h.map Prod.fst).nodup_iff.mp hkeys
  ext v
  rw [get?_eq_some_iff hkeys, get?_eq_some_iff hkeys', h.mem_iff]

/-- Keys that differ keep their places, after those that have been read. -/
theorem distinctMembers_append {done members : Members}
    (hkeys : ((done ++ members).map Prod.fst).Nodup) (hvalues : ∀ m ∈ members, distinct m.2 = m.2) :
    distinctMembers done members = done ++ members := by
  induction members generalizing done with
  | nil => rw [distinctMembers, List.append_nil]
  | cons member rest ih =>
    obtain ⟨key, v⟩ := member
    have hnew : key ∉ done.map Prod.fst := by
      rw [List.map_append, List.nodup_append] at hkeys
      exact fun hdone ↦ hkeys.2.2 key hdone key List.mem_cons_self rfl
    rw [distinctMembers, hvalues (key, v) List.mem_cons_self, put_of_notMem hnew,
      ih (by rwa [List.append_assoc]) fun m hm ↦ hvalues m (List.mem_cons_of_mem _ hm),
      List.append_assoc]
    rfl

theorem distinctMembers_eq_self {members : Members} (hkeys : (members.map Prod.fst).Nodup)
    (hvalues : ∀ m ∈ members, distinct m.2 = m.2) : distinctMembers [] members = members :=
  distinctMembers_append hkeys hvalues

theorem distinct_array_eq_self {items : List Json} (h : ∀ item ∈ items, distinct item = item) :
    distinct (.array items) = .array items := by
  rw [distinct]
  refine congrArg Json.array ?_
  induction items with
  | nil => rw [distinctItems]
  | cons item items ih =>
    rw [distinctItems, h item List.mem_cons_self,
      ih fun other hother ↦ h other (List.mem_cons_of_mem item hother)]

/-- Nothing is dropped from an object with different keys. -/
theorem distinct_object_eq_self {members : Members} (hkeys : (members.map Prod.fst).Nodup)
    (hvalues : ∀ m ∈ members, distinct m.2 = m.2) :
    distinct (.object members) = .object members := by
  rw [distinct, distinctMembers_eq_self hkeys hvalues]

end Barometer.Json
