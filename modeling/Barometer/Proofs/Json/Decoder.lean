import Barometer.Json.Decoder
import Barometer.Proofs.Json.Members
import Mathlib.Algebra.Group.Int.Defs

/-!
# Reading what was written

A list is read back if its items are. The fields of an object whose keys differ are found under
their names, whatever other members stand beside them.
-/

namespace Barometer.Json.Decoder

variable {α β : Type}

theorem integer_ofInt {n : Int} (h : n < 2 ^ 63) : integer (ofInt n) = .ok n :=
  if_pos h

theorem natural_ofNat (n : Nat) : natural (ofNat n) = .ok n := by
  rw [ofNat, natural, if_pos (Int.natCast_nonneg n), Int.toNat_natCast]

/-- An object with different keys is decoded as it is. -/
theorem members_object {entries : Members} (hkeys : (entries.map Prod.fst).Nodup)
    (hvalues : ∀ m ∈ entries, distinct m.2 = m.2) : members (.object entries) = .ok entries := by
  rw [members, distinctMembers_eq_self hkeys hvalues]

/-- Items that are encoded one by one are decoded in the same order. -/
theorem itemsFrom_map {decode : Json → Except Misfit α} {encode : α → Json} {xs : List α}
    (h : ∀ x ∈ xs, decode (encode x) = .ok x) (place : Nat) :
    itemsFrom decode place (xs.map encode) = .ok xs := by
  induction xs generalizing place with
  | nil => rfl
  | cons x xs ih =>
    rw [List.map_cons, itemsFrom, h x List.mem_cons_self,
      ih (fun y hy ↦ h y (List.mem_cons_of_mem x hy)) (place + 1)]
    rfl

/-- A list is read back if each of its items is. -/
theorem list_map {decode : Json → Except Misfit α} {encode : α → Json} {xs : List α}
    (h : ∀ x ∈ xs, decode (encode x) = .ok x) : list decode (.array (xs.map encode)) = .ok xs :=
  itemsFrom_map h 0

theorem list_text_ofStrings (names : List String) : list text (ofStrings names) = .ok names :=
  list_map fun _ _ ↦ rfl

theorem optional_ofOption (s : Option String) : optional text (ofOption s) = .ok s := by
  cases s <;> rfl

/-- Whether the fields of the known names are those of an object. -/
def Fields.Shows (fields : Fields) (names : List String) (entries : Members) : Prop :=
  ∀ name ∈ names, (fields.present.lookup name).map Prod.snd = get? entries name

/-- Known members are found under their keys, whatever stands between them. -/
theorem knownMembers_ok (names : List String) {entries : Members} {seen : List String}
    (hkeys : (entries.map Prod.fst).Nodup) (hseen : ∀ m ∈ entries, m.1 ∉ seen) (place : Nat) :
    ∃ present, knownMembers names place entries seen = .ok present ∧
      ∀ name ∈ names, (present.lookup name).map Prod.snd = get? entries name := by
  induction entries generalizing seen place with
  | nil => exact ⟨[], rfl, fun name hname ↦ rfl⟩
  | cons member rest ih =>
    obtain ⟨key, v⟩ := member
    obtain ⟨hkey, hkeys⟩ := List.nodup_cons.mp hkeys
    have hrest : ∀ m ∈ rest, m.1 ∉ seen := fun m hm ↦ hseen m (List.mem_cons_of_mem _ hm)
    rw [knownMembers]
    by_cases hknown : key ∈ names
    · have hrest' : ∀ m ∈ rest, m.1 ∉ key :: seen := by
        intro m hm hmem
        rcases List.mem_cons.mp hmem with hsame | hmem
        · exact hkey (List.mem_map.mpr ⟨m, hm, hsame⟩)
        · exact hrest m hm hmem
      obtain ⟨present, hpresent, hlookup⟩ := ih hkeys hrest' (place + 1)
      rw [if_neg (not_not.mpr hknown), if_neg (hseen (key, v) List.mem_cons_self), hpresent]
      refine ⟨(key, place, v) :: present, rfl, fun name hname ↦ ?_⟩
      rw [get?_cons, List.lookup_cons]
      by_cases hsame : name = key
      · simp [hsame]
      · rw [if_neg hsame, beq_false_of_ne hsame]
        exact hlookup name hname
    · obtain ⟨present, hpresent, hlookup⟩ := ih hkeys hrest (place + 1)
      rw [if_pos hknown]
      refine ⟨present, hpresent, fun name hname ↦ ?_⟩
      have hother : name ≠ key := by
        rintro rfl
        exact hknown hname
      rw [get?_cons, if_neg hother]
      exact hlookup name hname

/-- The fields of an object whose keys differ are those of its members that have a known name. -/
theorem fields_object (title : String) (names : List String) {entries : Members}
    (hkeys : (entries.map Prod.fst).Nodup) :
    ∃ f, fields title names (.object entries) = .ok f ∧ f.Shows names entries := by
  obtain ⟨present, hpresent, hlookup⟩ :=
    knownMembers_ok names hkeys (fun m hm ↦ List.not_mem_nil) 0
  rw [fields, hpresent]
  exact ⟨_, rfl, hlookup⟩

namespace Fields.Shows

variable {f : Fields} {names : List String} {entries : Members} {name : String} {v : Json}
  {decode : Json → Except Misfit α} {x : α} {absent : Except Misfit α}

/-- A field that is present is read. -/
theorem getOr_of_get? (h : f.Shows names entries) (hname : name ∈ names)
    (hentry : get? entries name = some v) (hdecode : decode v = .ok x) :
    f.getOr name decode absent = .ok x := by
  have hlookup := h name hname
  rw [hentry, Option.map_eq_some_iff] at hlookup
  obtain ⟨⟨place, w⟩, hfound, rfl⟩ := hlookup
  rw [getOr, hfound]
  change (decode w).mapError _ = _
  rw [hdecode]
  rfl

/-- A member that is not there is taken from the default. -/
theorem getOr_of_absent (h : f.Shows names entries) (hname : name ∈ names)
    (hentry : get? entries name = none) : f.getOr name decode absent = absent := by
  have hlookup := h name hname
  rw [hentry, Option.map_eq_none_iff] at hlookup
  rw [getOr, hlookup]

/-- A field that is left out without a value is read with and without one. -/
theorem getOr_optional (h : f.Shows names entries) (hname : name ∈ names) {encode : α → Json}
    {o : Option α} (hentry : get? entries name = o.map encode) (hnull : ∀ x, encode x ≠ .null)
    (hdecode : ∀ x ∈ o, decode (encode x) = .ok x) :
    f.getOr name (optional decode) (.ok none) = .ok o := by
  cases o with
  | none => exact h.getOr_of_absent hname hentry
  | some x =>
    refine h.getOr_of_get? hname hentry ?_
    rw [optional]
    · rw [hdecode x rfl]
      rfl
    · exact hnull x

end Fields.Shows

end Barometer.Json.Decoder
