import Barometer.Naming.Resolution
import Barometer.Proofs.Naming.Resolution

/-!
# The newest import

A logical table is filled by the newest of the imports whose tags fit, and of several made at one
time by the one that stands last in the register. So a new import that fits takes over, and imports
that do not fit may come and go. Where none fits, the tags that there are are listed, each once and
in order.
-/

namespace Barometer

/-- A part occurs in a text where it stands in it without gaps. -/
theorem occursIn_iff (part s : List Char) : occursIn part s = true ↔ part <:+: s := by
  induction s with
  | nil => rw [occursIn, List.isEmpty_iff, List.infix_nil]
  | cons c rest ih =>
    rw [occursIn, Bool.or_eq_true, List.isPrefixOf_iff_prefix, ih, List.infix_cons_iff]

/-- Whether a tag is one that is asked for: it begins in one of the ways of a table, ends as the
period says, or as it is written if nothing is known about it, and the year stands in it. -/
structure Configuration.Fits (config : Configuration) (tags : List String) (request : Request)
    (tag : String) : Prop where
  beginning : ∃ start ∈ tags, start.toList <+: tag.toList
  ending : ∀ period, request.period = some period →
    ((config.periods.get? period).getD period).toList <:+ tag.toList
  year : ∀ year, request.year = some year → year.toList <:+: tag.toList

/-- What is tested sign by sign is whether a tag fits. -/
theorem Configuration.accepts_iff (config : Configuration) (tags : List String) (request : Request)
    (tag : String) : config.accepts tags request tag = true ↔ config.Fits tags request tag := by
  rcases request with ⟨period, year⟩
  have hbeginning : tags.any (fun start ↦ start.toList.isPrefixOf tag.toList) = true ↔
      ∃ start ∈ tags, start.toList <+: tag.toList := by
    simp only [List.any_eq_true, List.isPrefixOf_iff_prefix]
  have hfits : config.Fits tags ⟨period, year⟩ tag ↔
      (∃ start ∈ tags, start.toList <+: tag.toList) ∧
        (∀ p, period = some p → ((config.periods.get? p).getD p).toList <:+ tag.toList) ∧
        ∀ y, year = some y → y.toList <:+: tag.toList :=
    ⟨fun h ↦ ⟨h.beginning, h.ending, h.year⟩, fun h ↦ ⟨h.1, h.2.1, h.2.2⟩⟩
  rw [hfits, accepts, Bool.and_eq_true, Bool.and_eq_true, hbeginning, and_assoc]
  cases period <;> cases year <;> simp [occursIn_iff]

/-- Whether a list has the tags of a register, each once and in order. -/
def ListsTags (register : List Import) (available : List String) : Prop :=
  available.Pairwise (· < ·) ∧ ∀ tag, tag ∈ available ↔ ∃ record ∈ register, record.tag = tag

/-- Of equal tags in a row one is left. -/
theorem tagsOf.mem_firstOfRuns {tag : String} (tags : List String) :
    tag ∈ firstOfRuns tags ↔ tag ∈ tags := by
  fun_induction firstOfRuns tags with
  | case1 a rest ih => simp [ih]
  | case2 a b rest hne ih => rw [List.mem_cons, ih, ← List.mem_cons]
  | case3 tags _ => rfl

/-- Of sorted tags none is left twice. -/
theorem tagsOf.pairwise_firstOfRuns {tags : List String} (h : tags.Pairwise (· ≤ ·)) :
    (firstOfRuns tags).Pairwise (· < ·) := by
  fun_induction firstOfRuns tags with
  | case1 a rest ih => exact ih h.of_cons
  | case2 a b rest hne ih =>
    refine List.pairwise_cons.mpr ⟨fun tag htag ↦ ?_, ih h.of_cons⟩
    rw [mem_firstOfRuns] at htag
    have hb : a ≤ b := List.rel_of_pairwise_cons h List.mem_cons_self
    have htail : b ≤ tag := by
      rcases List.mem_cons.mp htag with rfl | htag
      · exact String.le_refl _
      · exact List.rel_of_pairwise_cons h.of_cons htag
    -- `a` comes before `b`, since it is not `b`
    refine String.not_le.mp fun hle ↦ hne ?_
    exact String.le_antisymm hb (String.le_trans htail hle)
  | case3 tags hshort =>
    rcases tags with _ | ⟨a, _ | ⟨b, rest⟩⟩
    · exact .nil
    · exact List.pairwise_singleton _ _
    · exact absurd rfl (hshort a b rest)

/-- A shortage names each tag once, in ascending order. -/
theorem listsTags_tagsOf (register : List Import) : ListsTags register (tagsOf register) := by
  have hsorted : ((register.map Import.tag).mergeSort fun a b ↦ decide (a ≤ b)).Pairwise
      (· ≤ ·) := by
    have htrans (a b c : String) (hab : decide (a ≤ b) = true) (hbc : decide (b ≤ c) = true) :
        decide (a ≤ c) = true :=
      decide_eq_true (String.le_trans (of_decide_eq_true hab) (of_decide_eq_true hbc))
    have htotal (a b : String) : (decide (a ≤ b) || decide (b ≤ a)) = true := by
      simpa using String.le_total a b
    exact (List.pairwise_mergeSort htrans htotal (register.map Import.tag)).imp of_decide_eq_true
  refine ⟨tagsOf.pairwise_firstOfRuns hsorted, fun tag ↦ ?_⟩
  rw [tagsOf, tagsOf.mem_firstOfRuns, List.mem_mergeSort, List.mem_map]

namespace Timestamp

variable {a b c : Timestamp}

theorem before_iff : a.before b = true ↔ a.day < b.day ∨ a.day = b.day ∧
    (a.second < b.second ∨ a.second = b.second ∧ a.nano < b.nano) := by
  simp [before]

/-- Moments are in a linear order, as far as being before goes. -/
theorem before_of_not_before (h : ¬ b.before a) (hbc : b.before c) : a.before c := by
  rw [before_iff] at *
  omega

theorem before_trans (hab : a.before b) (hbc : b.before c) : a.before c := by
  rw [before_iff] at *
  omega

theorem not_before_of_before (h : a.before b) : ¬ b.before a := by
  rw [before_iff] at *
  omega

/-- Of two different instants one is earlier. -/
theorem before_of_ne (hne : a ≠ b) (h : ¬ b.before a) : a.before b := by
  rcases a with ⟨day, second, nano⟩
  rcases b with ⟨day', second', nano'⟩
  rw [Ne, mk.injEq] at hne
  rw [before_iff] at *
  dsimp only at *
  omega

theorem ne_of_before (h : a.before b) : a ≠ b := by
  rintro rfl
  exact not_before_of_before h h

end Timestamp

/-- Whether no import of a list is later than one of them, and those behind it are all earlier. -/
def IsLatest (records : List Import) (record : Import) : Prop :=
  ∃ earlier later, records = earlier ++ record :: later ∧
    (∀ other ∈ earlier, ¬ record.time.before other.time) ∧
    ∀ other ∈ later, other.time.before record.time

/-- An earlier record in front changes nothing. -/
theorem IsLatest.cons {first record : Import} {rest : List Import} (h : IsLatest rest record)
    (hfirst : ¬ record.time.before first.time) : IsLatest (first :: rest) record := by
  obtain ⟨earlier, later, rfl, hearlier, hlater⟩ := h
  exact ⟨first :: earlier, later, rfl, List.forall_mem_cons.mpr ⟨hfirst, hearlier⟩, hlater⟩

/-- A record in front is the latest only if it is later than the latest of the rest. -/
theorem isLatest_cons {first record : Import} {rest : List Import} (h : IsLatest rest record)
    (hfirst : record.time.before first.time) : IsLatest (first :: rest) first := by
  obtain ⟨earlier, later, rfl, hearlier, hlater⟩ := h
  refine ⟨[], _, rfl, by simp, fun other hother ↦ ?_⟩
  rcases List.mem_append.mp hother with hother | hother
  · exact Timestamp.before_of_not_before (hearlier other hother) hfirst
  · rcases List.mem_cons.mp hother with rfl | hother
    · exact hfirst
    · exact Timestamp.before_trans (hlater other hother) hfirst

/-- Of records at one time the last one stays. -/
theorem isLatest_of_latest? {records : List Import} {record : Import}
    (h : latest? records = some record) : IsLatest records record := by
  induction records generalizing record with
  | nil => cases h
  | cons first rest ih =>
    rw [latest?] at h
    rcases hrest : latest? rest with _ | other
    · rw [hrest] at h
      cases h
      rw [latest?_eq_none_iff] at hrest
      exact ⟨[], [], by rw [hrest, List.nil_append], by simp, by simp⟩
    · rw [hrest] at h
      dsimp only at h
      split at h <;> rename_i hbefore <;> cases h
      · exact isLatest_cons (ih hrest) hbefore
      · exact (ih hrest).cons hbefore

/-- There is only one latest record. -/
theorem latest?_of_isLatest {records : List Import} {record : Import}
    (h : IsLatest records record) : latest? records = some record := by
  obtain ⟨earlier, later, rfl, hearlier, hlater⟩ := h
  induction earlier with
  | nil =>
    rw [List.nil_append, latest?]
    rcases hlast : latest? later with _ | other
    · rfl
    · obtain ⟨_, _, rfl, -, -⟩ := isLatest_of_latest? hlast
      exact if_pos (hlater other (by simp))
  | cons first rest ih =>
    rw [List.forall_mem_cons] at hearlier
    rw [List.cons_append, latest?, ih hearlier.2]
    exact if_neg hearlier.1

/-- Whether an import is the choice for a table: it fits, and of the others that fit none is later,
and none that stands behind it was made at the same time. -/
structure Configuration.IsNewest (config : Configuration) (tags : List String) (request : Request)
    (register : List Import) (record : Import) : Prop where
  fits : config.Fits tags request record.tag
  place : ∃ earlier later, register = earlier ++ record :: later ∧
    (∀ other ∈ earlier ++ later, config.Fits tags request other.tag →
      ¬ record.time.before other.time) ∧
    ∀ other ∈ later, config.Fits tags request other.tag → other.time ≠ record.time

namespace Configuration

variable {config : Configuration} {tags : List String} {request : Request}
  {register : List Import} {record : Import}

/-- Records of other tags have no part in the choice. -/
theorem isLatest_filter_iff :
    IsLatest (register.filter fun record ↦ config.accepts tags request record.tag) record ↔
      config.IsNewest tags request register record := by
  constructor
  · rintro ⟨earlier, later, hsplit, hearlier, hlater⟩
    obtain ⟨front, back, rfl, rfl, hback⟩ := List.filter_eq_append_iff.mp hsplit
    obtain ⟨middle, last, rfl, hmiddle, hrecord, rfl⟩ := List.filter_eq_cons_iff.mp hback
    refine ⟨(config.accepts_iff tags request _).mp hrecord, front ++ middle, last, by simp,
      fun other hother hfits ↦ ?_, fun other hother hfits ↦ ?_⟩
    · have haccepts := (config.accepts_iff tags request _).mpr hfits
      rw [List.mem_append, List.mem_append] at hother
      rcases hother with (hother | hother) | hother
      · exact hearlier other (List.mem_filter.mpr ⟨hother, haccepts⟩)
      · exact absurd haccepts (hmiddle other hother)
      · exact Timestamp.not_before_of_before
          (hlater other (List.mem_filter.mpr ⟨hother, haccepts⟩))
    · have haccepts := (config.accepts_iff tags request _).mpr hfits
      exact Timestamp.ne_of_before (hlater other (List.mem_filter.mpr ⟨hother, haccepts⟩))
  · rintro ⟨hfits, earlier, later, rfl, hnone, hbehind⟩
    have haccepts : config.accepts tags request record.tag = true :=
      (config.accepts_iff tags request _).mpr hfits
    refine ⟨_, _, by rw [List.filter_append, List.filter_cons, if_pos haccepts],
      fun other hother ↦ ?_, fun other hother ↦ ?_⟩
    · obtain ⟨hother, haccepts⟩ := List.mem_filter.mp hother
      exact hnone other (List.mem_append_left _ hother)
        ((config.accepts_iff tags request _).mp haccepts)
    · obtain ⟨hother, haccepts⟩ := List.mem_filter.mp hother
      have hfits' := (config.accepts_iff tags request _).mp haccepts
      exact Timestamp.before_of_ne (hbehind other hother hfits')
        (hnone other (List.mem_append_right _ hother) hfits')

theorem resolveTable_eq_ok_iff (name : String) :
    config.resolveTable register name tags request = .ok record ↔
      config.IsNewest tags request register record := by
  rw [← isLatest_filter_iff, resolveTable]
  constructor
  · intro h
    split at h
    · rename_i chosen hchosen
      cases h
      exact isLatest_of_latest? hchosen
    · cases h
  · intro h
    rw [latest?_of_isLatest h]

/-- A shortage tells what was asked for, and which tags there are. -/
theorem resolveTable_eq_error {name : String} {shortage : Shortage}
    (h : config.resolveTable register name tags request = .error shortage) :
    shortage = .table name tags request (tagsOf register) := by
  unfold resolveTable at h
  split at h
  · cases h
  · exact (Except.error.inj h).symm

/-- A new import that fits and is not older than the others becomes the choice. -/
theorem IsNewest.append {newcomer : Import} (hfits : config.Fits tags request newcomer.tag)
    (hrecent : ∀ other ∈ register, config.Fits tags request other.tag →
      ¬ newcomer.time.before other.time) :
    config.IsNewest tags request (register ++ [newcomer]) newcomer :=
  ⟨hfits, register, [], rfl, by rwa [List.append_nil], by simp⟩

/-- The choice does not depend on imports that do not fit. -/
theorem isNewest_insert_iff {front extra back : List Import}
    (hextra : ∀ other ∈ extra, ¬ config.Fits tags request other.tag) :
    config.IsNewest tags request (front ++ extra ++ back) record ↔
      config.IsNewest tags request (front ++ back) record := by
  have hnone : (extra.filter fun record ↦ config.accepts tags request record.tag) = [] := by
    rw [List.filter_eq_nil_iff]
    intro other hother haccepts
    exact hextra other hother ((config.accepts_iff tags request _).mp haccepts)
  rw [← isLatest_filter_iff, ← isLatest_filter_iff, List.filter_append, List.filter_append, hnone,
    List.append_nil, List.filter_append]

/-- The import of a table is the newest one that fits. There is none if and only if none fits, and
then the tags that there are are listed. A new import that fits takes over unless one that fits is
later, and imports that do not fit do not matter. -/
theorem resolveTable_newest (config : Configuration) (register : List Import) (name : String)
    (tags : List String) (request : Request) :
    (∀ record, config.resolveTable register name tags request = .ok record ↔
      config.IsNewest tags request register record) ∧
    ((∃ shortage, config.resolveTable register name tags request = .error shortage) ↔
      ∀ record ∈ register, ¬ config.Fits tags request record.tag) ∧
    (∀ shortage, config.resolveTable register name tags request = .error shortage →
      ∃ available, shortage = .table name tags request available ∧
        ListsTags register available) ∧
    (∀ newcomer, config.Fits tags request newcomer.tag →
      (∀ other ∈ register, config.Fits tags request other.tag →
        ¬ newcomer.time.before other.time) →
      config.resolveTable (register ++ [newcomer]) name tags request = .ok newcomer) ∧
    ∀ front extra back, register = front ++ back →
      (∀ other ∈ extra, ¬ config.Fits tags request other.tag) →
      ∀ record, config.resolveTable (front ++ extra ++ back) name tags request = .ok record ↔
        config.resolveTable register name tags request = .ok record := by
  refine ⟨fun record ↦ resolveTable_eq_ok_iff name, ?_, fun shortage h ↦ ?_,
    fun newcomer hfits hrecent ↦ ?_, ?_⟩
  · rw [resolveTable_error_iff]
    simp only [← accepts_iff, Bool.not_eq_true]
  · exact ⟨_, resolveTable_eq_error h, listsTags_tagsOf register⟩
  · exact (resolveTable_eq_ok_iff name).mpr (.append hfits hrecent)
  · rintro front extra back rfl hextra record
    rw [resolveTable_eq_ok_iff, resolveTable_eq_ok_iff, isNewest_insert_iff hextra]

end Configuration

namespace Promotions

def config : Configuration where
  periods := [("6_mois", "_6m")]
  tables := [("insertion", { tags := ["insertion"], columns := [] })]

def request : Request := { period := some "6_mois", year := some "2022" }

def importOf (tag table : String) (day : Int) : Import :=
  { tag, table, time := { day, second := 34200, nano := 0 } }

/-- Two imports of one kind made at the same time, and one of another period made later. -/
def register : List Import :=
  [importOf "insertion_2022_6m" "imp_1" 19500, importOf "insertion_2022_bis_6m" "imp_2" 19500,
    importOf "insertion_2022_30m" "imp_3" 19600]

/-- The last of the two is chosen, a third one made at the same time takes over, and one of another
period does not. -/
theorem resolveTable_newest_promotions :
    config.resolveTable register "insertion" ["insertion"] request =
        .ok (importOf "insertion_2022_bis_6m" "imp_2" 19500) ∧
      config.resolveTable (register ++ [importOf "insertion_2022_6m" "imp_4" 19500]) "insertion"
        ["insertion"] request = .ok (importOf "insertion_2022_6m" "imp_4" 19500) ∧
      config.resolveTable (register ++ [importOf "insertion_2022_30m" "imp_5" 19700] ++ [])
        "insertion" ["insertion"] request =
          .ok (importOf "insertion_2022_bis_6m" "imp_2" 19500) := by
  obtain ⟨hchoice, -, -, happend, hinsert⟩ :=
    config.resolveTable_newest register "insertion" ["insertion"] request
  have hother : config.accepts ["insertion"] request "insertion_2022_30m" = false := by decide
  have hnewest : config.IsNewest ["insertion"] request register
      (importOf "insertion_2022_bis_6m" "imp_2" 19500) := by
    refine ⟨(config.accepts_iff _ _ _).mp (by decide), [importOf "insertion_2022_6m" "imp_1" 19500],
      [importOf "insertion_2022_30m" "imp_3" 19600], rfl, ?_, ?_⟩
    · simp [← Configuration.accepts_iff, hother, importOf, Timestamp.before]
    · simp [← Configuration.accepts_iff, hother, importOf]
  have hchosen := (hchoice _).mpr hnewest
  refine ⟨hchosen, happend _ ((config.accepts_iff _ _ _).mp (by decide)) ?_,
    (hinsert register _ [] (List.append_nil _).symm ?_ _).mpr hchosen⟩
  · simp [← Configuration.accepts_iff, hother, register, importOf, Timestamp.before]
  · simp [← Configuration.accepts_iff, hother, importOf]

end Promotions

end Barometer
