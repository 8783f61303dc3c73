import Barometer.Naming.Resolution
import Barometer.Proofs.Imports.Timestamp

/-!
# Imports that have been recorded

The register returns what was put into it, in the order in which it was put there. Of times it keeps
whole seconds, so that imports at whole seconds are found again as if they had never been stored.
-/

namespace Barometer

namespace Timestamp

/-- Whether an instant is the beginning of a second, which may be a leap second. -/
def IsWhole (t : Timestamp) : Prop :=
  t.nano = 0 ∨ t.nano = 1000000000 ∧ t.second % 60 = 59

theorem IsWhole.wholeSecond_eq {t : Timestamp} (h : t.IsWhole) : t.wholeSecond = t := by
  rcases h with hnano | ⟨hnano, hend⟩
  · unfold wholeSecond
    split
    · rw [hnano, Nat.zero_div, Nat.zero_mul, ← hnano]
    · rw [hnano, Nat.zero_div, Nat.add_zero, ← hnano]
  · rw [wholeSecond, if_pos hend, hnano, ← hnano, Nat.div_mul_cancel ⟨1, by rw [hnano]⟩]

/-- Whether an instant can be told from its stored form, apart from the fraction of its second. -/
structure IsStorable (t : Timestamp) : Prop where
  year : t.HasPlainYear
  clock : t.IsClock

end Timestamp

namespace Import

/-- An import at the whole second of its time. -/
def atWholeSecond (record : Import) : Import := { record with time := record.time.wholeSecond }

/-- A record comes back from the register at the second in which it was made. -/
theorem load_stored {record : Import} (h : record.time.IsStorable) :
    record.stored.load = record.atWholeSecond := by
  rw [stored, StoredImport.load, Timestamp.ofText?_storedText h.year h.clock]
  rfl

end Import

namespace StoredRegister

/-- A new record comes last, and those before it are what they were. -/
theorem load_record (register : StoredRegister) {item : Import} (h : item.time.IsStorable) :
    load (register.record item) = load register ++ [item.atWholeSecond] := by
  rw [load, record, Option.getD_some, List.map_append, List.map_singleton, Import.load_stored h]
  rfl

/-- Whatever a register holds, the imports recorded later follow it. -/
theorem load_foldl_record (register : StoredRegister) {items : List Import}
    (h : ∀ item ∈ items, item.time.IsStorable) :
    load (items.foldl record register) = load register ++ items.map Import.atWholeSecond := by
  induction items generalizing register with
  | nil => exact (List.append_nil _).symm
  | cons item rest ih =>
    rw [List.foldl_cons, ih _ fun other hother ↦ h other (List.mem_cons_of_mem _ hother),
      load_record register (h item List.mem_cons_self), List.append_assoc]
    rfl

/-- The imports recorded in an empty database are loaded in their order, each at its whole second,
and if all of them were at whole seconds then every table is resolved as by the imports
themselves. -/
theorem load_recorded {items : List Import} (h : ∀ item ∈ items, item.time.IsStorable) :
    load (items.foldl record none) = items.map Import.atWholeSecond ∧
      ((∀ item ∈ items, item.time.IsWhole) →
        ∀ (config : Configuration) (name : String) (tags : List String) (request : Request),
          config.resolveTable (load (items.foldl record none)) name tags request =
            config.resolveTable items name tags request) := by
  have hload : load (items.foldl record none) = items.map Import.atWholeSecond :=
    load_foldl_record none h
  refine ⟨hload, fun hwhole config name tags request ↦ ?_⟩
  have hsame : ∀ item ∈ items, item.atWholeSecond = item := by
    intro item hitem
    rw [Import.atWholeSecond, (hwhole item hitem).wholeSecond_eq]
  rw [hload, List.map_congr_left hsame, List.map_id']

end StoredRegister

namespace Ides

def early : Import where
  tag := "senat_44"
  table := "imp_1"
  time := { day := -703383, second := 36005, nano := 250000000 }

def leap : Import where
  tag := "senat_2016"
  table := "imp_2"
  time := { day := 17166, second := 86399, nano := 1000000000 }

/-- Two imports of one kind: one in the year 44, and one in a leap second. -/
theorem load_recorded_ides :
    ((∀ item ∈ [early, leap], item.time.IsStorable) ∧
      StoredRegister.load ([early, leap].foldl StoredRegister.record none) =
        [{ early with time := { early.time with nano := 0 } }, leap]) ∧
    ∀ (config : Configuration) (name : String) (tags : List String) (request : Request),
      config.resolveTable (StoredRegister.load ([leap].foldl StoredRegister.record none)) name tags
        request = config.resolveTable [leap] name tags request := by
  have hearly : early.time.IsStorable := ⟨⟨by decide, by decide⟩, ⟨by decide, by decide⟩⟩
  have hleap : leap.time.IsStorable := ⟨⟨by decide, by decide⟩, ⟨by decide, by decide⟩⟩
  have hboth : ∀ item ∈ [early, leap], item.time.IsStorable := by
    simp [hearly, hleap]
  have hlast : ∀ item ∈ [leap], item.time.IsStorable ∧ item.time.IsWhole := by
    intro item hitem
    cases List.mem_singleton.mp hitem
    exact ⟨hleap, .inr ⟨rfl, rfl⟩⟩
  exact ⟨⟨hboth, (StoredRegister.load_recorded hboth).1⟩,
    (StoredRegister.load_recorded fun item hitem ↦ (hlast item hitem).1).2
      fun item hitem ↦ (hlast item hitem).2⟩

end Ides

end Barometer
