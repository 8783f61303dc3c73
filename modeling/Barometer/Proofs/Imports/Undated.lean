import Barometer.Proofs.Naming.Newest
import Barometer.Proofs.Outcome
import Barometer.Store.Table

/-!
# Times that cannot be read

A row of the register whose time cannot be read is loaded all the same, as if it had been made at
the epoch. So it gives way to every import made later, but it takes the place of an import made
before the epoch, and of one made at the epoch that stands before it.
-/

namespace Barometer

namespace StoredImport

/-- What a row is loaded as: its tag, its table, and the instant of its time, for which the epoch
stands if there is none. -/
structure LoadsAs (row : StoredImport) (record : Import) : Prop where
  tag : record.tag = row.tag
  table : record.table = row.table
  dated : ∀ t, Timestamp.ofText? row.time = some t → record.time = t
  undated : Timestamp.ofText? row.time = none → record.time = .epoch

variable {row : StoredImport}

theorem load_tag (row : StoredImport) : row.load.tag = row.tag := rfl

theorem load_time (row : StoredImport) :
    row.load.time = (Timestamp.ofText? row.time).getD .epoch := by
  rw [load]

theorem load_dated {t : Timestamp} (h : Timestamp.ofText? row.time = some t) :
    row.load.time = t := by
  rw [load, h, Option.getD_some]

theorem load_undated (h : Timestamp.ofText? row.time = none) : row.load.time = .epoch := by
  rw [load, h, Option.getD_none]

theorem loadsAs_iff {record : Import} : row.LoadsAs record ↔ row.load = record := by
  constructor
  · rintro ⟨htag, htable, hdated, hundated⟩
    have htime : (Timestamp.ofText? row.time).getD .epoch = record.time := by
      cases h : Timestamp.ofText? row.time with
      | none => rw [hundated h, Option.getD_none]
      | some t => rw [hdated t h, Option.getD_some]
    rw [load, htime, ← htag, ← htable]
  · rintro rfl
    exact ⟨rfl, rfl, fun t ↦ load_dated, load_undated⟩

end StoredImport

namespace Store.Database

/-- Rows of texts are read one by one. -/
theorem register_of_find? {db : Database} {rows : List StoredImport}
    (h : db.tables.find? (fun table ↦ table.name = registerName) = some (registerTable rows)) :
    db.register = .ok (rows.map StoredImport.load) := by
  have hcolumns : (registerColumns.all fun column ↦
      (registerTable rows).columns.any (sameName column)) = true := by
    change (registerColumns.all fun column ↦ registerColumns.any (sameName column)) = true
    decide
  have hrows : (registerTable rows).rows.mapM (readImport (registerTable rows)) = .ok rows := by
    have hread : ∀ row ∈ rows, readImport (registerTable rows)
        [.text row.tag, .text row.table, .text row.time] = (pure row : Except Cause _).map id :=
      fun row _ ↦ rfl
    calc
      _ = (rows.mapM (pure : _ → Except Cause StoredImport)).map (List.map id) :=
        Outcome.mapM_map hread
      _ = .ok rows := by
        rw [List.mapM_pure, List.map_id']
        exact congrArg Except.ok (List.map_id rows)
  rw [register, h]
  dsimp only
  rw [readImports, if_pos hcolumns, hrows]
  rfl

end Store.Database

namespace Configuration

variable {config : Configuration} {tags : List String} {request : Request}
  {rows earlier later : List StoredImport} {row : StoredImport} {record : Import}

/-- Whether a row goes before the rows that fit, which stand before and behind it. One with an
instant has to be as late as those before it and later than those behind it, where the epoch stands
for times that cannot be read. One without an instant stands at the epoch: none before it may lie
after the epoch, and all behind it have to lie before the epoch. -/
inductive Prevails (config : Configuration) (tags : List String) (request : Request)
    (earlier : List StoredImport) (row : StoredImport) (later : List StoredImport) : Prop
  | dated {t : Timestamp} (htime : Timestamp.ofText? row.time = some t)
      (hearlier : ∀ other ∈ earlier, config.Fits tags request other.tag →
        ¬ t.before ((Timestamp.ofText? other.time).getD .epoch))
      (hlater : ∀ other ∈ later, config.Fits tags request other.tag →
        ((Timestamp.ofText? other.time).getD .epoch).before t)
  | undated (htime : Timestamp.ofText? row.time = none)
      (hearlier : ∀ other ∈ earlier, config.Fits tags request other.tag →
        ∀ t, Timestamp.ofText? other.time = some t → ¬ Timestamp.epoch.before t)
      (hlater : ∀ other ∈ later, config.Fits tags request other.tag →
        ∃ t, Timestamp.ofText? other.time = some t ∧ t.before .epoch)

theorem not_epoch_before_epoch : ¬ Timestamp.epoch.before .epoch := by
  decide

/-- A row prevails if no fitting one before it is later, and all fitting ones after it are earlier.
-/
theorem prevails_iff : config.Prevails tags request earlier row later ↔
    (∀ other ∈ earlier, config.Fits tags request other.tag →
      ¬ row.load.time.before other.load.time) ∧
    ∀ other ∈ later, config.Fits tags request other.tag →
      other.load.time.before row.load.time := by
  constructor
  · rintro (⟨htime, hearlier, hlater⟩ | ⟨htime, hearlier, hlater⟩)
    · simp only [← StoredImport.load_time] at hearlier hlater
      rw [StoredImport.load_dated htime]
      exact ⟨hearlier, hlater⟩
    · rw [StoredImport.load_undated htime]
      refine ⟨fun other hother hfits ↦ ?_, fun other hother hfits ↦ ?_⟩
      · cases hread : Timestamp.ofText? other.time with
        | none =>
          rw [StoredImport.load_undated hread]
          exact not_epoch_before_epoch
        | some t =>
          rw [StoredImport.load_dated hread]
          exact hearlier other hother hfits t hread
      · obtain ⟨t, hread, hbefore⟩ := hlater other hother hfits
        rwa [StoredImport.load_dated hread]
  · rintro ⟨hearlier, hlater⟩
    cases htime : Timestamp.ofText? row.time with
    | some t =>
      rw [StoredImport.load_dated htime] at hearlier hlater
      simp only [StoredImport.load_time] at hearlier hlater
      exact .dated htime hearlier hlater
    | none =>
      rw [StoredImport.load_undated htime] at hearlier hlater
      refine .undated htime (fun other hother hfits t hread ↦ ?_) fun other hother hfits ↦ ?_
      · rw [← StoredImport.load_dated hread]
        exact hearlier other hother hfits
      · have hbefore := hlater other hother hfits
        cases hread : Timestamp.ofText? other.time with
        | none =>
          rw [StoredImport.load_undated hread] at hbefore
          exact absurd hbefore not_epoch_before_epoch
        | some t =>
          rw [StoredImport.load_dated hread] at hbefore
          exact ⟨t, rfl, hbefore⟩

/-- The newest of some records is what one of the rows loads as, and this row prevails. -/
theorem isNewest_map_load_iff :
    config.IsNewest tags request (rows.map StoredImport.load) record ↔
      ∃ earlier row later, rows = earlier ++ row :: later ∧ row.load = record ∧
        config.Fits tags request row.tag ∧ config.Prevails tags request earlier row later := by
  constructor
  · rintro ⟨hfits, front, back, hsplit, hnone, hbehind⟩
    obtain ⟨earlier, tail, rfl, rfl, htail⟩ := List.map_eq_append_iff.mp hsplit
    obtain ⟨row, later, rfl, rfl, rfl⟩ := List.map_eq_cons_iff.mp htail
    have hmem {other : StoredImport} (hother : other ∈ earlier ∨ other ∈ later) :
        other.load ∈ earlier.map StoredImport.load ++ later.map StoredImport.load :=
      List.mem_append.mpr (hother.imp List.mem_map_of_mem List.mem_map_of_mem)
    refine ⟨earlier, row, later, rfl, rfl, hfits, prevails_iff.mpr
      ⟨fun other hother hfits' ↦ ?_, fun other hother hfits' ↦ ?_⟩⟩
    · rw [← StoredImport.load_tag] at hfits'
      exact hnone other.load (hmem (.inl hother)) hfits'
    · rw [← StoredImport.load_tag] at hfits'
      exact Timestamp.before_of_ne (hbehind other.load (List.mem_map_of_mem hother) hfits')
        (hnone other.load (hmem (.inr hother)) hfits')
  · rintro ⟨earlier, row, later, rfl, rfl, hfits, hprevails⟩
    obtain ⟨hearlier, hlater⟩ := prevails_iff.mp hprevails
    refine ⟨hfits, earlier.map StoredImport.load, later.map StoredImport.load, by simp,
      fun record hrecord ↦ ?_, fun record hrecord hfits' ↦ ?_⟩
    · rw [← List.map_append] at hrecord
      obtain ⟨other, hother, rfl⟩ := List.mem_map.mp hrecord
      intro hfits'
      rw [StoredImport.load_tag] at hfits'
      rcases List.mem_append.mp hother with hother | hother
      · exact hearlier other hother hfits'
      · exact Timestamp.not_before_of_before (hlater other hother hfits')
    · obtain ⟨other, hother, rfl⟩ := List.mem_map.mp hrecord
      rw [StoredImport.load_tag] at hfits'
      exact Timestamp.ne_of_before (hlater other hother hfits')

/-- A row that fits and whose time is read as an instant after the epoch is enough for the choice to
have an instant. -/
theorem Prevails.dated_of_epoch_before (h : config.Prevails tags request earlier row later)
    {other : StoredImport} (hother : other ∈ earlier ++ row :: later)
    (hfits : config.Fits tags request other.tag) {t : Timestamp}
    (hread : Timestamp.ofText? other.time = some t) (ht : Timestamp.epoch.before t) :
    ∃ instant, Timestamp.ofText? row.time = some instant := by
  cases h with
  | @dated instant htime _ _ => exact ⟨instant, htime⟩
  | undated htime hearlier hlater =>
    rcases List.mem_append.mp hother with hother | hother
    · exact absurd ht (hearlier other hother hfits t hread)
    · rcases List.mem_cons.mp hother with rfl | hother
      · exact ⟨t, hread⟩
      · obtain ⟨t', hread', hbefore⟩ := hlater other hother hfits
        cases hread.symm.trans hread'
        exact absurd hbefore (Timestamp.not_before_of_before ht)

end Configuration

/-- A register of texts is loaded row by row. The row that is chosen is the one that prevails over
the others that fit, and it has an instant if one of them lies after the epoch. -/
theorem Store.Database.register_undated {db : Database} {rows : List StoredImport}
    (h : db.tables.find? (fun table ↦ table.name = registerName) = some (registerTable rows)) :
    ∃ register, db.register = .ok register ∧ List.Forall₂ StoredImport.LoadsAs rows register ∧
      ∀ (config : Configuration) (name : String) (tags : List String) (request : Request),
        (∀ record, config.resolveTable register name tags request = .ok record ↔
          ∃ earlier row later, rows = earlier ++ row :: later ∧ row.LoadsAs record ∧
            config.Fits tags request row.tag ∧
              config.Prevails tags request earlier row later) ∧
        ∀ other ∈ rows, config.Fits tags request other.tag →
          ∀ t, Timestamp.ofText? other.time = some t → Timestamp.epoch.before t →
            ∃ record, config.resolveTable register name tags request = .ok record ∧
              ∃ row ∈ rows, row.LoadsAs record ∧ config.Fits tags request row.tag ∧
                ∃ instant, Timestamp.ofText? row.time = some instant := by
  have hchoice (config : Configuration) (name : String) (tags : List String) (request : Request)
      (record : Import) :
      config.resolveTable (rows.map StoredImport.load) name tags request = .ok record ↔
        ∃ earlier row later, rows = earlier ++ row :: later ∧ row.LoadsAs record ∧
          config.Fits tags request row.tag ∧ config.Prevails tags request earlier row later := by
    simp only [Configuration.resolveTable_eq_ok_iff, Configuration.isNewest_map_load_iff,
      StoredImport.loadsAs_iff]
  refine ⟨rows.map StoredImport.load, register_of_find? h, ?_, fun config name tags request ↦
    ⟨hchoice config name tags request, fun other hother hfits t hread ht ↦ ?_⟩⟩
  · rw [List.forall₂_map_right_iff, List.forall₂_same]
    exact fun row _ ↦ StoredImport.loadsAs_iff.mpr rfl
  · cases hresolve : config.resolveTable (rows.map StoredImport.load) name tags request with
    | error shortage =>
      have hnone : config.accepts tags request other.tag = false :=
        Configuration.resolveTable_error_iff.mp ⟨shortage, hresolve⟩ other.load
          (List.mem_map_of_mem hother)
      rw [← Configuration.accepts_iff, hnone] at hfits
      cases hfits
    | ok record =>
      obtain ⟨earlier, row, later, rfl, hloads, hfits', hprevails⟩ :=
        (hchoice config name tags request record).mp hresolve
      exact ⟨record, rfl, row, by simp, hloads, hfits',
        hprevails.dated_of_epoch_before hother hfits hread ht⟩

namespace Centuries

/-- An import with a year of two digits, the first of three of one kind. -/
def early : StoredImport := { tag := "insertion", table := "imp_1", time := "24-03-01 10:00:00" }

def undated : StoredImport := { tag := "insertion", table := "imp_2", time := "hier" }

def late : StoredImport := { tag := "insertion", table := "imp_3", time := "2024-03-01 10:00:00" }

def database (rows : List StoredImport) : Store.Database where
  tables := [Store.Database.registerTable rows]

theorem find?_registerTable (rows : List StoredImport) :
    (database rows).tables.find? (fun table ↦ table.name = Store.Database.registerName) =
      some (Store.Database.registerTable rows) :=
  rfl

theorem fits_insertion : Configuration.empty.Fits ["insertion"] .any "insertion" :=
  (Configuration.accepts_iff _ _ _ _).mp (by decide)

theorem ofText?_early :
    Timestamp.ofText? early.time = some { day := -710702, second := 36000, nano := 0 } := by
  decide +kernel

theorem ofText?_undated : Timestamp.ofText? undated.time = none := by
  decide +kernel

/-- The import of this century is chosen, whatever stands behind it. -/
theorem register_undated_late :
    ∃ register, (database [late, early, undated]).register = .ok register ∧
      Configuration.empty.resolveTable register "diplomes" ["insertion"] .any =
        .ok { tag := "insertion", table := "imp_3",
              time := { day := 19783, second := 36000, nano := 0 } } := by
  have hread : Timestamp.ofText? late.time = some { day := 19783, second := 36000, nano := 0 } := by
    decide +kernel
  obtain ⟨register, hregister, -, hchoice⟩ :=
    Store.Database.register_undated (find?_registerTable [late, early, undated])
  refine ⟨register, hregister, ((hchoice .empty "diplomes" ["insertion"] .any).1 _).mpr
    ⟨[], late, [early, undated], rfl, ?_, fits_insertion, .dated hread (by simp) ?_⟩⟩
  · exact StoredImport.loadsAs_iff.mpr (by rw [StoredImport.load, hread]; rfl)
  · intro other hother _
    rcases List.mem_cons.mp hother with rfl | hother
    · rw [ofText?_early]
      decide
    · rw [List.mem_singleton.mp hother, ofText?_undated]
      decide

/-- Without it the import without a time goes before the one whose time can be read. -/
theorem not_register_dated :
    ¬ ∀ (db : Store.Database) (rows : List StoredImport),
      db.tables.find? (fun table ↦ table.name = Store.Database.registerName) =
        some (Store.Database.registerTable rows) →
      ∃ register, db.register = .ok register ∧
        ∀ (config : Configuration) (name : String) (tags : List String) (request : Request)
          (record : Import), config.resolveTable register name tags request = .ok record →
          (∃ other ∈ rows, config.Fits tags request other.tag ∧
            ∃ t, Timestamp.ofText? other.time = some t) →
          ∃ row ∈ rows, row.LoadsAs record ∧ ∃ t, Timestamp.ofText? row.time = some t := by
  intro h
  obtain ⟨register, hregister, hdated⟩ := h _ _ (find?_registerTable [early, undated])
  rw [Store.Database.register_of_find? (find?_registerTable [early, undated])] at hregister
  cases hregister
  have hchoice : Configuration.empty.resolveTable ([early, undated].map StoredImport.load)
      "diplomes" ["insertion"] .any = .ok undated.load := by
    rw [Configuration.resolveTable_eq_ok_iff, Configuration.isNewest_map_load_iff]
    refine ⟨[early], undated, [], rfl, rfl, fits_insertion, .undated ofText?_undated ?_ (by simp)⟩
    intro other hother _ t hread
    rw [List.mem_singleton.mp hother, ofText?_early] at hread
    cases hread
    decide
  obtain ⟨row, hrow, hloads, t, hread⟩ := hdated .empty "diplomes" ["insertion"] .any _ hchoice
    ⟨early, List.mem_cons_self, fits_insertion, _, ofText?_early⟩
  rcases List.mem_cons.mp hrow with rfl | hrow
  · exact absurd hloads.table (by decide)
  · rw [List.mem_singleton.mp hrow, ofText?_undated] at hread
    cases hread

end Centuries

end Barometer
