import Barometer.Proofs.Imports.Timestamp
import Barometer.Proofs.Json.Decoder
import Barometer.Proofs.Json.Pretty
import Barometer.Report.Basic

/-!
# Reports as JSON

The JSON text of a report is read back as the report. The keys of every object differ, so each field
is found under its name; an outcome with a statement is a success and any other one a failure.
-/

namespace Barometer

namespace Json

/-- Whether an integer has 64 bits with a sign. -/
def IsInt64 (n : Int) : Prop := -2 ^ 63 ≤ n ∧ n < 2 ^ 63

/-- The values of cells: nothing, integers of at most 64 bits, finite doubles and texts. -/
inductive IsCell : Json → Prop where
  | null : IsCell .null
  | integer {n : Int} (hleast : -2 ^ 63 ≤ n) (hmost : n < 2 ^ 64) : IsCell (.number (.integer n))
  | real {x : Float} (hfinite : x.isFinite = true) : IsCell (.number (.real x))
  | text (s : String) : IsCell (.string s)

/-- Rows as they are kept: titles that differ, with a cell each. -/
structure IsRow (row : Members) : Prop where
  keys : (row.map Prod.fst).Nodup
  cells : ∀ m ∈ row, IsCell m.2

end Json

/-- Whether the parts of a result fit their types. -/
structure ResultSet.IsWritable (r : ResultSet) : Prop where
  rows : ∀ row ∈ r.rows, Json.IsRow row
  rowCount : r.rowCount < 2 ^ 64
  indicatorId : ∀ id ∈ r.indicatorId, Json.IsInt64 id

structure FailedResult.IsWritable (f : FailedResult) : Prop where
  rows : ∀ row ∈ f.rows, Json.IsRow row
  rowCount : f.rowCount < 2 ^ 64

def SlotOutcome.IsWritable : SlotOutcome → Prop
  | .success r => r.IsWritable
  | .failure f => f.IsWritable

structure SlotResult.IsWritable (s : SlotResult) : Prop where
  indicatorId : Json.IsInt64 s.indicatorId
  outcome : s.outcome.IsWritable

/-- Whether an instant is written with a year of four digits. A leap second ends a minute. -/
structure Timestamp.IsWritable (t : Timestamp) : Prop where
  year : t.HasPlainYear
  clock : t.IsClock
  leap : 1000000000 ≤ t.nano → t.second % 60 = 59

structure Report.IsWritable (report : Report) : Prop where
  id : Json.IsInt64 report.id
  generatedAt : report.generatedAt.IsWritable
  results : ∀ slot ∈ report.results, slot.IsWritable

/-- The values in the rows of an outcome. -/
def SlotOutcome.cells (outcome : SlotOutcome) : List Json :=
  outcome.rows.flatMap fun row ↦ row.map Prod.snd

/-- The values in the rows of a report. -/
def Report.cells (report : Report) : List Json :=
  report.results.flatMap fun slot ↦ slot.outcome.cells

/-- Whether the doubles among some values are read back from their shortest texts. -/
def Json.RealsReadBack (cells : List Json) : Prop :=
  ∀ x, .number (.real x) ∈ cells → (Number.real x).ReadsBack

namespace Json

section Readable

variable {room : Nat}

/-- A cell can be read back, if reals can. -/
theorem IsCell.readable {v : Json} (h : IsCell v) {cells : List Json} (hv : v ∈ cells)
    (hreals : RealsReadBack cells) : Readable (room + 1) v := by
  cases h with
  | null => exact .null
  | integer hleast hmost => exact .number (Number.readsBack_integer hleast hmost)
  | real hfinite => exact .number (hreals _ hv)
  | text s => exact .string s

/-- There is nothing in a cell that could be dropped. -/
theorem IsCell.distinct_eq_self {v : Json} (h : IsCell v) : distinct v = v := by
  cases h <;> rw [distinct] <;> simp

theorem readable_ofInt {n : Int} (h : IsInt64 n) : Readable (room + 1) (ofInt n) :=
  .number (Number.readsBack_integer h.1 (by have := h.2; omega))

theorem readable_ofNat {n : Nat} (h : n < 2 ^ 64) : Readable (room + 1) (ofNat n) :=
  .number (Number.readsBack_integer (by omega) (by omega))

theorem readable_ofOption (s : Option String) : Readable (room + 1) (ofOption s) := by
  cases s with
  | none => exact .null
  | some s => exact .string s

/-- A list is readable one level further out than its items. -/
theorem readable_array_map {α : Type} {encode : α → Json} {xs : List α}
    (h : ∀ x ∈ xs, Readable (room + 1) (encode x)) :
    Readable (room + 2) (.array (xs.map encode)) := by
  refine .array fun item hitem ↦ ?_
  obtain ⟨x, hx, rfl⟩ := List.mem_map.mp hitem
  exact h x hx

theorem readable_ofStrings (names : List String) : Readable (room + 2) (ofStrings names) :=
  readable_array_map fun s _ ↦ .string s

/-- Rows are readable if the reals among their cells are read back. -/
theorem readable_rows {rows : List Members} (hrows : ∀ row ∈ rows, IsRow row)
    (hreals : RealsReadBack (rows.flatMap fun row ↦ row.map Prod.snd)) :
    Readable (room + 3) (.array (rows.map .object)) := by
  refine readable_array_map fun row hrow ↦ .object (hrows row hrow).keys fun m hm ↦ ?_
  exact ((hrows row hrow).cells m hm).readable
    (List.mem_flatMap.mpr ⟨row, hrow, List.mem_map_of_mem hm⟩) hreals

end Readable

end Json

namespace ResultSet

variable {r : ResultSet}

/-- The members of a result. -/
def entries (r : ResultSet) : Json.Members :=
  [("sql", .string r.sql), ("columns", .ofStrings r.columns),
    ("rows", .array (r.rows.map .object)), ("row_count", .ofNat r.rowCount)] ++
  optionalMember "indicator_id" Json.ofInt r.indicatorId ++
  optionalMember "indicator_title" Json.string r.indicatorTitle

/-- The members of a result have different keys. -/
theorem nodup_entries (r : ResultSet) : (r.entries.map Prod.fst).Nodup := by
  unfold entries
  cases r.indicatorId <;> cases r.indicatorTitle <;> simp [optionalMember]

theorem mem_optionalMember {α : Type} {key : String} {toJson : α → Json} {o : Option α}
    {m : String × Json} (h : m ∈ optionalMember key toJson o) : ∃ x ∈ o, m.2 = toJson x := by
  cases o with
  | none => cases h
  | some x =>
    rw [List.mem_singleton.mp h]
    exact ⟨x, rfl, rfl⟩

/-- A result is four levels deep, down to its cells. -/
theorem IsWritable.readable {room : Nat} (h : r.IsWritable)
    (hreals : Json.RealsReadBack (SlotOutcome.success r).cells) :
    Json.Readable (room + 4) r.toJson := by
  refine .object r.nodup_entries fun m hm ↦ ?_
  rw [List.mem_append, List.mem_append] at hm
  rcases hm with (hm | hm) | hm
  · revert m
    simp only [List.forall_mem_cons]
    exact ⟨.string _, Json.readable_ofStrings _, Json.readable_rows h.rows hreals,
      Json.readable_ofNat h.rowCount, fun m hm ↦ absurd hm List.not_mem_nil⟩
  · obtain ⟨id, hid, hm⟩ := mem_optionalMember hm
    rw [hm]
    exact Json.readable_ofInt (h.indicatorId id hid)
  · obtain ⟨title, htitle, hm⟩ := mem_optionalMember hm
    rw [hm]
    exact .string title

end ResultSet

namespace FailedResult

variable {f : FailedResult}

theorem IsWritable.readable {room : Nat} (h : f.IsWritable)
    (hreals : Json.RealsReadBack (SlotOutcome.failure f).cells) :
    Json.Readable (room + 4) f.toJson := by
  refine .object (by simp) ?_
  simp only [List.forall_mem_cons]
  exact ⟨.string _, Json.readable_rows h.rows hreals, Json.readable_ofStrings _,
    Json.readable_ofNat h.rowCount, fun m hm ↦ absurd hm List.not_mem_nil⟩

end FailedResult

theorem SlotOutcome.IsWritable.readable {room : Nat} {outcome : SlotOutcome}
    (h : outcome.IsWritable) (hreals : Json.RealsReadBack outcome.cells) :
    Json.Readable (room + 4) outcome.toJson := by
  cases outcome with
  | success r => exact ResultSet.IsWritable.readable h hreals
  | failure f => exact FailedResult.IsWritable.readable h hreals

theorem SlotResult.IsWritable.readable {room : Nat} {slot : SlotResult} (h : slot.IsWritable)
    (hreals : Json.RealsReadBack slot.outcome.cells) : Json.Readable (room + 5) slot.toJson := by
  refine .object (by simp) ?_
  simp only [List.forall_mem_cons]
  exact ⟨Json.readable_ofInt h.indicatorId, .string _, Json.readable_ofOption _,
    h.outcome.readable hreals, fun m hm ↦ absurd hm List.not_mem_nil⟩

/-- Seven levels are enough for any report. -/
theorem Report.IsWritable.readable {room : Nat} {report : Report} (h : report.IsWritable)
    (hreals : Json.RealsReadBack report.cells) : Json.Readable (room + 7) report.toJson := by
  have hslots : ∀ slot ∈ report.results, Json.Readable (room + 5) slot.toJson := fun slot hslot ↦
    (h.results slot hslot).readable fun x hx ↦ hreals x (List.mem_flatMap.mpr ⟨slot, hslot, hx⟩)
  refine .object (by simp) ?_
  simp only [List.forall_mem_cons]
  exact ⟨Json.readable_ofInt h.id, .string _, .string _, Json.readable_array_map hslots,
    fun m hm ↦ absurd hm List.not_mem_nil⟩

open Json.Decoder

theorem Json.IsRow.members_object {row : Members} (h : IsRow row) :
    members (.object row) = .ok row :=
  Decoder.members_object h.keys fun m hm ↦ (h.cells m hm).distinct_eq_self

theorem Json.list_members_rows {rows : List Members} (h : ∀ row ∈ rows, IsRow row) :
    list members (.array (rows.map .object)) = .ok rows :=
  list_map fun row hrow ↦ (h row hrow).members_object

theorem ResultSet.get?_indicatorId (r : ResultSet) :
    Json.get? r.entries "indicator_id" = r.indicatorId.map Json.ofInt := by
  unfold entries
  cases r.indicatorId <;> cases r.indicatorTitle <;> rfl

theorem ResultSet.get?_indicatorTitle (r : ResultSet) :
    Json.get? r.entries "indicator_title" = r.indicatorTitle.map Json.string := by
  unfold entries
  cases r.indicatorId <;> cases r.indicatorTitle <;> rfl

/-- A result is decoded from what it is encoded as. -/
theorem ResultSet.ofJson_toJson {r : ResultSet} (h : r.IsWritable) : ofJson r.toJson = .ok r := by
  obtain ⟨f, hf, hshows⟩ := fields_object "ResultSet"
    ["sql", "columns", "rows", "row_count", "indicator_id", "indicator_title"] r.nodup_entries
  have hsql : f.get "sql" text = .ok r.sql := hshows.getOr_of_get? (by simp) rfl rfl
  have hcolumns : f.get "columns" (list text) = .ok r.columns :=
    hshows.getOr_of_get? (by simp) rfl (list_text_ofStrings r.columns)
  have hrows : f.get "rows" (list members) = .ok r.rows :=
    hshows.getOr_of_get? (by simp) rfl (Json.list_members_rows h.rows)
  have hcount : f.get "row_count" natural = .ok r.rowCount :=
    hshows.getOr_of_get? (by simp) rfl (natural_ofNat r.rowCount)
  have hid : f.getD "indicator_id" (optional integer) none = .ok r.indicatorId :=
    hshows.getOr_optional (by simp) r.get?_indicatorId nofun
      fun id hid ↦ integer_ofInt (h.indicatorId id hid).2
  have htitle : f.getD "indicator_title" (optional text) none = .ok r.indicatorTitle :=
    hshows.getOr_optional (by simp) r.get?_indicatorTitle nofun fun title htitle ↦ rfl
  rw [ofJson]
  change (fields _ _ (.object r.entries) >>= _) = _
  rw [hf]
  simp only [bind, Except.bind, hsql, hcolumns, hrows, hcount, hid, htitle]
  rfl

theorem FailedResult.ofJson_toJson {failure : FailedResult} (h : failure.IsWritable) :
    ofJson failure.toJson = .ok failure := by
  obtain ⟨f, hf, hshows⟩ := @fields_object "FailedResult" ["error", "rows", "columns", "row_count"]
    [("error", .string failure.error), ("rows", .array (failure.rows.map .object)),
      ("columns", .ofStrings failure.columns), ("row_count", .ofNat failure.rowCount)] (by simp)
  have herror : f.get "error" text = .ok failure.error := hshows.getOr_of_get? (by simp) rfl rfl
  have hrows : f.get "rows" (list members) = .ok failure.rows :=
    hshows.getOr_of_get? (by simp) rfl (Json.list_members_rows h.rows)
  have hcolumns : f.get "columns" (list text) = .ok failure.columns :=
    hshows.getOr_of_get? (by simp) rfl (list_text_ofStrings failure.columns)
  have hcount : f.get "row_count" natural = .ok failure.rowCount :=
    hshows.getOr_of_get? (by simp) rfl (natural_ofNat failure.rowCount)
  rw [ofJson, toJson, hf]
  simp only [bind, Except.bind, herror, hrows, hcolumns, hcount]
  rfl

/-- A failure has no statement, so it cannot be read as a success. -/
theorem ResultSet.ofJson_failure (failure : FailedResult) :
    ∃ misfit, ResultSet.ofJson failure.toJson = .error misfit := by
  obtain ⟨f, hf, hshows⟩ := @fields_object "ResultSet"
    ["sql", "columns", "rows", "row_count", "indicator_id", "indicator_title"]
    [("error", .string failure.error), ("rows", .array (failure.rows.map .object)),
      ("columns", .ofStrings failure.columns), ("row_count", .ofNat failure.rowCount)] (by simp)
  have hsql : f.get "sql" text = .error (f.absence "sql") :=
    hshows.getOr_of_absent (by simp) rfl
  refine ⟨f.absence "sql", ?_⟩
  rw [ofJson, FailedResult.toJson, hf]
  simp only [bind, Except.bind, hsql]

/-- A failure is not taken for a result, since it has no statement. -/
theorem SlotOutcome.ofJson_toJson {outcome : SlotOutcome} (h : outcome.IsWritable) :
    ofJson outcome.toJson = .ok outcome := by
  cases outcome with
  | success r =>
    rw [ofJson, toJson, ResultSet.ofJson_toJson h]
  | failure failure =>
    obtain ⟨misfit, hmisfit⟩ := ResultSet.ofJson_failure failure
    rw [ofJson, toJson, hmisfit, FailedResult.ofJson_toJson h]

theorem SlotResult.ofJson_toJson {slot : SlotResult} (h : slot.IsWritable) :
    ofJson slot.toJson = .ok slot := by
  obtain ⟨f, hf, hshows⟩ := @fields_object "SlotResult"
    ["indicator_id", "indicator_title", "chart_type", "execution_result"]
    [("indicator_id", .ofInt slot.indicatorId), ("indicator_title", .string slot.indicatorTitle),
      ("chart_type", .ofOption slot.chartType), ("execution_result", slot.outcome.toJson)] (by simp)
  have hid : f.get "indicator_id" integer = .ok slot.indicatorId :=
    hshows.getOr_of_get? (by simp) rfl (integer_ofInt h.indicatorId.2)
  have htitle : f.get "indicator_title" text = .ok slot.indicatorTitle :=
    hshows.getOr_of_get? (by simp) rfl rfl
  have hchart : f.nullable "chart_type" text = .ok slot.chartType :=
    hshows.getOr_of_get? (by simp) rfl (optional_ofOption slot.chartType)
  have houtcome : f.get "execution_result" SlotOutcome.ofJson = .ok slot.outcome :=
    hshows.getOr_of_get? (by simp) rfl (SlotOutcome.ofJson_toJson h.outcome)
  rw [ofJson, toJson, hf]
  simp only [bind, Except.bind, hid, htitle, hchart, houtcome]
  rfl

/-- A text of a moment with its zone is decoded as the moment. -/
theorem Timestamp.ofJson_string {s : String} {t : Timestamp} (h : ofZonedText? s = some t) :
    ofJson (.string s) = .ok t := by
  have htext : text (.string s) = .ok s := rfl
  rw [ofJson, htext]
  simp only [bind, Except.bind, h]
  rfl

theorem Timestamp.ofJson_universalText {t : Timestamp} (h : t.IsWritable) :
    ofJson (.string t.universalText) = .ok t :=
  ofJson_string (ofZonedText?_universalText h.year h.clock h.leap)

/-- A report is decoded slot by slot, with the time at which it was made. -/
theorem Report.ofJson_toJson {report : Report} (h : report.IsWritable) :
    ofJson report.toJson = .ok report := by
  obtain ⟨f, hf, hshows⟩ := @fields_object "Report"
    ["report_id", "report_title", "generated_at", "results"]
    [("report_id", .ofInt report.id), ("report_title", .string report.title),
      ("generated_at", .string report.generatedAt.universalText),
      ("results", .array (report.results.map SlotResult.toJson))] (by simp)
  have hid : f.get "report_id" integer = .ok report.id :=
    hshows.getOr_of_get? (by simp) rfl (integer_ofInt h.id.2)
  have htitle : f.get "report_title" text = .ok report.title :=
    hshows.getOr_of_get? (by simp) rfl rfl
  have hinstant : f.get "generated_at" Timestamp.ofJson = .ok report.generatedAt :=
    hshows.getOr_of_get? (by simp) rfl (Timestamp.ofJson_universalText h.generatedAt)
  have hresults : f.get "results" (list SlotResult.ofJson) = .ok report.results :=
    hshows.getOr_of_get? (by simp) rfl
      (list_map fun slot hslot ↦ SlotResult.ofJson_toJson (h.results slot hslot))
  rw [ofJson, toJson, hf]
  simp only [bind, Except.bind, hid, htitle, hinstant, hresults]
  rfl

/-- The JSON text of a report leads back to the report: it is read as the value that was written,
whether keys may repeat or not, and the value is decoded as the report. -/
theorem Report.ofJson_read_pretty {report : Report} (h : report.IsWritable)
    (hreals : Json.RealsReadBack report.cells) :
    Json.read report.toJson.pretty = .ok report.toJson ∧
      Json.parse report.toJson.pretty = .ok report.toJson ∧ ofJson report.toJson = .ok report :=
  ⟨Json.read_pretty (h.readable hreals), Json.parse_pretty (h.readable hreals), ofJson_toJson h⟩

namespace Yearbook

def result : ResultSet where
  sql := "SELECT annee AS \"Année\", AVG(note) AS \"Note\" FROM etudiants GROUP BY annee;"
  columns := ["Année", "Note"]
  rows := [[("Année", .number (.integer 2023)), ("Note", .number (.real 12.5))],
    [("Année", .string "\"?\"\n"), ("Note", .null)]]
  rowCount := 2
  indicatorId := some 1
  indicatorTitle := none

def report : Report where
  id := -7
  title := "Bilan"
  generatedAt := { day := 17166, second := 86399, nano := 1500000000 }
  results :=
    [{ indicatorId := 1, indicatorTitle := "Notes", chartType := some "bar",
       outcome := .success result },
      { indicatorId := 2, indicatorTitle := "Lien", chartType := none,
        outcome := .failure (.ofMessage "no such table: lien") }]

theorem readsBack_note : (Json.Number.real 12.5).ReadsBack := by
  have htext : (Json.Number.real 12.5).text.toList = ['1', '2', '.', '5'] := by decide
  have hscale : Decimal.scaleDown (Float.ofNat 125) 1 = 12.5 := by
    rw [Decimal.scaleDown, if_pos (by decide)]
    decide
  rw [Json.Number.ReadsBack, htext]
  change Json.Parser.real false 125 (-1) [] = _
  rw [Json.Parser.real, Decimal.scale?, if_pos (by decide)]
  change Except.ok (Json.number (.real (Decimal.scaleDown (Float.ofNat 125) 1)), []) = _
  rw [hscale]

/-- A report of a result with cells of every kind and of a failure, in a leap second. -/
theorem ofJson_read_pretty_yearbook :
    (report.IsWritable ∧ Json.RealsReadBack report.cells) ∧
      Json.read report.toJson.pretty = .ok report.toJson ∧
      Json.parse report.toJson.pretty = .ok report.toJson ∧
      Report.ofJson report.toJson = .ok report := by
  have hresult : result.IsWritable := by
    refine ⟨?_, by decide, ?_⟩
    · simp only [result, List.forall_mem_cons]
      refine ⟨⟨by simp, ?_⟩, ⟨by simp, ?_⟩, fun row hrow ↦ absurd hrow List.not_mem_nil⟩
      · simp only [List.forall_mem_cons]
        exact ⟨.integer (by decide) (by decide), .real (by decide),
          fun m hm ↦ absurd hm List.not_mem_nil⟩
      · simp only [List.forall_mem_cons]
        exact ⟨.text _, .null, fun m hm ↦ absurd hm List.not_mem_nil⟩
    · intro id hid
      cases hid
      exact ⟨by decide, by decide⟩
  have hreport : report.IsWritable := by
    refine ⟨⟨by decide, by decide⟩,
      ⟨⟨by decide, by decide⟩, ⟨by decide, by decide⟩, fun _ ↦ by decide⟩, ?_⟩
    simp only [report, List.forall_mem_cons]
    exact ⟨⟨⟨by decide, by decide⟩, hresult⟩,
      ⟨⟨by decide, by decide⟩, ⟨fun row hrow ↦ absurd hrow List.not_mem_nil, by decide⟩⟩,
      fun slot hslot ↦ absurd hslot List.not_mem_nil⟩
  have hreals : Json.RealsReadBack report.cells := by
    intro x hx
    have hcells : report.cells =
        [.number (.integer 2023), .number (.real 12.5), .string "\"?\"\n", .null] := rfl
    rw [hcells] at hx
    simp only [List.mem_cons, Json.number.injEq, Json.Number.real.injEq, reduceCtorEq,
      List.not_mem_nil, or_false, false_or] at hx
    rw [hx]
    exact readsBack_note
  exact ⟨⟨hreport, hreals⟩, Report.ofJson_read_pretty hreport hreals⟩

end Yearbook

end Barometer
