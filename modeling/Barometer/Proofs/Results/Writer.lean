import Barometer.Proofs.Results.Blocks
import Barometer.Results.Writer
import Mathlib.Data.List.Forall2

/-!
# Writing a result and reading it back

Every record of a result has as many fields as the result has columns, so its writer does not stop.
What it writes is read as the titles of the columns and a record for each row. Quotes stand around
the fields that need them for the separator at hand, so the texts in the fields do not matter.
-/

namespace Barometer

namespace Csv.Writer

variable {separator : Separator}

theorem run_put (chars : List Char) (out : Output) :
    (put chars).run out = .ok () { out with text := out.text ++ String.ofList chars } :=
  rfl

theorem append_endRecord (row : List String) :
    fields separator row ++ (if (fields separator row).isEmpty then ['"', '"', '\n'] else ['\n']) =
      record separator row := by
  unfold record
  cases fields separator row <;> rfl

/-- The first record fixes the number of fields, and later ones have to keep it. -/
theorem run_checkWidth {found : Nat} (out : Output) (h : ∀ width ∈ out.width, found = width) :
    (checkWidth found).run out = .ok () { out with width := some found } := by
  rcases out with ⟨text, _ | width⟩
  · rfl
  · cases h width rfl
    simp [checkWidth, EStateM.run_bind, EStateM.run_get]

/-- A record of the same length as the first one is added to the text. -/
theorem run_writeRecord {row : List String} (out : Output)
    (h : ∀ width ∈ out.width, row.length = width) :
    (writeRecord separator row).run out = .ok () {
      text := out.text ++ String.ofList (record separator row)
      width := some row.length } := by
  have hcheck :=
    run_checkWidth { out with text := out.text ++ String.ofList (fields separator row) } h
  rw [writeRecord, EStateM.run_bind, run_put]
  dsimp only
  rw [EStateM.run_bind, hcheck]
  dsimp only
  rw [endRecord, run_put, String.append_assoc, ← String.ofList_append, append_endRecord]

/-- Records of one length are written one after the other. -/
theorem run_writeRecords {rows : List (List String)} {width : Nat}
    (hrows : ∀ row ∈ rows, row.length = width) (out : Output) (hwidth : out.width = some width) :
    (forM rows (writeRecord separator)).run out =
      .ok () { out with text := out.text ++ String.ofList (records separator rows) } := by
  induction rows generalizing out with
  | nil => simp [records, EStateM.run_pure]
  | cons row rest ih =>
    have hrow : row.length = width := hrows row List.mem_cons_self
    have hfits : ∀ w ∈ out.width, row.length = w := by
      intro w hw
      rw [hwidth] at hw
      exact hrow.trans (Option.some.inj hw)
    have hrest := ih (fun r hr ↦ hrows r (List.mem_cons_of_mem row hr))
      { text := out.text ++ String.ofList (record separator row), width } rfl
    rw [List.forM_cons, EStateM.run_bind, run_writeRecord out hfits, hrow]
    dsimp only
    rw [hrest, String.append_assoc, ← String.ofList_append, hwidth]
    rfl

/-- A table whose records are as long as its first one is written whole. -/
theorem run_writeTable (first : List String) {rows : List (List String)}
    (hrows : ∀ row ∈ rows, row.length = first.length) (out : Output) :
    (do begin; forM (first :: rows) (writeRecord separator) : Writer Unit).run out =
      .ok () {
        text := out.text ++ String.ofList (records separator (first :: rows))
        width := some first.length } := by
  have hbegin : begin.run out = .ok () { out with width := none } := rfl
  have hfirst : ∀ width ∈ (none : Option Nat), first.length = width := nofun
  rw [EStateM.run_bind, hbegin]
  dsimp only
  rw [List.forM_cons, EStateM.run_bind, run_writeRecord _ hfirst]
  dsimp only
  rw [run_writeRecords hrows _ rfl, String.append_assoc, ← String.ofList_append]
  rfl

end Csv.Writer

namespace Csv.Separator

/-- There are three separators, each with a sign of its own. -/
theorem ofChar?_eq_some {c : Char} {separator : Separator} :
    ofChar? c = some separator ↔ separator.char = c := by
  unfold ofChar?
  constructor
  · intro h
    simpa using List.find?_some h
  · rintro rfl
    cases separator <;> rfl

theorem exists_char_eq {c : Char} :
    (∃ separator : Separator, separator.char = c) ↔ c ∈ [',', ';', '\t'] := by
  constructor
  · rintro ⟨separator, rfl⟩
    cases separator <;> decide
  · intro h
    rcases List.mem_cons.mp h with rfl | h
    · exact ⟨.comma, rfl⟩
    · rcases List.mem_cons.mp h with rfl | h
      · exact ⟨.semicolon, rfl⟩
      · exact ⟨.tab, (List.mem_singleton.mp h).symm⟩

end Csv.Separator

/-- What a field says about a member of a row: nothing if it is missing or null, a text as it is,
and any other value as JSON. -/
inductive Csv.ShowsMember : Option Json → String → Prop
  | missing : ShowsMember none ""
  | null : ShowsMember (some .null) ""
  | text (s : String) : ShowsMember (some (.string s)) s
  | other {v : Json} (hnull : v ≠ .null) (htext : ∀ s, v ≠ .string s) :
    ShowsMember (some v) v.compact

namespace ResultSet

/-- Whether a record shows the members of a row, in the order of the columns. -/
def ShowsRow (columns : List String) (row : Json.Members) : List String → Prop :=
  List.Forall₂ (fun title s ↦ Csv.ShowsMember (Json.get? row title) s) columns

/-- A cell shows a member of a row if it has the text of it. -/
theorem showsMember_iff {v : Option Json} {s : String} :
    Csv.ShowsMember v s ↔ cellText v = s := by
  constructor
  · intro h
    cases h with
    | other hnull htext => rw [cellText] <;> assumption
    | _ => rfl
  · rintro rfl
    rcases v with _ | v
    · exact .missing
    · cases v with
      | null => exact .null
      | string s => exact .text s
      | _ => exact .other (by simp) (by simp)

theorem showsRow_iff {columns record : List String} {row : Json.Members} :
    ShowsRow columns row record ↔ cells columns row = record := by
  simp only [ShowsRow, showsMember_iff]
  rw [cells, ← List.forall₂_eq_eq_eq, List.forall₂_map_left_iff]

theorem forall₂_showsRow_iff {columns : List String} {rows : List Json.Members}
    {table : List (List String)} :
    List.Forall₂ (ShowsRow columns) rows table ↔ rows.map (cells columns) = table := by
  have hrow : ShowsRow columns = fun row record ↦ cells columns row = record :=
    funext₂ fun _ _ ↦ propext showsRow_iff
  calc
    List.Forall₂ (ShowsRow columns) rows table
      ↔ List.Forall₂ (fun row record ↦ cells columns row = record) rows table := by rw [hrow]
    _ ↔ List.Forall₂ (· = ·) (rows.map (cells columns)) table := List.forall₂_map_left_iff.symm
    _ ↔ rows.map (cells columns) = table := by rw [List.forall₂_eq_eq_eq]

/-- Titles and rows are as long as each other, so nothing is refused on the way. -/
theorem run_writeCsv {separator : Csv.Separator} {delimiter : Char}
    (h : Csv.Separator.ofChar? delimiter = some separator) (r : ResultSet) (out : Csv.Output) :
    (r.writeCsv delimiter).run out =
      .ok () { text := out.text ++ r.csv separator, width := some r.columns.length } := by
  have hrows : ∀ row ∈ r.rows.map (cells r.columns), row.length = r.columns.length := by
    intro row hrow
    obtain ⟨members, -, rfl⟩ := List.mem_map.mp hrow
    rw [cells, List.length_map]
  rw [writeCsv, h]
  exact Csv.Writer.run_writeTable r.columns hrows out

/-- A result with columns is written behind any text, whatever the texts in it are, if the given
character is a comma, a semicolon or a tab. With this separator it is read as the titles and one
record for each row. With another character nothing is written. -/
theorem writeCsv_read {r : ResultSet} (hcolumns : r.columns ≠ []) (delimiter : Char)
    (out : Csv.Output) :
    (delimiter ∈ [',', ';', '\t'] → ∃ separator text table, separator.char = delimiter ∧
      (r.writeCsv delimiter).run out =
        .ok () { text := out.text ++ text, width := some r.columns.length } ∧
      Csv.read separator text.toList = some (r.columns :: table) ∧
      List.Forall₂ (ShowsRow r.columns) r.rows table) ∧
    (delimiter ∉ [',', ';', '\t'] →
      (r.writeCsv delimiter).run out = .error (.separator delimiter) out) := by
  refine ⟨fun hdelimiter ↦ ?_, fun hdelimiter ↦ ?_⟩
  · obtain ⟨separator, hchar⟩ := Csv.Separator.exists_char_eq.mpr hdelimiter
    refine ⟨separator, r.csv separator, r.rows.map (cells r.columns), hchar,
      run_writeCsv (Csv.Separator.ofChar?_eq_some.mpr hchar) r out, ?_,
      forall₂_showsRow_iff.mpr rfl⟩
    rw [read_csv, map_shown_table hcolumns, table]
  · have hnone : Csv.Separator.ofChar? delimiter = none := by
      rw [Option.eq_none_iff_forall_ne_some]
      exact fun separator h ↦ hdelimiter
        (Csv.Separator.exists_char_eq.mp ⟨separator, Csv.Separator.ofChar?_eq_some.mp h⟩)
    rw [writeCsv, hnone]
    rfl

end ResultSet

namespace Notes

def result : ResultSet where
  sql := "SELECT note AS \"No\tte\" FROM notes;"
  columns := ["No\tte"]
  rows := [[("No\tte", .string "a\t\"b\"\n")], [("No\tte", .null)], [], [("No\tte", .bool true)]]
  rowCount := 4
  indicatorId := none
  indicatorTitle := none

/-- A column of texts that look like the ends of fields and lines. -/
theorem writeCsv_read_notes :
    result.columns ≠ [] ∧ '\t' ∈ [',', ';', '\t'] ∧ '|' ∉ [',', ';', '\t'] ∧
      (∃ text, (result.writeCsv '\t').run { text := "#", width := none } =
          .ok () { text := "#" ++ text, width := some 1 } ∧
        Csv.read .tab text.toList = some [["No\tte"], ["a\t\"b\"\n"], [""], [""], ["true"]]) ∧
      (result.writeCsv '|').run { text := "#", width := none } =
        .error (.separator '|') { text := "#", width := none } := by
  have hcolumns : result.columns ≠ [] := List.cons_ne_nil _ _
  have htab : '\t' ∈ [',', ';', '\t'] := by decide
  have hbar : '|' ∉ [',', ';', '\t'] := by decide
  refine ⟨hcolumns, htab, hbar, ?_, (ResultSet.writeCsv_read hcolumns '|' _).2 hbar⟩
  obtain ⟨separator, text, table, hchar, hwritten, hread, hshown⟩ :=
    (ResultSet.writeCsv_read hcolumns '\t' { text := "#", width := none }).1 htab
  cases Csv.Separator.ofChar?_eq_some.mpr hchar
  cases ResultSet.forall₂_showsRow_iff.mp hshown
  exact ⟨text, hwritten, hread⟩

end Notes

end Barometer
