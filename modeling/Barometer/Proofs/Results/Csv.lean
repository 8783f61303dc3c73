import Barometer.Results.Csv

/-!
# Reading records back

A reader of records goes through a text from left to right. A quote at the beginning of a field
begins a text in which only quotes are special, and a doubled quote is one quote. Whatever the
fields of a table are, its records are read as they were written, except that a record without
fields is read as one empty field.
-/

namespace Barometer.Csv

/-- Where a reader stands: at the beginning of a line or of a further field, in a field without
quotes, in one with quotes, or behind a quote in one. The fields that are done and the characters of
the current one are kept in reverse. -/
inductive Place where
  | start
  | field (done : List String)
  | plain (done : List String) (seen : List Char)
  | quoted (done : List String) (seen : List Char)
  | closing (done : List String) (seen : List Char)

namespace Place

def isQuoted : Place → Bool
  | .quoted _ _ => true
  | _ => false

/-- The fields up to here, the current one among them, in reverse. -/
def closed : Place → List String
  | .start => [""]
  | .field done => "" :: done
  | .plain done seen => String.ofList seen.reverse :: done
  | .quoted done seen => String.ofList seen.reverse :: done
  | .closing done seen => String.ofList seen.reverse :: done

/-- The record that ends here; an empty line has no fields. -/
def record : Place → List String
  | .start => []
  | place => place.closed.reverse

/-- The place behind a quote. -/
def quote? : Place → Option Place
  | .start => some (.quoted [] [])
  | .field done => some (.quoted done [])
  | .plain _ _ => none
  | .quoted done seen => some (.closing done seen)
  | .closing done seen => some (.quoted done ('"' :: seen))

/-- The place behind a character that is not special. -/
def push? (c : Char) : Place → Option Place
  | .start => some (.plain [] [c])
  | .field done => some (.plain done [c])
  | .plain done seen => some (.plain done (c :: seen))
  | .quoted done seen => some (.quoted done (c :: seen))
  | .closing _ _ => none

end Place

/-- The records in the rest of a text; none if it is not made of whole records. -/
def readFrom (separator : Separator) : Place → List Char → Option (List (List String))
  | .start, [] => some []
  | _, [] => none
  | place, c :: rest =>
    if c = '"' then place.quote?.bind fun next ↦ readFrom separator next rest
    else if place.isQuoted then (place.push? c).bind fun next ↦ readFrom separator next rest
    else if c = '\n' then (readFrom separator .start rest).map (place.record :: ·)
    else if c = separator.char then readFrom separator (.field place.closed) rest
    else if c = '\r' then none
    else (place.push? c).bind fun next ↦ readFrom separator next rest

/-- The records of a text. -/
def read (separator : Separator) (text : List Char) : Option (List (List String)) :=
  readFrom separator .start text

/-- What a record is read as. -/
def shown : List String → List String
  | [] => [""]
  | row => row

section Reading

variable {separator : Separator}

theorem char_ne_quote (separator : Separator) : separator.char ≠ '"' := by
  cases separator <;> decide

theorem char_ne_newline (separator : Separator) : separator.char ≠ '\n' := by
  cases separator <;> decide

/-- A quote opens a field, closes it, or stands for itself behind another one. -/
theorem readFrom_quote (place : Place) (rest : List Char) :
    readFrom separator place ('"' :: rest) =
      place.quote?.bind fun next ↦ readFrom separator next rest := by
  rw [readFrom.eq_def]
  simp

/-- A line feed outside of quotes ends a record. -/
theorem readFrom_newline {place : Place} (h : place.isQuoted = false) (rest : List Char) :
    readFrom separator place ('\n' :: rest) =
      (readFrom separator .start rest).map (place.record :: ·) := by
  rw [readFrom.eq_def]
  simp [h]

theorem readFrom_separator {place : Place} (h : place.isQuoted = false) (rest : List Char) :
    readFrom separator place (separator.char :: rest) =
      readFrom separator (.field place.closed) rest := by
  rw [readFrom.eq_def]
  simp [h, char_ne_quote, char_ne_newline]

theorem readFrom_ordinary {c : Char} (hc : isSpecial separator c = false) (place : Place)
    (rest : List Char) :
    readFrom separator place (c :: rest) =
      (place.push? c).bind fun next ↦ readFrom separator next rest := by
  simp only [isSpecial, Bool.or_eq_false_iff, beq_eq_false_iff_ne] at hc
  rw [readFrom.eq_def]
  simp [hc]

/-- Between quotes a field is read sign by sign, whatever the signs are. -/
theorem readFrom_quotedBody (done : List String) (s seen rest : List Char) :
    readFrom separator (.quoted done seen) (quotedBody s ++ rest) =
      readFrom separator (.quoted done (s.reverse ++ seen)) rest := by
  induction s generalizing seen with
  | nil => rfl
  | cons c s ih =>
    rw [List.reverse_cons, List.append_assoc, List.singleton_append, ← ih]
    by_cases hc : c = '"'
    · rw [quotedBody, if_pos hc, List.cons_append, List.cons_append, readFrom_quote, hc]
      exact readFrom_quote _ _
    · rw [quotedBody, if_neg hc, List.cons_append, readFrom.eq_def]
      simp [hc, Place.isQuoted, Place.push?]

theorem readFrom_plain (done : List String) {s : List Char}
    (hs : ∀ c ∈ s, isSpecial separator c = false) (seen rest : List Char) :
    readFrom separator (.plain done seen) (s ++ rest) =
      readFrom separator (.plain done (s.reverse ++ seen)) rest := by
  induction s generalizing seen with
  | nil => rfl
  | cons c s ih =>
    have hrest := ih (fun d hd ↦ hs d (List.mem_cons_of_mem c hd)) (c :: seen)
    rw [List.cons_append, readFrom_ordinary (hs c List.mem_cons_self), List.reverse_cons,
      List.append_assoc, List.singleton_append, ← hrest]
    rfl

/-- Whether a field begins at a place, behind some others. -/
def Place.Begins (done : List String) (place : Place) : Prop :=
  place = .field done ∨ place = .start ∧ done = []

/-- A field is read as it was written. The reader is then behind it, and still at the beginning of
the line only if nothing was written. -/
theorem exists_readFrom_field (separator : Separator) {place : Place} {done : List String}
    (h : place.Begins done) (s : String) :
    ∃ next : Place, (∀ rest, readFrom separator place (field separator s ++ rest) =
      readFrom separator next rest) ∧ next.closed = s :: done ∧ next.isQuoted = false ∧
        (next = .start → place = .start ∧ s = "") := by
  have hquote : place.quote? = some (.quoted done []) := by
    rcases h with rfl | ⟨rfl, rfl⟩ <;> rfl
  have hpush (c : Char) : place.push? c = some (.plain done [c]) := by
    rcases h with rfl | ⟨rfl, rfl⟩ <;> rfl
  unfold field
  split
  · refine ⟨.closing done s.toList.reverse, fun rest ↦ ?_, ?_, rfl, nofun⟩
    · rw [List.cons_append, List.cons_append, List.append_assoc, readFrom_quote, hquote,
        Option.bind_some, readFrom_quotedBody, List.append_nil]
      exact readFrom_quote _ _
    · rw [Place.closed, List.reverse_reverse, String.ofList_toList]
  · rename_i hplain
    have hchars : ∀ c ∈ s.toList, isSpecial separator c = false := by
      simpa using hplain
    cases hs : s.toList with
    | nil =>
      have hempty : s = "" := String.toList_eq_nil_iff.mp hs
      refine ⟨place, fun rest ↦ rfl, ?_, ?_, fun hstart ↦ ⟨hstart, hempty⟩⟩
      · rw [hempty]
        rcases h with rfl | ⟨rfl, rfl⟩ <;> rfl
      · rcases h with rfl | ⟨rfl, rfl⟩ <;> rfl
    | cons c rest' =>
      rw [hs] at hchars
      refine ⟨.plain done (rest'.reverse ++ [c]), fun rest ↦ ?_, ?_, rfl, nofun⟩
      · rw [List.cons_append, readFrom_ordinary (hchars c List.mem_cons_self), hpush,
          Option.bind_some, readFrom_plain done fun d hd ↦ hchars d (List.mem_cons_of_mem c hd)]
      · rw [Place.closed, ← List.reverse_cons, List.reverse_reverse, ← hs, String.ofList_toList]

/-- Fields are read up to the end of their line. -/
theorem readFrom_fields {place : Place} {done : List String} (h : place.Begins done) (s : String)
    (row : List String) (hwritten : fields separator (s :: row) ≠ [] ∨ place ≠ .start)
    (rest : List Char) :
    readFrom separator place (fields separator (s :: row) ++ '\n' :: rest) =
      (readFrom separator .start rest).map ((done.reverse ++ s :: row) :: ·) := by
  obtain ⟨next, hread, hclosed, hquoted, hstart⟩ :=
    exists_readFrom_field separator h s
  induction row generalizing place done s next with
  | nil =>
    have hrecord : next.record = next.closed.reverse := by
      cases next with
      | start =>
        obtain ⟨rfl, rfl⟩ := hstart rfl
        exact absurd rfl (hwritten.resolve_left fun h ↦ h rfl)
      | _ => rfl
    rw [fields, hread, readFrom_newline hquoted, hrecord, hclosed, List.reverse_cons]
  | cons s' row ih =>
    have hbegins : (Place.field (s :: done)).Begins (s :: done) := .inl rfl
    obtain ⟨next', hread', hclosed', hquoted', hstart'⟩ :=
      exists_readFrom_field separator hbegins s'
    have hfields := ih hbegins s' (.inr nofun) next' hread' hclosed' hquoted' hstart'
    rw [fields, List.append_assoc, List.cons_append, hread, readFrom_separator hquoted, hclosed,
      hfields, List.reverse_cons, List.append_assoc, List.singleton_append]
    exact nofun

/-- An empty line is a record without fields. -/
theorem readFrom_emptyLine (rest : List Char) :
    readFrom separator .start ('\n' :: rest) =
      (readFrom separator .start rest).map ([] :: ·) :=
  readFrom_newline rfl rest

/-- A record is read back, except that one without fields has an empty one. -/
theorem readFrom_record (row : List String) (rest : List Char) :
    readFrom separator .start (record separator row ++ rest) =
      (readFrom separator .start rest).map (shown row :: ·) := by
  have hbegins : Place.start.Begins [] := .inr ⟨rfl, rfl⟩
  -- Nothing is written for a record of one empty field, as for one without fields.
  have hempty : readFrom separator .start (['"', '"'] ++ ['\n'] ++ rest) =
      (readFrom separator .start rest).map ([""] :: ·) := by
    change readFrom separator .start ('"' :: '"' :: '\n' :: rest) = _
    rw [readFrom_quote, Place.quote?, Option.bind_some, readFrom_quote, Place.quote?,
      Option.bind_some, readFrom_newline rfl]
    rfl
  cases row with
  | nil => exact hempty
  | cons s row =>
    cases hfields : fields separator (s :: row) with
    | nil =>
      have hrow : s :: row = [""] := by
        cases row with
        | nil =>
          have hs : s = "" := by
            rw [fields, field] at hfields
            split at hfields
            · cases hfields
            · exact String.toList_eq_nil_iff.mp hfields
          rw [hs]
        | cons s' row =>
          rw [fields] at hfields
          · cases (List.append_eq_nil_iff.mp hfields).2
          · exact nofun
      rw [record, hfields, hrow]
      exact hempty
    | cons c chars =>
      have hread := readFrom_fields hbegins s row (.inl (hfields ▸ List.cons_ne_nil c chars)) rest
      rw [record, hfields, shown]
      · rw [hfields] at hread
        simpa using hread
      · exact nofun

/-- Records follow one another without anything between them. -/
theorem readFrom_records (separator : Separator) (rows : List (List String)) (rest : List Char) :
    readFrom separator .start (records separator rows ++ rest) =
      (readFrom separator .start rest).map (rows.map shown ++ ·) := by
  induction rows with
  | nil => simp [records]
  | cons row rows ih =>
    rw [records, List.flatMap_cons, List.append_assoc, readFrom_record, ← records, ih,
      Option.map_map]
    rfl

/-- Records are read as they were written. -/
theorem read_records (separator : Separator) (rows : List (List String)) :
    read separator (records separator rows) = some (rows.map shown) := by
  have hread := readFrom_records separator rows []
  rw [List.append_nil, readFrom, Option.map_some, List.append_nil] at hread
  exact hread

end Reading

example : read .semicolon "a;\"b;\"\"c\"\n\n\"\"\n".toList = some [["a", "b;\"c"], [], [""]] := by
  decide

end Barometer.Csv
