import Barometer.Proofs.Json.Members
import Barometer.Proofs.Json.Numbers
import Barometer.Proofs.Json.Strings

/-!
# Reading pretty texts

A pretty text is read back as the value that it was written for. Every item and member begins with a
character that is neither blank nor a closing bracket and ends before a comma or a new line, so the
reader finds each of them where the writer put it.
-/

namespace Barometer.Json

/-- Whether a value is what is read from its text, with at most `room` values inside one another:
the texts of its numbers lead back to them, and each key of an object stands there once. -/
inductive Readable : Nat → Json → Prop where
  | null {room : Nat} : Readable (room + 1) .null
  | bool {room : Nat} (b : Bool) : Readable (room + 1) (.bool b)
  | number {room : Nat} {n : Number} (h : n.ReadsBack) : Readable (room + 1) (.number n)
  | string {room : Nat} (s : String) : Readable (room + 1) (.string s)
  | array {room : Nat} {items : List Json} (h : ∀ item ∈ items, Readable (room + 1) item) :
    Readable (room + 2) (.array items)
  | object {room : Nat} {members : Members} (hkeys : (members.map Prod.fst).Nodup)
      (h : ∀ m ∈ members, Readable (room + 1) m.2) : Readable (room + 2) (.object members)

/-- Nothing is lost of such a value when each key is kept once. -/
theorem Readable.distinct_eq_self {room : Nat} {v : Json} (h : Readable room v) :
    distinct v = v := by
  induction h with
  | null => rw [distinct] <;> simp
  | bool b => rw [distinct] <;> simp
  | number hn => rw [distinct] <;> simp
  | string s => rw [distinct] <;> simp
  | array _ ih => exact distinct_array_eq_self ih
  | object hkeys _ ih => exact distinct_object_eq_self hkeys ih

theorem toList_newline_append (level : Nat) (rest : List Char) :
    (newline level).toList ++ rest = '\n' :: (List.replicate (2 * level) ' ' ++ rest) := by
  rw [newline, String.toList_ofList, List.cons_append]

/-- A list has its items on lines of their own, one level further in. -/
theorem toList_prettyAt_array (level : Nat) (item : Json) (items : List Json) :
    (prettyAt level (.array (item :: items))).toList =
      '[' :: ((newline (level + 1)).toList ++ ((prettyAt (level + 1) item).toList ++
        ((prettyItems (level + 1) items).toList ++ ((newline level).toList ++ [']'])))) := by
  simp only [prettyAt, String.toList_append, List.append_assoc]
  rfl

theorem toList_prettyItems_cons (level : Nat) (item : Json) (items : List Json) :
    (prettyItems level (item :: items)).toList =
      ',' :: ((newline level).toList ++ ((prettyAt level item).toList ++
        (prettyItems level items).toList)) := by
  simp only [prettyItems, String.toList_append, List.append_assoc]
  rfl

theorem toList_prettyAt_object (level : Nat) (key : String) (v : Json) (members : Members) :
    (prettyAt level (.object ((key, v) :: members))).toList =
      '\x7b' :: ((newline (level + 1)).toList ++ ((literal key).toList ++ ':' :: ' ' ::
        ((prettyAt (level + 1) v).toList ++ ((prettyMembers (level + 1) members).toList ++
          ((newline level).toList ++ ['\x7d']))))) := by
  simp only [prettyAt, String.toList_append, List.append_assoc]
  rfl

theorem toList_prettyMembers_cons (level : Nat) (key : String) (v : Json) (members : Members) :
    (prettyMembers level ((key, v) :: members)).toList =
      ',' :: ((newline level).toList ++ ((literal key).toList ++ ':' :: ' ' ::
        ((prettyAt level v).toList ++ (prettyMembers level members).toList))) := by
  simp only [prettyMembers, String.toList_append, List.append_assoc]
  rfl

theorem length_le_prettyItems (level : Nat) (items : List Json) :
    items.length ≤ (prettyItems level items).toList.length := by
  induction items with
  | nil => exact Nat.zero_le _
  | cons item items ih =>
    rw [toList_prettyItems_cons]
    simp only [List.length_append, List.length_cons]
    omega

theorem length_le_prettyMembers (level : Nat) (members : Members) :
    members.length ≤ (prettyMembers level members).toList.length := by
  induction members with
  | nil => exact Nat.zero_le _
  | cons member members ih =>
    rw [toList_prettyMembers_cons]
    simp only [List.length_append, List.length_cons]
    omega

/-- Whether an item or a member can begin with a text: no blank and no closing bracket does. -/
def Begins (text : List Char) : Prop :=
  ∃ c rest, text = c :: rest ∧ Parser.isSpace c = false ∧ c ≠ ']' ∧ c ≠ '\x7d'

theorem Begins.append {text : List Char} (h : Begins text) (rest : List Char) :
    Begins (text ++ rest) := by
  obtain ⟨c, others, rfl, hc⟩ := h
  exact ⟨c, others ++ rest, rfl, hc⟩

theorem begins_literal (s : String) (rest : List Char) : Begins ((literal s).toList ++ rest) :=
  ⟨'"', _, toList_literal_append s rest, rfl, by decide, by decide⟩

/-- A printed value does not begin with a blank. -/
theorem Readable.begins_prettyAt {room : Nat} {v : Json} (h : Readable room v) (level : Nat) :
    Begins (prettyAt level v).toList := by
  cases h with
  | null =>
    rw [prettyAt]
    exact ⟨'n', ['u', 'l', 'l'], rfl, rfl, by decide, by decide⟩
  | bool b =>
    rw [prettyAt]
    cases b with
    | false => exact ⟨'f', ['a', 'l', 's', 'e'], rfl, rfl, by decide, by decide⟩
    | true => exact ⟨'t', ['r', 'u', 'e'], rfl, rfl, by decide, by decide⟩
  | number hn =>
    rw [prettyAt]
    obtain ⟨c, s, htext, hdigit | rfl⟩ := hn.exists_text_eq_cons
    · refine ⟨c, s, htext, Parser.isSpace_of_isDigit hdigit, ?_, ?_⟩
      · rintro rfl
        cases hdigit
      · rintro rfl
        cases hdigit
    · exact ⟨'-', s, htext, rfl, by decide, by decide⟩
  | string s =>
    rw [prettyAt, ← List.append_nil (literal s).toList]
    exact begins_literal s []
  | @array room items hitems =>
    cases items with
    | nil =>
      rw [prettyAt]
      exact ⟨'[', [']'], rfl, rfl, by decide, by decide⟩
    | cons item items =>
      exact ⟨'[', _, toList_prettyAt_array level item items, rfl, by decide, by decide⟩
  | @object room members hkeys hmembers =>
    rcases members with _ | ⟨⟨key, v⟩, members⟩
    · rw [prettyAt]
      exact ⟨'\x7b', ['\x7d'], rfl, rfl, by decide, by decide⟩
    · exact ⟨'\x7b', _, toList_prettyAt_object level key v members, rfl, by decide, by decide⟩

namespace Parser

/-- Line breaks and indentation are skipped. -/
theorem skipSpace_newline_append (level : Nat) (rest : List Char) :
    skipSpace ((newline level).toList ++ rest) = skipSpace rest := by
  rw [newline, String.toList_ofList]
  refine List.dropWhile_append_of_pos fun c hc ↦ ?_
  rcases List.mem_cons.mp hc with rfl | hc
  · rfl
  · rw [List.eq_of_mem_replicate hc]
    rfl

/-- Of a line, the blanks in front are skipped and nothing else. -/
theorem skipSpace_newline_begins {text : List Char} (h : Begins text) (level : Nat) :
    skipSpace ((newline level).toList ++ text) = text := by
  obtain ⟨c, rest, rfl, hspace, -⟩ := h
  rw [skipSpace_newline_append]
  exact List.dropWhile_cons_of_neg (by rw [hspace]; exact Bool.false_ne_true)

section Steps

variable {element : List Char → Except Fault (Json × List Char)} {fuel room : Nat} {item : Json}
  {items : List Json} {pair : String × Json} {pairs : Members}
  {s rest after last next text : List Char}

/-- The last item is followed by the end of the list. -/
theorem elements_last (h : element s = .ok (item, rest)) (hclose : skipSpace rest = ']' :: after) :
    elements element (fuel + 1) s = .ok ([item], after) := by
  simp [elements, h, hclose, bind, Except.bind, pure, Except.pure]

/-- Between two items there is a comma, with blanks around it or none. -/
theorem elements_next (h : element s = .ok (item, rest)) (hcomma : skipSpace rest = ',' :: after)
    (hnext : skipSpace after = next) (hbegins : Begins next)
    (hitems : elements element fuel next = .ok (items, last)) :
    elements element (fuel + 1) s = .ok (item :: items, last) := by
  obtain ⟨c, others, rfl, -, hbracket, -⟩ := hbegins
  simp [elements, h, hcomma, hnext, hbracket, hitems, bind, Except.bind, pure, Except.pure]

/-- A key is read up to its quote, and then the value. -/
theorem member_literal_append {key : String} (h : element s = .ok (item, rest)) :
    member element ((literal key).toList ++ ':' :: s) = .ok ((key, item), rest) := by
  have hcolon : skipSpace (':' :: s) = ':' :: s := rfl
  simp [toList_literal_append, member, stringBody_append, hcolon, h, bind, Except.bind, pure,
    Except.pure]

theorem objectMembers_last (h : member element s = .ok (pair, rest))
    (hclose : skipSpace rest = '\x7d' :: after) :
    objectMembers element (fuel + 1) s = .ok ([pair], after) := by
  simp [objectMembers, h, hclose, bind, Except.bind, pure, Except.pure]

theorem objectMembers_next (h : member element s = .ok (pair, rest))
    (hcomma : skipSpace rest = ',' :: after) (hnext : skipSpace after = next)
    (hbegins : Begins next) (hpairs : objectMembers element fuel next = .ok (pairs, last)) :
    objectMembers element (fuel + 1) s = .ok (pair :: pairs, last) := by
  obtain ⟨c, others, rfl, -, -, hbrace⟩ := hbegins
  simp [objectMembers, h, hcomma, hnext, hbrace, hpairs, bind, Except.bind, pure, Except.pure]

/-- A list is read item by item, and the length of its text is enough fuel. -/
theorem value_array (hskip : skipSpace s = text) (hbegins : Begins text)
    (h : elements (value (room + 1)) (text.length + 1) text = .ok (items, rest)) :
    value (room + 2) ('[' :: s) = .ok (.array items, rest) := by
  have hopen : skipSpace ('[' :: s) = '[' :: s := rfl
  obtain ⟨c, others, htext, -, hbracket, -⟩ := hbegins
  rw [value, hopen]
  change (if room + 1 = 0 then failAt .tooDeep ('[' :: s) else _) = _
  rw [if_neg (Nat.succ_ne_zero room), hskip]
  split
  · cases htext
  · cases htext
    exact absurd rfl hbracket
  · rw [h]
    rfl

theorem value_object (hskip : skipSpace s = text) (hbegins : Begins text)
    (h : objectMembers (value (room + 1)) (text.length + 1) text = .ok (pairs, rest)) :
    value (room + 2) ('\x7b' :: s) = .ok (.object pairs, rest) := by
  have hopen : skipSpace ('\x7b' :: s) = '\x7b' :: s := rfl
  obtain ⟨c, others, htext, -, -, hbrace⟩ := hbegins
  rw [value, hopen]
  change (if room + 1 = 0 then failAt .tooDeep ('\x7b' :: s) else _) = _
  rw [if_neg (Nat.succ_ne_zero room), hskip]
  split
  · cases htext
  · cases htext
    exact absurd rfl hbrace
  · rw [h]
    rfl

end Steps

/-- Whether the pretty text of a value is read back wherever the value can end. -/
def ReadsPretty (room : Nat) (v : Json) : Prop :=
  ∀ level rest, Ends rest → value room ((prettyAt level v).toList ++ rest) = .ok (v, rest)

/-- At the end of a line a number is at its end. -/
theorem ends_newline_append (level : Nat) (rest : List Char) :
    Ends ((newline level).toList ++ rest) := by
  rw [toList_newline_append]
  exact ends_cons (by decide) _

/-- The items of an array, each on its line, up to the closing bracket. -/
theorem elements_prettyItems {room level below : Nat} {item : Json} {items : List Json}
    (hread : ∀ v ∈ item :: items, Readable room v)
    (hvalue : ∀ v ∈ item :: items, ReadsPretty room v) {fuel : Nat} (hfuel : items.length < fuel)
    (rest : List Char) :
    elements (value room) fuel ((prettyAt level item).toList ++ ((prettyItems level items).toList ++
      ((newline below).toList ++ ']' :: rest))) = .ok (item :: items, rest) := by
  induction items generalizing item fuel with
  | nil =>
    obtain ⟨fuel, rfl⟩ := Nat.exists_eq_succ_of_ne_zero (Nat.ne_of_gt hfuel)
    have hitem := hvalue item List.mem_cons_self level
    rw [prettyItems, String.toList_empty, List.nil_append]
    exact elements_last (hitem _ (ends_newline_append below _)) (skipSpace_newline_append below _)
  | cons next items ih =>
    obtain ⟨fuel, rfl⟩ := Nat.exists_eq_succ_of_ne_zero (Nat.ne_of_gt (Nat.zero_lt_of_lt hfuel))
    have hitem := hvalue item List.mem_cons_self level
    have hbegins :=
      (hread next (List.mem_cons_of_mem item List.mem_cons_self)).begins_prettyAt level
    have hitems := ih (fun v hv ↦ hread v (List.mem_cons_of_mem item hv))
      (fun v hv ↦ hvalue v (List.mem_cons_of_mem item hv)) (Nat.lt_of_succ_lt_succ hfuel)
    rw [toList_prettyItems_cons, List.cons_append, List.append_assoc, List.append_assoc]
    exact elements_next (hitem _ (ends_cons (by decide) _)) rfl
      (skipSpace_newline_begins (hbegins.append _) level) (hbegins.append _) hitems

/-- The members of an object, each on its line, up to the closing brace. -/
theorem objectMembers_prettyMembers {room level below : Nat} {key : String} {v : Json}
    {members : Members} (hvalue : ∀ m ∈ (key, v) :: members, ReadsPretty (room + 1) m.2)
    {fuel : Nat} (hfuel : members.length < fuel) (rest : List Char) :
    objectMembers (value (room + 1)) fuel ((literal key).toList ++ ':' :: ' ' ::
      ((prettyAt level v).toList ++ ((prettyMembers level members).toList ++
        ((newline below).toList ++ '\x7d' :: rest)))) = .ok ((key, v) :: members, rest) := by
  induction members generalizing key v fuel with
  | nil =>
    obtain ⟨fuel, rfl⟩ := Nat.exists_eq_succ_of_ne_zero (Nat.ne_of_gt hfuel)
    have hv := hvalue (key, v) List.mem_cons_self level
    rw [prettyMembers, String.toList_empty, List.nil_append]
    exact objectMembers_last (member_literal_append (hv _ (ends_newline_append below _)))
      (skipSpace_newline_append below _)
  | cons next members ih =>
    obtain ⟨fuel, rfl⟩ := Nat.exists_eq_succ_of_ne_zero (Nat.ne_of_gt (Nat.zero_lt_of_lt hfuel))
    have hv := hvalue (key, v) List.mem_cons_self level
    have hbegins := begins_literal next.1
    have hmembers := ih (fun m hm ↦ hvalue m (List.mem_cons_of_mem _ hm))
      (Nat.lt_of_succ_lt_succ hfuel)
    rw [toList_prettyMembers_cons, List.cons_append]
    simp only [List.append_assoc, List.cons_append]
    exact objectMembers_next (member_literal_append (hv _ (ends_cons (by decide) _))) rfl
      (skipSpace_newline_begins (hbegins _) level) (hbegins _) hmembers

/-- The pretty text of a value is read back before any text that does not go on with it. -/
theorem readsPretty_of_readable {room : Nat} {v : Json} (h : Readable room v) :
    ReadsPretty room v := by
  induction h with
  | null =>
    intro level rest hrest
    rw [prettyAt]
    rfl
  | bool b =>
    intro level rest hrest
    rw [prettyAt]
    cases b <;> rfl
  | @number room n hn =>
    intro level rest hrest
    rw [prettyAt]
    exact hn.value_append hrest room
  | @string room s =>
    intro level rest hrest
    have hquote (rest : List Char) : skipSpace ('"' :: rest) = '"' :: rest := rfl
    rw [prettyAt, toList_literal_append, value, hquote]
    simp [stringBody_append, bind, Except.bind, pure, Except.pure]
  | @array room items hitems ih =>
    intro level rest hrest
    cases items with
    | nil =>
      rw [prettyAt]
      rfl
    | cons item items =>
      have hbegins := (hitems item List.mem_cons_self).begins_prettyAt (level + 1)
      rw [toList_prettyAt_array, List.cons_append]
      simp only [List.append_assoc, List.singleton_append]
      refine value_array (skipSpace_newline_begins (hbegins.append _) (level + 1))
        (hbegins.append _) (elements_prettyItems hitems ih ?_ rest)
      have := length_le_prettyItems (level + 1) items
      simp only [List.length_append]
      omega
  | @object room members hkeys hmembers ih =>
    intro level rest hrest
    rcases members with _ | ⟨⟨key, v⟩, members⟩
    · rw [prettyAt]
      rfl
    · have hbegins := begins_literal key
      rw [toList_prettyAt_object, List.cons_append]
      simp only [List.append_assoc, List.cons_append, List.nil_append]
      refine value_object (skipSpace_newline_begins (hbegins _) (level + 1)) (hbegins _)
        (objectMembers_prettyMembers ih ?_ rest)
      have := length_le_prettyMembers (level + 1) members
      simp only [List.length_append, List.length_cons]
      omega

end Parser

/-- A value that is not too deep is read from its pretty text. -/
theorem read_pretty {v : Json} (h : Readable 128 v) : read v.pretty = .ok v := by
  have hvalue := Parser.readsPretty_of_readable h 0 [] (by simp [Ends])
  rw [List.append_nil] at hvalue
  rw [read, whole, pretty, hvalue]
  rfl

/-- A value that is not nested too deep is read as it was printed. -/
theorem parse_pretty {v : Json} (h : Readable 128 v) : parse v.pretty = .ok v := by
  rw [parse, read_pretty h, Except.map, h.distinct_eq_self]

end Barometer.Json
