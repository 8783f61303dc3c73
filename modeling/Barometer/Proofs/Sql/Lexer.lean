import Barometer.Proofs.Sql.Phrase

/-!
# Reading statements

A lexer goes on where a scanner ends. Regions are names or texts, and what stands outside of them is
read as long as it may go on: words, which are names unless they are reserved, numbers, and signs of
one character. Blanks separate. Which words are reserved, and whether case matters in the others,
differs from one database to the next. Comments are not provided for, as statements hold none.
-/

namespace Barometer.Sql

/-- What a lexer reads. -/
inductive Lexeme where
  | identifier (text : String)
  | keyword (text : String)
  | number (text : String)
  | text (s : String)
  | sign (c : Char)
deriving DecidableEq, Repr

/-- What a database makes of words. -/
structure Lexicon where
  isReserved : String → Bool
  /-- The name that a word stands for, such as the same in lower case. -/
  fold : String → String

def Lexicon.read (lexicon : Lexicon) (word : String) : Lexeme :=
  if lexicon.isReserved word then .keyword word else .identifier (lexicon.fold word)

theorem Lexicon.read_eq_identifier_iff {lexicon : Lexicon} {word : String} :
    lexicon.read word = .identifier word ↔
      ¬ (lexicon.isReserved word = true ∨ lexicon.fold word ≠ word) := by
  unfold read
  split
  · simp [*]
  · simp [*]

namespace Lexer

/-- The characters of a word behind its first one. -/
def isWordCharacter (c : Char) : Bool := isNameCharacter c || c == '$' || decide (128 ≤ c.toNat)

/-- What has been read and may go on; characters are kept in reverse. -/
inductive Run where
  | idle
  /-- A point, which may begin a number. -/
  | point
  | word (seen : List Char)
  | number (seen : List Char)
deriving DecidableEq, Repr

namespace Run

/-- What has been read, if it does not go on. -/
def lexemes (lexicon : Lexicon) : Run → List Lexeme
  | .idle => []
  | .point => [.sign '.']
  | .word seen => [lexicon.read (String.ofList seen.reverse)]
  | .number seen => [.number (String.ofList seen.reverse)]

/-- What has been read, one character further; none if the character does not belong to it. A
number takes up letters and points, and a sign behind an exponent. -/
def extend? : Run → Char → Option Run
  | .idle, _ => none
  | .point, c => if c.isDigit then some (.number [c, '.']) else none
  | .word seen, c => if isWordCharacter c then some (.word (c :: seen)) else none
  | .number seen, c =>
    let exponent := (c == '+' || c == '-') && (seen.head? == some 'e' || seen.head? == some 'E')
    if isWordCharacter c || c == '.' || exponent then some (.number (c :: seen)) else none

/-- What begins with a character. -/
def start (c : Char) : Run :=
  if c == '.' then .point
  else if c.isDigit then .number [c]
  else if isWordCharacter c then .word [c]
  else .idle

end Run

/-- What is read at once when nothing goes on: a sign, unless the character is blank. -/
def signs (c : Char) : List Lexeme :=
  if Run.start c ≠ .idle ∨ c.isWhitespace = true then [] else [.sign c]

variable (lexicon : Lexicon)

/-- What is read with a piece, and what may go on behind it. -/
def step (run : Run) : Piece → List Lexeme × Run
  | .region quote text =>
    (run.lexemes lexicon ++ [if quote = '"' then .identifier text else .text text], .idle)
  | .plain c =>
    match run.extend? c with
    | some longer => ([], longer)
    | none => (run.lexemes lexicon ++ signs c, .start c)

/-- What is read with some pieces, and what may go on behind them. -/
def feed (run : Run) : List Piece → List Lexeme × Run
  | [] => ([], run)
  | p :: rest =>
    let first := step lexicon run p
    let later := feed first.2 rest
    (first.1 ++ later.1, later.2)

def lexemes (pieces : List Piece) : List Lexeme :=
  let read := feed lexicon .idle pieces
  read.1 ++ read.2.lexemes lexicon

/-- The lexemes of a statement; none if it ends in a region. -/
def lex (statement : String) : Option (List Lexeme) :=
  (Scanner.scan statement).map (lexemes lexicon)

variable {lexicon}

theorem feed_append (run : Run) (ps qs : List Piece) :
    feed lexicon run (ps ++ qs) =
      ((feed lexicon run ps).1 ++ (feed lexicon (feed lexicon run ps).2 qs).1,
        (feed lexicon (feed lexicon run ps).2 qs).2) := by
  induction ps generalizing run with
  | nil => rfl
  | cons p rest ih => simp only [List.cons_append, feed, ih, List.append_assoc]

/-- Whether what has been read does not go on with a piece. -/
def Run.EndsBefore (run : Run) : Piece → Prop
  | .plain c => run.extend? c = none
  | .region _ _ => True

theorem Run.endsBefore_idle (p : Piece) : Run.idle.EndsBefore p := by
  cases p with
  | plain c => rfl
  | region quote text => trivial

theorem step_of_endsBefore {run : Run} {p : Piece} (h : run.EndsBefore p) :
    step lexicon run p =
      (run.lexemes lexicon ++ (step lexicon .idle p).1, (step lexicon .idle p).2) := by
  cases p with
  | plain c =>
    have hextend : run.extend? c = none := h
    have hidle : Run.idle.extend? c = none := rfl
    simp only [step, hextend, hidle, Run.lexemes, List.nil_append]
  | region quote text => simp only [step, Run.lexemes, List.nil_append]

theorem feed_of_endsBefore {run : Run} {p : Piece} (h : run.EndsBefore p) (rest : List Piece) :
    feed lexicon run (p :: rest) =
      (run.lexemes lexicon ++ (feed lexicon .idle (p :: rest)).1,
        (feed lexicon .idle (p :: rest)).2) := by
  simp only [feed, step_of_endsBefore h, List.append_assoc]

/-- Pieces can be read in two parts, unless what is read last of the first part goes on. -/
theorem lexemes_append {ps qs : List Piece}
    (h : ∀ q ∈ qs.head?, (feed lexicon .idle ps).2.EndsBefore q) :
    lexemes lexicon (ps ++ qs) = lexemes lexicon ps ++ lexemes lexicon qs := by
  cases qs with
  | nil => simp [lexemes, feed, Run.lexemes]
  | cons q rest =>
    simp only [lexemes, feed_append, feed_of_endsBefore (h q rfl), List.append_assoc]

/-- A number that has been begun is the next lexeme, as far as it goes. -/
theorem exists_number_of_feed (lexicon : Lexicon) (seen : List Char) (ps : List Piece) :
    ∃ more rest, (feed lexicon (.number seen) ps).1 ++
      (feed lexicon (.number seen) ps).2.lexemes lexicon =
        .number (String.ofList (more ++ seen).reverse) :: rest := by
  induction ps generalizing seen with
  | nil => exact ⟨[], _, rfl⟩
  | cons p rest ih =>
    cases p with
    | region quote text => exact ⟨[], _, rfl⟩
    | plain c =>
      simp only [feed, step]
      cases hextend : (Run.number seen).extend? c with
      | none => exact ⟨[], _, rfl⟩
      | some longer =>
        have hlonger : longer = .number (c :: seen) := by
          simp only [Run.extend?] at hextend
          split at hextend
          · exact (Option.some.inj hextend).symm
          · cases hextend
        obtain ⟨more, others, hothers⟩ := ih (c :: seen)
        have hseen : more ++ [c] ++ seen = more ++ c :: seen := by simp
        refine ⟨more ++ [c], others, ?_⟩
        rw [hlonger, hseen]
        exact hothers

/-- The characters of marks besides the point. -/
def markCharacters : List Char := [',', '(', ')', ' ', '=', '<', '>']

theorem extend?_of_mem_markCharacters {c : Char} (hc : c ∈ markCharacters) (run : Run) :
    run.extend? c = none := by
  have hall : markCharacters.all (fun c ↦ !isWordCharacter c && !c.isDigit && c != '.' &&
      c != '+' && c != '-') = true := by
    decide
  have hnone := List.all_eq_true.mp hall c hc
  simp only [Bool.and_eq_true, Bool.not_eq_true', bne_iff_ne] at hnone
  obtain ⟨⟨⟨⟨hword, hdigit⟩, hpoint⟩, hplus⟩, hminus⟩ := hnone
  cases run <;> simp [Run.extend?, hword, hdigit, hpoint, hplus, hminus]

theorem pieces_of_isMark {t : Token} (h : t.isMark = true) (hdot : t ≠ .dot) :
    ∃ c s, t.pieces = (c :: s).map .plain ∧ ∀ d ∈ c :: s, d ∈ markCharacters := by
  have hmarks {s : List Char} (hall : s.all markCharacters.contains = true) :
      ∀ d ∈ s, d ∈ markCharacters :=
    fun d hd ↦ List.contains_iff_mem.mp (List.all_eq_true.mp hall d hd)
  cases t with
  | relation r => cases r <;> exact ⟨_, _, rfl, hmarks rfl⟩
  | comma => exact ⟨_, _, rfl, hmarks rfl⟩
  | dot => exact absurd rfl hdot
  | leftParen => exact ⟨_, _, rfl, hmarks rfl⟩
  | rightParen => exact ⟨_, _, rfl, hmarks rfl⟩
  | space => exact ⟨_, _, rfl, hmarks rfl⟩
  | _ => cases h

theorem step_of_mem_markCharacters {c : Char} (hc : c ∈ markCharacters) (run : Run) :
    (step lexicon run (.plain c)).2 = .idle := by
  have hstart : markCharacters.all (fun c ↦ Run.start c == .idle) = true := by decide
  have hidle := beq_iff_eq.mp (List.all_eq_true.mp hstart c hc)
  simp only [step, extend?_of_mem_markCharacters hc, hidle]

/-- Nothing goes on behind a mark that is not the point. -/
theorem feed_of_isMark {t : Token} (h : t.isMark = true) (hdot : t ≠ .dot) (run : Run) :
    (feed lexicon run t.pieces).2 = .idle := by
  obtain ⟨c, s, hpieces, hmarks⟩ := pieces_of_isMark h hdot
  rw [hpieces]
  clear hpieces
  induction s generalizing c run with
  | nil => exact step_of_mem_markCharacters (hmarks c List.mem_cons_self) run
  | cons d s ih => exact ih _ d fun x hx ↦ hmarks x (List.mem_cons_of_mem c hx)

/-- A word goes on before no mark. -/
theorem endsBefore_of_isMark {t : Token} (h : t.isMark = true) {run : Run}
    (hrun : run = .idle ∨ ∃ seen, run = .word seen) :
    ∀ p ∈ t.pieces.head?, run.EndsBefore p := by
  intro p hp
  by_cases hdot : t = .dot
  · subst hdot
    cases hp
    rcases hrun with rfl | ⟨seen, rfl⟩ <;> rfl
  · obtain ⟨c, s, hpieces, hmarks⟩ := pieces_of_isMark h hdot
    rw [hpieces] at hp
    cases hp
    exact extend?_of_mem_markCharacters (hmarks c List.mem_cons_self) run

theorem isWordCharacter_of_isNameCharacter {c : Char} (h : isNameCharacter c = true) :
    isWordCharacter c = true := by
  simp [isWordCharacter, h]

theorem feed_wordCharacters (lexicon : Lexicon) (seen : List Char) {s : List Char}
    (hs : ∀ c ∈ s, isNameCharacter c = true) (ps : List Piece) :
    feed lexicon (.word seen) (s.map .plain ++ ps) =
      feed lexicon (.word (s.reverse ++ seen)) ps := by
  induction s generalizing seen with
  | nil => rfl
  | cons c s ih =>
    have hc := isWordCharacter_of_isNameCharacter (hs c List.mem_cons_self)
    rw [List.map_cons, List.cons_append, feed]
    simp only [step, Run.extend?, hc, if_true, List.nil_append,
      ih (c :: seen) fun d hd ↦ hs d (List.mem_cons_of_mem c hd)]
    simp

theorem isDigit_of_isNameStart {c : Char} (h : isNameStart c = true) : c.isDigit = false := by
  have hdigits : ∀ n ∈ List.range 10, isNameStart (Char.ofNat (48 + n)) = false := by decide
  rw [Bool.eq_false_iff]
  intro hdigit
  obtain ⟨hlow, hhigh⟩ : 48 ≤ c.toNat ∧ c.toNat ≤ 57 := Char.isDigit_iff_toNat.mp hdigit
  have hnone := hdigits (c.toNat - 48) (by rw [List.mem_range]; omega)
  rw [Nat.add_sub_cancel' hlow, Char.ofNat_toNat, h] at hnone
  cases hnone

theorem isNameCharacter_of_isNameStart {c : Char} (h : isNameStart c = true) :
    isNameCharacter c = true := by
  rw [isNameStart, Bool.or_eq_true] at h
  rcases h with h | h <;> simp [isNameCharacter, Char.isAlphanum, h]

/-- A name without quotes and without a point is read as one word. -/
theorem feed_simpleName (lexicon : Lexicon) {s : List Char} (h : isSimpleName s = true)
    (ps : List Piece) :
    feed lexicon .idle (s.map .plain ++ ps) = feed lexicon (.word s.reverse) ps := by
  cases s with
  | nil => cases h
  | cons c rest =>
    rw [isSimpleName, Bool.and_eq_true, List.all_eq_true] at h
    have hword := isWordCharacter_of_isNameCharacter (isNameCharacter_of_isNameStart h.1)
    have hpoint : (c == '.') = false := by
      rw [beq_eq_false_iff_ne]
      rintro rfl
      exact absurd h.1 (by decide)
    have hstart : Run.start c = .word [c] := by
      simp [Run.start, hpoint, isDigit_of_isNameStart h.1, hword]
    have hsigns : signs c = [] := by simp [signs, hstart]
    have hrest := feed_wordCharacters lexicon [c] h.2 ps
    rw [List.map_cons, List.cons_append, feed]
    simp only [step, Run.extend?, Run.lexemes, hstart, hsigns, List.nil_append, hrest]
    simp

/-- A point is no part of a number where such a name follows. -/
theorem feed_point_simpleName {s : List Char} (h : isSimpleName s = true) :
    feed lexicon .point (s.map .plain) = ([.sign '.'], .word s.reverse) := by
  have hread := feed_simpleName lexicon h []
  rw [List.append_nil] at hread
  cases s with
  | nil => cases h
  | cons c rest =>
    rw [isSimpleName, Bool.and_eq_true] at h
    have hends : Run.point.EndsBefore (.plain c) := by
      simp [Run.EndsBefore, Run.extend?, isDigit_of_isNameStart h.1]
    rw [List.map_cons, feed_of_endsBefore hends, ← List.map_cons, hread]
    rfl

/-- Whether a name is written without quotes and is read as something else: a number, a sign, a
reserved word, another name, or two names with a point between them. -/
def IsAmbiguous (lexicon : Lexicon) (name : String) : Prop :=
  name = "1" ∨ name = "*" ∨
    (isSimpleName name.toList = true ∧
      (lexicon.isReserved name = true ∨ lexicon.fold name ≠ name)) ∨
    ∃ table column, isSimpleName table = true ∧ isSimpleName column = true ∧
      name.toList = table ++ '.' :: column

theorem pieces_of_isPlain {name : String} (h : isPlain name = true) :
    (Token.name name).pieces = name.toList.map .plain := by
  rw [Token.pieces_eq_plain (by rw [Token.region?, if_pos h]), Token.sql, nameText, if_pos h]

theorem pieces_of_not_isPlain {name : String} (h : isPlain name = false) :
    (Token.name name).pieces = [.region '"' name] :=
  Token.pieces_eq_region (by rw [Token.region?, h]; rfl)

theorem pieces_name_ne_nil (name : String) : (Token.name name).pieces ≠ [] := by
  cases hplain : isPlain name with
  | false => simp [pieces_of_not_isPlain hplain]
  | true =>
    rw [pieces_of_isPlain hplain]
    intro hnil
    rw [String.toList_eq_nil_iff.mp (List.map_eq_nil_iff.mp hnil)] at hplain
    exact absurd hplain (by decide)

/-- How a name is written, and how it is read from there. -/
theorem feed_name (lexicon : Lexicon) (name : String) :
    (isPlain name = false ∧
      feed lexicon .idle (Token.name name).pieces = ([.identifier name], .idle)) ∨
    (isSimpleName name.toList = true ∧
      feed lexicon .idle (Token.name name).pieces = ([], .word name.toList.reverse)) ∨
    (name = "1" ∧ feed lexicon .idle (Token.name name).pieces = ([], .number ['1'])) ∨
    (name = "*" ∧ feed lexicon .idle (Token.name name).pieces = ([.sign '*'], .idle)) ∨
    ∃ table column, isSimpleName table = true ∧ isSimpleName column = true ∧
      name.toList = table ++ '.' :: column ∧
      feed lexicon .idle (Token.name name).pieces =
        ((Run.word table.reverse).lexemes lexicon ++ [.sign '.'], .word column.reverse) := by
  cases hplain : isPlain name with
  | false =>
    rw [pieces_of_not_isPlain hplain]
    exact .inl ⟨rfl, rfl⟩
  | true =>
    rw [pieces_of_isPlain hplain]
    rcases (isPlain_iff name).mp hplain with h | rfl | rfl | ⟨table, column, htable, hcolumn, hname⟩
    · have hread := feed_simpleName lexicon h []
      rw [List.append_nil] at hread
      exact .inr (.inl ⟨h, hread⟩)
    · exact .inr (.inr (.inl ⟨rfl, rfl⟩))
    · exact .inr (.inr (.inr (.inl ⟨rfl, rfl⟩)))
    · refine .inr (.inr (.inr (.inr ⟨table, column, htable, hcolumn, hname, ?_⟩)))
      have hends : (Run.word table.reverse).EndsBefore (.plain '.') := rfl
      have hpoint : feed lexicon .idle (.plain '.' :: column.map .plain) =
          feed lexicon .point (column.map .plain) := rfl
      rw [hname, List.map_append, List.map_cons, feed_simpleName lexicon htable,
        feed_of_endsBefore hends, hpoint, feed_point_simpleName hcolumn]

theorem feed_name_of_ne_one (lexicon : Lexicon) {name : String} (h : name ≠ "1") :
    (feed lexicon .idle (Token.name name).pieces).2 = .idle ∨
      ∃ seen, (feed lexicon .idle (Token.name name).pieces).2 = .word seen := by
  rcases feed_name lexicon name with ⟨-, hread⟩ | ⟨-, hread⟩ | ⟨hone, -⟩ | ⟨-, hread⟩ |
    ⟨table, column, -, -, -, hread⟩
  · exact .inl (by rw [hread])
  · exact .inr ⟨_, by rw [hread]⟩
  · exact absurd hone h
  · exact .inl (by rw [hread])
  · exact .inr ⟨_, by rw [hread]⟩

/-- A name without quotes begins as a word, unless it is the one or the star. -/
theorem exists_nameStart_of_isPlain {name : String} (h : isPlain name = true) (hone : name ≠ "1")
    (hstar : name ≠ "*") : ∃ c s, name.toList = c :: s ∧ isNameStart c = true := by
  have hbegins {s : List Char} (hs : isSimpleName s = true) (rest : List Char) :
      ∃ c s', s ++ rest = c :: s' ∧ isNameStart c = true := by
    cases s with
    | nil => cases hs
    | cons c s =>
      rw [isSimpleName, Bool.and_eq_true] at hs
      exact ⟨c, s ++ rest, rfl, hs.1⟩
  rcases (isPlain_iff name).mp h with hs | hname | hname | ⟨table, column, htable, -, hname⟩
  · simpa using hbegins hs []
  · exact absurd hname hone
  · exact absurd hname hstar
  · rw [hname]
    exact hbegins htable _

/-- No name but the one can go on behind a point. -/
theorem endsBefore_name {name : String} (h : name ≠ "1") {run : Run}
    (hrun : run = .idle ∨ run = .point) :
    ∀ p ∈ (Token.name name).pieces.head?, run.EndsBefore p := by
  intro p hp
  rcases hrun with rfl | rfl
  · exact Run.endsBefore_idle p
  · cases hplain : isPlain name with
    | false =>
      rw [pieces_of_not_isPlain hplain] at hp
      cases hp
      trivial
    | true =>
      by_cases hstar : name = "*"
      · subst hstar
        cases hp
        rfl
      · obtain ⟨c, s, hname, hc⟩ := exists_nameStart_of_isPlain hplain h hstar
        rw [pieces_of_isPlain hplain, hname] at hp
        cases hp
        simp [Run.EndsBefore, Run.extend?, isDigit_of_isNameStart hc]

theorem isPlain_of_isAmbiguous {name : String} (h : IsAmbiguous lexicon name) :
    isPlain name = true := by
  rw [isPlain_iff]
  rcases h with h | h | ⟨h, -⟩ | h
  · exact .inr (.inl h)
  · exact .inr (.inr (.inl h))
  · exact .inl h
  · exact .inr (.inr (.inr h))

theorem isAmbiguous_iff_of_isSimpleName {name : String} (h : isSimpleName name.toList = true) :
    IsAmbiguous lexicon name ↔ lexicon.isReserved name = true ∨ lexicon.fold name ≠ name := by
  constructor
  · rintro (rfl | rfl | ⟨-, hread⟩ | ⟨table, column, -, -, hname⟩)
    · exact absurd h (by decide)
    · exact absurd h (by decide)
    · exact hread
    · exact absurd (by rw [hname]; simp) (point_not_mem_of_isSimpleName h)
  · exact fun hread ↦ .inr (.inr (.inl ⟨h, hread⟩))

/-- A name is read as one identifier, and as the one that it is, unless it is ambiguous. -/
theorem lexemes_name_iff (lexicon : Lexicon) (name : String) :
    lexemes lexicon (Token.name name).pieces = [.identifier name] ↔
      ¬ IsAmbiguous lexicon name := by
  rcases feed_name lexicon name with ⟨hplain, hread⟩ | ⟨hsimple, hread⟩ | ⟨rfl, hread⟩ |
    ⟨rfl, hread⟩ | ⟨table, column, htable, hcolumn, hname, hread⟩ <;> rw [lexemes, hread]
  · refine iff_of_true rfl fun hambiguous ↦ ?_
    rw [isPlain_of_isAmbiguous hambiguous] at hplain
    cases hplain
  · rw [isAmbiguous_iff_of_isSimpleName hsimple, ← Lexicon.read_eq_identifier_iff]
    simp [Run.lexemes]
  · simp [IsAmbiguous, Run.lexemes]
  · simp [IsAmbiguous, Run.lexemes]
  · have hambiguous : IsAmbiguous lexicon name :=
      .inr (.inr (.inr ⟨table, column, htable, hcolumn, hname⟩))
    simp [hambiguous, Run.lexemes]

end Lexer

end Barometer.Sql
