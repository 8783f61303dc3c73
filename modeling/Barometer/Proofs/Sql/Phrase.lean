import Barometer.Proofs.Sql.Characters
import Barometer.Proofs.Sql.Scanner

/-!
# Phrases

A phrase is a list of tokens that stays what it is when its text is scanned: two tokens that could
run into each other never meet, and its parentheses match. The quoted regions that a scanner finds
in a phrase are those of its tokens.
-/

namespace Barometer.Sql

/-! ## Parentheses -/

namespace Piece

/-- How many parentheses are open behind some pieces, when `depth` are open before them; none when
one is closed that has not been opened. -/
def depthAfter : Nat → List Piece → Option Nat
  | depth, [] => some depth
  | depth, .plain '(' :: rest => depthAfter (depth + 1) rest
  | 0, .plain ')' :: _ => none
  | depth + 1, .plain ')' :: rest => depthAfter depth rest
  | depth, _ :: rest => depthAfter depth rest

/-- Every parenthesis is closed that is opened, and none before it is opened. -/
structure Balanced (pieces : List Piece) : Prop where
  opened : ∀ before, before <+: pieces → before.count (.plain ')') ≤ before.count (.plain '(')
  closed : pieces.count (.plain ')') = pieces.count (.plain '(')

theorem depthAfter_cons {p : Piece} (hopen : p ≠ .plain '(') (hclose : p ≠ .plain ')')
    (depth : Nat) (rest : List Piece) : depthAfter depth (p :: rest) = depthAfter depth rest := by
  rw [depthAfter.eq_5]
  · exact hopen
  · rintro - rfl
    exact hclose rfl
  · rintro n - rfl
    exact hclose rfl

theorem depthAfter_append (depth : Nat) (ps qs : List Piece) :
    depthAfter depth (ps ++ qs) = (depthAfter depth ps).bind fun d ↦ depthAfter d qs := by
  fun_induction depthAfter depth ps with
  | case1 depth => rfl
  | case2 depth rest ih => exact ih
  | case3 rest => rfl
  | case4 depth rest ih => exact ih
  | case5 depth p rest hopen hzero hsucc ih =>
    rw [List.cons_append, depthAfter.eq_5 depth p (rest ++ qs) hopen hzero hsucc]
    exact ih

/-- The depth counts the brackets that are open. -/
theorem count_of_depthAfter {depth d : Nat} {pieces : List Piece}
    (h : depthAfter depth pieces = some d) :
    depth + pieces.count (.plain '(') = d + pieces.count (.plain ')') := by
  fun_induction depthAfter depth pieces with
  | case1 depth =>
    cases h
    rfl
  | case2 depth rest ih =>
    have hrest := ih h
    simp only [List.count_cons_self,
      List.count_cons_of_ne (by decide : Piece.plain '(' ≠ .plain ')')]
    omega
  | case3 rest => cases h
  | case4 depth rest ih =>
    have hrest := ih h
    simp only [List.count_cons_self,
      List.count_cons_of_ne (by decide : Piece.plain ')' ≠ .plain '(')]
    omega
  | case5 depth p rest hopen hzero hsucc ih =>
    have hclose : p ≠ .plain ')' := by
      intro hp
      cases depth with
      | zero => exact hzero rfl hp
      | succ n => exact hsucc n rfl hp
    rw [List.count_cons_of_ne hopen, List.count_cons_of_ne hclose]
    exact ih h

/-- Brackets that never close before they open, and are all closed at the end, are balanced. -/
theorem balanced_of_depthAfter {pieces : List Piece} (h : depthAfter 0 pieces = some 0) :
    Balanced pieces where
  opened := by
    rintro before ⟨after, rfl⟩
    rw [depthAfter_append] at h
    obtain ⟨d, hd, -⟩ := Option.bind_eq_some_iff.mp h
    have hcount := count_of_depthAfter hd
    omega
  closed := by
    have hcount := count_of_depthAfter h
    omega

end Piece

/-! ## Tokens -/

namespace Token

/-- Whether a token may stand next to any other. -/
def isMark : Token → Bool
  | .comma => true
  | .dot => true
  | .leftParen => true
  | .rightParen => true
  | .space => true
  | .relation _ => true
  | _ => false

/-- Whether indicators can lead to a token inside of a statement. -/
def IsOrdinary : Token → Prop
  | .operator sign => ∃ op : Arithmetic, sign = op.sign
  | .function text => text = "LOWER" ∨ ∃ statistic : Statistic, text = statistic.sqlName
  | .semicolon => False
  | _ => True

/-- The quoted region that a token is written as. -/
def region? : Token → Option (Char × String)
  | .name text => if isPlain text then none else some ('"', text)
  | .label title => some ('"', title)
  | .literal (.text s) => some ('\x27', s)
  | _ => none

/-- What a scanner should find for a token. -/
def pieces (t : Token) : List Piece :=
  match t.region? with
  | some (quote, text) => [.region quote text]
  | none => t.sql.toList.map .plain

theorem sql_of_region? {t : Token} {quote : Char} {text : String}
    (h : t.region? = some (quote, text)) :
    t.sql = enclosed quote text ∧ Text.isQuote quote = true := by
  cases t with
  | name name =>
    rw [region?] at h
    split at h
    · cases h
    · rename_i hplain
      cases h
      exact ⟨by rw [sql, nameText, if_neg hplain, quotedName], rfl⟩
  | label title =>
    cases h
    exact ⟨rfl, rfl⟩
  | literal value =>
    cases value with
    | text s =>
      cases h
      exact ⟨rfl, rfl⟩
    | _ => cases h
  | _ => cases h

/-- A token without quotes means nothing to a scanner, unless it is a parenthesis. -/
theorem quiet_of_region?_eq_none {t : Token} (ht : t.IsOrdinary) (hregion : t.region? = none) :
    t = .leftParen ∨ t = .rightParen ∨ Quiet t.sql.toList := by
  have hfixed {s : List Char} (hquiet : Quiet s) : t = .leftParen ∨ t = .rightParen ∨ Quiet s :=
    .inr (.inr hquiet)
  cases t with
  | leftParen => exact .inl rfl
  | rightParen => exact .inr (.inl rfl)
  | keyword word => cases word <;> exact hfixed (by decide)
  | relation r => cases r <;> exact hfixed (by decide)
  | comma => exact hfixed (by decide)
  | dot => exact hfixed (by decide)
  | star => exact hfixed (by decide)
  | space => exact hfixed (by decide)
  | semicolon => exact ht.elim
  | operator sign =>
    obtain ⟨op, rfl⟩ := ht
    cases op <;> exact hfixed (by decide)
  | function text =>
    rcases ht with rfl | ⟨statistic, rfl⟩
    · exact hfixed (by decide)
    · cases statistic <;> exact hfixed (by decide)
  | name name =>
    have hplain : isPlain name = true := by
      by_contra hplain
      simp [region?, hplain] at hregion
    refine .inr (.inr ?_)
    rw [sql, nameText, if_pos hplain]
    exact quiet_of_isPlain hplain
  | label title => cases hregion
  | literal value =>
    refine .inr (.inr ?_)
    cases value with
    | int n => exact quiet_int n
    | real x => exact quiet_real x
    | text s => cases hregion
    | bool b => cases b <;> decide
    | null => decide

/-- The text of a mark has no character that another token could take up. -/
theorem pieces_of_isMark {t : Token} (h : t.isMark = true) :
    ∃ c s, t.sql.toList = c :: s ∧ t.pieces = (c :: s).map .plain ∧
      ∀ d ∈ c :: s, d ∉ ['-', '*', '/', '\x27', '"'] := by
  have hclear {s : List Char}
      (hall : (s.all fun d ↦ !(['-', '*', '/', '\x27', '"'].contains d)) = true) :
      ∀ d ∈ s, d ∉ ['-', '*', '/', '\x27', '"'] := by
    simpa only [List.all_eq_true, Bool.not_eq_true', List.contains_eq_mem, decide_eq_false_iff_not]
      using hall
  cases t with
  | relation r => cases r <;> exact ⟨_, _, rfl, rfl, hclear (by decide)⟩
  | comma => exact ⟨_, _, rfl, rfl, hclear (by decide)⟩
  | dot => exact ⟨_, _, rfl, rfl, hclear (by decide)⟩
  | leftParen => exact ⟨_, _, rfl, rfl, hclear (by decide)⟩
  | rightParen => exact ⟨_, _, rfl, rfl, hclear (by decide)⟩
  | space => exact ⟨_, _, rfl, rfl, hclear (by decide)⟩
  | _ => cases h

/-- Between quotes a token is one piece. -/
theorem pieces_eq_region {t : Token} {quote : Char} {text : String}
    (h : t.region? = some (quote, text)) : t.pieces = [.region quote text] := by
  rw [pieces, h]

theorem pieces_eq_plain {t : Token} (h : t.region? = none) :
    t.pieces = t.sql.toList.map .plain := by
  rw [pieces, h]

theorem isMark_eq_false {t : Token} {quote : Char} {text : String}
    (h : t.region? = some (quote, text)) : t.isMark = false := by
  rw [Bool.eq_false_iff]
  intro hmark
  obtain ⟨c, s, -, hpieces, -⟩ := pieces_of_isMark hmark
  rw [pieces_eq_region h] at hpieces
  cases hpieces

theorem filterMap_region?_pieces (t : Token) :
    t.pieces.filterMap Piece.region? = t.region?.toList := by
  rcases hregion : t.region? with _ | ⟨quote, text⟩
  · rw [pieces_eq_plain hregion, List.filterMap_map]
    exact List.filterMap_eq_nil_iff.mpr fun c _ ↦ rfl
  · rw [pieces_eq_region hregion]
    rfl

section Ordinary

variable {t : Token} (ht : t.IsOrdinary)

include ht

/-- What a scanner finds for a token besides regions and parentheses has no meaning to it. -/
theorem pieces_cases :
    (∃ quote text, t.pieces = [.region quote text]) ∨ t = .leftParen ∨ t = .rightParen ∨
      ∃ s, Quiet s ∧ t.pieces = s.map .plain := by
  rcases hregion : t.region? with _ | ⟨quote, text⟩
  · rcases quiet_of_region?_eq_none ht hregion with h | h | h
    · exact .inr (.inl h)
    · exact .inr (.inr (.inl h))
    · exact .inr (.inr (.inr ⟨_, h, pieces_eq_plain hregion⟩))
  · exact .inl ⟨quote, text, pieces_eq_region hregion⟩

theorem not_quote (hregion : t.region? = none) : ∀ c ∈ t.sql.toList, Text.isQuote c = false := by
  rcases quiet_of_region?_eq_none ht hregion with rfl | rfl | h
  · intro c hc
    rw [List.mem_singleton.mp hc]
    rfl
  · intro c hc
    rw [List.mem_singleton.mp hc]
    rfl
  · intro c hc
    have hmem := h.notStructural c hc
    simp only [Text.isQuote, Bool.or_eq_false_iff, beq_eq_false_iff_ne]
    exact ⟨fun heq ↦ hmem (by simp [heq, structural]), fun heq ↦ hmem (by simp [heq, structural])⟩

theorem semicolon_not_mem_pieces : .plain ';' ∉ t.pieces := by
  rcases pieces_cases ht with ⟨quote, text, hpieces⟩ | rfl | rfl | ⟨s, hs, hpieces⟩
  · rw [hpieces]
    simp
  · decide
  · decide
  · rw [hpieces]
    intro h
    obtain ⟨c, hc, heq⟩ := List.mem_map.mp h
    cases heq
    exact hs.notStructural _ hc (by decide)

/-- No other token has brackets outside of quotes. -/
theorem depthAfter_pieces (hleft : t ≠ .leftParen) (hright : t ≠ .rightParen) (depth : Nat) :
    Piece.depthAfter depth t.pieces = some depth := by
  rcases pieces_cases ht with ⟨quote, text, hpieces⟩ | h | h | ⟨s, hs, hpieces⟩
  · rw [hpieces]
    exact Piece.depthAfter_cons (by simp) (by simp) depth []
  · exact absurd h hleft
  · exact absurd h hright
  · rw [hpieces]
    have hmem := hs.notStructural
    clear hs hpieces
    induction s with
    | nil => rfl
    | cons c s ih =>
      have hc := hmem c List.mem_cons_self
      rw [List.map_cons, Piece.depthAfter_cons]
      · exact ih fun d hd ↦ hmem d (List.mem_cons_of_mem c hd)
      · rintro heq
        cases heq
        exact hc (by decide)
      · rintro heq
        cases heq
        exact hc (by decide)

end Ordinary

end Token

/-! ## Comments -/

/-- Whether two pieces, one after the other, begin a comment. -/
def Piece.opensComment : Piece → Piece → Bool
  | .plain a, .plain b => Sql.opensComment a b
  | _, _ => false

namespace Token

/-- Within a token no two pieces open a comment. -/
theorem isChain_pieces {t : Token} (ht : t.IsOrdinary) :
    t.pieces.IsChain fun a b ↦ Piece.opensComment a b = false := by
  rcases pieces_cases ht with ⟨quote, text, hpieces⟩ | rfl | rfl | ⟨s, hs, hpieces⟩
  · rw [hpieces]
    exact .singleton _
  · exact .singleton _
  · exact .singleton _
  · rw [hpieces, List.isChain_map]
    exact hs.noComment

/-- No comment begins with the end of a mark. -/
theorem opensComment_of_isMark_left {t : Token} (h : t.isMark = true) {p : Piece}
    (hp : p ∈ t.pieces) (q : Piece) : p.opensComment q = false := by
  obtain ⟨c, s, -, hpieces, hchars⟩ := pieces_of_isMark h
  rw [hpieces] at hp
  obtain ⟨a, ha, rfl⟩ := List.mem_map.mp hp
  cases q with
  | region quote text => rfl
  | plain b => exact opensComment_left (hchars a ha) b

theorem opensComment_of_isMark_right {t : Token} (h : t.isMark = true) {q : Piece}
    (hq : q ∈ t.pieces) (p : Piece) : p.opensComment q = false := by
  obtain ⟨c, s, -, hpieces, hchars⟩ := pieces_of_isMark h
  rw [hpieces] at hq
  obtain ⟨b, hb, rfl⟩ := List.mem_map.mp hq
  cases p with
  | region quote text => rfl
  | plain a => exact opensComment_right (hchars b hb) a

end Token

/-! ## Phrases -/

/-- Whether of two tokens that meet one always is a mark. -/
def Spaced (ts : List Token) : Prop :=
  ts.IsChain fun a b ↦ a.isMark = true ∨ b.isMark = true

structure Phrase (ts : List Token) : Prop where
  spaced : Spaced ts
  ordinary : ∀ t ∈ ts, t.IsOrdinary
  nested : ∀ depth, Piece.depthAfter depth (ts.flatMap Token.pieces) = some depth

/-- A phrase that may follow any other one: it is empty or begins with a mark. -/
structure Clause (ts : List Token) : Prop extends Phrase ts where
  head : ∀ t ∈ ts.head?, t.isMark = true

namespace Phrase

theorem nil : Phrase [] where
  spaced := .nil
  ordinary := by simp
  nested _ := rfl

theorem single {t : Token} (ht : t.IsOrdinary) (hleft : t ≠ .leftParen)
    (hright : t ≠ .rightParen) : Phrase [t] where
  spaced := .singleton t
  ordinary := by
    intro other hother
    rwa [List.mem_singleton.mp hother]
  nested depth := by
    rw [List.flatMap_singleton]
    exact Token.depthAfter_pieces ht hleft hright depth

theorem append {l r : List Token} (hl : Phrase l) (hr : Clause r) : Phrase (l ++ r) where
  spaced := by
    rw [Spaced, List.isChain_append]
    exact ⟨hl.spaced, hr.spaced, fun _ _ t ht ↦ .inr (hr.head t ht)⟩
  ordinary := by
    intro t ht
    rcases List.mem_append.mp ht with ht | ht
    · exact hl.ordinary t ht
    · exact hr.ordinary t ht
  nested depth := by
    rw [List.flatMap_append, Piece.depthAfter_append, hl.nested, Option.bind_some, hr.nested]

/-- A mark that is no parenthesis, and a phrase after it. -/
theorem mark {t : Token} {ts : List Token} (hts : Phrase ts) (hmark : t.isMark = true)
    (hleft : t ≠ .leftParen) (hright : t ≠ .rightParen) (ht : t.IsOrdinary) :
    Clause (t :: ts) where
  spaced := by
    rw [Spaced, List.isChain_cons]
    exact ⟨fun _ _ ↦ .inl hmark, hts.spaced⟩
  ordinary := by
    intro other hother
    rcases List.mem_cons.mp hother with rfl | hother
    · exact ht
    · exact hts.ordinary other hother
  nested depth := by
    rw [List.flatMap_cons, Piece.depthAfter_append, Token.depthAfter_pieces ht hleft hright,
      Option.bind_some, hts.nested]
  head := by
    intro other hother
    cases hother
    exact hmark

theorem space {ts : List Token} (hts : Phrase ts) : Clause (.space :: ts) :=
  hts.mark rfl (by simp) (by simp) trivial

theorem comma {ts : List Token} (hts : Phrase ts) : Clause (.comma :: ts) :=
  hts.mark rfl (by simp) (by simp) trivial

theorem parenthesized {ts : List Token} (h : Phrase ts) :
    Clause (.leftParen :: ts ++ [.rightParen]) where
  spaced := by
    rw [List.cons_append, Spaced, List.isChain_cons, List.isChain_append]
    refine ⟨fun _ _ ↦ .inl rfl, h.spaced, .singleton _, fun _ _ t ht ↦ .inr ?_⟩
    cases ht
    rfl
  ordinary := by
    intro t ht
    simp only [List.cons_append, List.mem_cons, List.mem_append, List.not_mem_nil,
      or_false] at ht
    rcases ht with rfl | ht | rfl
    · trivial
    · exact h.ordinary t ht
    · trivial
  nested depth := by
    change Piece.depthAfter (depth + 1) ((ts ++ [Token.rightParen]).flatMap Token.pieces) =
      some depth
    rw [List.flatMap_append, Piece.depthAfter_append, h.nested]
    rfl
  head := by
    intro t ht
    cases ht
    rfl

end Phrase

namespace Clause

theorem nil : Clause [] where
  toPhrase := .nil
  head := by simp

theorem append {l r : List Token} (hl : Clause l) (hr : Clause r) : Clause (l ++ r) where
  toPhrase := hl.toPhrase.append hr
  head := by
    cases l with
    | nil => exact hr.head
    | cons t l => exact hl.head

end Clause

namespace Phrase

/-! ## Scanning a phrase -/

/-- Nothing in a phrase begins a comment, inside of its tokens or where they meet. -/
theorem noComment {ts : List Token} (hspaced : Spaced ts) (hord : ∀ t ∈ ts, t.IsOrdinary) :
    (ts.flatMap Token.pieces).IsChain fun a b ↦ Piece.opensComment a b = false := by
  induction ts with
  | nil => exact .nil
  | cons t ts ih =>
    rw [Spaced, List.isChain_cons] at hspaced
    have hrest := ih hspaced.2 fun other hother ↦ hord other (List.mem_cons_of_mem t hother)
    rw [List.flatMap_cons, List.isChain_append]
    refine ⟨Token.isChain_pieces (hord t List.mem_cons_self), hrest, fun p hp q hq ↦ ?_⟩
    cases ts with
    | nil => cases hq
    | cons next ts =>
      rcases hspaced.1 next rfl with hmark | hmark
      · exact Token.opensComment_of_isMark_left hmark (List.mem_of_getLast? hp) q
      · obtain ⟨c, s, -, hpieces, -⟩ := Token.pieces_of_isMark hmark
        refine Token.opensComment_of_isMark_right hmark ?_ p
        rw [List.flatMap_cons, hpieces] at hq
        cases hq
        rw [hpieces]
        exact List.mem_cons_self

/-- Where a phrase goes on behind a token in quotes, it does so with a mark. -/
theorem head?_not_quote {t : Token} {ts : List Token} {rest : List Char} {quote : Char}
    (hspaced : Spaced (t :: ts)) (ht : t.isMark = false)
    (hrest : ∀ c ∈ rest.head?, Text.isQuote c = false)
    (hquote : Text.isQuote quote = true) :
    (ts.flatMap (fun t ↦ t.sql.toList) ++ rest).head? ≠ some quote := by
  intro hhead
  have hplain : Text.isQuote quote = false := by
    cases ts with
    | nil => exact hrest quote hhead
    | cons next ts =>
      rw [Spaced, List.isChain_cons] at hspaced
      rcases hspaced.1 next rfl with hmark | hmark
      · rw [ht] at hmark
        cases hmark
      · obtain ⟨c, s, hsql, -, hchars⟩ := Token.pieces_of_isMark hmark
        rw [List.flatMap_cons, hsql] at hhead
        cases hhead
        have hmem := hchars quote List.mem_cons_self
        simp only [Text.isQuote, Bool.or_eq_false_iff, beq_eq_false_iff_ne]
        exact ⟨fun heq ↦ hmem (by simp [heq]), fun heq ↦ hmem (by simp [heq])⟩
  rw [hquote] at hplain
  cases hplain

/-- A scanner reads the tokens of a phrase one by one. -/
theorem scanFrom_tokens {ts : List Token} (hspaced : Spaced ts) (hord : ∀ t ∈ ts, t.IsOrdinary)
    {rest : List Char} (hrest : ∀ c ∈ rest.head?, Text.isQuote c = false) :
    Scanner.scanFrom .outside (ts.flatMap (fun t ↦ t.sql.toList) ++ rest) =
      (Scanner.scanFrom .outside rest).map (ts.flatMap Token.pieces ++ ·) := by
  induction ts with
  | nil =>
    rw [List.flatMap_nil, List.nil_append]
    cases Scanner.scanFrom .outside rest <;> rfl
  | cons t ts ih =>
    have ht := hord t List.mem_cons_self
    have htail : Spaced ts := (List.isChain_cons.mp hspaced).2
    have hlater := ih htail fun other hother ↦ hord other (List.mem_cons_of_mem t hother)
    rw [List.flatMap_cons, List.append_assoc, List.flatMap_cons]
    rcases hregion : t.region? with _ | ⟨quote, text⟩
    · rw [Scanner.scanFrom_plain (Token.not_quote ht hregion), hlater, Option.map_map,
        Token.pieces_eq_plain hregion]
      congr 1
      funext pieces
      rw [Function.comp_apply, List.append_assoc]
    · obtain ⟨hsql, hquote⟩ := Token.sql_of_region? hregion
      have hnext := head?_not_quote hspaced (Token.isMark_eq_false hregion) hrest hquote
      rw [hsql, Scanner.scanFrom_enclosed hquote text hnext, hlater, Option.map_map,
        Token.pieces_eq_region hregion]
      rfl

theorem toList_textOf (ts : List Token) :
    (textOf ts).toList = ts.flatMap fun t ↦ t.sql.toList := by
  rw [textOf, String.toList_join, List.flatMap_map]

theorem filterMap_region?_flatMap (ts : List Token) :
    (ts.flatMap Token.pieces).filterMap Piece.region? = ts.filterMap Token.region? := by
  induction ts with
  | nil => rfl
  | cons t ts ih =>
    rw [List.flatMap_cons, List.filterMap_append, ih, Token.filterMap_region?_pieces,
      List.filterMap_cons]
    cases t.region? <;> rfl

end Phrase

/-- Whether the pieces of a statement are what its tokens were meant to be: the quoted regions are
those of the tokens, only the last character ends the statement, no comment begins anywhere and the
parentheses match. -/
structure Intact (tokens : List Token) (pieces : List Piece) : Prop where
  regions : pieces.filterMap Piece.region? = tokens.filterMap Token.region?
  ended : ∃ body, pieces = body ++ [.plain ';'] ∧ .plain ';' ∉ body
  noComment : pieces.IsChain fun a b ↦ Piece.opensComment a b = false
  balanced : Piece.Balanced pieces

namespace Phrase

theorem semicolon_not_mem {ts : List Token} (h : Phrase ts) :
    .plain ';' ∉ ts.flatMap Token.pieces := by
  intro hmem
  obtain ⟨t, ht, hpiece⟩ := List.mem_flatMap.mp hmem
  exact Token.semicolon_not_mem_pieces (h.ordinary t ht) hpiece

/-- A part of a statement that goes on to its end. -/
theorem scan_part {ts : List Token} (hspaced : Spaced ts) (hord : ∀ t ∈ ts, t.IsOrdinary) :
    Scanner.scan (textOf (ts ++ [.semicolon])) =
      some (ts.flatMap Token.pieces ++ [.plain ';']) := by
  have hrest : ∀ c ∈ [';'].head?, Text.isQuote c = false := by
    intro c hc
    cases hc
    rfl
  rw [Scanner.scan, toList_textOf, List.flatMap_append]
  exact scanFrom_tokens hspaced hord hrest

/-- A phrase is read token by token, up to the semicolon behind it. -/
theorem scan_textOf {ts : List Token} (h : Phrase ts) :
    Scanner.scan (textOf (ts ++ [.semicolon])) =
      some (ts.flatMap Token.pieces ++ [.plain ';']) :=
  scan_part h.spaced h.ordinary

/-- A phrase with a semicolon behind it is a whole statement. -/
theorem intact {ts : List Token} (h : Phrase ts) :
    Intact (ts ++ [.semicolon]) (ts.flatMap Token.pieces ++ [.plain ';']) where
  regions := by
    rw [List.filterMap_append, List.filterMap_append, filterMap_region?_flatMap]
    rfl
  ended := ⟨_, rfl, h.semicolon_not_mem⟩
  noComment := by
    rw [List.isChain_append]
    refine ⟨noComment h.spaced h.ordinary, .singleton _, fun p _ q hq ↦ ?_⟩
    cases hq
    cases p with
    | plain a => simp [Piece.opensComment, opensComment]
    | region quote text => rfl
  balanced := by
    apply Piece.balanced_of_depthAfter
    rw [Piece.depthAfter_append, h.nested]
    rfl

end Phrase

end Barometer.Sql
