import Barometer.Proofs.Outcome
import Barometer.Settings.Expansion
import Mathlib.Data.List.Infix
import Mathlib.Data.List.TakeWhile
import Mathlib.Data.String.Basic

/-!
# Texts with references

A reference is a dollar sign before a name in braces, or before a name that goes on as long as it
can. Every text can be read in exactly one way, and its references are replaced by values that are
not read again. Expansion does that unless an opening brace stands behind a dollar sign that starts
no reference: then it drops the braces, or takes all that follows for a name.
-/

namespace Barometer.Expansion

/-- Whether a dollar sign starts a reference, given the text behind it. -/
inductive StartsReference : List Char → Prop
  | braced {name rest : List Char} (hne : name ≠ []) (hname : '\x7d' ∉ name) :
    StartsReference ('\x7b' :: (name ++ '\x7d' :: rest))
  | bare {c : Char} {rest : List Char} (hc : isNamePart c = true) : StartsReference (c :: rest)

/-- The pieces that a text is to be read as. -/
inductive Reads : List Char → List Piece → Prop
  | nil : Reads [] []
  | braced {name rest : List Char} {ps : List Piece} (hne : name ≠ []) (hname : '\x7d' ∉ name)
    (hrest : Reads rest ps) :
    Reads ('$' :: '\x7b' :: (name ++ '\x7d' :: rest)) (.reference (String.ofList name) :: ps)
  | bare {name rest : List Char} {ps : List Piece} (hne : name ≠ [])
    (hname : ∀ c ∈ name, isNamePart c = true)
    (hend : ∀ c, rest.head? = some c → isNamePart c = false) (hrest : Reads rest ps) :
    Reads ('$' :: (name ++ rest)) (.reference (String.ofList name) :: ps)
  | kept {c : Char} {rest : List Char} {ps : List Piece} (hc : c = '$' → ¬ StartsReference rest)
    (hrest : Reads rest ps) : Reads (c :: rest) (.char c :: ps)

section Names

variable {name rest t : List Char}

/-- A name ends before the first character that cannot belong to it. -/
theorem span_name {p : Char → Bool} (hname : ∀ c ∈ name, p c = true)
    (hend : ∀ c, rest.head? = some c → p c = false) :
    (name ++ rest).takeWhile p = name ∧ (name ++ rest).dropWhile p = rest := by
  rw [List.takeWhile_append_of_pos hname, List.dropWhile_append_of_pos hname]
  cases rest with
  | nil => exact ⟨List.append_nil name, rfl⟩
  | cons c rest => simp [hend c rfl]

theorem span_braced (hname : '\x7d' ∉ name) :
    (name ++ '\x7d' :: rest).takeWhile (· != '\x7d') = name ∧
      (name ++ '\x7d' :: rest).dropWhile (· != '\x7d') = '\x7d' :: rest := by
  refine span_name (fun c hc ↦ bne_iff_ne.mpr ?_) fun c hc ↦ ?_
  · rintro rfl
    exact hname hc
  · cases hc
    rfl

theorem StartsReference.of_bare (hne : name ≠ []) (hname : ∀ c ∈ name, isNamePart c = true) :
    StartsReference (name ++ rest) := by
  cases name with
  | nil => exact absurd rfl hne
  | cons c name => exact .bare (hname c List.mem_cons_self)

/-- A bare name has no brace in front of it. -/
theorem bare_ne_brace (hne : name ≠ []) (hname : ∀ c ∈ name, isNamePart c = true) :
    name ++ rest ≠ '\x7b' :: t := by
  cases name with
  | nil => exact absurd rfl hne
  | cons c name =>
    rintro h
    cases h
    exact absurd (hname _ List.mem_cons_self) (by decide)

end Names

/-- Every text can be read. -/
theorem exists_reads (s : List Char) : ∃ ps, Reads s ps := by
  induction hlength : s.length using Nat.strong_induction_on generalizing s with
  | _ n ih =>
    subst hlength
    cases s with
    | nil => exact ⟨[], .nil⟩
    | cons c rest =>
      by_cases hc : c = '$' ∧ StartsReference rest
      · obtain ⟨rfl, hstarts⟩ := hc
        cases hstarts with
        | @braced name rest hne hname =>
          obtain ⟨ps, hps⟩ := ih rest.length (by simp +arith) rest rfl
          exact ⟨_, .braced hne hname hps⟩
        | @bare c rest hc =>
          have hshorter := (List.dropWhile_sublist (l := rest) isNamePart).length_le
          obtain ⟨ps, hps⟩ := ih (rest.dropWhile isNamePart).length (by simp; omega) _ rfl
          have hname : ∀ d ∈ c :: rest.takeWhile isNamePart, isNamePart d = true := by
            intro d hd
            rcases List.mem_cons.mp hd with rfl | hd
            · exact hc
            · exact List.mem_takeWhile_imp hd
          have hend : ∀ d, (rest.dropWhile isNamePart).head? = some d → isNamePart d = false := by
            intro d hd
            have hstop := List.head?_dropWhile_not isNamePart rest
            rw [hd] at hstop
            simpa using hstop
          have hreads := Reads.bare (List.cons_ne_nil _ _) hname hend hps
          rw [List.cons_append, List.takeWhile_append_dropWhile] at hreads
          exact ⟨_, hreads⟩
      · obtain ⟨ps, hps⟩ := ih rest.length (by simp) rest rfl
        exact ⟨_, .kept (fun h hstarts ↦ hc ⟨h, hstarts⟩) hps⟩

/-- No text can be read in two ways. -/
theorem Reads.unique {s : List Char} {ps ps' : List Piece} (h : Reads s ps) (h' : Reads s ps') :
    ps = ps' := by
  induction h generalizing ps' with
  | nil =>
    cases h'
    rfl
  | @braced name rest ps hne hname _ ih =>
    generalize hs : '$' :: '\x7b' :: (name ++ '\x7d' :: rest) = s at h'
    cases h' with
    | nil => cases hs
    | @braced name' rest' _ hne' hname' hrest' =>
      have htail : name ++ '\x7d' :: rest = name' ++ '\x7d' :: rest' := by simpa using hs
      have hsame := (@span_braced name rest hname).1
      rw [htail, (span_braced hname').1] at hsame
      subst hsame
      cases List.append_cancel_left htail
      rw [ih hrest']
    | bare hne' hname' _ _ => exact absurd (List.cons.inj hs).2.symm (bare_ne_brace hne' hname')
    | kept hc _ =>
      cases hs
      exact absurd (.braced hne hname) (hc rfl)
  | @bare name rest ps hne hname hend _ ih =>
    generalize hs : '$' :: (name ++ rest) = s at h'
    cases h' with
    | nil => cases hs
    | braced _ _ _ => exact absurd (List.cons.inj hs).2 (bare_ne_brace hne hname)
    | @bare name' rest' _ hne' hname' hend' hrest' =>
      have htail : name ++ rest = name' ++ rest' := (List.cons.inj hs).2
      have hsame := (span_name hname hend).1
      rw [htail, (span_name hname' hend').1] at hsame
      subst hsame
      cases List.append_cancel_left htail
      rw [ih hrest']
    | kept hc _ =>
      cases hs
      exact absurd (.of_bare hne hname) (hc rfl)
  | @kept c rest ps hc _ ih =>
    generalize hs : c :: rest = s at h'
    cases h' with
    | nil => cases hs
    | braced hne hname _ =>
      cases hs
      exact absurd (.braced hne hname) (hc rfl)
    | bare hne hname _ _ =>
      cases hs
      exact absurd (.of_bare hne hname) (hc rfl)
    | kept _ hrest' =>
      cases hs
      rw [ih hrest']

/-- The name that a piece refers to. -/
def Piece.name? : Piece → Option String
  | .char _ => none
  | .reference name => some name

/-- What a piece becomes. -/
def Piece.shown (valueOf : String → Option String) : Piece → List Char
  | .char c => [c]
  | .reference name => ((valueOf name).getD "").toList

/-- The names that pieces refer to, from left to right. -/
def referenced (ps : List Piece) : List String := ps.filterMap Piece.name?

/-- Whether an outcome is the text of the pieces with values for references, or the first name from
the left that has no value. -/
structure Replaces (valueOf : String → Option String) (ps : List Piece)
    (outcome : Except String String) : Prop where
  ok_iff : ∀ text, outcome = .ok text ↔
    (∀ name ∈ referenced ps, ∃ value, valueOf name = some value) ∧
      text.toList = ps.flatMap (Piece.shown valueOf)
  error_iff : ∀ name, outcome = .error name ↔
    ∃ earlier later, referenced ps = earlier ++ name :: later ∧ valueOf name = none ∧
      ∀ other ∈ earlier, ∃ value, valueOf other = some value

section Values

variable {valueOf : String → Option String} {ps : List Piece}

/-- If all variables have values, each reference becomes its value. -/
theorem mapM_expand_ok (h : ∀ name ∈ referenced ps, ∃ value, valueOf name = some value) :
    ps.mapM (Piece.expand valueOf) = .ok (ps.map (Piece.shown valueOf)) := by
  induction ps with
  | nil => rfl
  | cons p ps ih =>
    have hrest := ih fun name hname ↦ h name (by
      obtain ⟨q, hq, hqname⟩ := List.mem_filterMap.mp hname
      exact List.mem_filterMap.mpr ⟨q, List.mem_cons_of_mem p hq, hqname⟩)
    cases p with
    | char c =>
      rw [List.mapM_cons, hrest]
      rfl
    | reference name =>
      obtain ⟨value, hvalue⟩ := h name List.mem_cons_self
      rw [List.mapM_cons, hrest, Piece.expand, hvalue, List.map_cons, Piece.shown, hvalue]
      rfl

/-- The first variable without a value is the one that is named. -/
theorem mapM_expand_error {earlier later : List String} {name : String}
    (hnames : referenced ps = earlier ++ name :: later) (hname : valueOf name = none)
    (hearlier : ∀ other ∈ earlier, ∃ value, valueOf other = some value) :
    ps.mapM (Piece.expand valueOf) = .error name := by
  induction ps generalizing earlier with
  | nil => exact absurd hnames.symm (by simp [referenced])
  | cons p ps ih =>
    cases p with
    | char c =>
      have hrest : referenced ps = earlier ++ name :: later := hnames
      rw [List.mapM_cons, ih hrest hearlier]
      rfl
    | reference first =>
      have hsplit : first :: referenced ps = earlier ++ name :: later := hnames
      cases earlier with
      | nil =>
        cases hsplit
        rw [List.mapM_cons, Piece.expand, hname]
        rfl
      | cons other earlier =>
        obtain ⟨rfl, hrest⟩ := List.cons.inj hsplit
        obtain ⟨value, hvalue⟩ := hearlier first List.mem_cons_self
        rw [List.mapM_cons, Piece.expand, hvalue,
          ih hrest fun other hother ↦ hearlier other (List.mem_cons_of_mem first hother)]
        rfl

/-- Either all variables have values or there is a first one that has none. -/
theorem all_valued_or_exists_missing (valueOf : String → Option String) (names : List String) :
    (∀ name ∈ names, ∃ value, valueOf name = some value) ∨
      ∃ earlier name later, names = earlier ++ name :: later ∧ valueOf name = none ∧
        ∀ other ∈ earlier, ∃ value, valueOf other = some value := by
  cases h : names.find? fun name ↦ (valueOf name).isNone with
  | none =>
    refine .inl fun name hname ↦ Option.ne_none_iff_exists'.mp ?_
    simpa using List.find?_eq_none.mp h name hname
  | some name =>
    obtain ⟨hnone, earlier, later, hsplit, hearlier⟩ := List.find?_eq_some_iff_append.mp h
    refine .inr ⟨earlier, name, later, hsplit, by simpa using hnone, fun other hother ↦ ?_⟩
    exact Option.isSome_iff_exists.mp (by simpa using hearlier other hother)

/-- Expansion replaces the references that it finds. -/
theorem replaces_pieces (valueOf : String → Option String) (s : String) :
    Replaces valueOf (pieces s.toList) (expand valueOf s) := by
  rcases all_valued_or_exists_missing valueOf (referenced (pieces s.toList)) with
    hvalued | ⟨earlier, name, later, hsplit, hnone, hearlier⟩
  · have hok : expand valueOf s =
        .ok (String.ofList ((pieces s.toList).flatMap (Piece.shown valueOf))) := by
      rw [expand, mapM_expand_ok hvalued]
      rfl
    refine ⟨fun text ↦ ?_, fun missing ↦ ?_⟩
    · rw [hok, Except.ok.injEq, String.ofList_eq]
      exact ⟨fun h ↦ ⟨hvalued, h.symm⟩, fun h ↦ h.2.symm⟩
    · refine ⟨fun h ↦ ?_, fun ⟨earlier, later, hsplit, hnone, _⟩ ↦ ?_⟩
      · rw [hok] at h
        cases h
      · obtain ⟨value, hvalue⟩ := hvalued missing (by simp [hsplit])
        rw [hvalue] at hnone
        cases hnone
  · have herror : expand valueOf s = .error name := by
      rw [expand, mapM_expand_error hsplit hnone hearlier]
      rfl
    refine ⟨fun text ↦ ⟨fun h ↦ ?_, fun ⟨hvalued, _⟩ ↦ ?_⟩, fun missing ↦ ⟨fun h ↦ ?_, ?_⟩⟩
    · rw [herror] at h
      cases h
    · obtain ⟨value, hvalue⟩ := hvalued name (by simp [hsplit])
      rw [hvalue] at hnone
      cases hnone
    · rw [herror] at h
      cases h
      exact ⟨earlier, later, hsplit, hnone, hearlier⟩
    · rintro ⟨earlier', later', hsplit', hnone', hearlier'⟩
      rw [expand, mapM_expand_error hsplit' hnone' hearlier']
      rfl

end Values

/-- Whether an opening brace stands behind a dollar sign that starts no reference. -/
def HasLooseBrace (ps : List Piece) : Prop := [.char '$', .char '\x7b'] <:+: ps

section Scanning

variable {name rest t : List Char} {ps : List Piece}

theorem pieces_dollar (rest : List Char) :
    pieces ('$' :: rest) = ofName (readName rest).1 :: pieces (readName rest).2 := by
  rw [pieces, if_pos rfl]

theorem pieces_cons {c : Char} (hc : c ≠ '$') (rest : List Char) :
    pieces (c :: rest) = .char c :: pieces rest := by
  rw [pieces, if_neg hc]

theorem readName_braced (hname : '\x7d' ∉ name) :
    readName ('\x7b' :: (name ++ '\x7d' :: rest)) = (name, rest) := by
  rw [readName, (span_braced hname).1, (span_braced hname).2]
  rfl

/-- An open brace takes everything up to the end of the text. -/
theorem readName_open (ht : '\x7d' ∉ t) : readName ('\x7b' :: t) = (t, []) := by
  have hall : ∀ c ∈ t, (c != '\x7d') = true := by
    intro c hc
    refine bne_iff_ne.mpr ?_
    rintro rfl
    exact ht hc
  rw [readName, List.takeWhile_eq_self_iff.mpr hall, List.dropWhile_eq_nil_iff.mpr hall]
  rfl

theorem readName_of_head?_ne (h : rest.head? ≠ some '\x7b') :
    readName rest = (rest.takeWhile isNamePart, rest.dropWhile isNamePart) := by
  unfold readName
  split
  · exact absurd rfl h
  · rfl

theorem ofName_of_ne_nil (hne : name ≠ []) : ofName name = .reference (String.ofList name) := by
  rw [ofName, if_neg (by simpa using hne)]

/-- A bare name ends before the first sign that is no part of names. -/
theorem readName_bare (hne : name ≠ []) (hname : ∀ c ∈ name, isNamePart c = true)
    (hend : ∀ c, rest.head? = some c → isNamePart c = false) :
    readName (name ++ rest) = (name, rest) := by
  have hhead : (name ++ rest).head? ≠ some '\x7b' := by
    intro h
    obtain ⟨t, ht⟩ := List.head?_eq_some_iff.mp h
    exact bare_ne_brace hne hname ht
  rw [readName_of_head?_ne hhead, (span_name hname hend).1, (span_name hname hend).2]

/-- Where no reference starts and no brace stands there is no name. -/
theorem readName_of_not_startsReference (h : ¬ StartsReference rest)
    (hhead : rest.head? ≠ some '\x7b') : readName rest = ([], rest) := by
  rw [readName_of_head?_ne hhead]
  cases rest with
  | nil => rfl
  | cons c rest =>
    have hc : ¬ isNamePart c = true := fun hc ↦ h (.bare hc)
    rw [List.takeWhile_cons_of_neg hc, List.dropWhile_cons_of_neg hc]

/-- A sign that is not a dollar stands for itself. -/
theorem Reads.of_cons {c : Char} (hc : c ≠ '$') (h : Reads (c :: rest) ps) :
    ∃ ps', ps = .char c :: ps' ∧ Reads rest ps' := by
  generalize hs : c :: rest = s at h
  cases h with
  | nil => cases hs
  | braced _ _ _ => exact absurd (List.cons.inj hs).1 hc
  | bare _ _ _ _ => exact absurd (List.cons.inj hs).1 hc
  | @kept _ _ ps' _ hrest =>
    cases hs
    exact ⟨ps', rfl, hrest⟩

theorem Reads.head?_of_char {c : Char} (h : Reads rest (.char c :: ps)) : rest.head? = some c := by
  cases h
  rfl

/-- A brace is loose behind a dollar that stands for itself. -/
theorem hasLooseBrace_cons_iff {p : Piece} : HasLooseBrace (p :: ps) ↔
    (p = .char '$' ∧ ∃ ps', ps = .char '\x7b' :: ps') ∨ HasLooseBrace ps := by
  rw [HasLooseBrace, List.infix_cons_iff, List.cons_prefix_cons, eq_comm (b := p)]
  refine or_congr_left (and_congr_right fun _ ↦ ⟨?_, ?_⟩)
  · rintro ⟨ps', rfl⟩
    exact ⟨ps', rfl⟩
  · rintro ⟨ps', rfl⟩
    exact ⟨ps', rfl⟩

end Scanning

/-- What is left of pieces when all variables are empty. -/
def emptied (ps : List Piece) : List Char := ps.flatMap (Piece.shown fun _ ↦ some "")

/-- Whether expansion finds the pieces of a reading, or loses some of what is to be kept. -/
inductive Compares (found ps : List Piece) : Prop
  | same (hloose : ¬ HasLooseBrace ps) (hfound : found = ps)
  | shorter (hloose : HasLooseBrace ps) (hlength : (emptied found).length < (emptied ps).length)

namespace Compares

variable {found ps : List Piece}

/-- What is found is never longer than what is meant. -/
theorem length_le (h : Compares found ps) : (emptied found).length ≤ (emptied ps).length := by
  cases h with
  | same _ hfound => rw [hfound]
  | shorter _ hlength => exact hlength.le

theorem cons {p : Piece} (h : Compares found ps)
    (hp : ¬ (p = .char '$' ∧ ∃ ps', ps = .char '\x7b' :: ps')) :
    Compares (p :: found) (p :: ps) := by
  cases h with
  | same hloose hfound =>
    refine .same (fun h ↦ ?_) (by rw [hfound])
    exact (hasLooseBrace_cons_iff.mp h).elim hp hloose
  | shorter hloose hlength =>
    refine .shorter (hasLooseBrace_cons_iff.mpr (.inr hloose)) ?_
    simpa [emptied] using hlength

end Compares

/-- Behind a dollar sign that starts no reference an opening brace is lost, and with it the closing
brace or the rest of the text. -/
theorem length_emptied_loose {t : List Char} {ps : List Piece}
    (hstarts : ¬ StartsReference ('\x7b' :: t))
    (hle : (emptied (pieces ('\x7b' :: t))).length ≤ (emptied (.char '\x7b' :: ps)).length) :
    (emptied (pieces ('$' :: '\x7b' :: t))).length <
      (emptied (.char '$' :: .char '\x7b' :: ps)).length := by
  by_cases hclose : '\x7d' ∈ t
  · obtain ⟨name, tail, rfl, hname⟩ := List.eq_append_cons_of_mem hclose
    cases name with
    | cons c name => exact absurd (.braced (List.cons_ne_nil c name) hname) hstarts
    | nil =>
      have hfound : pieces ('$' :: '\x7b' :: ([] ++ '\x7d' :: tail)) =
          .char '$' :: pieces tail := by
        rw [pieces_dollar, readName_braced hname]
        rfl
      rw [List.nil_append, pieces_cons (by decide), pieces_cons (by decide)] at hle
      rw [hfound]
      simp only [emptied, List.flatMap_cons, Piece.shown, List.length_append,
        List.length_singleton] at hle ⊢
      omega
  · have hone : (emptied [ofName t]).length ≤ 1 := by
      rw [ofName]
      split <;> simp [emptied, Piece.shown]
    rw [pieces_dollar, readName_open hclose, pieces]
    simp only [emptied, List.flatMap_cons, Piece.shown, List.length_append,
      List.length_singleton] at hone ⊢
    omega

/-- By induction on the reading: only a brace behind a dollar sign makes a difference. -/
theorem Reads.compares {s : List Char} {ps : List Piece} (h : Reads s ps) :
    Compares (pieces s) ps := by
  induction h with
  | nil => exact .same (by simp [HasLooseBrace]) (by rw [pieces])
  | braced hne hname _ ih =>
    rw [pieces_dollar, readName_braced hname, ofName_of_ne_nil hne]
    exact ih.cons (by simp)
  | bare hne hname hend _ ih =>
    rw [pieces_dollar, readName_bare hne hname hend, ofName_of_ne_nil hne]
    exact ih.cons (by simp)
  | @kept c rest ps hc hrest ih =>
    by_cases hdollar : c = '$'
    · subst hdollar
      by_cases hhead : rest.head? = some '\x7b'
      · obtain ⟨t, rfl⟩ := List.head?_eq_some_iff.mp hhead
        obtain ⟨ps', rfl, -⟩ := hrest.of_cons (by decide)
        exact .shorter (hasLooseBrace_cons_iff.mpr (.inl ⟨rfl, ps', rfl⟩))
          (length_emptied_loose (hc rfl) ih.length_le)
      · rw [pieces_dollar, readName_of_not_startsReference (hc rfl) hhead]
        refine ih.cons ?_
        rintro ⟨-, ps', rfl⟩
        exact hhead hrest.head?_of_char
    · rw [pieces_cons hdollar]
      refine ih.cons ?_
      rintro ⟨h, -⟩
      exact hdollar (Piece.char.inj h)

/-- Every text is read in exactly one way, and expansion replaces its references by values, whatever
the values are, exactly if no brace is loose. -/
theorem expand_replaces_iff (s : String) :
    ∃ ps, Reads s.toList ps ∧ (∀ ps', Reads s.toList ps' → ps' = ps) ∧
      ((∀ valueOf, Replaces valueOf ps (expand valueOf s)) ↔ ¬ HasLooseBrace ps) := by
  obtain ⟨ps, hps⟩ := exists_reads s.toList
  refine ⟨ps, hps, fun ps' hps' ↦ hps'.unique hps, ?_⟩
  cases hps.compares with
  | same hloose hfound =>
    refine iff_of_true (fun valueOf ↦ ?_) hloose
    rw [← hfound]
    exact replaces_pieces valueOf s
  | shorter hloose hlength =>
    refine iff_of_false (fun hreplaces ↦ ?_) (not_not.mpr hloose)
    have hvalued (ps : List Piece) :
        ∀ name ∈ referenced ps, ∃ value, (fun _ ↦ some "") name = some value :=
      fun _ _ ↦ ⟨"", rfl⟩
    have hok := ((replaces_pieces (fun _ ↦ some "") s).ok_iff (String.ofList _)).mpr
      ⟨hvalued _, String.toList_ofList⟩
    have htext := (((hreplaces fun _ ↦ some "").ok_iff _).mp hok).2
    rw [String.toList_ofList] at htext
    exact absurd (congrArg List.length htext) hlength.ne

/-- Braces with nothing between them are lost. -/
theorem not_expand_replaces :
    ¬ ∀ s : String, ∃ ps, Reads s.toList ps ∧
      ∀ valueOf, Replaces valueOf ps (expand valueOf s) := by
  intro h
  obtain ⟨ps, hreads, hreplaces⟩ := h (String.ofList ['$', '\x7b', '\x7d'])
  rw [String.toList_ofList] at hreads
  have hstarts : ¬ StartsReference ['\x7b', '\x7d'] := by
    generalize hs : ['\x7b', '\x7d'] = s
    rintro (⟨hne, hname⟩ | hc)
    · rename_i name rest
      cases name with
      | nil => exact hne rfl
      | cons c name =>
        rw [← (List.cons.inj (List.cons.inj hs).2).1] at hname
        exact hname List.mem_cons_self
    · cases hs
      exact absurd hc (by decide)
  have hkept : Reads ['$', '\x7b', '\x7d'] [.char '$', .char '\x7b', .char '\x7d'] :=
    .kept (fun _ ↦ hstarts) (.kept (fun h ↦ absurd h (by decide))
      (.kept (fun h ↦ absurd h (by decide)) .nil))
  have hfound : pieces ['$', '\x7b', '\x7d'] = [.char '$'] := by
    have hread := @readName_braced [] [] List.not_mem_nil
    rw [List.nil_append] at hread
    rw [pieces_dollar, hread, pieces]
    rfl
  have hok := ((hreplaces fun _ ↦ none).ok_iff (String.ofList ['$', '\x7b', '\x7d'])).mpr
    ⟨by rw [hreads.unique hkept]; simp [referenced, Piece.name?], by
      rw [hreads.unique hkept, String.toList_ofList]
      rfl⟩
  have htext := (((replaces_pieces (fun _ ↦ none) _).ok_iff _).mp hok).2
  rw [String.toList_ofList, hfound] at htext
  cases htext

end Barometer.Expansion
