import OptionGrammar.Proofs.PrintedLine

/-
  What loading a line gives.

  Each reader of a declaration line takes a front part of what it
  is given and leaves the rest, so the rest is a suffix and every
  part it returns is an infix of the line.  A line cut at its
  comment and trimmed holds no `//`, and so no part of it does;
  the pattern text is the shortest one the line lets close, and its
  trimmed form still closes only at its end.  Together these make
  every declaration loaded from a line one of line shape.

  Main declarations:
    * `DeclarationLine.read?_eq_some`
    * `OptionSpec.lineShaped_of_ofLine`
-/

------------------------------------------------------------
-- Readers Leave Suffixes
------------------------------------------------------------

namespace OptionGrammar

open Text

theorem takeIf_snd_suffix
    (p : Char → Bool)
    (cs : List Char) :
    (takeIf p cs).2 <:+ cs := by
  cases cs with
  | nil => exact List.suffix_refl []
  | cons c cs =>
      simp only [takeIf]
      split
      · exact List.suffix_cons c cs
      · exact List.suffix_refl _

theorem takeIf_fst_mem
    (p : Char → Bool)
    (cs : List Char) :
    ∀ c ∈ (takeIf p cs).1, p c = true := by
  intro c hc
  cases cs with
  | nil => simp [takeIf] at hc
  | cons d cs =>
      by_cases hp : p d = true
      · rw [takeIf, if_pos hp, Option.mem_def, Option.some.injEq] at hc
        subst hc
        exact hp
      · rw [takeIf, if_neg hp] at hc
        simp at hc

/- What follows the first character kept after blanks is a suffix. -/
theorem suffix_of_dropWhile_eq_cons
    {p : Char → Bool}
    {cs r : List Char}
    {x : Char}
    (h : cs.dropWhile p = x :: r) :
    r <:+ cs := by
  have hAfter : r <:+ cs.dropWhile p := by
    rw [h]
    exact List.suffix_cons x r
  exact hAfter.trans (List.dropWhile_suffix p)

/- A spelling as read: a dash and spelling characters, in front of the rest. -/
def SpellingRead (x : String) (cs rest : List Char) : Prop :=
  (∃ w, x.toList = '-' :: w ∧ ∀ c ∈ w, isSpellingChar c = true) ∧ cs = x.toList ++ rest

theorem takeSpelling_eq_some
    {cs rest : List Char}
    {x : String}
    (h : takeSpelling cs = some (x, rest)) :
    SpellingRead x cs rest := by
  unfold takeSpelling at h
  split at h
  · rename_i tail
    simp only [Option.some.injEq, Prod.mk.injEq] at h
    obtain ⟨rfl, rfl⟩ := h
    refine ⟨⟨tail.takeWhile isSpellingChar, String.toList_ofList, ?_⟩, ?_⟩
    · intro c hc
      exact List.all_eq_true.mp List.all_takeWhile c hc
    · rw [String.toList_ofList, List.cons_append, List.takeWhile_append_dropWhile]
  · cases h

theorem SpellingRead.part
    {x : String}
    {cs rest : List Char}
    (h : SpellingRead x cs rest) :
    x.toList <:+: cs := by
  rw [h.2]
  exact (List.prefix_append _ _).isInfix

theorem SpellingRead.suffix
    {x : String}
    {cs rest : List Char}
    (h : SpellingRead x cs rest) :
    rest <:+ cs := by
  rw [h.2]
  exact List.suffix_append _ _

theorem takeSecond_eq_some
    {cs rest : List Char}
    {y : String}
    (h : takeSecond cs = some (y, rest)) :
    SpellingRead y (cs.dropWhile isBlank) rest := by
  unfold takeSecond at h
  split at h
  · split at h
    · exact takeSpelling_eq_some h
    · cases h
  · cases h

/-
  The markers are taken from the front of a line, and a group digit
  taken is one from 1 to 9.
-/
theorem readMarkers_eq_some
    {cs rest : List Char}
    {m : DeclarationLine.Markers}
    (h : DeclarationLine.readMarkers cs = some (m, rest)) :
    rest <:+ cs ∧ ∀ c ∈ m.digit, '1' ≤ c ∧ c ≤ '9' := by
  unfold DeclarationLine.readMarkers at h
  -- the mandatory mark, `?` or `!`; the two branches go on alike
  split at h <;>
    simp only [Option.bind_eq_bind, Option.bind_some, Option.bind_none, reduceCtorEq] at h
  all_goals
    rename_i r
    split at h
    · split at h
      · simp only [Option.some.injEq, Prod.mk.injEq] at h
        obtain ⟨rfl, rfl⟩ := h
        refine ⟨(List.dropWhile_suffix isBlank).trans <|
          (takeIf_snd_suffix _ _).trans <| (takeIf_snd_suffix _ _).trans <|
            (takeIf_snd_suffix _ _).trans (List.suffix_cons _ r), ?_⟩
        intro c hc
        have hDigit := takeIf_fst_mem _ _ c hc
        simp only [Bool.and_eq_true, decide_eq_true_eq] at hDigit
        exact hDigit
      · cases h
    · cases h

/- A spelling read from somewhere in a line. -/
def SpellingIn (x : String) (cs : List Char) : Prop :=
  (∃ w, x.toList = '-' :: w ∧ ∀ c ∈ w, isSpellingChar c = true) ∧ x.toList <:+: cs

theorem SpellingRead.spellingIn
    {x : String}
    {cs rest : List Char}
    (h : SpellingRead x cs rest) :
    SpellingIn x cs :=
  ⟨h.1, h.part⟩

theorem SpellingIn.mono
    {x : String}
    {cs cs' : List Char}
    (h : SpellingIn x cs)
    (hInfix : cs <:+: cs') :
    SpellingIn x cs' :=
  ⟨h.1, h.2.trans hInfix⟩

/- The spellings are read from the front of what follows the markers. -/
theorem readSpellings_eq_some
    {cs rest : List Char}
    {first : String}
    {second : Option String}
    (h : DeclarationLine.readSpellings cs = some ((first, second), rest)) :
    (∀ x ∈ first :: second.toList, SpellingIn x cs) ∧ rest <:+ cs := by
  unfold DeclarationLine.readSpellings at h
  cases hTake : takeSpelling cs with
  | none => simp [hTake] at h
  | some xr =>
      obtain ⟨x, r⟩ := xr
      have hFirst := takeSpelling_eq_some hTake
      simp only [hTake, Option.bind_eq_bind, Option.bind_some] at h
      split at h
      · -- a second spelling after blanks
        rename_i y r' hSecond
        simp only [Option.some.injEq, Prod.mk.injEq] at h
        obtain ⟨⟨rfl, rfl⟩, rfl⟩ := h
        have hRead := takeSecond_eq_some hSecond
        have hAfter : r.dropWhile isBlank <:+ cs :=
          (List.dropWhile_suffix isBlank).trans hFirst.suffix
        refine ⟨?_, hRead.suffix.trans hAfter⟩
        intro z hz
        simp only [Option.toList_some, List.mem_cons, List.not_mem_nil, or_false] at hz
        rcases hz with rfl | rfl
        · exact hFirst.spellingIn
        · exact hRead.spellingIn.mono hAfter.isInfix
      · simp only [Option.some.injEq, Prod.mk.injEq] at h
        obtain ⟨⟨rfl, rfl⟩, rfl⟩ := h
        refine ⟨?_, hFirst.suffix⟩
        intro z hz
        simp only [Option.toList_none, List.mem_singleton] at hz
        subst hz
        exact hFirst.spellingIn

/-
  A value pattern is read from the front of a text: a non-empty text
  that closes at its end, with the rest after it.
-/
theorem takePattern_eq_some
    {cs rest : List Char}
    {p : String}
    (h : takePattern cs = some (p, rest)) :
    p.toList ≠ [] ∧ ClosesAtEnd p.toList ∧ p.toList <:+: cs ∧ rest <:+ cs := by
  cases cs with
  | nil => simp [takePattern] at h
  | cons c tail =>
      simp only [takePattern] at h
      split at h
      · split at h
        · rename_i r hOpen
          cases hClose : closePattern [] r with
          | none => simp [hClose] at h
          | some tr =>
              obtain ⟨t, r'⟩ := tr
              simp only [hClose, Option.map_some, Option.some.injEq, Prod.mk.injEq] at h
              obtain ⟨rfl, rfl⟩ := h
              obtain ⟨d, hText, hd, hSplit, -, hCloses⟩ := closePattern_eq_some hClose
              rw [List.nil_append] at hText
              subst hText
              -- the pattern and the rest sit after `<` in the line
              have hAfter := suffix_of_dropWhile_eq_cons hOpen
              rw [hSplit] at hAfter
              rw [String.toList_ofList]
              refine ⟨hd, hCloses, ?_, ?_⟩
              · exact ((List.prefix_append _ _).isInfix).trans hAfter.isInfix
              · exact ((List.suffix_cons _ _).trans (List.suffix_append _ _)).trans hAfter
        · cases h
      · cases h

/- Help is read as the rest of the line after its bar. -/
theorem takeHelp_eq_some
    {cs : List Char}
    {help : Option String}
    (h : takeHelp cs = some help) :
    ∀ text ∈ help, text.toList <:+: cs := by
  intro text hText
  unfold takeHelp at h
  split at h
  · simp only [Option.some.injEq] at h
    subst h
    cases hText
  · rename_i r hBar
    simp only [Option.some.injEq] at h
    subst h
    simp only [Option.mem_def, Option.some.injEq] at hText
    subst hText
    rw [String.toList_ofList]
    exact (suffix_of_dropWhile_eq_cons hBar).isInfix
  · cases h

/- What follows the spellings: a pattern that closes at its end, and help. -/
theorem readTail_eq_some
    {cs : List Char}
    {param help : Option String}
    (h : DeclarationLine.readTail cs = some (param, help)) :
    (∀ p ∈ param, p.toList ≠ [] ∧ ClosesAtEnd p.toList ∧ p.toList <:+: cs) ∧
      ∀ text ∈ help, text.toList <:+: cs := by
  unfold DeclarationLine.readTail at h
  cases hPattern : takePattern cs with
  | none =>
      simp only [hPattern, Option.bind_eq_bind] at h
      cases hHelp : takeHelp cs with
      | none => simp [hHelp] at h
      | some help' =>
          simp only [hHelp, Option.bind_some] at h
          obtain ⟨rfl, rfl⟩ := h
          exact ⟨by simp, takeHelp_eq_some hHelp⟩
  | some pr =>
      obtain ⟨p, r⟩ := pr
      obtain ⟨hFilled, hCloses, hInfix, hSuffix⟩ := takePattern_eq_some hPattern
      simp only [hPattern, Option.bind_eq_bind] at h
      cases hHelp : takeHelp r with
      | none => simp [hHelp] at h
      | some help' =>
          simp only [hHelp, Option.bind_some] at h
          obtain ⟨rfl, rfl⟩ := h
          refine ⟨?_, fun text hText => (takeHelp_eq_some hHelp text hText).trans hSuffix.isInfix⟩
          intro q hq
          simp only [Option.mem_def, Option.some.injEq] at hq
          subst hq
          exact ⟨hFilled, hCloses, hInfix⟩

/- A group digit reads as a number at most 9. -/
theorem digit_value_le
    {c : Char}
    (h : c ≤ '9') :
    c.toNat - '0'.toNat ≤ 9 := by
  have hHigh : c.val.toNat ≤ ('9' : Char).val.toNat :=
    UInt32.le_iff_toNat_le.mp (Char.le_def.mp h)
  have hNine : ('9' : Char).val.toNat = 57 := rfl
  have hZero : ('0' : Char).toNat = 48 := rfl
  have hVal : c.toNat = c.val.toNat := rfl
  omega

namespace DeclarationLine

/-
  The parts of a line as read: a group number at most 9, spellings
  and help taken from the line, and a pattern text that closes at
  its end.
-/
theorem read?_eq_some
    {cs : List Char}
    {d : DeclarationLine}
    (h : read? cs = some d) :
    (∀ k ∈ d.number, k ≤ 9) ∧ (∀ x ∈ d.first :: d.second.toList, SpellingIn x cs) ∧
      (∀ p ∈ d.param, p.toList ≠ [] ∧ ClosesAtEnd p.toList ∧ p.toList <:+: cs) ∧
        ∀ text ∈ d.help, text.toList <:+: cs := by
  unfold read? at h
  cases hMarkers : readMarkers cs with
  | none => simp [hMarkers] at h
  | some mr =>
      obtain ⟨m, r1⟩ := mr
      obtain ⟨hSuffix1, hDigit⟩ := readMarkers_eq_some hMarkers
      simp only [hMarkers, Option.bind_eq_bind, Option.bind_some] at h
      cases hSpellings : readSpellings r1 with
      | none => simp [hSpellings] at h
      | some sr =>
          obtain ⟨⟨first, second⟩, r2⟩ := sr
          obtain ⟨hNames, hSuffix2⟩ := readSpellings_eq_some hSpellings
          simp only [hSpellings, Option.bind_some] at h
          cases hTail : readTail r2 with
          | none => simp [hTail] at h
          | some ph =>
              obtain ⟨param, help⟩ := ph
              obtain ⟨hParam, hHelp⟩ := readTail_eq_some hTail
              simp only [hTail, Option.bind_some, pure, Option.some.injEq] at h
              subst h
              have hTailIn : r2 <:+: cs := (hSuffix2.trans hSuffix1).isInfix
              refine ⟨?_, fun x hx => (hNames x hx).mono hSuffix1.isInfix, ?_,
                fun text hText => (hHelp text hText).trans hTailIn⟩
              · intro k hk
                obtain ⟨c, hc, rfl⟩ := Option.map_eq_some_iff.mp hk
                exact digit_value_le (hDigit c hc).2
              · intro p hp
                obtain ⟨hFilled, hCloses, hInfix⟩ := hParam p hp
                exact ⟨hFilled, hCloses, hInfix.trans hTailIn⟩

end DeclarationLine

end OptionGrammar

------------------------------------------------------------
-- Loaded Declarations Have Line Shape
------------------------------------------------------------

namespace OptionGrammar

open Text

theorem trimBlank_part
    (text : String) :
    (trimBlank text).toList <:+: text.toList := by
  unfold trimBlank
  rw [String.toList_ofList]
  obtain ⟨front, back, -, -, hSplit⟩ := trimBlankList_split text.toList
  exact ⟨front, back, hSplit.symm⟩

/- Trimmed text taken from an uncut line is trimmed and uncut. -/
theorem trimBlank_of_part
    {text : String}
    {cs : List Char}
    (hInfix : text.toList <:+: cs)
    (hLine : Uncommented cs) :
    Trimmed (trimBlank text).toList ∧ Uncommented (trimBlank text).toList := by
  refine ⟨?_, hLine.of_part ((trimBlank_part text).trans hInfix)⟩
  unfold trimBlank
  rw [String.toList_ofList]
  exact trimmed_trimBlankList text.toList

/- The pattern text a line closes at its end gives a pattern of line shape. -/
theorem patternShape_trimBlank
    {text : String}
    {cs : List Char}
    (hCloses : ClosesAtEnd text.toList)
    (hInfix : text.toList <:+: cs)
    (hLine : Uncommented cs) :
    PatternShape (trimBlank text).toList := by
  obtain ⟨hTrimmed, hUncut⟩ := trimBlank_of_part hInfix hLine
  refine ⟨hTrimmed, hUncut, ?_⟩
  obtain ⟨front, back, -, -, hSplit⟩ := trimBlankList_split text.toList
  unfold trimBlank
  rw [String.toList_ofList]
  rw [hSplit] at hCloses
  exact hCloses.middle

namespace OptionSpec

/-
  Every declaration loaded from a line with no line feed is of line
  shape.
-/
theorem lineShaped_of_ofLine
    {n : Nat}
    {raw : String}
    {s : OptionSpec}
    (hFeed : '\n' ∉ raw.toList)
    (h : ofLine n raw = .ok (some s)) :
    LineShaped s := by
  have hLine := uncommented_trimBlankList_cutComment hFeed
  obtain ⟨d, hRead, hSpec⟩ := ofLine_eq_ok_some h
  obtain ⟨hNumber, hNames, hParam, hHelp⟩ := DeclarationLine.read?_eq_some hRead
  obtain ⟨hs, hNone, hSome⟩ := DeclarationLine.toSpec_eq_ok hSpec
  refine ⟨⟨d.first, d.second, by rw [hs]⟩, ?_, ?_, ?_, ?_⟩
  · -- spellings
    intro x hx
    rw [hs] at hx
    exact ⟨(hNames x hx).1, hLine.of_part (hNames x hx).2⟩
  · -- the group digit
    rw [hs]
    cases hN : d.number with
    | none =>
        show ((0 : Nat).toUInt8).toNat ≤ 9
        decide
    | some k =>
        have hk := hNumber k hN
        show (k.toUInt8).toNat ≤ 9
        rw [Nat.toUInt8_eq, UInt8.toNat_ofNat', Nat.mod_eq_of_lt (by omega)]
        exact hk
  · -- help
    rw [hs]
    cases hH : d.help with
    | none =>
        show Trimmed ("" : String).toList ∧ Uncommented ("" : String).toList
        exact ⟨⟨by simp, by simp⟩, ⟨by decide, rfl⟩⟩
    | some text => exact trimBlank_of_part (hHelp text hH) hLine
  · -- the pattern
    intro v hv
    cases hP : d.param with
    | none =>
        rw [hNone hP] at hv
        cases hv
    | some text =>
        obtain ⟨v', hv', hCompile⟩ := hSome text hP
        rw [hv', Option.mem_def, Option.some.injEq] at hv
        subst hv
        obtain ⟨-, hCloses, hInfix⟩ := hParam text hP
        have hDeclared := ValuePattern.declared_of_compile hCompile
        rw [hDeclared]
        exact ⟨hCompile, patternShape_trimBlank hCloses hInfix hLine⟩

end OptionSpec

end OptionGrammar
