import OptionGrammar.Proofs.LineText

/-
  Declaration lines read back.

  A declaration is printed as one grammar line: its markers, its
  spellings after blanks, its value pattern in angle brackets and
  its help after a bar.  A declaration of the shape that loading a
  line gives, `LineShaped`, prints a line with no comment mark and
  no blank at either end, and reading that line gives back the
  parts it was printed from.  So the line loads as the declaration
  itself exactly when its value pattern, if it has one, is not
  empty: an empty pattern prints as `<>`, and a `>` right after `<`
  never closes a pattern.

  Main declarations:
    * `OptionSpec.toGrammarLine_toList`, `OptionSpec.LineShaped`
    * `OptionSpec.read?_toGrammarLine`
    * `OptionSpec.ofLine_toGrammarLine_iff`
-/

------------------------------------------------------------
-- The Printed Line
------------------------------------------------------------

namespace OptionGrammar

open Text

namespace OptionSpec

/- The group digit of a printed line; nothing for no group. -/
def digitPart (g : Group) : String :=
  if g.isNumbered then toString g.number.toNat else ""

/- The spellings of a printed line, each after a blank. -/
def spellingPart (spellings : List String) : String :=
  String.join (spellings.map (" " ++ ·))

/- The value pattern of a printed line, after a blank. -/
def patternPart : Option ValuePattern → String
  | some p => " <" ++ p.declared ++ ">"
  | none => ""

/- The help of a printed line, after a bar; nothing for no help. -/
def helpPart (help : String) : String :=
  if help.isEmpty then "" else " | " ++ help

theorem toGrammarLine_eq
    (s : OptionSpec) :
    s.toGrammarLine =
      String.ofList [if s.optional then '?' else '!', s.group.kind.marker] ++
        digitPart s.group ++ (if s.unique then "-" else "+") ++
          spellingPart s.spellings ++ patternPart s.param ++ helpPart s.help := by
  obtain ⟨spellings, optional, group, unique, param, help⟩ := s
  cases param <;> rfl

theorem toGrammarLine_toList
    (s : OptionSpec) :
    s.toGrammarLine.toList =
      (if s.optional then '?' else '!') :: s.group.kind.marker ::
        ((digitPart s.group).toList ++ (if s.unique then '-' else '+') ::
          ((spellingPart s.spellings).toList ++ (patternPart s.param).toList ++
            (helpPart s.help).toList)) := by
  have hUniq :
      (if s.unique then "-" else "+").toList = [if s.unique then '-' else '+'] := by
    cases s.unique <;> rfl
  rw [toGrammarLine_eq]
  simp only [String.toList_append, String.toList_ofList, hUniq, List.append_assoc,
    List.cons_append, List.nil_append]

theorem spellingPart_cons
    (x : String)
    (xs : List String) :
    (spellingPart (x :: xs)).toList = ' ' :: (x.toList ++ (spellingPart xs).toList) := by
  unfold spellingPart
  rw [List.map_cons, String.join_cons, String.toList_append, String.toList_append]
  rfl

theorem patternPart_some
    (p : ValuePattern) :
    (patternPart (some p)).toList = ' ' :: '<' :: (p.declared.toList ++ ['>']) := by
  unfold patternPart
  rw [String.toList_append, String.toList_append]
  rfl

theorem helpPart_of_ne
    {help : String}
    (h : help ≠ "") :
    (helpPart help).toList = ' ' :: '|' :: ' ' :: help.toList := by
  unfold helpPart
  rw [if_neg (by simpa using h), String.toList_append]
  rfl

/-
  A group number from 1 to 9 prints as one digit, and that digit
  reads back as the number.
-/
theorem digitPart_numbered
    {g : Group}
    (hNumbered : g.isNumbered = true)
    (hLe : g.number.toNat ≤ 9) :
    ∃ d, (digitPart g).toList = [d] ∧ '1' ≤ d ∧ d ≤ '9' ∧
      (d.toNat - '0'.toNat).toUInt8 = g.number := by
  have hDigits : ∀ k, k < 10 → 1 ≤ k →
      (toString k).toList = [Char.ofNat (k + 48)] ∧ '1' ≤ Char.ofNat (k + 48) ∧
        Char.ofNat (k + 48) ≤ '9' ∧ (Char.ofNat (k + 48)).toNat - '0'.toNat = k := by
    decide
  have hPos : 1 ≤ g.number.toNat := by
    have hNe : g.number ≠ 0 := by simpa [Group.isNumbered] using hNumbered
    have hNat : g.number.toNat ≠ 0 := fun h0 => hNe (UInt8.toNat_inj.mp h0)
    omega
  obtain ⟨hText, hLow, hHigh, hValue⟩ := hDigits g.number.toNat (by omega) hPos
  refine ⟨_, ?_, hLow, hHigh, ?_⟩
  · rw [digitPart, if_pos hNumbered, hText]
  · rw [hValue]
    exact UInt8.ofNat_toNat

theorem digitPart_unnumbered
    {g : Group}
    (h : g.isNumbered = false) :
    digitPart g = "" := by
  rw [digitPart, if_neg (by simp [h])]

end OptionSpec

end OptionGrammar

------------------------------------------------------------
-- Declarations of Line Shape
------------------------------------------------------------

namespace OptionGrammar

open Text

/- A spelling as a line writes it: a dash, spelling characters, no `//`. -/
def IsSpelling (x : String) : Prop :=
  (∃ w, x.toList = '-' :: w ∧ ∀ c ∈ w, isSpellingChar c = true) ∧
    Uncommented x.toList

/- A declared pattern text as loading leaves it. -/
structure PatternShape (d : List Char) : Prop where
  trimmed : Trimmed d
  uncommented : Uncommented d
  closes : ClosesAtEnd d

namespace OptionSpec

/-
  A declaration of the shape that loading a grammar line gives:
  one or two spellings, a group digit at most 9, trimmed help and a
  pattern text that compiles to the pattern, all free of `//`.
-/
structure LineShaped (s : OptionSpec) : Prop where
  spellings : ∃ first second, s.spellings = first :: Option.toList second
  isSpelling : ∀ x ∈ s.spellings, IsSpelling x
  number_le : s.group.number.toNat ≤ 9
  help : Trimmed s.help.toList ∧ Uncommented s.help.toList
  param : ∀ p ∈ s.param,
    ValuePattern.compile p.declared = .ok p ∧ PatternShape p.declared.toList

end OptionSpec

theorem IsSpelling.not_blank
    {x : String}
    (h : IsSpelling x) :
    ∀ c ∈ x.toList, isBlank c = false := by
  obtain ⟨⟨w, hx, hChars⟩, -⟩ := h
  intro c hc
  rw [hx] at hc
  rcases List.mem_cons.mp hc with rfl | hw
  · decide
  · have hSpelling := hChars c hw
    simp only [isSpellingChar, Bool.and_eq_true, Bool.not_eq_true'] at hSpelling
    exact hSpelling.1.1

/- A spelling starts with its dash, so blanks before nothing of it are dropped. -/
theorem IsSpelling.dropWhile_blank
    {x : String}
    (h : IsSpelling x)
    (rest : List Char) :
    (x.toList ++ rest).dropWhile isBlank = x.toList ++ rest := by
  obtain ⟨w, hw, -⟩ := h.1
  apply dropWhile_blank_of_head
  rw [hw]
  intro c hc
  simp only [List.cons_append, List.head?_cons, Option.mem_def, Option.some.injEq] at hc
  subst hc
  decide

end OptionGrammar

------------------------------------------------------------
-- Cutting and Trimming a Printed Line
------------------------------------------------------------

namespace OptionGrammar

open Text

namespace OptionSpec

/- Every piece after the markers starts with a blank. -/
def OpensBlank (cs : List Char) : Prop :=
  ∀ c ∈ cs.head?, c = ' '

theorem OpensBlank.not_slash
    {cs : List Char}
    (h : OpensBlank cs) :
    cs.head? ≠ some '/' := fun hSlash => by
  have := h '/' hSlash
  contradiction

theorem OpensBlank.append
    {a b : List Char}
    (ha : OpensBlank a)
    (hb : OpensBlank b) :
    OpensBlank (a ++ b) := by
  cases a with
  | nil => exact hb
  | cons c a => exact ha

theorem opensBlank_nil : OpensBlank [] :=
  fun _ hc => absurd hc (Option.not_mem_none _)

theorem opensBlank_cons
    (cs : List Char) :
    OpensBlank (' ' :: cs) :=
  fun _ hc => (Option.some.inj hc).symm

theorem opensBlank_spellingPart
    (xs : List String) :
    OpensBlank (spellingPart xs).toList := by
  cases xs with
  | nil => exact opensBlank_nil
  | cons x xs =>
      rw [spellingPart_cons]
      exact opensBlank_cons _

theorem opensBlank_patternPart
    (p : Option ValuePattern) :
    OpensBlank (patternPart p).toList := by
  cases p with
  | none => exact opensBlank_nil
  | some q =>
      rw [patternPart_some]
      exact opensBlank_cons _

theorem opensBlank_helpPart
    (help : String) :
    OpensBlank (helpPart help).toList := by
  by_cases hEmpty : help = ""
  · subst hEmpty
    exact opensBlank_nil
  · rw [helpPart_of_ne hEmpty]
    exact opensBlank_cons _

theorem uncommented_spellingPart
    {xs : List String}
    (h : ∀ x ∈ xs, IsSpelling x) :
    Uncommented (spellingPart xs).toList := by
  induction xs with
  | nil => exact ⟨by simp [spellingPart], rfl⟩
  | cons x xs ih =>
      rw [spellingPart_cons]
      have hRest := ih fun y hy => h y (List.mem_cons_of_mem x hy)
      exact uncommented_cons (by decide) (by decide)
        ((h x List.mem_cons_self).2.append hRest (opensBlank_spellingPart xs).not_slash)

theorem uncommented_patternPart
    {p : Option ValuePattern}
    (h : ∀ q ∈ p, Uncommented q.declared.toList) :
    Uncommented (patternPart p).toList := by
  cases p with
  | none => exact ⟨by simp [patternPart], rfl⟩
  | some q =>
      rw [patternPart_some]
      have hClose : Uncommented ['>'] := ⟨by decide, rfl⟩
      exact uncommented_cons (by decide) (by decide) <|
        uncommented_cons (by decide) (by decide) <|
          (h q rfl).append hClose (by decide)

theorem uncommented_helpPart
    {help : String}
    (h : Uncommented help.toList) :
    Uncommented (helpPart help).toList := by
  by_cases hEmpty : help = ""
  · subst hEmpty
    exact ⟨by decide, rfl⟩
  · rw [helpPart_of_ne hEmpty]
    exact uncommented_cons (by decide) (by decide) <|
      uncommented_cons (by decide) (by decide) <|
        uncommented_cons (by decide) (by decide) h

theorem uncommented_digitPart
    {g : Group}
    (hLe : g.number.toNat ≤ 9) :
    Uncommented (digitPart g).toList := by
  cases hNumbered : g.isNumbered with
  | false =>
      rw [digitPart_unnumbered hNumbered]
      exact ⟨by decide, rfl⟩
  | true =>
      obtain ⟨d, hd, hLow, -, -⟩ := digitPart_numbered hNumbered hLe
      rw [hd]
      -- a digit is neither `/` nor a line feed, both below `1`
      have hSlash : d ≠ '/' := by
        rintro rfl
        exact absurd hLow (by decide)
      have hFeed : d ≠ '\n' := by
        rintro rfl
        exact absurd hLow (by decide)
      exact uncommented_cons hSlash hFeed ⟨by decide, rfl⟩

/- The marker characters are neither `/`, a line feed nor blank. -/
theorem optionalMark_plain
    (b : Bool) :
    (if b then '?' else '!') ≠ '/' ∧ (if b then '?' else '!') ≠ '\n' ∧
      isBlank (if b then '?' else '!') = false := by
  cases b <;> decide

theorem kindMark_plain
    (k : GroupKind) :
    k.marker ≠ '/' ∧ k.marker ≠ '\n' ∧ isBlank k.marker = false := by
  cases k <;> decide

theorem uniqueMark_plain
    (b : Bool) :
    (if b then '-' else '+') ≠ '/' ∧ (if b then '-' else '+') ≠ '\n' ∧
      isBlank (if b then '-' else '+') = false := by
  cases b <;> decide

/- A printed line holds no `//` and no line feed. -/
theorem uncommented_toGrammarLine
    {s : OptionSpec}
    (h : LineShaped s) :
    Uncommented s.toGrammarLine.toList := by
  rw [toGrammarLine_toList]
  have hPattern := uncommented_patternPart fun q hq => ((h.param q hq).2).uncommented
  have hTail :=
    ((uncommented_spellingPart h.isSpelling).append hPattern
      (opensBlank_patternPart s.param).not_slash).append
      (uncommented_helpPart h.help.2) (opensBlank_helpPart s.help).not_slash
  obtain ⟨hReqSlash, hReqFeed, -⟩ := optionalMark_plain s.optional
  obtain ⟨hKindSlash, hKindFeed, -⟩ := kindMark_plain s.group.kind
  obtain ⟨hUniqSlash, hUniqFeed, -⟩ := uniqueMark_plain s.unique
  have hUniq := uncommented_cons hUniqSlash hUniqFeed hTail
  exact uncommented_cons hReqSlash hReqFeed <|
    uncommented_cons hKindSlash hKindFeed <|
      (uncommented_digitPart h.number_le).append hUniq
        fun hHead => hUniqSlash (Option.some.inj hHead)

theorem last_not_blank_spellingPart
    {xs : List String}
    (h : ∀ x ∈ xs, IsSpelling x) :
    ∀ c ∈ (spellingPart xs).toList.getLast?, isBlank c = false := by
  induction xs with
  | nil => intro c hc; simp [spellingPart] at hc
  | cons x xs ih =>
      rw [spellingPart_cons]
      have hx := h x List.mem_cons_self
      obtain ⟨w, hw, -⟩ := hx.1
      have hLast : ∀ c ∈ x.toList.getLast?, isBlank c = false :=
        fun c hc => hx.not_blank c (List.mem_of_getLast? hc)
      exact last_not_blank_cons ' ' (by simp [hw]) <|
        last_not_blank_append hLast (ih fun y hy => h y (List.mem_cons_of_mem x hy))

theorem last_not_blank_patternPart
    (p : Option ValuePattern) :
    ∀ c ∈ (patternPart p).toList.getLast?, isBlank c = false := by
  cases p with
  | none => intro c hc; simp [patternPart] at hc
  | some q =>
      rw [patternPart_some]
      intro c hc
      -- the pattern closes with `>`
      have hClose : (' ' :: '<' :: (q.declared.toList ++ ['>'])).getLast? = some '>' := by
        rw [← List.cons_append, ← List.cons_append, List.getLast?_concat]
      rw [hClose, Option.mem_def, Option.some.injEq] at hc
      subst hc
      decide

theorem last_not_blank_helpPart
    {help : String}
    (h : Trimmed help.toList) :
    ∀ c ∈ (helpPart help).toList.getLast?, isBlank c = false := by
  by_cases hEmpty : help = ""
  · intro c hc
    simp [hEmpty, helpPart] at hc
  · rw [helpPart_of_ne hEmpty]
    have hText : help.toList ≠ [] := by simpa using hEmpty
    exact last_not_blank_cons ' ' (by simp) <|
      last_not_blank_cons '|' (by simp) <| last_not_blank_cons ' ' hText h.2

/- A printed line has no blank at either end. -/
theorem trimmed_toGrammarLine
    {s : OptionSpec}
    (h : LineShaped s) :
    Trimmed s.toGrammarLine.toList := by
  rw [toGrammarLine_toList]
  refine ⟨fun c hc => ?_, ?_⟩
  · simp only [List.head?_cons, Option.mem_def, Option.some.injEq] at hc
    subst hc
    exact (optionalMark_plain s.optional).2.2
  · -- the line ends where its last non-empty piece does
    have hTail := last_not_blank_append
      (last_not_blank_append (last_not_blank_spellingPart h.isSpelling)
        (last_not_blank_patternPart s.param))
      (last_not_blank_helpPart h.help.1)
    have hShape : ∀ (a b u : Char) (ds tail : List Char),
        a :: b :: (ds ++ u :: tail) = (a :: b :: ds ++ [u]) ++ tail := by
      intro a b u ds tail
      simp
    rw [hShape]
    refine last_not_blank_append ?_ hTail
    intro c hc
    rw [List.getLast?_concat, Option.mem_def, Option.some.injEq] at hc
    subst hc
    exact (uniqueMark_plain s.unique).2.2

/- Cutting and trimming leave a printed line as it is. -/
theorem ofLine_toGrammarLine_eq
    {s : OptionSpec}
    (h : LineShaped s)
    (n : Nat) :
    ofLine n s.toGrammarLine =
      (DeclarationLine.read? s.toGrammarLine.toList).elim
        (.error (.grammar n s.toGrammarLine)) fun d => (d.toSpec n).map some := by
  have hCut := (uncommented_toGrammarLine h).2
  have hTrim := trimBlankList_of_trimmed (trimmed_toGrammarLine h)
  have hFilled : s.toGrammarLine.toList.isEmpty = false := by
    rw [toGrammarLine_toList]
    rfl
  unfold ofLine
  simp only [hCut, hTrim, hFilled, Bool.false_eq_true, if_false]
  cases DeclarationLine.read? s.toGrammarLine.toList <;> rfl

end OptionSpec

end OptionGrammar

------------------------------------------------------------
-- Reading the Pieces of a Printed Line
------------------------------------------------------------

namespace OptionGrammar

open Text

namespace OptionSpec

theorem takeIf_kindMark
    (k : GroupKind)
    (cs : List Char) :
    takeIf (fun c => c == '|' || c == '&' || c == '^') (k.marker :: cs) =
      (some k.marker, cs) := by
  cases k <;> rfl

theorem takeIf_uniqueMark
    (b : Bool)
    (cs : List Char) :
    takeIf (fun c => c == '-' || c == '+') ((if b then '-' else '+') :: cs) =
      (some (if b then '-' else '+'), cs) := by
  cases b <;> rfl

/- The group digit is taken, and the uniqueness mark after it is no digit. -/
theorem takeIf_digitPart
    {g : Group}
    (hLe : g.number.toNat ≤ 9)
    (b : Bool)
    (cs : List Char) :
    takeIf (fun c => '1' ≤ c && c ≤ '9') ((digitPart g).toList ++ (if b then '-' else '+') :: cs) =
      ((digitPart g).toList.head?, (if b then '-' else '+') :: cs) := by
  cases hNumbered : g.isNumbered with
  | false =>
      rw [digitPart_unnumbered hNumbered]
      cases b <;> rfl
  | true =>
      obtain ⟨d, hd, hLow, hHigh, -⟩ := digitPart_numbered hNumbered hLe
      rw [hd]
      simp [takeIf, hLow, hHigh]

/- The markers of a printed line are read as printed. -/
theorem readMarkers_printed
    (s : OptionSpec)
    (hLe : s.group.number.toNat ≤ 9)
    (rest : List Char) :
    DeclarationLine.readMarkers
        ((if s.optional then '?' else '!') :: s.group.kind.marker ::
          ((digitPart s.group).toList ++ (if s.unique then '-' else '+') :: ' ' :: rest)) =
      some (⟨s.optional, some s.group.kind.marker, (digitPart s.group).toList.head?,
        some (if s.unique then '-' else '+')⟩, rest.dropWhile isBlank) := by
  have hSpace : (' ' :: rest).dropWhile isBlank = rest.dropWhile isBlank :=
    List.dropWhile_cons_of_pos (by decide)
  cases hOptional : s.optional <;>
    simp [DeclarationLine.readMarkers, takeIf_kindMark, takeIf_digitPart hLe,
      takeIf_uniqueMark, hSpace, isBlank_space]

theorem isSpellingChar_space : isSpellingChar ' ' = false := by decide

/- A spelling is read whole from a text that goes on with no spelling character. -/
theorem takeSpelling_append
    {x : String}
    (hx : IsSpelling x)
    {rest : List Char}
    (hRest : ∀ c ∈ rest.head?, isSpellingChar c = false) :
    takeSpelling (x.toList ++ rest) = some (x, rest) := by
  obtain ⟨w, hw, hChars⟩ := hx.1
  have hStop : rest.takeWhile isSpellingChar = [] ∧ rest.dropWhile isSpellingChar = rest := by
    cases rest with
    | nil => exact ⟨rfl, rfl⟩
    | cons c rest =>
        have hc := hRest c rfl
        exact ⟨List.takeWhile_cons_of_neg (by simp [hc]),
          List.dropWhile_cons_of_neg (by simp [hc])⟩
  rw [hw, List.cons_append, takeSpelling, List.takeWhile_append_of_pos hChars,
    List.dropWhile_append_of_pos hChars, hStop.1, hStop.2, List.append_nil, ← hw,
    String.ofList_toList]

theorem spellingHead_of_opensBlank
    {cs : List Char}
    (h : OpensBlank cs) :
    ∀ c ∈ cs.head?, isSpellingChar c = false := by
  intro c hc
  rw [h c hc]
  exact isSpellingChar_space

/-
  After the spellings comes a pattern or help, or nothing; neither
  is read as a second spelling.
-/
theorem takeSecond_tail
    (p : Option ValuePattern)
    (help : String) :
    takeSecond ((patternPart p).toList ++ (helpPart help).toList) = none := by
  have hOpen : ∀ c rest, isBlank c = false → c ≠ '-' →
      takeSecond (' ' :: c :: rest) = none := by
    intro c rest hBlank hDash
    simp only [takeSecond, isBlank_space, if_true]
    rw [List.dropWhile_cons_of_pos (by decide),
      List.dropWhile_cons_of_neg (by simp [hBlank])]
    unfold takeSpelling
    split
    · rename_i hDashed
      exact absurd (List.cons.inj hDashed).1 hDash
    · rfl
  cases p with
  | some q =>
      rw [patternPart_some, List.cons_append, List.cons_append]
      exact hOpen '<' _ (by decide) (by decide)
  | none =>
      by_cases hEmpty : help = ""
      · subst hEmpty
        rfl
      · rw [helpPart_of_ne hEmpty]
        exact hOpen '|' _ (by decide) (by decide)

/- The spellings of a printed line are read as printed. -/
theorem readSpellings_printed
    {first : String}
    {second : Option String}
    (hFirst : IsSpelling first)
    (hSecond : ∀ y ∈ second, IsSpelling y)
    (p : Option ValuePattern)
    (help : String) :
    DeclarationLine.readSpellings
        (first.toList ++ ((spellingPart second.toList).toList ++
          ((patternPart p).toList ++ (helpPart help).toList))) =
      some ((first, second), (patternPart p).toList ++ (helpPart help).toList) := by
  have hTail := spellingHead_of_opensBlank
    ((opensBlank_patternPart p).append (opensBlank_helpPart help))
  cases second with
  | none =>
      have hEmpty : (spellingPart (none : Option String).toList).toList = [] := rfl
      rw [hEmpty, List.nil_append]
      simp only [DeclarationLine.readSpellings, takeSpelling_append hFirst hTail,
        takeSecond_tail, Option.bind_eq_bind, Option.bind_some]
  | some y =>
      have hy := hSecond y rfl
      have hPart : (spellingPart (some y).toList).toList = ' ' :: y.toList := by
        rw [Option.toList_some, spellingPart_cons]
        simp [spellingPart]
      -- the second spelling follows a blank
      have hRead : takeSecond (' ' :: (y.toList ++
          ((patternPart p).toList ++ (helpPart help).toList))) =
            some (y, (patternPart p).toList ++ (helpPart help).toList) := by
        simp only [takeSecond, isBlank_space, if_true]
        rw [List.dropWhile_cons_of_pos (by decide), hy.dropWhile_blank,
          takeSpelling_append hy hTail]
      rw [hPart, List.cons_append]
      simp only [DeclarationLine.readSpellings,
        takeSpelling_append hFirst (spellingHead_of_opensBlank (opensBlank_cons _)), hRead,
        Option.bind_eq_bind, Option.bind_some]

/- After its blanks, printed help starts with its bar. -/
theorem helpPart_dropWhile
    {help : String}
    (hEmpty : help ≠ "") :
    (helpPart help).toList.dropWhile isBlank = '|' :: ' ' :: help.toList := by
  rw [helpPart_of_ne hEmpty, List.dropWhile_cons_of_pos (by decide),
    List.dropWhile_cons_of_neg (by decide)]

theorem endsDeclaration_helpPart
    (help : String) :
    endsDeclaration (helpPart help).toList = true := by
  by_cases hEmpty : help = ""
  · subst hEmpty
    rfl
  · unfold endsDeclaration
    rw [helpPart_dropWhile hEmpty]
    rfl

theorem takeHelp_helpPart
    (help : String) :
    takeHelp (helpPart help).toList =
      some (if help = "" then none else some (String.ofList (' ' :: help.toList))) := by
  by_cases hEmpty : help = ""
  · subst hEmpty
    rfl
  · unfold takeHelp
    rw [helpPart_dropWhile hEmpty, if_neg hEmpty]
    rfl

theorem takePattern_helpPart
    (help : String) :
    takePattern (helpPart help).toList = none := by
  by_cases hEmpty : help = ""
  · subst hEmpty
    rfl
  · rw [helpPart_of_ne hEmpty]
    simp only [takePattern, isBlank_space, if_true]
    rw [List.dropWhile_cons_of_pos (by decide), List.dropWhile_cons_of_neg (by decide)]
    rfl

/- A non-empty pattern that closes at its end is read as printed. -/
theorem takePattern_printed
    {q : ValuePattern}
    (hFilled : q.declared ≠ "")
    (hCloses : ClosesAtEnd q.declared.toList)
    (help : String) :
    takePattern ((patternPart (some q)).toList ++ (helpPart help).toList) =
      some (q.declared, (helpPart help).toList) := by
  have hText : q.declared.toList ≠ [] := by simpa using hFilled
  rw [patternPart_some, List.cons_append, List.cons_append, List.append_assoc,
    List.singleton_append]
  simp only [takePattern, isBlank_space, if_true]
  rw [List.dropWhile_cons_of_pos (by decide), List.dropWhile_cons_of_neg (by decide)]
  simp only [closePattern_append [] hText hCloses (endsDeclaration_helpPart help),
    List.nil_append, Option.map_some, String.ofList_toList]

/- The tail of a printed line with no empty pattern is read as printed. -/
theorem readTail_printed
    (p : Option ValuePattern)
    (hp : ∀ q ∈ p, q.declared ≠ "" ∧ ClosesAtEnd q.declared.toList)
    (help : String) :
    DeclarationLine.readTail ((patternPart p).toList ++ (helpPart help).toList) =
      some (p.map (·.declared),
        if help = "" then none else some (String.ofList (' ' :: help.toList))) := by
  cases p with
  | none =>
      have hEmpty : (patternPart none).toList = [] := rfl
      rw [hEmpty, List.nil_append]
      simp only [DeclarationLine.readTail, takePattern_helpPart, takeHelp_helpPart,
        Option.map_none]
      rfl
  | some q =>
      obtain ⟨hFilled, hCloses⟩ := hp q rfl
      simp only [DeclarationLine.readTail, takePattern_printed hFilled hCloses,
        takeHelp_helpPart, Option.map_some]
      rfl

/-
  A pattern printed empty is never read back empty: the `>` right
  after `<` either joins a longer pattern or leaves the line
  unreadable.
-/
theorem readTail_emptyPattern
    {q : ValuePattern}
    (hEmpty : q.declared = "")
    (help : String) :
    ∀ r ∈ DeclarationLine.readTail ((patternPart (some q)).toList ++ (helpPart help).toList),
      ∃ text, r.1 = some text ∧ text.toList.head? = some '>' := by
  have hPrinted : (patternPart (some q)).toList ++ (helpPart help).toList =
      ' ' :: '<' :: '>' :: (helpPart help).toList := by
    rw [patternPart_some, hEmpty]
    rfl
  rw [hPrinted]
  intro r hr
  have hOpen : (' ' :: '<' :: '>' :: (helpPart help).toList).dropWhile isBlank =
      '<' :: '>' :: (helpPart help).toList :=
    (List.dropWhile_cons_of_pos (by decide)).trans (List.dropWhile_cons_of_neg (by decide))
  simp only [DeclarationLine.readTail, takePattern, isBlank_space, if_true, hOpen] at hr
  cases hClose : closePattern [] ('>' :: (helpPart help).toList) with
  | none =>
      -- no pattern: the `<` is left where help should start
      simp only [hClose, Option.map_none] at hr
      simp [takeHelp, hOpen] at hr
  | some tr =>
      obtain ⟨t, rest⟩ := tr
      simp only [hClose, Option.map_some] at hr
      cases hHelp : takeHelp rest with
      | none => simp [hHelp] at hr
      | some help' =>
          obtain rfl : (some (String.ofList t), help') = r := by simpa [hHelp] using hr
          obtain ⟨d, hText, hd, hSplit, -, -⟩ := closePattern_eq_some hClose
          refine ⟨String.ofList t, rfl, ?_⟩
          rw [String.toList_ofList, hText, List.nil_append]
          cases d with
          | nil => exact absurd rfl hd
          | cons c d =>
              simp only [List.cons_append, List.cons.injEq] at hSplit
              rw [← hSplit.1]
              rfl

end OptionSpec

end OptionGrammar

------------------------------------------------------------
-- A Printed Line Loads Back
------------------------------------------------------------

namespace OptionGrammar

open Text

/- A compiled pattern keeps the text it was compiled from. -/
theorem ValuePattern.declared_of_compile
    {text : String}
    {v : ValuePattern}
    (h : ValuePattern.compile text = .ok v) :
    v.declared = text := by
  unfold ValuePattern.compile at h
  cases hExpr : Regex.compile (expandText text) with
  | error e => simp [hExpr, bind, Except.bind] at h
  | ok r =>
      cases hAnchored : Regex.compile (anchoredText text) with
      | error e => simp [hExpr, hAnchored, bind, Except.bind] at h
      | ok r' =>
          simp only [hExpr, hAnchored, bind, Except.bind, pure, Except.pure,
            Except.ok.injEq] at h
          rw [← h]

namespace DeclarationLine

/-
  What a line's parts make: the spellings, markers and help as
  read, and a pattern exactly when one was declared, compiled from
  its trimmed text.
-/
theorem toSpec_eq_ok
    {d : DeclarationLine}
    {n : Nat}
    {s : OptionSpec}
    (h : d.toSpec n = .ok s) :
    s = { spellings := d.first :: d.second.toList
          optional := d.optional
          group := { kind := d.kind.getD .ior, number := (d.number.getD 0).toUInt8 }
          unique := d.unique.getD true
          param := s.param
          help := (d.help.map trimBlank).getD "" } ∧
      (d.param = none → s.param = none) ∧
      ∀ text ∈ d.param, ∃ v, s.param = some v ∧ ValuePattern.compile (trimBlank text) = .ok v := by
  unfold toSpec at h
  cases hParam : d.param with
  | none =>
      simp only [hParam, pure, Except.pure, bind, Except.bind, Except.ok.injEq] at h
      subst h
      exact ⟨rfl, fun _ => rfl, by simp⟩
  | some text =>
      simp only [hParam] at h
      cases hCompile : ValuePattern.compile (trimBlank text) with
      | error e => simp [hCompile, bind, Except.bind, throw, throwThe, MonadExceptOf.throw] at h
      | ok v =>
          simp only [hCompile, pure, Except.pure, bind, Except.bind, Except.ok.injEq] at h
          subst h
          exact ⟨rfl, by simp, by simp [hCompile]⟩

end DeclarationLine

namespace OptionSpec

/- A line declares an option only through the parts read from it. -/
theorem ofLine_eq_ok_some
    {n : Nat}
    {raw : String}
    {s : OptionSpec}
    (h : ofLine n raw = .ok (some s)) :
    ∃ d, DeclarationLine.read? (trimBlankList (cutComment raw.toList)) = some d ∧
      d.toSpec n = .ok s := by
  unfold ofLine at h
  dsimp only at h
  split at h
  · cases h
  · split at h
    · cases h
    · rename_i d hRead
      refine ⟨d, hRead, ?_⟩
      cases hSpec : d.toSpec n with
      | error e => simp [hSpec, Except.map] at h
      | ok s' =>
          simp only [hSpec, Except.map, Except.ok.injEq, Option.some.injEq] at h
          rw [h]

/- The parts a printed line is read as, its tail aside. -/
def printedParts
    (s : OptionSpec)
    (first : String)
    (second : Option String)
    (param help : Option String) :
    DeclarationLine :=
  { optional := s.optional
    kind := some s.group.kind
    number := (digitPart s.group).toList.head?.map fun c => c.toNat - '0'.toNat
    unique := some s.unique
    first, second, param, help }

/-
  Reading a printed line gives its markers and spellings as
  printed, around whatever its tail reads as.
-/
theorem read?_toGrammarLine
    {s : OptionSpec}
    (h : LineShaped s)
    {first : String}
    {second : Option String}
    (hSpellings : s.spellings = first :: second.toList) :
    DeclarationLine.read? s.toGrammarLine.toList =
      (DeclarationLine.readTail ((patternPart s.param).toList ++ (helpPart s.help).toList)).map
        fun r => s.printedParts first second r.1 r.2 := by
  have hFirst := h.isSpelling first (by rw [hSpellings]; exact List.mem_cons_self)
  have hSecond : ∀ y ∈ second, IsSpelling y := fun y hy =>
    h.isSpelling y (by rw [hSpellings]; exact List.mem_cons_of_mem _ (by simpa using hy))
  have hLine := toGrammarLine_toList s
  rw [hSpellings, spellingPart_cons] at hLine
  simp only [List.cons_append, List.append_assoc] at hLine
  rw [hLine]
  -- the first spelling starts right after the blanks that end the markers
  simp only [DeclarationLine.read?, readMarkers_printed s h.number_le, hFirst.dropWhile_blank,
    readSpellings_printed hFirst hSecond, Option.bind_eq_bind, Option.bind_some]
  cases DeclarationLine.readTail ((patternPart s.param).toList ++ (helpPart s.help).toList) with
  | none => rfl
  | some r =>
      cases hUnique : s.unique <;>
        simp [printedParts, GroupKind.ofMarker?_marker, hUnique]

/- The printed group digit, or its absence, gives the group back. -/
theorem group_printedParts
    {g : Group}
    (hLe : g.number.toNat ≤ 9) :
    ({ kind := (some g.kind).getD .ior
       number := (((digitPart g).toList.head?.map fun c => c.toNat - '0'.toNat).getD 0).toUInt8 }
      : Group) = g := by
  cases hNumbered : g.isNumbered with
  | false =>
      have hZero : g.number = 0 := by simpa [Group.isNumbered] using hNumbered
      rw [digitPart_unnumbered hNumbered]
      have hNumber : (0 : Nat).toUInt8 = g.number := by
        rw [hZero]
        rfl
      show ({ kind := g.kind, number := (0 : Nat).toUInt8 } : Group) = g
      rw [hNumber]
  | true =>
      obtain ⟨d, hd, -, -, hValue⟩ := digitPart_numbered hNumbered hLe
      rw [hd]
      show ({ kind := g.kind, number := (d.toNat - '0'.toNat).toUInt8 } : Group) = g
      rw [hValue]

/- Printed help, read after its bar and trimmed, is the help. -/
theorem help_printedParts
    {help : String}
    (h : Trimmed help.toList) :
    ((if help = "" then none else some (String.ofList (' ' :: help.toList))).map
      trimBlank).getD "" = help := by
  by_cases hEmpty : help = ""
  · simp [hEmpty]
  · simp only [hEmpty, if_false, Option.map_some, Option.getD_some]
    unfold trimBlank
    rw [String.toList_ofList, trimBlankList_blank_cons _ isBlank_space,
      trimBlankList_of_trimmed h, String.ofList_toList]

/- The parts read from a printed line with no empty pattern make the declaration. -/
theorem toSpec_printedParts
    {s : OptionSpec}
    (h : LineShaped s)
    {first : String}
    {second : Option String}
    (hSpellings : s.spellings = first :: second.toList)
    (n : Nat) :
    (s.printedParts first second (s.param.map (·.declared))
        (if s.help = "" then none else some (String.ofList (' ' :: s.help.toList)))).toSpec n =
      .ok s := by
  have hGroup := group_printedParts h.number_le
  have hHelp := help_printedParts h.help.1
  unfold DeclarationLine.toSpec
  cases hParam : s.param with
  | none =>
      simp only [printedParts, Option.map_none, pure, Except.pure, bind, Except.bind]
      rw [hGroup, hHelp, ← hSpellings, ← hParam]
      rfl
  | some p =>
      obtain ⟨hCompile, hShape⟩ := h.param p hParam
      -- the declared text is trimmed already, so it compiles to the pattern itself
      have hTrim : trimBlank p.declared = p.declared := by
        unfold trimBlank
        rw [trimBlankList_of_trimmed hShape.trimmed, String.ofList_toList]
      simp only [printedParts, Option.map_some, hTrim, hCompile, pure, Except.pure,
        bind, Except.bind]
      rw [hGroup, hHelp, ← hSpellings, ← hParam]
      rfl

/- A line printed with no empty pattern loads as the declaration. -/
theorem ofLine_toGrammarLine
    {s : OptionSpec}
    (h : LineShaped s)
    (hFilled : ∀ p ∈ s.param, p.declared ≠ "")
    (n : Nat) :
    ofLine n s.toGrammarLine = .ok (some s) := by
  obtain ⟨first, second, hSpellings⟩ := h.spellings
  have hTail := readTail_printed s.param
    (fun q hq => ⟨hFilled q hq, (h.param q hq).2.closes⟩) s.help
  rw [ofLine_toGrammarLine_eq h n, read?_toGrammarLine h hSpellings, hTail]
  simp only [Option.map_some, Option.elim_some]
  rw [toSpec_printedParts h hSpellings n]
  rfl

/- A printed line always declares something, or fails. -/
theorem ofLine_toGrammarLine_ne_none
    {s : OptionSpec}
    (h : LineShaped s)
    (n : Nat) :
    ofLine n s.toGrammarLine ≠ .ok none := by
  rw [ofLine_toGrammarLine_eq h n]
  intro hNone
  cases hRead : DeclarationLine.read? s.toGrammarLine.toList with
  | none => simp [hRead] at hNone
  | some d =>
      simp only [hRead, Option.elim_some] at hNone
      cases hSpec : d.toSpec n with
      | error e => simp [hSpec, Except.map] at hNone
      | ok s' => simp [hSpec, Except.map] at hNone

/-
  A line printed with an empty pattern does not load as the
  declaration: what is read back has a pattern starting with `>`,
  or no reading at all.
-/
theorem ofLine_toGrammarLine_ne_of_empty
    {s : OptionSpec}
    (h : LineShaped s)
    {p : ValuePattern}
    (hp : p ∈ s.param)
    (hEmpty : p.declared = "")
    (n : Nat) :
    ofLine n s.toGrammarLine ≠ .ok (some s) := by
  intro hLoad
  obtain ⟨first, second, hSpellings⟩ := h.spellings
  have hParam : s.param = some p := hp
  obtain ⟨d, hRead, hSpec⟩ := ofLine_eq_ok_some hLoad
  rw [(uncommented_toGrammarLine h).2, trimBlankList_of_trimmed (trimmed_toGrammarLine h),
    read?_toGrammarLine h hSpellings, hParam] at hRead
  obtain ⟨r, hTail, rfl⟩ := Option.map_eq_some_iff.mp hRead
  obtain ⟨text, hText, hHead⟩ := readTail_emptyPattern hEmpty s.help r hTail
  -- the pattern read back compiles from a text starting with `>`
  obtain ⟨-, -, hCompiled⟩ := DeclarationLine.toSpec_eq_ok hSpec
  obtain ⟨v, hv, hCompile⟩ := hCompiled text (by simp [printedParts, hText])
  rw [hParam, Option.some.injEq] at hv
  have hDeclared := ValuePattern.declared_of_compile hCompile
  rw [← hv, hEmpty] at hDeclared
  have hSolid : trimBlankList text.toList ≠ [] :=
    trimBlankList_ne_nil (List.mem_of_mem_head? hHead) (by decide)
  exact hSolid (String.ofList_eq_empty_iff.mp hDeclared.symm)

/-
  A declaration of line shape loads back from its printed line
  exactly when it has no empty pattern.
-/
theorem ofLine_toGrammarLine_iff
    {s : OptionSpec}
    (h : LineShaped s)
    (n : Nat) :
    ofLine n s.toGrammarLine = .ok (some s) ↔ ∀ p ∈ s.param, p.declared ≠ "" := by
  constructor
  · intro hLoad p hp hEmpty
    exact ofLine_toGrammarLine_ne_of_empty h hp hEmpty n hLoad
  · intro hFilled
    exact ofLine_toGrammarLine h hFilled n

end OptionSpec

end OptionGrammar
