import OptionGrammar.Value.Read
import Mathlib

/-
  The texts the number readers accept.

  An integer text is an optional sign and one or more ASCII digits;
  its value is that of the digits, negated after a minus sign.  Such
  a text reads as an integer of a type exactly when its value lies in
  the range of the type and, for an unsigned type, it has no minus
  sign: a value above the range is too large, one below it too
  small, and a minus sign before an unsigned type is an invalid digit.

  A real text is an optional sign, a mantissa of digits with at most
  one point and at least one digit, and an optional exponent: `e` or
  `E`, an optional sign and one or more digits.  A text reads as a
  binary floating-point number, in every format, exactly when it is a
  real text or, after an optional sign, one of the words `inf`,
  `infinity` and `nan` in any case; no text is both.

  Main declarations:
    * `IntText`, `intValue`, `InRange`, `RealText`, `SpecialText`
    * `readMagnitude_digits`
    * `readInteger_signed_of_intText`, `readInteger_unsigned_of_intText`
    * `DecimalText.read?_isSome_iff`, `readExponent_isSome_iff`
    * `FloatFormat.read_ok_iff`, `RealText.not_specialText`
-/

------------------------------------------------------------
-- Texts of Numbers
------------------------------------------------------------

namespace OptionGrammar

/- Every character is an ASCII digit. -/
def DigitRun (ds : List Char) : Prop := ∀ d ∈ ds, d.isDigit = true

/- At most one sign. -/
def OptSign (s : List Char) : Prop := s = [] ∨ s = ['+'] ∨ s = ['-']

/- The text does not start with a digit. -/
def NoDigitHead (cs : List Char) : Prop := ∀ c ∈ cs.head?, c.isDigit = false

/- An optional sign and one or more digits. -/
def IntText (cs : List Char) : Prop :=
  ∃ s ds, cs = s ++ ds ∧ OptSign s ∧ ds ≠ [] ∧ DigitRun ds

/- Digits with at most one point, and at least one digit. -/
def MantissaText (cs : List Char) : Prop :=
  (cs ≠ [] ∧ DigitRun cs) ∨
    ∃ a b, cs = a ++ '.' :: b ∧ DigitRun a ∧ DigitRun b ∧ (a ≠ [] ∨ b ≠ [])

/- The letter `e` or `E`, an optional sign and one or more digits. -/
def ExponentText (cs : List Char) : Prop :=
  ∃ e s ds, cs = e :: (s ++ ds) ∧ (e = 'e' ∨ e = 'E') ∧ OptSign s ∧ ds ≠ [] ∧ DigitRun ds

/- A mantissa and an optional exponent. -/
def DecimalBody (cs : List Char) : Prop :=
  ∃ m x, cs = m ++ x ∧ MantissaText m ∧ (x = [] ∨ ExponentText x)

/- An optional sign and a decimal. -/
def RealText (cs : List Char) : Prop :=
  ∃ s body, cs = s ++ body ∧ OptSign s ∧ DecimalBody body

/- The words of infinity and NaN, in lower case. -/
def specialWords : List (List Char) := ["inf".toList, "infinity".toList, "nan".toList]

/- An optional sign and a word of infinity or NaN, in any case. -/
def SpecialText (cs : List Char) : Prop :=
  ∃ s w, cs = s ++ w ∧ OptSign s ∧ w.map Char.toLower ∈ specialWords

/- The text after one leading sign. -/
def dropSign : List Char → List Char
  | '+' :: cs => cs
  | '-' :: cs => cs
  | cs => cs

/- The value of digits read onto `acc`. -/
def decimalValue (acc : Nat) (ds : List Char) : Nat :=
  ds.foldl (fun n d => n * 10 + (d.toNat - '0'.toNat)) acc

/- The value of an integer text: its digits, negated after a minus sign. -/
def intValue (cs : List Char) : Int :=
  if cs.head? = some '-' then -(decimalValue 0 (dropSign cs) : Int)
  else decimalValue 0 (dropSign cs)

/- A value in the range of an integer type. -/
def InRange (signed : Bool) (bits : Nat) (n : Int) : Prop :=
  (intRange signed bits).1 ≤ n ∧ n ≤ (intRange signed bits).2

instance (signed : Bool) (bits : Nat) (n : Int) : Decidable (InRange signed bits n) :=
  inferInstanceAs (Decidable (_ ∧ _))

------------------------------------------------------------
-- Characters and Signs
------------------------------------------------------------

theorem isDigit_iff_toNat
    {c : Char} :
    c.isDigit = true ↔ 48 ≤ c.toNat ∧ c.toNat ≤ 57 := by
  simp [Char.isDigit, UInt32.le_iff_toNat_le]

theorem digitValue?_eq
    (c : Char) :
    digitValue? c = if c.isDigit then some (c.toNat - '0'.toNat) else none :=
  rfl

theorem ne_sign_of_isDigit
    {c : Char}
    (h : c.isDigit = true) :
    c ≠ '+' ∧ c ≠ '-' := by
  constructor <;> rintro rfl <;> simp at h

/- Lower case leaves digits alone. -/
theorem toLower_of_isDigit
    {c : Char}
    (h : c.isDigit = true) :
    c.toLower = c := by
  rw [isDigit_iff_toNat] at h
  have hUpperA : 'A'.toNat = 65 := rfl
  unfold Char.toLower
  rw [dif_neg]
  simp only [ge_iff_le, UInt32.le_iff_toNat_le, Char.toNat_val, not_and, not_le]
  omega

theorem dropSign_cons_of_ne
    {c : Char}
    {cs : List Char}
    (hPlus : c ≠ '+')
    (hMinus : c ≠ '-') :
    dropSign (c :: cs) = c :: cs := by
  unfold dropSign
  split <;> simp_all

/- The sign the float reader takes off is the one `dropSign` drops. -/
theorem dropSign_cons
    (c : Char)
    (cs : List Char) :
    dropSign (c :: cs) = if (c == '-' || c == '+') = true then cs else c :: cs := by
  by_cases hPlus : c = '+'
  · subst hPlus
    rfl
  · by_cases hMinus : c = '-'
    · subst hMinus
      rfl
    · rw [dropSign_cons_of_ne hPlus hMinus, if_neg (by simp [hPlus, hMinus])]

/-
  A text that is an optional sign and a part that starts with no
  sign has that part after its sign, and only that one.
-/
theorem exists_sign_append_iff
    {P : List Char → Prop}
    (hP : ∀ body, P body → ∀ c ∈ body.head?, c ≠ '+' ∧ c ≠ '-')
    (cs : List Char) :
    (∃ s body, cs = s ++ body ∧ OptSign s ∧ P body) ↔ P (dropSign cs) := by
  constructor
  · rintro ⟨s, body, rfl, hSign, hBody⟩
    rcases hSign with rfl | rfl | rfl
    · cases body with
      | nil => exact hBody
      | cons c rest =>
          obtain ⟨hPlus, hMinus⟩ := hP _ hBody c rfl
          rwa [List.nil_append, dropSign_cons_of_ne hPlus hMinus]
    · exact hBody
    · exact hBody
  · intro h
    cases cs with
    | nil => exact ⟨[], [], rfl, .inl rfl, h⟩
    | cons c rest =>
        by_cases hPlus : c = '+'
        · subst hPlus
          exact ⟨['+'], rest, rfl, .inr (.inl rfl), h⟩
        · by_cases hMinus : c = '-'
          · subst hMinus
            exact ⟨['-'], rest, rfl, .inr (.inr rfl), h⟩
          · rw [dropSign_cons_of_ne hPlus hMinus] at h
            exact ⟨[], c :: rest, rfl, .inl rfl, h⟩

------------------------------------------------------------
-- Runs of Digits
------------------------------------------------------------

theorem digitRun_nil : DigitRun [] :=
  List.forall_mem_nil _

theorem digitRun_cons
    {d : Char}
    {ds : List Char} :
    DigitRun (d :: ds) ↔ d.isDigit = true ∧ DigitRun ds :=
  List.forall_mem_cons

theorem digitRun_append
    {ds es : List Char} :
    DigitRun (ds ++ es) ↔ DigitRun ds ∧ DigitRun es :=
  List.forall_mem_append

/- Every text is a run of digits followed by a part that starts with none. -/
theorem exists_digitRun_append
    (cs : List Char) :
    ∃ ds rest, cs = ds ++ rest ∧ DigitRun ds ∧ NoDigitHead rest := by
  refine ⟨cs.takeWhile Char.isDigit, cs.dropWhile Char.isDigit,
    List.takeWhile_append_dropWhile.symm, fun _ h => List.mem_takeWhile_imp h, ?_⟩
  intro c hc
  have hHead := List.head?_dropWhile_not Char.isDigit cs
  rw [Option.mem_def.mp hc] at hHead
  exact hHead

/- A run of digits can only be followed by more digits when it ends the text. -/
theorem eq_nil_of_digitRun_append
    {ds rest : List Char}
    (hRest : NoDigitHead rest)
    (h : DigitRun (ds ++ rest)) :
    rest = [] := by
  cases rest with
  | nil => rfl
  | cons c rest =>
      have hDigit := (digitRun_append.mp h).2 c List.mem_cons_self
      rw [hRest c rfl] at hDigit
      contradiction

theorem decimalValue_cons
    (acc : Nat)
    (d : Char)
    (ds : List Char) :
    decimalValue acc (d :: ds) = decimalValue (acc * 10 + (d.toNat - '0'.toNat)) ds := by
  simp only [decimalValue, List.foldl_cons]

theorem le_decimalValue
    (acc : Nat)
    (ds : List Char) :
    acc ≤ decimalValue acc ds := by
  induction ds generalizing acc with
  | nil => exact le_rfl
  | cons d ds ih =>
      rw [decimalValue_cons]
      exact le_trans (by omega) (ih _)

------------------------------------------------------------
-- Reading Integers
------------------------------------------------------------

/-
  Digits are read within a limit exactly when their value is within
  it: the values of the leading digits only grow, so the first one
  past the limit is found exactly when the whole value is past it.
-/
theorem readMagnitude_digits
    (limit : Nat)
    (overflow : ConversionFailure)
    {ds : List Char}
    (hDigits : DigitRun ds) :
    ∀ acc, acc ≤ limit →
      readMagnitude limit overflow acc ds =
        if decimalValue acc ds ≤ limit then .ok (decimalValue acc ds) else .error overflow := by
  induction ds with
  | nil =>
      intro acc hAcc
      simp [readMagnitude, decimalValue, hAcc]
  | cons d ds ih =>
      intro acc hAcc
      obtain ⟨hd, hds⟩ := digitRun_cons.mp hDigits
      rw [readMagnitude, digitValue?_eq, if_pos hd, decimalValue_cons]
      dsimp only
      by_cases hNext : acc * 10 + (d.toNat - '0'.toNat) > limit
      · have hLe := le_decimalValue (acc * 10 + (d.toNat - '0'.toNat)) ds
        rw [if_pos hNext, if_neg (by omega)]
      · rw [if_neg hNext]
        exact ih hds _ (by omega)

/- An integer text splits into its sign and a first digit with the others. -/
theorem IntText.exists_cons
    {cs : List Char}
    (h : IntText cs) :
    ∃ s d ds, cs = s ++ d :: ds ∧ OptSign s ∧ DigitRun (d :: ds) := by
  obtain ⟨s, ds, rfl, hSign, hNonEmpty, hDigits⟩ := h
  obtain ⟨d, ds, rfl⟩ := List.exists_cons_of_ne_nil hNonEmpty
  exact ⟨s, d, ds, rfl, hSign, hDigits⟩

section ReadInteger

variable {signed : Bool} {bits : Nat} {s : String} {d : Char} {ds : List Char}

theorem readInteger_of_digit
    (hs : s.toList = d :: ds)
    (hDigits : DigitRun (d :: ds)) :
    readInteger signed bits s =
      if decimalValue 0 (d :: ds) ≤ (intRange signed bits).2.toNat then
        .ok (decimalValue 0 (d :: ds) : Int)
      else .error .tooLarge := by
  obtain ⟨hPlus, hMinus⟩ := ne_sign_of_isDigit (digitRun_cons.mp hDigits).1
  have hRead : readInteger signed bits s =
      (readMagnitude (intRange signed bits).2.toNat .tooLarge 0 (d :: ds)).map Int.ofNat := by
    simp [readInteger, hs, hPlus, hMinus]
  rw [hRead, readMagnitude_digits _ _ hDigits 0 (Nat.zero_le _)]
  split <;> rfl

theorem readInteger_of_plus
    (hs : s.toList = '+' :: d :: ds)
    (hDigits : DigitRun (d :: ds)) :
    readInteger signed bits s =
      if decimalValue 0 (d :: ds) ≤ (intRange signed bits).2.toNat then
        .ok (decimalValue 0 (d :: ds) : Int)
      else .error .tooLarge := by
  simp only [readInteger, hs]
  rw [readMagnitude_digits _ _ hDigits 0 (Nat.zero_le _)]
  split <;> rfl

/- After a minus sign an unsigned type reads the sign as a digit, and fails on it. -/
theorem readInteger_of_minus
    (hs : s.toList = '-' :: d :: ds)
    (hDigits : DigitRun (d :: ds)) :
    readInteger signed bits s =
      if signed then
        if decimalValue 0 (d :: ds) ≤ (intRange signed bits).1.natAbs then
          .ok (-(decimalValue 0 (d :: ds) : Int))
        else .error .tooSmall
      else .error .invalidDigit := by
  cases signed
  · simp [readInteger, hs, readMagnitude, digitValue?]
    rfl
  · simp only [readInteger, hs, if_true]
    rw [readMagnitude_digits _ _ hDigits 0 (Nat.zero_le _)]
    split <;> rfl

end ReadInteger

theorem intValue_of_digit
    {d : Char}
    {ds : List Char}
    (hd : d.isDigit = true) :
    intValue (d :: ds) = decimalValue 0 (d :: ds) := by
  obtain ⟨hPlus, hMinus⟩ := ne_sign_of_isDigit hd
  simp [intValue, hMinus, dropSign_cons_of_ne hPlus hMinus]

theorem intValue_plus
    (ds : List Char) :
    intValue ('+' :: ds) = decimalValue 0 ds := by
  simp [intValue, dropSign]

theorem intValue_minus
    (ds : List Char) :
    intValue ('-' :: ds) = -(decimalValue 0 ds : Int) := by
  simp [intValue, dropSign]

theorem intRange_signed_hi_toNat
    (bits : Nat) :
    (intRange true bits).2.toNat = Nat.pow 2 (bits - 1) - 1 :=
  rfl

theorem intRange_signed_lo_natAbs
    (bits : Nat) :
    (intRange true bits).1.natAbs = Nat.pow 2 (bits - 1) := by
  simp [intRange]

theorem intRange_unsigned_hi_toNat
    (bits : Nat) :
    (intRange false bits).2.toNat = Nat.pow 2 bits - 1 :=
  rfl

theorem inRange_signed_natCast
    {bits n : Nat} :
    InRange true bits n ↔ n ≤ Nat.pow 2 (bits - 1) - 1 := by
  simp only [InRange, intRange, if_true]
  omega

theorem inRange_signed_neg
    {bits n : Nat} :
    InRange true bits (-(n : Int)) ↔ n ≤ Nat.pow 2 (bits - 1) := by
  simp only [InRange, intRange, if_true]
  omega

theorem inRange_unsigned_natCast
    {bits n : Nat} :
    InRange false bits n ↔ n ≤ Nat.pow 2 bits - 1 := by
  simp only [InRange, intRange, Bool.false_eq_true, if_false]
  omega

/-
  The reading of unsigned digits against the greatest value of a
  type, told by the range: a value past it is too large, and never
  too small.
-/
theorem signed_digits_result
    (bits n : Nat) :
    (if n ≤ (intRange true bits).2.toNat then .ok (n : Int) else .error .tooLarge :
        Except ConversionFailure Int) =
      if InRange true bits n then .ok n
      else .error (if (n : Int) < 0 then .tooSmall else .tooLarge) := by
  rw [intRange_signed_hi_toNat]
  by_cases hFits : n ≤ Nat.pow 2 (bits - 1) - 1
  · rw [if_pos hFits, if_pos (inRange_signed_natCast.mpr hFits)]
  · rw [if_neg hFits, if_neg (mt inRange_signed_natCast.mp hFits), if_neg (by omega)]

theorem unsigned_digits_result
    (bits n : Nat) :
    (if n ≤ (intRange false bits).2.toNat then .ok (n : Int) else .error .tooLarge :
        Except ConversionFailure Int) =
      if InRange false bits n then .ok n else .error .tooLarge := by
  rw [intRange_unsigned_hi_toNat]
  by_cases hFits : n ≤ Nat.pow 2 bits - 1
  · rw [if_pos hFits, if_pos (inRange_unsigned_natCast.mpr hFits)]
  · rw [if_neg hFits, if_neg (mt inRange_unsigned_natCast.mp hFits)]

/-
  A signed type reads an integer text as its value when the value is
  in range; otherwise the text is too small when negative and too
  large when not.
-/
theorem readInteger_signed_of_intText
    (bits : Nat)
    {s : String}
    (hs : IntText s.toList) :
    readInteger true bits s =
      if InRange true bits (intValue s.toList) then .ok (intValue s.toList)
      else .error (if intValue s.toList < 0 then .tooSmall else .tooLarge) := by
  obtain ⟨sign, d, ds, hList, hSign, hDigits⟩ := hs.exists_cons
  rcases hSign with rfl | rfl | rfl
  · -- no sign: the digits are read as they stand
    rw [List.nil_append] at hList
    rw [readInteger_of_digit hList hDigits, hList, intValue_of_digit (digitRun_cons.mp hDigits).1]
    exact signed_digits_result bits _
  · -- a plus sign
    rw [readInteger_of_plus hList hDigits, hList, List.singleton_append, intValue_plus]
    exact signed_digits_result bits _
  · -- a minus sign: the magnitude is bounded by that of the least value
    have hHalf : 0 < Nat.pow 2 (bits - 1) := Nat.pow_pos (by decide)
    rw [readInteger_of_minus hList hDigits, if_pos rfl, intRange_signed_lo_natAbs, hList,
      List.singleton_append, intValue_minus]
    by_cases hFits : decimalValue 0 (d :: ds) ≤ Nat.pow 2 (bits - 1)
    · rw [if_pos hFits, if_pos (inRange_signed_neg.mpr hFits)]
    · rw [if_neg hFits, if_neg (mt inRange_signed_neg.mp hFits), if_pos (by omega)]

/-
  An unsigned type reads an integer text as its value when it has
  no minus sign and the value is in range; a minus sign is an
  invalid digit, and a value past the range too large.
-/
theorem readInteger_unsigned_of_intText
    (bits : Nat)
    {s : String}
    (hs : IntText s.toList) :
    readInteger false bits s =
      if s.toList.head? = some '-' then .error .invalidDigit
      else if InRange false bits (intValue s.toList) then .ok (intValue s.toList)
      else .error .tooLarge := by
  obtain ⟨sign, d, ds, hList, hSign, hDigits⟩ := hs.exists_cons
  rcases hSign with rfl | rfl | rfl
  · -- no sign
    have hd := (digitRun_cons.mp hDigits).1
    rw [List.nil_append] at hList
    rw [readInteger_of_digit hList hDigits, hList, intValue_of_digit hd,
      if_neg (show ¬(d :: ds).head? = some '-' by simpa using (ne_sign_of_isDigit hd).2)]
    exact unsigned_digits_result bits _
  · -- a plus sign
    rw [readInteger_of_plus hList hDigits, hList, List.singleton_append, intValue_plus,
      if_neg (show ¬('+' :: d :: ds).head? = some '-' by simp)]
    exact unsigned_digits_result bits _
  · -- a minus sign
    rw [readInteger_of_minus hList hDigits, hList]
    rfl

------------------------------------------------------------
-- Reading Decimals
------------------------------------------------------------

theorem takeDigits_append
    {ds rest : List Char}
    (hDigits : DigitRun ds)
    (hRest : NoDigitHead rest) :
    ∀ acc count, takeDigits acc count (ds ++ rest) = (decimalValue acc ds, count + ds.length, rest) := by
  induction ds with
  | nil =>
      intro acc count
      cases rest with
      | nil => rfl
      | cons c rest => simp [takeDigits, digitValue?_eq, hRest c rfl, decimalValue]
  | cons d ds ih =>
      intro acc count
      obtain ⟨hd, hds⟩ := digitRun_cons.mp hDigits
      simp only [List.cons_append, takeDigits, digitValue?_eq, hd, if_true]
      rw [ih hds, decimalValue_cons, List.length_cons, Nat.add_assoc, Nat.add_comm 1]

theorem takeExponentDigits_append
    {ds rest : List Char}
    (hDigits : DigitRun ds)
    (hRest : NoDigitHead rest) :
    ∀ acc count, (takeExponentDigits acc count (ds ++ rest)).2 = (count + ds.length, rest) := by
  induction ds with
  | nil =>
      intro acc count
      cases rest with
      | nil => rfl
      | cons c rest => simp [takeExponentDigits, digitValue?_eq, hRest c rfl]
  | cons d ds ih =>
      intro acc count
      obtain ⟨hd, hds⟩ := digitRun_cons.mp hDigits
      simp only [List.cons_append, takeExponentDigits, digitValue?_eq, hd, if_true]
      rw [ih hds, List.length_cons, Nat.add_assoc, Nat.add_comm 1]

/- A run of one or more digits, and nothing else. -/
theorem digits_iff_of_append
    {ds rest : List Char}
    (hDigits : DigitRun ds)
    (hRest : NoDigitHead rest) :
    (ds ≠ [] ∧ rest = []) ↔ (ds ++ rest ≠ [] ∧ DigitRun (ds ++ rest)) := by
  constructor
  · rintro ⟨hNonEmpty, rfl⟩
    rw [List.append_nil]
    exact ⟨hNonEmpty, hDigits⟩
  · rintro ⟨hNonEmpty, hAll⟩
    obtain rfl := eq_nil_of_digitRun_append hRest hAll
    rw [List.append_nil] at hNonEmpty
    exact ⟨hNonEmpty, rfl⟩

theorem readExponent_isSome_iff_dropSign
    (cs : List Char) :
    (readExponent cs).isSome ↔ dropSign cs ≠ [] ∧ DigitRun (dropSign cs) := by
  obtain ⟨ds, rest, hSplit, hDigits, hRest⟩ := exists_digitRun_append (dropSign cs)
  have hCount := takeExponentDigits_append hDigits hRest 0 0
  rw [← hSplit] at hCount
  obtain ⟨e, hTake⟩ : ∃ e, takeExponentDigits 0 0 (dropSign cs) = (e, ds.length, rest) :=
    ⟨_, Prod.ext rfl (by simpa using hCount)⟩
  -- the reader takes the sign off as `dropSign` does, in each of its three cases
  have hSome : (readExponent cs).isSome ↔ ds ≠ [] ∧ rest = [] := by
    rcases cs with _ | ⟨c, cs⟩
    · simp only [dropSign] at hTake
      simp [readExponent, hTake, Option.isSome_ite']
    · by_cases hMinus : c = '-'
      · subst hMinus
        simp only [dropSign] at hTake
        simp [readExponent, hTake, Option.isSome_ite']
      · by_cases hPlus : c = '+'
        · subst hPlus
          simp only [dropSign] at hTake
          simp [readExponent, hTake, Option.isSome_ite']
        · rw [dropSign_cons_of_ne hPlus hMinus] at hTake
          simp [readExponent, hTake, hMinus, hPlus, Option.isSome_ite']
  rw [hSome, hSplit]
  exact digits_iff_of_append hDigits hRest

/- An exponent after its letter is an optional sign and one or more digits. -/
theorem readExponent_isSome_iff
    (cs : List Char) :
    (readExponent cs).isSome ↔ ∃ s ds, cs = s ++ ds ∧ OptSign s ∧ ds ≠ [] ∧ DigitRun ds := by
  rw [readExponent_isSome_iff_dropSign, exists_sign_append_iff (P := fun ds => ds ≠ [] ∧ DigitRun ds)]
  rintro ds ⟨-, hDigits⟩ c hc
  cases ds with
  | nil => cases hc
  | cons d ds =>
      cases hc
      exact ne_sign_of_isDigit (digitRun_cons.mp hDigits).1

/- A reading behind a guard succeeds when the guard lets it through and it succeeds. -/
theorem isSome_ite_none_left
    {α : Type}
    {p : Prop}
    [Decidable p]
    {y : Option α} :
    (if p then none else y).isSome ↔ ¬p ∧ y.isSome := by
  by_cases hp : p <;> simp [hp]

theorem isSome_ite_none_right
    {α : Type}
    {p : Prop}
    [Decidable p]
    {y : Option α} :
    (if p then y else none).isSome ↔ p ∧ y.isSome := by
  by_cases hp : p <;> simp [hp]

/- An exponent is its letter and what the exponent reader takes after it. -/
theorem exponentText_cons_iff
    {c : Char}
    {after : List Char} :
    ExponentText (c :: after) ↔ (c = 'e' ∨ c = 'E') ∧ (readExponent after).isSome := by
  rw [readExponent_isSome_iff]
  constructor
  · rintro ⟨e, s, ds, hEq, hLetter, hs, hNe, hds⟩
    obtain ⟨rfl, rfl⟩ := List.cons.inj hEq
    exact ⟨hLetter, s, ds, rfl, hs, hNe, hds⟩
  · rintro ⟨hLetter, s, ds, rfl, hs, hNe, hds⟩
    exact ⟨c, s, ds, rfl, hLetter, hs, hNe, hds⟩

/- What may follow a mantissa starts with neither a digit nor a point. -/
theorem noDigitHead_of_tail
    {x : List Char}
    (h : x = [] ∨ ExponentText x) :
    NoDigitHead x ∧ x.head? ≠ some '.' := by
  rcases h with rfl | ⟨e, s, ds, rfl, hLetter, -⟩
  · refine ⟨fun c hc => ?_, by simp⟩
    cases hc
  · refine ⟨fun c hc => ?_, ?_⟩
    · cases hc
      rcases hLetter with rfl | rfl <;> rfl
    · rcases hLetter with rfl | rfl <;> simp

/- A mantissa without a point: the reader takes its digits and then the tail. -/
theorem read?_digits_append
    {a x : List Char}
    (ha : DigitRun a)
    (hx : NoDigitHead x)
    (hPoint : x.head? ≠ some '.') :
    (DecimalText.read? (a ++ x)).isSome ↔ a ≠ [] ∧ (x = [] ∨ ExponentText x) := by
  have hTake := takeDigits_append ha hx 0 0
  unfold DecimalText.read?
  rw [hTake]
  cases x with
  | nil => simp
  | cons c after =>
      have hc : c ≠ '.' := fun h => hPoint (by simp [h])
      simp [hc, isSome_ite_none_left, isSome_ite_none_right, exponentText_cons_iff]

/- A mantissa with a point: the reader takes the digits on both sides and then the tail. -/
theorem read?_point_append
    {a b x : List Char}
    (ha : DigitRun a)
    (hb : DigitRun b)
    (hx : NoDigitHead x) :
    (DecimalText.read? (a ++ '.' :: (b ++ x))).isSome ↔
      (a ≠ [] ∨ b ≠ []) ∧ (x = [] ∨ ExponentText x) := by
  have hPointHead : NoDigitHead ('.' :: (b ++ x)) := fun c hc => by
    cases hc
    rfl
  have hFirst := takeDigits_append ha hPointHead 0 0
  have hSecond := takeDigits_append hb hx (decimalValue 0 a) 0
  unfold DecimalText.read?
  rw [hFirst]
  simp only [hSecond]
  cases x with
  | nil => simp [Decidable.or_iff_not_imp_left]
  | cons c after =>
      simp [isSome_ite_none_left, isSome_ite_none_right, exponentText_cons_iff,
        Decidable.or_iff_not_imp_left]

/- The decimal reader accepts exactly a mantissa with an optional exponent. -/
theorem DecimalText.read?_isSome_iff
    (cs : List Char) :
    (DecimalText.read? cs).isSome ↔ DecimalBody cs := by
  constructor
  · -- split the text where the reader does: after its leading digits, and after a point
    intro hSome
    obtain ⟨a, r, rfl, ha, hr⟩ := exists_digitRun_append cs
    by_cases hPoint : r.head? = some '.'
    · obtain ⟨after, rfl⟩ : ∃ after, r = '.' :: after := by
        cases r with
        | nil => cases hPoint
        | cons c after =>
            cases hPoint
            exact ⟨after, rfl⟩
      obtain ⟨b, x, rfl, hb, hx⟩ := exists_digitRun_append after
      obtain ⟨hMantissa, hTail⟩ := (read?_point_append ha hb hx).mp hSome
      exact ⟨a ++ '.' :: b, x, by simp, .inr ⟨a, b, rfl, ha, hb, hMantissa⟩, hTail⟩
    · obtain ⟨hNonEmpty, hTail⟩ := (read?_digits_append ha hr hPoint).mp hSome
      exact ⟨a, r, rfl, .inl ⟨hNonEmpty, ha⟩, hTail⟩
  · -- read the text along its own mantissa and tail
    rintro ⟨m, x, rfl, hMantissa, hTail⟩
    obtain ⟨hx, hPoint⟩ := noDigitHead_of_tail hTail
    rcases hMantissa with ⟨hNonEmpty, hm⟩ | ⟨a, b, rfl, ha, hb, hSome⟩
    · exact (read?_digits_append hm hx hPoint).mpr ⟨hNonEmpty, hTail⟩
    · rw [List.append_assoc, List.cons_append]
      exact (read?_point_append ha hb hx).mpr ⟨hSome, hTail⟩

------------------------------------------------------------
-- Reading Floating-Point Numbers
------------------------------------------------------------

theorem specialWord?_isSome_iff
    (w : List Char) :
    (specialWord? w).isSome ↔ w.map Char.toLower ∈ specialWords := by
  unfold specialWord?
  generalize hLower : String.ofList (w.map Char.toLower) = t
  have hList : w.map Char.toLower = t.toList := by
    rw [← hLower, String.toList_ofList]
  rw [hList]
  simp only [specialWords, List.mem_cons, String.toList_inj, List.not_mem_nil, or_false]
  split <;> simp_all

/-
  A text reads as a floating-point number, in any format, exactly
  when what follows its sign is a decimal or a special word.
-/
theorem FloatFormat.read_ok_iff
    (f : FloatFormat)
    (s : String) :
    (∃ b, f.read s = .ok b) ↔
      (DecimalText.read? (dropSign s.toList)).isSome ∨ (specialWord? (dropSign s.toList)).isSome := by
  have hNone : DecimalText.read? [] = none ∧ specialWord? [] = none := ⟨rfl, rfl⟩
  unfold FloatFormat.read
  cases hs : s.toList with
  | nil => simp [dropSign, hNone]
  | cons c rest =>
      simp only [dropSign_cons]
      generalize (if (c == '-' || c == '+') = true then rest else c :: rest) = body
      by_cases hEmpty : body = []
      · subst hEmpty
        simp [hNone]
      · rw [if_neg (by simpa using hEmpty)]
        cases hRead : DecimalText.read? body with
        | some d => simp
        | none =>
            cases hSpecial : specialWord? body with
            | none => simp
            | some isInfinity => cases isInfinity <;> simp

------------------------------------------------------------
-- Decimals and Special Words
------------------------------------------------------------

/- A decimal starts with a digit or a point. -/
theorem DecimalBody.exists_cons
    {cs : List Char}
    (h : DecimalBody cs) :
    ∃ c rest, cs = c :: rest ∧ (c.isDigit = true ∨ c = '.') := by
  obtain ⟨m, x, rfl, hMantissa, -⟩ := h
  rcases hMantissa with ⟨hNonEmpty, hDigits⟩ | ⟨a, b, rfl, ha, -, -⟩
  · obtain ⟨c, m, rfl⟩ := List.exists_cons_of_ne_nil hNonEmpty
    exact ⟨c, m ++ x, rfl, .inl (digitRun_cons.mp hDigits).1⟩
  · cases a with
    | nil => exact ⟨'.', b ++ x, rfl, .inr rfl⟩
    | cons c a => exact ⟨c, a ++ '.' :: b ++ x, by simp, .inl (digitRun_cons.mp ha).1⟩

/- A special word starts with a letter that lowers to `i` or `n`. -/
theorem exists_cons_of_special
    {w : List Char}
    (h : w.map Char.toLower ∈ specialWords) :
    ∃ c rest, w = c :: rest ∧ (c.toLower = 'i' ∨ c.toLower = 'n') := by
  cases w with
  | nil => simp [specialWords] at h
  | cons c rest =>
      refine ⟨c, rest, rfl, ?_⟩
      simp only [specialWords, List.map_cons, List.mem_cons, List.not_mem_nil, or_false] at h
      rcases h with h | h | h <;> simp_all

theorem realText_iff_dropSign
    (cs : List Char) :
    RealText cs ↔ DecimalBody (dropSign cs) := by
  refine exists_sign_append_iff (fun body hBody c hc => ?_) cs
  obtain ⟨d, rest, rfl, hHead⟩ := hBody.exists_cons
  cases hc
  rcases hHead with hDigit | rfl
  · exact ne_sign_of_isDigit hDigit
  · decide

theorem specialText_iff_dropSign
    (cs : List Char) :
    SpecialText cs ↔ (specialWord? (dropSign cs)).isSome := by
  rw [specialWord?_isSome_iff]
  refine exists_sign_append_iff (fun w hw c hc => ?_) cs
  obtain ⟨d, rest, rfl, hLower⟩ := exists_cons_of_special hw
  cases hc
  constructor <;> rintro rfl <;> revert hLower <;> decide

/- No decimal is a special word: their first characters differ. -/
theorem DecimalBody.not_special
    {w : List Char}
    (h : DecimalBody w) :
    w.map Char.toLower ∉ specialWords := by
  intro hSpecial
  obtain ⟨c, rest, rfl, hHead⟩ := h.exists_cons
  obtain ⟨d, rest', hEq, hLower⟩ := exists_cons_of_special hSpecial
  obtain ⟨rfl, -⟩ := List.cons.inj hEq
  rcases hHead with hDigit | rfl
  · rw [toLower_of_isDigit hDigit] at hLower
    rcases hLower with rfl | rfl <;> simp at hDigit
  · revert hLower
    decide

/-
  A text reads as a floating-point number exactly when it is a real
  text or a special word after an optional sign.
-/
theorem FloatFormat.read_ok_iff_text
    (f : FloatFormat)
    (s : String) :
    (∃ b, f.read s = .ok b) ↔ RealText s.toList ∨ SpecialText s.toList := by
  rw [FloatFormat.read_ok_iff, DecimalText.read?_isSome_iff, realText_iff_dropSign,
    specialText_iff_dropSign]

theorem RealText.not_specialText
    {cs : List Char}
    (h : RealText cs) :
    ¬SpecialText cs := by
  rw [realText_iff_dropSign] at h
  rw [specialText_iff_dropSign, specialWord?_isSome_iff]
  exact h.not_special

/- An integer text is a real text without point or exponent. -/
theorem IntText.realText
    {cs : List Char}
    (h : IntText cs) :
    RealText cs := by
  obtain ⟨s, ds, rfl, hSign, hNonEmpty, hDigits⟩ := h
  exact ⟨s, ds, rfl, hSign, ds, [], (List.append_nil ds).symm, .inl ⟨hNonEmpty, hDigits⟩, .inl rfl⟩

end OptionGrammar
