import OptionGrammar.Proofs.NumberTexts
import OptionGrammar.Access

/-
  The named value forms agree with the number readers.

  The forms `int`, `real` and `float` stand for two regular
  expressions, anchored at both ends, that values must match.  Which
  texts an expression matches is the business of the regular
  expression engine, and the syntax of the engine documents the
  language of the integer form as the integer texts and that of the
  real form as the real texts.  Taking any engine with those two
  languages, a value satisfies `int` exactly when it is an integer
  text, and the first value of an option read as an integer type is
  then its value or the failure the range of the type gives; a value
  satisfies `real` or `float` exactly when it reads as a
  floating-point number and spells no infinity or NaN; and every
  value that any of the three forms admits reads as a number of
  either precision.

  Main declarations:
    * `OptionParser.FirstValue`, `OptionParser.get_of_firstValue`
    * `OptionParser.get_signed_of_intText`, `OptionParser.get_unsigned_of_intText`
    * `OptionParser.get_float_of_realText`
    * `anchoredText_of_real_form`, `realText_of_number_form`
    * `named_forms_agree_with_readers`
-/

namespace OptionGrammar

------------------------------------------------------------
-- Reading the First Value
------------------------------------------------------------

namespace OptionParser

/- The option a key names was given, and `v` is its first value. -/
def FirstValue (p : OptionParser) (key v : String) : Prop :=
  ∃ id rest, p.table.lookup key = some id ∧ p.captured.valuesOf id = v :: rest

/- Reading an option's value converts its first value. -/
theorem get_of_firstValue
    {p : OptionParser}
    {key v : String}
    (h : p.FirstValue key v)
    (t : ValueType) :
    p.get key t = convert key t v := by
  obtain ⟨id, rest, hLookup, hValues⟩ := h
  simp [get, resolve, hLookup, hValues, bind, Except.bind]

theorem convert_of_read_ok
    {key v : String}
    {t : ValueType}
    {x : Value}
    (h : t.read v = .ok x) :
    convert key t v = .ok x := by
  simp [convert, h]

theorem convert_of_read_error
    {key v : String}
    {t : ValueType}
    {r : ConversionFailure}
    (h : t.read v = .error r) :
    convert key t v = .error (.conversion key v t r) := by
  simp [convert, h]

/-
  The first value of an option that is an integer text reads as a
  signed integer type as its value, or fails as too small or too
  large for the type.
-/
theorem get_signed_of_intText
    {p : OptionParser}
    {key v : String}
    (hFirst : p.FirstValue key v)
    (hv : IntText v.toList)
    (w : IntWidth) :
    p.get key (.signed w) =
      if InRange true w.bits (intValue v.toList) then .ok (.int (intValue v.toList))
      else .error (.conversion key v (.signed w)
        (if intValue v.toList < 0 then .tooSmall else .tooLarge)) := by
  have hRead : ValueType.read (.signed w) v = (readInteger true w.bits v).map .int := rfl
  rw [get_of_firstValue hFirst]
  by_cases hFits : InRange true w.bits (intValue v.toList)
  · rw [if_pos hFits]
    exact convert_of_read_ok (by rw [hRead, readInteger_signed_of_intText _ hv, if_pos hFits]; rfl)
  · rw [if_neg hFits]
    exact convert_of_read_error (by rw [hRead, readInteger_signed_of_intText _ hv, if_neg hFits]; rfl)

/-
  As an unsigned integer type, it reads as its value unless it has a
  minus sign, an invalid digit there, or its value is too large.
-/
theorem get_unsigned_of_intText
    {p : OptionParser}
    {key v : String}
    (hFirst : p.FirstValue key v)
    (hv : IntText v.toList)
    (w : IntWidth) :
    p.get key (.unsigned w) =
      if v.toList.head? ≠ some '-' ∧ InRange false w.bits (intValue v.toList) then
        .ok (.int (intValue v.toList))
      else .error (.conversion key v (.unsigned w)
        (if v.toList.head? = some '-' then .invalidDigit else .tooLarge)) := by
  have hRead : ValueType.read (.unsigned w) v = (readInteger false w.bits v).map .int := rfl
  rw [get_of_firstValue hFirst]
  by_cases hMinus : v.toList.head? = some '-'
  · rw [if_neg (fun h => h.1 hMinus), if_pos hMinus]
    exact convert_of_read_error
      (by rw [hRead, readInteger_unsigned_of_intText _ hv, if_pos hMinus]; rfl)
  · by_cases hFits : InRange false w.bits (intValue v.toList)
    · rw [if_pos ⟨hMinus, hFits⟩]
      exact convert_of_read_ok
        (by rw [hRead, readInteger_unsigned_of_intText _ hv, if_neg hMinus, if_pos hFits]; rfl)
    · rw [if_neg (fun h => hFits h.2), if_neg hMinus]
      exact convert_of_read_error
        (by rw [hRead, readInteger_unsigned_of_intText _ hv, if_neg hMinus, if_neg hFits]; rfl)

end OptionParser

------------------------------------------------------------
-- Values the Forms Admit
------------------------------------------------------------

theorem exists_map_eq_ok
    {ε α β : Type}
    {e : Except ε α}
    {f : α → β} :
    (∃ x, e.map f = .ok x) ↔ ∃ y, e = .ok y := by
  cases e <;> simp [Except.map]

theorem ValueType.read_float32_ok_iff
    (v : String) :
    (∃ x, ValueType.float32.read v = .ok x) ↔ RealText v.toList ∨ SpecialText v.toList := by
  have hRead : ValueType.float32.read v =
      (FloatFormat.binary32.read v).map fun b => .float32 b.toUInt32 := rfl
  rw [hRead, exists_map_eq_ok, FloatFormat.read_ok_iff_text]

theorem ValueType.read_float64_ok_iff
    (v : String) :
    (∃ x, ValueType.float64.read v = .ok x) ↔ RealText v.toList ∨ SpecialText v.toList := by
  have hRead : ValueType.float64.read v =
      (FloatFormat.binary64.read v).map fun b => .float64 b.toUInt64 := rfl
  rw [hRead, exists_map_eq_ok, FloatFormat.read_ok_iff_text]

/- The first value of an option that is a real text reads as a number of either precision. -/
theorem OptionParser.get_float_of_realText
    {p : OptionParser}
    {key v : String}
    (hFirst : p.FirstValue key v)
    (hv : RealText v.toList) :
    (∃ x, p.get key .float32 = .ok x) ∧ (∃ x, p.get key .float64 = .ok x) := by
  obtain ⟨x, hx⟩ := (ValueType.read_float32_ok_iff v).mpr (.inl hv)
  obtain ⟨y, hy⟩ := (ValueType.read_float64_ok_iff v).mpr (.inl hv)
  rw [OptionParser.get_of_firstValue hFirst, OptionParser.get_of_firstValue hFirst]
  exact ⟨⟨x, OptionParser.convert_of_read_ok hx⟩, ⟨y, OptionParser.convert_of_read_ok hy⟩⟩

/- `real` and `float` both stand for the real form. -/
theorem anchoredText_of_real_form
    {declared : String}
    (h : declared ∈ ["real", "float"]) :
    anchoredText declared = "^(?:" ++ realForm ++ ")$" := by
  simp only [List.mem_cons, List.not_mem_nil, or_false] at h
  rcases h with rfl | rfl <;> rfl

section Engine

/-
  A regular expression engine, as which values the text of an
  expression matches, with the documented languages of the two
  number forms.
-/
variable (isMatch : String → String → Bool)
  (hInt : ∀ v, isMatch ("^(?:" ++ intForm ++ ")$") v = true ↔ IntText v.toList)
  (hReal : ∀ v, isMatch ("^(?:" ++ realForm ++ ")$") v = true ↔ RealText v.toList)

include hReal in
/-
  A value satisfies `real` or `float` exactly when it reads as a
  floating-point number and spells no infinity or NaN.
-/
theorem matches_real_form_iff
    {declared : String}
    (hDeclared : declared ∈ ["real", "float"])
    (v : String) :
    isMatch (anchoredText declared) v = true ↔
      (∃ x, ValueType.float64.read v = .ok x) ∧ ¬SpecialText v.toList := by
  rw [anchoredText_of_real_form hDeclared, hReal, ValueType.read_float64_ok_iff]
  constructor
  · intro hText
    exact ⟨.inl hText, hText.not_specialText⟩
  · rintro ⟨hText | hSpecial, hNotSpecial⟩
    · exact hText
    · exact absurd hSpecial hNotSpecial

include hInt hReal in
/- Every value the three number forms admit is a real text. -/
theorem realText_of_number_form
    {declared : String}
    (hDeclared : declared ∈ ["int", "real", "float"])
    {v : String}
    (hMatch : isMatch (anchoredText declared) v = true) :
    RealText v.toList := by
  rcases List.mem_cons.mp hDeclared with rfl | hReals
  · -- an integer text is a real text without point or exponent
    exact ((hInt v).mp hMatch).realText
  · rw [anchoredText_of_real_form hReals] at hMatch
    exact (hReal v).mp hMatch

include hInt hReal in
/-
  The named number forms agree with the readers that read their
  values.  A value satisfies `int` exactly when it is an integer
  text; the first value of an option that is one reads as a signed
  integer type as its value when in range and as too small or too
  large otherwise, and as an unsigned type as its value when it has
  no minus sign and is in range, an invalid digit on a minus sign and
  too large otherwise.  A value satisfies `real` or `float` exactly
  when it reads as a double-precision number and spells no infinity
  or NaN.  And every value the three forms admit reads as a number of
  single and of double precision.
-/
theorem named_forms_agree_with_readers :
    (∀ v, isMatch (anchoredText "int") v = true ↔ IntText v.toList) ∧
    (∀ (q : OptionParser) key v, q.FirstValue key v → IntText v.toList → ∀ w : IntWidth,
      q.get key (.signed w) =
        if InRange true w.bits (intValue v.toList) then .ok (.int (intValue v.toList))
        else .error (.conversion key v (.signed w)
          (if intValue v.toList < 0 then .tooSmall else .tooLarge))) ∧
    (∀ (q : OptionParser) key v, q.FirstValue key v → IntText v.toList → ∀ w : IntWidth,
      q.get key (.unsigned w) =
        if v.toList.head? ≠ some '-' ∧ InRange false w.bits (intValue v.toList) then
          .ok (.int (intValue v.toList))
        else .error (.conversion key v (.unsigned w)
          (if v.toList.head? = some '-' then .invalidDigit else .tooLarge))) ∧
    (∀ declared ∈ ["real", "float"], ∀ v, isMatch (anchoredText declared) v = true ↔
      (∃ x, ValueType.float64.read v = .ok x) ∧ ¬SpecialText v.toList) ∧
    (∀ declared ∈ ["int", "real", "float"], ∀ (q : OptionParser) key v, q.FirstValue key v →
      isMatch (anchoredText declared) v = true →
        (∃ x, q.get key .float32 = .ok x) ∧ (∃ x, q.get key .float64 = .ok x)) :=
  ⟨hInt,
    fun _ _ _ hFirst hv w => OptionParser.get_signed_of_intText hFirst hv w,
    fun _ _ _ hFirst hv w => OptionParser.get_unsigned_of_intText hFirst hv w,
    fun _ hDeclared v => matches_real_form_iff isMatch hReal hDeclared v,
    fun _ hDeclared _ _ _ hFirst hMatch => OptionParser.get_float_of_realText hFirst
      (realText_of_number_form isMatch hInt hReal hDeclared hMatch)⟩

end Engine

/-
  An engine that matches the integer form on the integer texts and
  every other expression on the real texts has the two documented
  languages, so the forms agree with the readers under it.
-/
theorem named_forms_agree_under_exact_engine :
    let isMatch : String → String → Bool := fun e v =>
      @decide (if e = "^(?:" ++ intForm ++ ")$" then IntText v.toList else RealText v.toList)
        (Classical.propDecidable _)
    ((∀ v, isMatch ("^(?:" ++ intForm ++ ")$") v = true ↔ IntText v.toList) ∧
      (∀ v, isMatch ("^(?:" ++ realForm ++ ")$") v = true ↔ RealText v.toList)) ∧
    (∀ v, isMatch (anchoredText "int") v = true ↔ IntText v.toList) ∧
    (∀ (q : OptionParser) key v, q.FirstValue key v → IntText v.toList → ∀ w : IntWidth,
      q.get key (.signed w) =
        if InRange true w.bits (intValue v.toList) then .ok (.int (intValue v.toList))
        else .error (.conversion key v (.signed w)
          (if intValue v.toList < 0 then .tooSmall else .tooLarge))) ∧
    (∀ (q : OptionParser) key v, q.FirstValue key v → IntText v.toList → ∀ w : IntWidth,
      q.get key (.unsigned w) =
        if v.toList.head? ≠ some '-' ∧ InRange false w.bits (intValue v.toList) then
          .ok (.int (intValue v.toList))
        else .error (.conversion key v (.unsigned w)
          (if v.toList.head? = some '-' then .invalidDigit else .tooLarge))) ∧
    (∀ declared ∈ ["real", "float"], ∀ v, isMatch (anchoredText declared) v = true ↔
      (∃ x, ValueType.float64.read v = .ok x) ∧ ¬SpecialText v.toList) ∧
    (∀ declared ∈ ["int", "real", "float"], ∀ (q : OptionParser) key v, q.FirstValue key v →
      isMatch (anchoredText declared) v = true →
        (∃ x, q.get key .float32 = .ok x) ∧ (∃ x, q.get key .float64 = .ok x)) := by
  intro isMatch
  have hApart : ("^(?:" ++ realForm ++ ")$") ≠ ("^(?:" ++ intForm ++ ")$") := by decide
  have hInt : ∀ v, isMatch ("^(?:" ++ intForm ++ ")$") v = true ↔ IntText v.toList := by
    intro v
    rw [@decide_eq_true_iff _ (Classical.propDecidable _), if_pos rfl]
  have hReal : ∀ v, isMatch ("^(?:" ++ realForm ++ ")$") v = true ↔ RealText v.toList := by
    intro v
    rw [@decide_eq_true_iff _ (Classical.propDecidable _), if_neg hApart]
  exact ⟨⟨hInt, hReal⟩, named_forms_agree_with_readers isMatch hInt hReal⟩

end OptionGrammar
