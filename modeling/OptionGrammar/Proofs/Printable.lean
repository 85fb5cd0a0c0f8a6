import OptionGrammar.Proofs.GrammarRoundTrip
import Mathlib

/-
  The declarations whose printed line loads back.

  Tables are equal when their declarations are equal part by part,
  value patterns compared by their declared text.  A declaration is
  printable when it has one or two distinct spellings of line shape,
  a group number of one digit at most, help with no blank at either
  end and no line feed or `//`, and a pattern, if any, whose
  declared text is not empty, has no blank at either end and no line
  feed or `//`, compiles, and closes only at its end: no `>` after
  its first character is followed, past blanks, by the bar of help.
  The first character is free, since a pattern is never empty and
  so never closes before it.

  A declaration loads back from its printed line, as a table of that
  one declaration, exactly when it is printable.  Recompiling the
  patterns of a printable declaration gives one of the shape loading
  produces, equal to it and printed alike; conversely, whatever a
  line loads is of that shape and loads back only when its patterns
  are not empty.  So every table of printable declarations loads
  back from its printed grammar.

  Main declarations:
    * `OptionSpec.beq_iff`, `OptionTable.specs_beq_iff`
    * `OptionSpec.Printable`, `OptionSpec.withCompiled`
    * `OptionTable.ofGrammar_printed_lines`
    * `OptionSpec.printable_of_ofGrammar_toGrammarLine`
    * `OptionSpec.ofGrammar_toGrammarLine_iff_printable`
-/

------------------------------------------------------------
-- Equal Declarations
------------------------------------------------------------

namespace OptionGrammar

open Text

namespace OptionSpec

/-
  Two declarations are equal when all their parts are, patterns
  compared by the text they were declared with.
-/
theorem beq_iff
    (a b : OptionSpec) :
    (a == b) = true ↔
      a.spellings = b.spellings ∧ a.optional = b.optional ∧ a.group = b.group ∧
        a.unique = b.unique ∧ a.param.map (·.declared) = b.param.map (·.declared) ∧
        a.help = b.help := by
  obtain ⟨spellings, optional, group, unique, param, help⟩ := a
  obtain ⟨spellings', optional', group', unique', param', help'⟩ := b
  have hParam : (param == param') = true ↔
      param.map (·.declared) = param'.map (·.declared) := by
    cases param <;> cases param' <;> simp [ValuePattern.beq_iff]
  show instBEqOptionSpec.beq _ _ = true ↔ _
  simp only [instBEqOptionSpec.beq, Bool.and_eq_true, beq_iff_eq, hParam]

theorem patternPart_eq_of_declared
    {p q : Option ValuePattern}
    (h : p.map (·.declared) = q.map (·.declared)) :
    patternPart p = patternPart q := by
  cases p <;> cases q <;> simp_all [patternPart]

/- A pattern list of the same declared texts holds a pattern of each text. -/
theorem exists_pattern_of_declared
    {p q : Option ValuePattern}
    (h : p.map (·.declared) = q.map (·.declared))
    {x : ValuePattern}
    (hx : x ∈ p) :
    ∃ y ∈ q, y.declared = x.declared := by
  rw [show p = some x from hx] at h
  cases q with
  | none => cases h
  | some y => exact ⟨y, rfl, (Option.some.inj h).symm⟩

/- Equal declarations print the same line. -/
theorem toGrammarLine_eq_of_beq
    {a b : OptionSpec}
    (h : (a == b) = true) :
    a.toGrammarLine = b.toGrammarLine := by
  obtain ⟨hSpellings, hOptional, hGroup, hUnique, hParam, hHelp⟩ := (beq_iff a b).mp h
  rw [toGrammarLine_eq, toGrammarLine_eq, hSpellings, hOptional, hGroup, hUnique, hHelp,
    patternPart_eq_of_declared hParam]

end OptionSpec

namespace OptionTable

/- Lists of declarations are equal when they are equal one by one. -/
theorem specs_beq_iff
    (xs ys : List OptionSpec) :
    (xs == ys) = true ↔ List.Forall₂ (fun a b => (a == b) = true) xs ys := by
  induction xs generalizing ys with
  | nil => cases ys <;> simp
  | cons x xs ih =>
      cases ys with
      | nil => simp
      | cons y ys => simp [List.cons_beq_cons, ih]

end OptionTable

end OptionGrammar

------------------------------------------------------------
-- Printable Declarations
------------------------------------------------------------

namespace OptionGrammar

open Text

namespace OptionSpec

/-
  A declaration whose printed line can load back as itself: one or
  two distinct spellings of line shape, a group digit at most 9,
  trimmed help with no `//` or line feed, and a pattern whose
  declared text is not empty, of the shape loading leaves, and
  compiles.
-/
structure Printable (s : OptionSpec) : Prop where
  spellings : ∃ first second, s.spellings = first :: Option.toList second
  distinct : s.spellings.Nodup
  isSpelling : ∀ x ∈ s.spellings, IsSpelling x
  number_le : s.group.number.toNat ≤ 9
  help : Trimmed s.help.toList ∧ Uncommented s.help.toList
  param : ∀ p ∈ s.param,
    p.declared ≠ "" ∧ PatternShape p.declared.toList ∧ ∃ v, ValuePattern.compile p.declared = .ok v

theorem Printable.compiles
    {s : OptionSpec}
    (h : Printable s) :
    ∀ p ∈ s.param, ∃ v, ValuePattern.compile p.declared = .ok v :=
  fun p hp => (h.param p hp).2.2

/- The declaration with its pattern compiled afresh from its declared text. -/
def withCompiled (s : OptionSpec) : OptionSpec :=
  { s with param := s.param.bind fun p => (ValuePattern.compile p.declared).toOption }

@[simp] theorem spellings_withCompiled (s : OptionSpec) :
    s.withCompiled.spellings = s.spellings := rfl

/-
  When the declared text compiles, the fresh pattern is the compiled
  one and keeps the text.
-/
theorem param_withCompiled
    {s : OptionSpec}
    (h : ∀ p ∈ s.param, ∃ v, ValuePattern.compile p.declared = .ok v) :
    (∀ q ∈ s.withCompiled.param, ValuePattern.compile q.declared = .ok q) ∧
      s.withCompiled.param.map (·.declared) = s.param.map (·.declared) := by
  cases hParam : s.param with
  | none => simp [withCompiled, hParam]
  | some p =>
      obtain ⟨v, hv⟩ := h p hParam
      have hDeclared := ValuePattern.declared_of_compile hv
      refine ⟨?_, by simp [withCompiled, hParam, hv, Except.toOption, hDeclared]⟩
      intro q hq
      simp only [withCompiled, hParam, Option.bind_some, hv, Except.toOption,
        Option.mem_def, Option.some.injEq] at hq
      subst hq
      rw [hDeclared, hv]

theorem beq_withCompiled
    {s : OptionSpec}
    (h : ∀ p ∈ s.param, ∃ v, ValuePattern.compile p.declared = .ok v) :
    (s.withCompiled == s) = true :=
  (beq_iff _ _).mpr ⟨rfl, rfl, rfl, rfl, (param_withCompiled h).2, rfl⟩

/- Recompiling a printable declaration gives one of line shape. -/
theorem lineShaped_withCompiled
    {s : OptionSpec}
    (h : Printable s) :
    LineShaped s.withCompiled := by
  obtain ⟨hCompiled, hDeclared⟩ := param_withCompiled h.compiles
  refine ⟨h.spellings, h.isSpelling, h.number_le, h.help, fun q hq => ⟨hCompiled q hq, ?_⟩⟩
  -- the fresh pattern keeps the declared text of the old one
  obtain ⟨p, hp, hText⟩ := exists_pattern_of_declared hDeclared hq
  rw [← hText]
  exact (h.param p hp).2.1

theorem filled_withCompiled
    {s : OptionSpec}
    (h : Printable s) :
    ∀ q ∈ s.withCompiled.param, q.declared ≠ "" := by
  intro q hq
  obtain ⟨p, hp, hText⟩ := exists_pattern_of_declared (param_withCompiled h.compiles).2 hq
  rw [← hText]
  exact (h.param p hp).1

/-
  A declaration of line shape with distinct spellings and no empty
  pattern makes every declaration equal to it printable.
-/
theorem printable_of_lineShaped
    {s' s : OptionSpec}
    (hShaped : LineShaped s')
    (hDistinct : s'.spellings.Nodup)
    (hFilled : ∀ p ∈ s'.param, p.declared ≠ "")
    (hEq : (s' == s) = true) :
    Printable s := by
  obtain ⟨hSpellings, -, hGroup, -, hParam, hHelp⟩ := (beq_iff s' s).mp hEq
  refine ⟨hSpellings ▸ hShaped.spellings, hSpellings ▸ hDistinct,
    hSpellings ▸ hShaped.isSpelling, hGroup ▸ hShaped.number_le, hHelp ▸ hShaped.help, ?_⟩
  intro p hp
  -- `s'` has a pattern with the same declared text, compiled from it
  obtain ⟨q, hq, hText⟩ := exists_pattern_of_declared hParam.symm hp
  obtain ⟨hCompile, hShape⟩ := hShaped.param q hq
  rw [← hText]
  exact ⟨hFilled q hq, hShape, q, hCompile⟩

end OptionSpec

end OptionGrammar

------------------------------------------------------------
-- Printed Lines Load Back
------------------------------------------------------------

namespace OptionGrammar

open Text

/- A text with no line feed is one piece. -/
theorem splitNewlines_of_not_mem
    {cs : List Char}
    (h : '\n' ∉ cs) :
    splitNewlines cs = [cs] := by
  induction cs with
  | nil => rfl
  | cons c cs ih =>
      have hc : c ≠ '\n' := fun hc => h (hc ▸ List.mem_cons_self)
      rw [splitNewlines, if_neg hc, ih fun hn => h (List.mem_cons_of_mem c hn)]

/- A non-empty text with no line feed is one line. -/
theorem grammarLines_of_not_mem
    {text : String}
    (hFeed : '\n' ∉ text.toList)
    (hFilled : text.toList ≠ []) :
    grammarLines text = [text] := by
  unfold grammarLines
  rw [splitNewlines_of_not_mem hFeed]
  simp [hFilled]

/- The printed line of a declaration of line shape is one line of grammar. -/
theorem OptionSpec.grammarLines_toGrammarLine
    {s : OptionSpec}
    (hShaped : s.LineShaped) :
    grammarLines s.toGrammarLine = [s.toGrammarLine] :=
  grammarLines_of_not_mem (OptionSpec.uncommented_toGrammarLine hShaped).1
    (by rw [OptionSpec.toGrammarLine_toList]; exact List.cons_ne_nil _ _)

namespace OptionTable

/- Recompiling printable declarations changes no printed line. -/
theorem map_toGrammarLine_withCompiled
    {ss : List OptionSpec}
    (hPrintable : ∀ s ∈ ss, s.Printable) :
    (ss.map (·.withCompiled)).map (·.toGrammarLine) = ss.map (·.toGrammarLine) := by
  rw [List.map_map]
  exact List.map_congr_left fun s hs =>
    OptionSpec.toGrammarLine_eq_of_beq
      (OptionSpec.beq_withCompiled (hPrintable s hs).compiles)

theorem spellingsOf_map_withCompiled
    (ss : List OptionSpec) :
    spellingsOf (ss.map (·.withCompiled)) = spellingsOf ss := by
  simp [spellingsOf, List.flatMap_map]

/-
  A text whose lines are the printed lines of printable declarations
  with distinct spellings loads as those declarations, patterns
  recompiled.
-/
theorem ofGrammar_printed_lines
    {G : String}
    {ss : List OptionSpec}
    (hPrintable : ∀ s ∈ ss, s.Printable)
    (hDistinct : (spellingsOf ss).Nodup)
    (hLines : grammarLines G = ss.map (·.toGrammarLine)) :
    ∃ T, ofGrammar G = .ok T ∧ T.specs = ss.map (·.withCompiled) := by
  have hRead : ∀ s ∈ ss.map (·.withCompiled), ∀ n,
      OptionSpec.ofLine n s.toGrammarLine = .ok (some s) := by
    intro s hs n
    obtain ⟨s₀, hs₀, rfl⟩ := List.mem_map.mp hs
    exact OptionSpec.ofLine_toGrammarLine (OptionSpec.lineShaped_withCompiled (hPrintable s₀ hs₀))
      (OptionSpec.filled_withCompiled (hPrintable s₀ hs₀)) n
  have hLen : ((List.range (grammarLines G).length).map (· + 1)).length =
      (ss.map (·.withCompiled)).length := by
    simp [hLines]
  obtain ⟨T, hLoad, hSpecs⟩ := addLines_printed empty hLen hRead
    (by simpa [empty, spellingsOf_map_withCompiled] using hDistinct)
  refine ⟨T, ?_, by simpa [empty] using hSpecs⟩
  unfold ofGrammar
  rw [← hLoad, map_toGrammarLine_withCompiled hPrintable, ← hLines]

/- Recompiling printable declarations keeps them equal. -/
theorem map_withCompiled_beq
    {ss : List OptionSpec}
    (hPrintable : ∀ s ∈ ss, s.Printable) :
    (ss.map (·.withCompiled) == ss) = true := by
  rw [specs_beq_iff, List.forall₂_map_left_iff]
  exact List.forall₂_same.mpr fun s hs =>
    OptionSpec.beq_withCompiled (hPrintable s hs).compiles

end OptionTable

namespace OptionSpec

/- A printable declaration loads back from its line. -/
theorem ofGrammar_toGrammarLine_of_printable
    {s : OptionSpec}
    (h : Printable s) :
    ∃ T, OptionTable.ofGrammar s.toGrammarLine = .ok T ∧ (T.specs == [s]) = true := by
  have hShaped := lineShaped_withCompiled h
  have hLine : s.withCompiled.toGrammarLine = s.toGrammarLine :=
    toGrammarLine_eq_of_beq (beq_withCompiled h.compiles)
  have hLines : grammarLines s.toGrammarLine = [s].map (·.toGrammarLine) := by
    rw [List.map_singleton, ← hLine]
    exact grammarLines_toGrammarLine hShaped
  obtain ⟨T, hLoad, hSpecs⟩ := OptionTable.ofGrammar_printed_lines
    (by simpa using h) (by simpa [spellingsOf] using h.distinct) hLines
  exact ⟨T, hLoad, hSpecs ▸ OptionTable.map_withCompiled_beq (by simpa using h)⟩

/-
  A declaration that loads back from its line is printable: what
  loads is of line shape with distinct spellings, and loads back
  only when its patterns are not empty.
-/
theorem printable_of_ofGrammar_toGrammarLine
    {s : OptionSpec}
    {T : OptionTable}
    (hLoad : OptionTable.ofGrammar s.toGrammarLine = .ok T)
    (hEq : (T.specs == [s]) = true) :
    Printable s := by
  obtain ⟨s', hSpecs, hSame⟩ : ∃ s', T.specs = [s'] ∧ (s' == s) = true := by
    rcases List.forall₂_cons_right_iff.mp ((OptionTable.specs_beq_iff _ _).mp hEq) with
      ⟨s', rest, hs', hRest, hSpecs⟩
    rw [List.forall₂_nil_right_iff.mp hRest] at hSpecs
    exact ⟨s', hSpecs, hs'⟩
  have hShaped : LineShaped s' :=
    OptionTable.lineShaped_of_ofGrammar hLoad s' (by rw [hSpecs]; exact List.mem_singleton_self _)
  have hDistinct : s'.spellings.Nodup := by
    have hAll := T.distinct
    rw [hSpecs] at hAll
    simpa [spellingsOf] using hAll
  -- the line of `s` is the line of `s'`, which loaded as `s'`
  have hLine := toGrammarLine_eq_of_beq hSame
  have hLines : grammarLines s'.toGrammarLine = [s'].map (·.toGrammarLine) := by
    rw [List.map_singleton]
    exact grammarLines_toGrammarLine hShaped
  rw [← hLine] at hLoad
  unfold OptionTable.ofGrammar at hLoad
  rw [hLines] at hLoad
  obtain ⟨n, hRead⟩ := OptionTable.reads_of_addLines_printed (by rfl)
    (by simpa using hShaped) hLoad (by simpa [OptionTable.empty] using hSpecs) s'
    (List.mem_singleton_self _)
  exact printable_of_lineShaped hShaped hDistinct
    ((ofLine_toGrammarLine_iff hShaped n).mp hRead) hSame

end OptionSpec

end OptionGrammar

------------------------------------------------------------
-- The Domain of the Line Printer
------------------------------------------------------------

namespace OptionGrammar

open Text

namespace OptionTable

/- A table with its patterns compiled afresh. -/
def withCompiled (T : OptionTable) : OptionTable :=
  ofSpecs (T.specs.map (·.withCompiled)) ((spellingsOf_map_withCompiled T.specs).symm ▸ T.distinct)

/- A table of printable declarations prints lines that split back apart. -/
theorem grammarLines_toGrammar_of_printable
    {T : OptionTable}
    (hPrintable : ∀ s ∈ T.specs, s.Printable) :
    grammarLines T.toGrammar = T.specs.map (·.toGrammarLine) := by
  have hShaped : ∀ s ∈ T.withCompiled.specs, s.LineShaped := by
    intro s hs
    obtain ⟨s₀, hs₀, rfl⟩ := List.mem_map.mp hs
    exact OptionSpec.lineShaped_withCompiled (hPrintable s₀ hs₀)
  have hLines := map_toGrammarLine_withCompiled hPrintable
  have hGrammar : T.withCompiled.toGrammar = T.toGrammar := by
    rw [toGrammar_eq_join, toGrammar_eq_join]
    exact congrArg (fun ls => String.join (ls.map (· ++ "\n"))) hLines
  rw [← hGrammar, grammarLines_toGrammar hShaped]
  exact hLines

end OptionTable

namespace OptionSpec

/-
  The exact domain of the line printer.  A declaration loads back
  from its printed line alone, as a table of that one declaration,
  exactly when it is printable; and a table of printable
  declarations, such as one built by pushing printable
  declarations, loads back from its printed grammar as an equal
  table.
-/
theorem ofGrammar_toGrammarLine_iff_printable :
    (∀ s : OptionSpec,
      (∃ T, OptionTable.ofGrammar s.toGrammarLine = .ok T ∧ (T.specs == [s]) = true) ↔
        s.Printable) ∧
      ∀ T : OptionTable, (∀ s ∈ T.specs, s.Printable) →
        ∃ T', OptionTable.ofGrammar T.toGrammar = .ok T' ∧ (T' == T) = true := by
  refine ⟨fun s => ⟨fun ⟨T, hLoad, hEq⟩ => printable_of_ofGrammar_toGrammarLine hLoad hEq,
    ofGrammar_toGrammarLine_of_printable⟩, ?_⟩
  intro T hPrintable
  obtain ⟨T', hLoad, hSpecs⟩ := OptionTable.ofGrammar_printed_lines hPrintable T.distinct
    (OptionTable.grammarLines_toGrammar_of_printable hPrintable)
  refine ⟨T', hLoad, ?_⟩
  show (T'.specs == T.specs) = true
  rw [hSpecs]
  exact OptionTable.map_withCompiled_beq hPrintable

/- A pattern text with no `>` after its first character closes only at its end. -/
theorem closesAtEnd_of_tail
    {d : List Char}
    (h : '>' ∉ d.tail) :
    ClosesAtEnd d := by
  intro u v hSplit hu
  cases u with
  | nil => exact absurd rfl hu
  | cons c u => exact absurd (by rw [hSplit]; simp) h

/- A text that compiles is some pattern. -/
theorem exists_compile_of_isSome
    (text : String)
    (h : (ValuePattern.compile text).toOption.isSome = true) :
    ∃ v, ValuePattern.compile text = .ok v := by
  cases hCompile : ValuePattern.compile text with
  | error e => simp [hCompile, Except.toOption] at h
  | ok v => exact ⟨v, rfl⟩

/-
  Two printed lines against the plain reading of the domain.  The
  line of `-a` with pattern `>|x` loads back, although a `>` of the
  pattern is followed by the bar of help: a pattern is never empty,
  so its first character never closes it.  The line of `-a` with
  the alias `-a`, of two spellings of line shape, a group digit of
  0, no help and no pattern, does not load: the spelling repeats.
-/
theorem ofGrammar_printed_leadingClose_repeated :
    let s : OptionSpec := { spellings := ["-a"], param := (ValuePattern.compile ">|x").toOption }
    let s' := (OptionSpec.flag "-a").withAlias "-a"
    ((∃ T, OptionTable.ofGrammar s.toGrammarLine = .ok T ∧ (T.specs == [s]) = true) ∧
        ∀ p ∈ s.param, ∃ u v, p.declared.toList = u ++ '>' :: v ∧ StartsHelp v) ∧
      (∀ x ∈ s'.spellings, IsSpelling x) ∧ s'.group.number.toNat ≤ 9 ∧ s'.help = "" ∧
        s'.param = none ∧
        OptionTable.ofGrammar s'.toGrammarLine = .error (.duplicateSpelling 1 "-a") := by
  have hRepeated : OptionTable.ofGrammar ((OptionSpec.flag "-a").withAlias "-a").toGrammarLine =
      .error (.duplicateSpelling 1 "-a") := by
    rfl
  intro s s'
  have hDash : IsSpelling "-a" :=
    ⟨⟨['a'], rfl, by simp [isSpellingChar, isBlank]⟩, ⟨by simp, rfl⟩⟩
  obtain ⟨v, hv⟩ := exists_compile_of_isSome ">|x" (by cbv)
  have hDeclared : v.declared = ">|x" := ValuePattern.declared_of_compile hv
  have hParam : s.param = some v := by simp [s, hv, Except.toOption]
  have hPrintable : Printable s := by
    refine ⟨⟨"-a", none, rfl⟩, by simp [s], by simpa [s] using hDash, by decide,
      ⟨⟨by simp [s], by simp [s]⟩, ⟨by simp [s], rfl⟩⟩, ?_⟩
    intro p hp
    rw [hParam, Option.mem_def, Option.some.injEq] at hp
    subst hp
    rw [hDeclared]
    exact ⟨by decide, ⟨⟨by simp [isBlank], by simp [isBlank]⟩, ⟨by simp, rfl⟩,
      closesAtEnd_of_tail (by simp)⟩, v, hv⟩
  refine ⟨⟨ofGrammar_toGrammarLine_of_printable hPrintable, ?_⟩, ?_, by decide, rfl, rfl,
    hRepeated⟩
  · intro p hp
    rw [hParam, Option.mem_def, Option.some.injEq] at hp
    subst hp
    rw [hDeclared]
    exact ⟨[], "|x".toList, rfl, by simp [StartsHelp, isBlank]⟩
  · intro x hx
    simp only [s', OptionSpec.flag, OptionSpec.withAlias, List.cons_append, List.nil_append,
      List.mem_cons, List.not_mem_nil, or_false, or_self] at hx
    subst hx
    exact hDash

/-
  The declaration `!&2+ -f --format <json|yaml> | Output format` is
  printable, and its table loads back from its printed grammar.
-/
theorem ofGrammar_toGrammar_format :
    let s : OptionSpec :=
      { spellings := ["-f", "--format"], optional := false, group := { kind := .and, number := 2 },
        unique := false, param := (ValuePattern.compile "json|yaml").toOption,
        help := "Output format" }
    let T : OptionTable := OptionTable.ofSpecs [s] (by decide)
    (∀ s ∈ T.specs, s.Printable) ∧
      ∃ T', OptionTable.ofGrammar T.toGrammar = .ok T' ∧ (T' == T) = true := by
  obtain ⟨v, hv⟩ := exists_compile_of_isSome "json|yaml" (by cbv)
  have hDeclared : v.declared = "json|yaml" := ValuePattern.declared_of_compile hv
  dsimp only
  refine ⟨?printable, ofGrammar_toGrammarLine_iff_printable.2 _ ?printable⟩
  intro x hx
  rw [OptionTable.specs_ofSpecs, List.mem_singleton] at hx
  subst hx
  refine ⟨⟨"-f", some "--format", rfl⟩, by decide, ?_, by decide,
    ⟨⟨by simp [isBlank], by simp [isBlank]⟩, ⟨by simp, by decide⟩⟩, ?_⟩
  · intro y hy
    simp only [List.mem_cons, List.not_mem_nil, or_false] at hy
    rcases hy with rfl | rfl
    · exact ⟨⟨['f'], rfl, by simp [isSpellingChar, isBlank]⟩, ⟨by simp, rfl⟩⟩
    · exact ⟨⟨"-format".toList, rfl, by simp [isSpellingChar, isBlank]⟩, ⟨by simp, rfl⟩⟩
  · intro p hp
    simp only [hv, Except.toOption, Option.mem_def, Option.some.injEq] at hp
    subst hp
    rw [hDeclared]
    exact ⟨by decide, ⟨⟨by simp [isBlank], by simp [isBlank]⟩, ⟨by simp, rfl⟩,
      closesAtEnd_of_tail (by decide)⟩, v, hv⟩

end OptionSpec

end OptionGrammar
