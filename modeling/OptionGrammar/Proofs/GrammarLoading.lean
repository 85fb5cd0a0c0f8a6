import OptionGrammar.Proofs.Insertion

/-
  Loading a grammar stops at its first failing line.

  A grammar text is read as its lines, numbered from one, and each
  line is handled once, in order, against the spellings that the
  lines before it declared.  A line fails for one of three reasons,
  checked in this order: cut at its comment and trimmed, it is not
  empty and breaks the declaration syntax; its pattern does not
  compile; or one of its spellings repeats a spelling declared
  earlier, on an earlier line or on the same line.  Loading returns
  the error of the first line that fails.  When none fails, the
  table holds one declaration per declaring line, in line order, so
  the `m`-th declaring line gives identity `m - 1`; blank and
  comment lines declare nothing but keep their numbers.

  Main declarations:
    * `OptionTable.numberedLines`, `LineFault`
    * `OptionSpec.ofLine_eq_error_iff`, `lineFault_iff`
    * `OptionTable.addLines_eq_error_iff`, `OptionTable.addLines_eq_ok_iff`
    * `OptionTable.ofGrammar_first_failing_line`
-/

------------------------------------------------------------
-- Why a Line Fails
------------------------------------------------------------

namespace OptionGrammar

open Text Regex

/- The lines of a grammar text, each with its number, from one. -/
def OptionTable.numberedLines (G : String) : List (Nat × String) :=
  ((List.range (grammarLines G).length).map (· + 1)).zip (grammarLines G)

/-
  Why line `k`, read after lines that declared the spellings
  `taken`, stops the loading.
-/
inductive LineFault (taken : List String) (k : Nat) (raw : String) : ArgError → Prop
  /- Cut at its comment and trimmed, the line is not empty and breaks the syntax. -/
  | malformed :
      trimBlankList (cutComment raw.toList) ≠ [] →
      DeclarationLine.read? (trimBlankList (cutComment raw.toList)) = none →
      LineFault taken k raw (.grammar k raw)
  /- The line reads, but its pattern, trimmed, does not compile. -/
  | badPattern {d : DeclarationLine} {text : String} {reason : RegexError} :
      DeclarationLine.read? (trimBlankList (cutComment raw.toList)) = some d →
      d.param = some text →
      ValuePattern.compile (trimBlank text) = .error reason →
      LineFault taken k raw (.invalidPattern k (trimBlank text) reason)
  /- The line declares an option, and `x` is its first spelling that is
     taken or repeats one before it on the line. -/
  | repeated {s : OptionSpec} {x : String} :
      OptionSpec.ofLine k raw = .ok (some s) →
      FirstClash taken s.spellings x →
      LineFault taken k raw (.duplicateSpelling k x)

namespace DeclarationLine

/- Building the declaration fails only on a pattern that does not compile. -/
theorem toSpec_eq_error_iff
    {d : DeclarationLine}
    {n : Nat}
    {e : ArgError} :
    d.toSpec n = .error e ↔
      ∃ text reason, d.param = some text ∧
        ValuePattern.compile (trimBlank text) = .error reason ∧
          e = .invalidPattern n (trimBlank text) reason := by
  unfold toSpec
  cases hParam : d.param with
  | none => simp [pure, Except.pure, bind, Except.bind]
  | some text =>
      cases hCompile : ValuePattern.compile (trimBlank text) with
      | error reason =>
          simp [hCompile, bind, Except.bind, throw, throwThe, MonadExceptOf.throw, eq_comm]
      | ok v => simp [hCompile, pure, Except.pure, bind, Except.bind]

end DeclarationLine

/- The syntax is checked first, then the pattern. -/
theorem OptionSpec.ofLine_eq_error_iff
    {k : Nat}
    {raw : String}
    {e : ArgError} :
    OptionSpec.ofLine k raw = .error e ↔
      (trimBlankList (cutComment raw.toList) ≠ [] ∧
          DeclarationLine.read? (trimBlankList (cutComment raw.toList)) = none ∧
          e = .grammar k raw) ∨
        ∃ d text reason, DeclarationLine.read? (trimBlankList (cutComment raw.toList)) = some d ∧
          d.param = some text ∧ ValuePattern.compile (trimBlank text) = .error reason ∧
          e = .invalidPattern k (trimBlank text) reason := by
  unfold ofLine
  dsimp only
  split
  · -- a blank line reads as nothing at all
    rename_i hEmpty
    have hNil : trimBlankList (cutComment raw.toList) = [] := List.isEmpty_iff.mp hEmpty
    have hRead : DeclarationLine.read? [] = none := rfl
    simp [hNil, hRead]
  · rename_i hFilled
    have hNil : trimBlankList (cutComment raw.toList) ≠ [] := fun h => by simp [h] at hFilled
    cases hRead : DeclarationLine.read? (trimBlankList (cutComment raw.toList)) with
    | none => simp [hNil, eq_comm]
    | some d =>
        have hMap : (d.toSpec k).map some = .error e ↔ d.toSpec k = .error e := by
          cases d.toSpec k <;> simp [Except.map]
        rw [hMap, DeclarationLine.toSpec_eq_error_iff]
        constructor
        · rintro ⟨text, reason, hParam, hCompile, rfl⟩
          exact Or.inr ⟨d, text, reason, rfl, hParam, hCompile, rfl⟩
        · rintro (⟨-, hNone, -⟩ | ⟨d', text, reason, hSame, hParam, hCompile, rfl⟩)
          · cases hNone
          · cases hSame
            exact ⟨text, reason, hParam, hCompile, rfl⟩

/-
  A line fails when reading it fails, or when it declares an option
  whose spellings clash with the taken ones.
-/
theorem lineFault_iff
    {taken : List String}
    {k : Nat}
    {raw : String}
    {e : ArgError} :
    LineFault taken k raw e ↔
      OptionSpec.ofLine k raw = .error e ∨
        ∃ s x, OptionSpec.ofLine k raw = .ok (some s) ∧
          firstClash? taken.contains [] s.spellings = some x ∧ e = .duplicateSpelling k x := by
  have hTaken : ∀ y, taken.contains y = true ↔ y ∈ taken := fun _ => List.contains_iff_mem
  constructor
  · intro h
    cases h with
    | malformed hNil hRead =>
        exact Or.inl (OptionSpec.ofLine_eq_error_iff.mpr (Or.inl ⟨hNil, hRead, rfl⟩))
    | badPattern hRead hParam hCompile =>
        exact Or.inl (OptionSpec.ofLine_eq_error_iff.mpr
          (Or.inr ⟨_, _, _, hRead, hParam, hCompile, rfl⟩))
    | repeated hLine hFirst =>
        exact Or.inr ⟨_, _, hLine, (firstClash?_nil_eq_some_iff hTaken).mpr hFirst, rfl⟩
  · rintro (hError | ⟨s, x, hLine, hFound, rfl⟩)
    · rcases OptionSpec.ofLine_eq_error_iff.mp hError with
        ⟨hNil, hRead, rfl⟩ | ⟨d, text, reason, hRead, hParam, hCompile, rfl⟩
      · exact LineFault.malformed hNil hRead
      · exact LineFault.badPattern hRead hParam hCompile
    · exact LineFault.repeated hLine ((firstClash?_nil_eq_some_iff hTaken).mp hFound)

/- A line fails in one way only. -/
theorem LineFault.unique
    {taken : List String}
    {k : Nat}
    {raw : String}
    {e e' : ArgError}
    (h : LineFault taken k raw e)
    (h' : LineFault taken k raw e') :
    e = e' := by
  rcases lineFault_iff.mp h with hError | ⟨s, x, hLine, hClash, rfl⟩ <;>
    rcases lineFault_iff.mp h' with hError' | ⟨s', x', hLine', hClash', rfl⟩
  · exact Except.error.inj (hError.symm.trans hError')
  · rw [hError] at hLine'
    cases hLine'
  · rw [hLine] at hError'
    cases hError'
  · rw [hLine, Except.ok.injEq, Option.some.injEq] at hLine'
    subst hLine'
    rw [hClash, Option.some.injEq] at hClash'
    rw [hClash']

/- A line that fails cannot also read and be taken. -/
theorem LineFault.not_taken
    {t : OptionTable}
    {n : Nat}
    {raw : String}
    {e : ArgError}
    {d : Option OptionSpec}
    (hFault : LineFault (spellingsOf t.specs) n raw e)
    (hLine : OptionSpec.ofLine n raw = .ok d)
    (hDistinct : (spellingsOf (t.specs ++ d.toList)).Nodup) :
    False := by
  rcases lineFault_iff.mp hFault with hError | ⟨s, x, hLine', hClash, -⟩
  · rw [hLine] at hError
    cases hError
  · rw [hLine, Except.ok.injEq] at hLine'
    subst hLine'
    rw [Option.toList_some] at hDistinct
    obtain ⟨-, hOwn, hNew⟩ := nodup_spellingsOf_append_single_iff.mp hDistinct
    have hNone : firstClash? (spellingsOf t.specs).contains [] s.spellings = none :=
      firstClash?_eq_none_of_nodup hOwn fun a ha => ⟨List.not_mem_nil, by simpa using hNew a ha⟩
    rw [hNone] at hClash
    cases hClash

end OptionGrammar

------------------------------------------------------------
-- One Line at a Time
------------------------------------------------------------

namespace OptionGrammar

namespace OptionTable

variable {t T : OptionTable} {n : Nat} {raw : String} {rest : List (Nat × String)}

@[simp] theorem reduceOption_nil :
    ([] : List (Option OptionSpec)).reduceOption = [] := rfl

theorem reduceOption_cons
    (d : Option OptionSpec)
    (ds : List (Option OptionSpec)) :
    (d :: ds).reduceOption = d.toList ++ ds.reduceOption := by
  cases d <;> rfl

/-
  The declarations of the lines read so far regroup around the table
  that took the first of them.
-/
theorem specs_append_reduceOption_cons
    {t' : OptionTable}
    {d : Option OptionSpec}
    {decls : List (Option OptionSpec)}
    (hSpecs : t'.specs = t.specs ++ d.toList) :
    t.specs ++ (d :: decls).reduceOption = t'.specs ++ decls.reduceOption := by
  rw [reduceOption_cons, ← List.append_assoc, hSpecs]

theorem nodup_head_of_reduceOption_cons
    {d : Option OptionSpec}
    {decls : List (Option OptionSpec)}
    (h : (spellingsOf (t.specs ++ (d :: decls).reduceOption)).Nodup) :
    (spellingsOf (t.specs ++ d.toList)).Nodup := by
  rw [reduceOption_cons, ← List.append_assoc, spellingsOf_append] at h
  exact (List.nodup_append.mp h).1

/-
  The first line either fails, and loading stops with its error, or
  it reads as nothing or as a declaration that the table takes, and
  loading goes on from the table with that declaration appended.
-/
theorem addLines_cons_cases
    (t : OptionTable)
    (n : Nat)
    (raw : String)
    (rest : List (Nat × String)) :
    (∃ e, LineFault (spellingsOf t.specs) n raw e ∧ t.addLines ((n, raw) :: rest) = .error e) ∨
      ∃ (d : Option OptionSpec) (t' : OptionTable), OptionSpec.ofLine n raw = .ok d ∧ t'.specs = t.specs ++ d.toList ∧
        t.addLines ((n, raw) :: rest) = t'.addLines rest := by
  cases hLine : OptionSpec.ofLine n raw with
  | error e =>
      refine Or.inl ⟨e, lineFault_iff.mpr (Or.inl hLine), ?_⟩
      simp [addLines, hLine, bind, Except.bind]
  | ok d =>
      cases d with
      | none =>
          refine Or.inr ⟨none, t, rfl, by simp, ?_⟩
          simp [addLines, hLine, bind, Except.bind]
      | some s =>
          cases hInsert : t.insert n s with
          | error e =>
              -- the declaration is refused on a clashing spelling
              obtain ⟨x, hFirst, rfl⟩ := insert_eq_error_iff.mp hInsert
              refine Or.inl ⟨_, LineFault.repeated hLine hFirst, ?_⟩
              simp [addLines, hLine, hInsert, bind, Except.bind]
          | ok r =>
              obtain ⟨t', id⟩ := r
              refine Or.inr ⟨some s, t', rfl, insert_eq_ok hInsert, ?_⟩
              simp [addLines, hLine, hInsert, bind, Except.bind]

/- A line that reads and keeps the spellings distinct is taken. -/
theorem addLines_cons_of_taken
    (rest : List (Nat × String))
    {d : Option OptionSpec}
    (hLine : OptionSpec.ofLine n raw = .ok d)
    (hDistinct : (spellingsOf (t.specs ++ d.toList)).Nodup) :
    ∃ t' : OptionTable, t'.specs = t.specs ++ d.toList ∧
      t.addLines ((n, raw) :: rest) = t'.addLines rest := by
  rcases addLines_cons_cases t n raw rest with ⟨e, hFault, -⟩ | ⟨d', t', hLine', hSpecs, hStep⟩
  · exact (hFault.not_taken hLine hDistinct).elim
  · rw [hLine, Except.ok.injEq] at hLine'
    subst hLine'
    exact ⟨t', hSpecs, hStep⟩

end OptionTable

end OptionGrammar

------------------------------------------------------------
-- The First Failing Line
------------------------------------------------------------

namespace OptionGrammar

namespace OptionTable

/-
  Adding numbered lines to a table fails with `e` exactly when some
  line fails with `e` after lines that all read, and whose
  declarations keep the spellings of the table distinct.
-/
theorem addLines_eq_error_iff
    {t : OptionTable}
    {ps : List (Nat × String)}
    {e : ArgError} :
    t.addLines ps = .error e ↔
      ∃ pre k raw post decls, ps = pre ++ (k, raw) :: post ∧
        List.Forall₂ (fun p d => OptionSpec.ofLine p.1 p.2 = .ok d) pre decls ∧
        (spellingsOf (t.specs ++ decls.reduceOption)).Nodup ∧
        LineFault (spellingsOf (t.specs ++ decls.reduceOption)) k raw e := by
  induction ps generalizing t with
  | nil =>
      have hNone : t.addLines [] = .ok t := rfl
      simp only [hNone, reduceCtorEq, false_iff, not_exists, not_and]
      intro pre k raw post decls hSplit
      simp at hSplit
  | cons p ps ih =>
      obtain ⟨n, raw⟩ := p
      constructor
      · intro h
        rcases addLines_cons_cases t n raw ps with
          ⟨e', hFault, hStep⟩ | ⟨d, t', hLine, hSpecs, hStep⟩
        · -- the first line fails
          rw [hStep, Except.error.injEq] at h
          subst h
          exact ⟨[], n, raw, ps, [], rfl, List.Forall₂.nil, by simpa using t.distinct,
            by simpa using hFault⟩
        · -- the first line is taken and the failure comes later
          rw [hStep] at h
          obtain ⟨pre, k, raw', post, decls, rfl, hRead, hDistinct, hFault⟩ := ih.mp h
          refine ⟨(n, raw) :: pre, k, raw', post, d :: decls, rfl,
            List.Forall₂.cons hLine hRead, ?_, ?_⟩
          · rwa [specs_append_reduceOption_cons hSpecs]
          · rwa [specs_append_reduceOption_cons hSpecs]
      · rintro ⟨pre, k, raw', post, decls, hSplit, hRead, hDistinct, hFault⟩
        cases pre with
        | nil =>
            -- the failing line is the first
            obtain ⟨hHead, rfl⟩ := List.cons.inj hSplit
            obtain ⟨rfl, rfl⟩ := Prod.mk.inj hHead
            cases List.forall₂_nil_left_iff.mp hRead
            rcases addLines_cons_cases t n raw ps with
              ⟨e', hFault', hStep⟩ | ⟨d, t', hLine, hSpecs, hStep⟩
            · rw [hStep, (by simpa using hFault : LineFault (spellingsOf t.specs) n raw e).unique
                hFault']
            · exact (LineFault.not_taken (by simpa using hFault) hLine
                (hSpecs ▸ t'.distinct)).elim
        | cons q pre =>
            obtain ⟨rfl, hTail⟩ := List.cons.inj hSplit
            obtain ⟨d, decls', hLine, hRead', rfl⟩ := List.forall₂_cons_left_iff.mp hRead
            obtain ⟨t', hSpecs, hStep⟩ :=
              addLines_cons_of_taken ps hLine (nodup_head_of_reduceOption_cons hDistinct)
            rw [specs_append_reduceOption_cons hSpecs] at hDistinct hFault
            rw [hStep]
            exact ih.mpr ⟨pre, k, raw', post, decls', hTail, hRead', hDistinct, hFault⟩

/-
  Adding numbered lines to a table succeeds exactly when every line
  reads and their declarations keep the spellings distinct; the
  table then gains those declarations, in line order.
-/
theorem addLines_eq_ok_iff
    {t T : OptionTable}
    {ps : List (Nat × String)} :
    t.addLines ps = .ok T ↔
      ∃ decls, List.Forall₂ (fun p d => OptionSpec.ofLine p.1 p.2 = .ok d) ps decls ∧
        (spellingsOf (t.specs ++ decls.reduceOption)).Nodup ∧
        T.specs = t.specs ++ decls.reduceOption := by
  induction ps generalizing t with
  | nil =>
      have hNone : t.addLines [] = .ok t := rfl
      simp only [hNone, Except.ok.injEq, List.forall₂_nil_left_iff, exists_eq_left,
        reduceOption_nil, List.append_nil]
      constructor
      · intro hSame
        subst hSame
        exact ⟨t.distinct, rfl⟩
      · rintro ⟨-, hSpecs⟩
        exact ext hSpecs.symm
  | cons p ps ih =>
      obtain ⟨n, raw⟩ := p
      constructor
      · intro h
        rcases addLines_cons_cases t n raw ps with
          ⟨e, -, hStep⟩ | ⟨d, t', hLine, hSpecs, hStep⟩
        · rw [hStep] at h
          cases h
        · rw [hStep] at h
          obtain ⟨decls, hRead, hDistinct, hT⟩ := ih.mp h
          refine ⟨d :: decls, List.Forall₂.cons hLine hRead, ?_, ?_⟩
          · rwa [specs_append_reduceOption_cons hSpecs]
          · rwa [specs_append_reduceOption_cons hSpecs]
      · rintro ⟨decls, hRead, hDistinct, hT⟩
        obtain ⟨d, decls', hLine, hRead', rfl⟩ := List.forall₂_cons_left_iff.mp hRead
        obtain ⟨t', hSpecs, hStep⟩ :=
          addLines_cons_of_taken ps hLine (nodup_head_of_reduceOption_cons hDistinct)
        rw [specs_append_reduceOption_cons hSpecs] at hDistinct hT
        rw [hStep]
        exact ih.mpr ⟨decls', hRead', hDistinct, hT⟩

/- The `k`-th numbered line carries the number `k` and the `k`-th line. -/
theorem numberedLines_eq_append
    {G raw : String}
    {pre post : List (Nat × String)}
    {k : Nat}
    (h : numberedLines G = pre ++ (k, raw) :: post) :
    k = pre.length + 1 ∧ (grammarLines G)[pre.length]? = some raw := by
  have hAt : (numberedLines G)[pre.length]? = some (k, raw) := by
    rw [h, List.getElem?_append_right (Nat.le_refl _), Nat.sub_self]
    rfl
  unfold numberedLines at hAt
  rw [List.getElem?_zip_eq_some] at hAt
  obtain ⟨hNumber, hLine⟩ := hAt
  have hLt : pre.length < (grammarLines G).length := (List.getElem?_eq_some_iff.mp hLine).1
  rw [List.getElem?_map, List.getElem?_range hLt, Option.map_some, Option.some.injEq] at hNumber
  exact ⟨hNumber.symm, hLine⟩

/-
  Loading a grammar reports its first failing line.  It fails with
  `e` exactly when some line `k`, after lines `1` to `k - 1` that
  all read and declare distinct spellings, fails with `e`: the raw
  line as a grammar error if it breaks the syntax, else the trimmed
  pattern if that does not compile, else the first spelling that
  repeats one declared before it.  It succeeds exactly when no line
  fails, with the declarations of the declaring lines in line order.
-/
theorem ofGrammar_first_failing_line
    (G : String) :
    (∀ e, ofGrammar G = .error e ↔
      ∃ pre k raw post decls, numberedLines G = pre ++ (k, raw) :: post ∧
        k = pre.length + 1 ∧ (grammarLines G)[pre.length]? = some raw ∧
        List.Forall₂ (fun p d => OptionSpec.ofLine p.1 p.2 = .ok d) pre decls ∧
        (spellingsOf decls.reduceOption).Nodup ∧
        LineFault (spellingsOf decls.reduceOption) k raw e) ∧
      ∀ T, ofGrammar G = .ok T ↔
        ∃ decls, List.Forall₂ (fun p d => OptionSpec.ofLine p.1 p.2 = .ok d)
            (numberedLines G) decls ∧
          (spellingsOf decls.reduceOption).Nodup ∧ T.specs = decls.reduceOption := by
  have hLoad : ofGrammar G = empty.addLines (numberedLines G) := rfl
  constructor
  · intro e
    rw [hLoad, addLines_eq_error_iff]
    constructor
    · rintro ⟨pre, k, raw, post, decls, hSplit, hRead, hDistinct, hFault⟩
      obtain ⟨hNumber, hLine⟩ := numberedLines_eq_append hSplit
      exact ⟨pre, k, raw, post, decls, hSplit, hNumber, hLine, hRead, hDistinct, hFault⟩
    · rintro ⟨pre, k, raw, post, decls, hSplit, -, -, hRead, hDistinct, hFault⟩
      exact ⟨pre, k, raw, post, decls, hSplit, hRead, hDistinct, hFault⟩
  · intro T
    rw [hLoad, addLines_eq_ok_iff]
    rfl

/- The third line, which breaks the syntax, is reported as written. -/
example :
    ofGrammar "! -v\n\n  bogus line  // note\n" =
      .error (.grammar 3 "  bogus line  // note") := by
  rfl

end OptionTable

end OptionGrammar
