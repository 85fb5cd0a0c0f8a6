import OptionGrammar.Proofs.SpellingIndex
import OptionGrammar.Proofs.GrammarRoundTrip

/-
  Adding a declaration to a table.

  An insertion runs its check loop over every spelling of the new
  declaration before its write loop touches the index.  The first
  spelling that repeats an earlier spelling of the same declaration,
  or that the index holds, is reported with the line number the
  insertion was given, and no table comes back, so the caller keeps
  the table it had.  The index holds exactly the declared spellings,
  so the check loop finds the first clash with the declarations.
  When no spelling clashes, the declaration goes last, its identity
  is the old size of the table, and the write loop changes the index
  only on the new spellings, which now find it.

  Main declarations:
    * `FirstClash`, `firstClash?_eq_some_iff`
    * `OptionTable.lookup_eq_none_iff`, `OptionTable.lookup_isSome_iff`
    * `OptionTable.insert_eq_error_iff`, `OptionTable.insert_eq_ok_iff`
    * `OptionTable.lookup_of_insert`
    * `OptionTable.push_outcome`
-/

------------------------------------------------------------
-- The First Clashing Spelling
------------------------------------------------------------

namespace OptionGrammar

/-
  `x` is the first spelling of `xs` that is taken or repeats an
  earlier spelling of `xs`: every spelling before it is new and
  appears once.
-/
def FirstClash (taken xs : List String) (x : String) : Prop :=
  ∃ pre post, xs = pre ++ x :: post ∧ pre.Nodup ∧ (∀ y ∈ pre, y ∉ taken) ∧
    (x ∈ pre ∨ x ∈ taken)

/- A taken spelling at the head is the first clash, and the only one there. -/
theorem firstClash_cons_of_mem
    {taken xs : List String}
    {y x : String}
    (hy : y ∈ taken) :
    FirstClash taken (y :: xs) x ↔ x = y := by
  constructor
  · rintro ⟨pre, post, hSplit, -, hNew, -⟩
    cases pre with
    | nil => exact (List.cons.inj hSplit).1.symm
    | cons z pre =>
        obtain ⟨rfl, -⟩ := List.cons.inj hSplit
        exact absurd hy (hNew y List.mem_cons_self)
  · rintro rfl
    exact ⟨[], xs, rfl, List.nodup_nil, by simp, Or.inr hy⟩

/-
  Past a new spelling at the head, the first clash is the first
  clash of the rest, with the head taken as well.
-/
theorem firstClash_cons_of_not_mem
    {taken xs : List String}
    {y x : String}
    (hy : y ∉ taken) :
    FirstClash taken (y :: xs) x ↔ FirstClash (y :: taken) xs x := by
  constructor
  · rintro ⟨pre, post, hSplit, hNodup, hNew, hClash⟩
    cases pre with
    | nil =>
        -- the head itself would be the clash, but it is neither taken nor repeated
        obtain ⟨rfl, -⟩ := List.cons.inj hSplit
        simp only [List.not_mem_nil, false_or] at hClash
        exact absurd hClash hy
    | cons z pre =>
        obtain ⟨rfl, rfl⟩ := List.cons.inj hSplit
        obtain ⟨hz, hNodup'⟩ := List.nodup_cons.mp hNodup
        refine ⟨pre, post, rfl, hNodup', ?_, ?_⟩
        · intro w hw hTaken
          rcases List.mem_cons.mp hTaken with rfl | hOld
          · exact hz hw
          · exact hNew w (List.mem_cons_of_mem _ hw) hOld
        · rcases hClash with hEarlier | hTaken
          · rcases List.mem_cons.mp hEarlier with rfl | hEarlier
            · exact Or.inr List.mem_cons_self
            · exact Or.inl hEarlier
          · exact Or.inr (List.mem_cons_of_mem _ hTaken)
  · rintro ⟨pre, post, rfl, hNodup, hNew, hClash⟩
    have hHead : y ∉ pre := fun hMem => hNew y hMem List.mem_cons_self
    refine ⟨y :: pre, post, rfl, List.nodup_cons.mpr ⟨hHead, hNodup⟩, ?_, ?_⟩
    · intro z hz
      rcases List.mem_cons.mp hz with rfl | hz
      · exact hy
      · exact fun hTaken => hNew z hz (List.mem_cons_of_mem y hTaken)
    · rcases hClash with hEarlier | hTaken
      · exact Or.inl (List.mem_cons_of_mem y hEarlier)
      · rcases List.mem_cons.mp hTaken with rfl | hTaken
        · exact Or.inl List.mem_cons_self
        · exact Or.inr hTaken

/-
  The check loop finds exactly the first clash, where a spelling
  clashes when it was seen before it or is taken: the loop carries
  the spellings it has passed, and `ts` lists the taken ones.
-/
theorem firstClash?_eq_some_iff
    {taken : String → Bool}
    {ts : List String}
    (hTaken : ∀ y, taken y = true ↔ y ∈ ts)
    {seen xs : List String}
    {x : String} :
    firstClash? taken seen xs = some x ↔ FirstClash (seen ++ ts) xs x := by
  induction xs generalizing seen with
  | nil =>
      simp only [firstClash?, reduceCtorEq, false_iff]
      rintro ⟨pre, post, hSplit, -⟩
      simp at hSplit
  | cons y ys ih =>
      have hCheck : (seen.contains y || taken y) = true ↔ y ∈ seen ++ ts := by
        simp [hTaken]
      by_cases hy : y ∈ seen ++ ts
      · rw [firstClash?, if_pos (hCheck.mpr hy), Option.some.injEq, firstClash_cons_of_mem hy,
          eq_comm]
      · -- the loop passes `y`, which the taken spellings of the rest now include
        rw [firstClash?, if_neg (mt hCheck.mp hy), ih, firstClash_cons_of_not_mem hy]
        rfl

/- From the start of a declaration, nothing is seen yet. -/
theorem firstClash?_nil_eq_some_iff
    {taken : String → Bool}
    {ts : List String}
    (hTaken : ∀ y, taken y = true ↔ y ∈ ts)
    {xs : List String}
    {x : String} :
    firstClash? taken [] xs = some x ↔ FirstClash ts xs x :=
  firstClash?_eq_some_iff hTaken

/- No clash at all: the spellings are new and appear once each. -/
theorem firstClash?_eq_none_iff
    {taken : String → Bool}
    {seen xs : List String} :
    firstClash? taken seen xs = none ↔ xs.Nodup ∧ ∀ a ∈ xs, a ∉ seen ∧ taken a = false :=
  ⟨firstClash?_eq_none, fun ⟨hNodup, hFresh⟩ => firstClash?_eq_none_of_nodup hNodup hFresh⟩

end OptionGrammar

------------------------------------------------------------
-- Inserting a Declaration
------------------------------------------------------------

namespace OptionGrammar

namespace OptionTable

variable {t t' : OptionTable} {line id : Nat} {s : OptionSpec}

/- A spelling finds nothing exactly when no declaration has it. -/
theorem lookup_eq_none_iff
    (t : OptionTable)
    (x : String) :
    t.lookup x = none ↔ x ∉ spellingsOf t.specs := by
  rw [lookup_eq_findIdx?, spellingsOf, List.findIdx?_eq_none_iff, List.mem_flatMap]
  simp only [OptionSpec.hasSpelling, List.contains_eq_mem, decide_eq_false_iff_not,
    not_exists, not_and]

theorem lookup_isSome_iff
    (t : OptionTable)
    (x : String) :
    (t.lookup x).isSome ↔ x ∈ spellingsOf t.specs := by
  rw [Option.isSome_iff_ne_none, Ne, lookup_eq_none_iff, not_not]

/-
  An insertion fails exactly on a clash, naming the first clashing
  spelling and the line it was given.
-/
theorem insert_eq_error_iff
    {e : ArgError} :
    t.insert line s = .error e ↔
      ∃ x, FirstClash (spellingsOf t.specs) s.spellings x ∧ e = .duplicateSpelling line x := by
  -- the check loop asks the index, which holds exactly the declared spellings
  have hTaken := t.agrees.contains_iff
  unfold insert
  split
  · rename_i x hFound
    simp only [Except.error.injEq]
    constructor
    · rintro rfl
      exact ⟨x, (firstClash?_nil_eq_some_iff hTaken).mp hFound, rfl⟩
    · rintro ⟨x', hFirst, rfl⟩
      rw [(firstClash?_nil_eq_some_iff hTaken).mpr hFirst, Option.some.injEq] at hFound
      rw [hFound]
  · rename_i hNone
    simp only [reduceCtorEq, false_iff, not_exists, not_and]
    intro x hFirst
    rw [(firstClash?_nil_eq_some_iff hTaken).mpr hFirst] at hNone
    cases hNone

/-
  An insertion succeeds exactly when the check loop finds no clash;
  it appends the declaration, runs the write loop on the index and
  gives the declaration the old size as identity.
-/
theorem insert_eq_ok_iff :
    t.insert line s = .ok (t', id) ↔
      firstClash? t.index.contains [] s.spellings = none ∧ t'.specs = t.specs ++ [s] ∧
        t'.index = writeSpellings t.index t.size s.spellings ∧ id = t.size := by
  unfold insert
  split
  · rename_i x hClash
    simp [hClash]
  · rename_i hNone
    simp only [Except.ok.injEq, Prod.mk.injEq, hNone, true_and]
    constructor
    · rintro ⟨rfl, rfl⟩
      exact ⟨rfl, rfl, rfl⟩
    · rintro ⟨hSpecs, -, rfl⟩
      exact ⟨ext hSpecs.symm, rfl⟩

/-
  After a successful insertion the new spellings find the new
  declaration and every other spelling finds what it found before:
  the write loop touches the index only at the new spellings.
-/
theorem lookup_of_insert
    (h : t.insert line s = .ok (t', id))
    (x : String) :
    t'.lookup x = if x ∈ s.spellings then some t.size else t.lookup x := by
  obtain ⟨-, -, hIndex, -⟩ := insert_eq_ok_iff.mp h
  rw [lookup, hIndex, getElem?_writeSpellings]
  rfl

end OptionTable

end OptionGrammar

------------------------------------------------------------
-- Pushing a Declaration
------------------------------------------------------------

namespace OptionGrammar

namespace OptionTable

/-
  A push is all or nothing.  If some spelling of `s` repeats an
  earlier spelling of `s` or is declared in `t` already, the push
  fails on the first such spelling, with the line the declaration
  would have in a grammar; it returns no table, so `t` stays as it
  was.  Otherwise the push gives `s` the old size as identity,
  appends it, and changes the spelling index only on the spellings
  of `s`, which find it.
-/
theorem push_outcome
    (t : OptionTable)
    (s : OptionSpec) :
    (∀ pre x post, s.spellings = pre ++ x :: post → pre.Nodup →
        (∀ y ∈ pre, t.lookup y = none) → (x ∈ pre ∨ (t.lookup x).isSome) →
          t.push s = .error (.duplicateSpelling (t.size + 1) x)) ∧
      (s.spellings.Nodup → (∀ y ∈ s.spellings, t.lookup y = none) →
        ∃ t', t.push s = .ok (t', t.size) ∧ t'.specs = t.specs ++ [s] ∧
          ∀ x, t'.lookup x = if x ∈ s.spellings then some t.size else t.lookup x) := by
  have hDeclared : ∀ y, t.lookup y = none ↔ y ∉ spellingsOf t.specs := t.lookup_eq_none_iff
  constructor
  · intro pre x post hSplit hNodup hNew hClash
    have hFirst : FirstClash (spellingsOf t.specs) s.spellings x :=
      ⟨pre, post, hSplit, hNodup, fun y hy => (hDeclared y).mp (hNew y hy),
        hClash.imp_right (t.lookup_isSome_iff x).mp⟩
    exact insert_eq_error_iff.mpr ⟨x, hFirst, rfl⟩
  · intro hNodup hNew
    have hDistinct : (spellingsOf (t.specs ++ [s])).Nodup :=
      nodup_spellingsOf_append_single_iff.mpr
        ⟨t.distinct, hNodup, fun b hb => (hDeclared b).mp (hNew b hb)⟩
    obtain ⟨t', hPush, hSpecs⟩ := insert_of_nodup hDistinct (t.size + 1)
    exact ⟨t', hPush, hSpecs, lookup_of_insert hPush⟩

/-
  Adding `-w` with the alias `-v` to a table that declares `-v`
  fails on `-v`, on line 2; adding `-w` alone succeeds.
-/
theorem push_alias_of_declared :
    let t : OptionTable := OptionTable.ofSpecs [OptionSpec.flag "-v"] (by decide)
    let s := (OptionSpec.flag "-w").withAlias "-v"
    (s.spellings = ["-w"] ++ "-v" :: [] ∧ ["-w"].Nodup ∧ (∀ y ∈ ["-w"], t.lookup y = none) ∧
        ("-v" ∈ ["-w"] ∨ (t.lookup "-v").isSome) ∧
        t.push s = .error (.duplicateSpelling (t.size + 1) "-v")) ∧
      ((OptionSpec.flag "-w").spellings.Nodup ∧
        (∀ y ∈ (OptionSpec.flag "-w").spellings, t.lookup y = none) ∧
        ∃ t', t.push (OptionSpec.flag "-w") = .ok (t', t.size) ∧
          t'.specs = t.specs ++ [OptionSpec.flag "-w"] ∧
          ∀ x, t'.lookup x =
            if x ∈ (OptionSpec.flag "-w").spellings then some t.size else t.lookup x) :=
  ⟨⟨rfl, by decide, by decide, by decide,
      (push_outcome _ _).1 ["-w"] "-v" [] rfl (by decide) (by decide) (by decide)⟩,
    ⟨by decide, by decide, (push_outcome _ _).2 (by decide) (by decide)⟩⟩

end OptionTable

end OptionGrammar
