import OptionGrammar.Table
import Mathlib.Data.List.Nodup

/-
  The spelling index of an option table.

  A table keeps its declarations in order and never lets two of
  them share a spelling, nor one of them repeat a spelling; its
  index gives each spelling the first declaration that has it.  So
  looking a spelling up in the index finds exactly the declaration
  that has it: `lookup` answers `i` when, and only when, the `i`-th
  declaration has the spelling.  Each identity that `lookup` gives
  names a declaration, and declarations with a spelling have
  distinct canonical names.

  Main declarations:
    * `OptionTable.eq_of_mem_spellings`
    * `OptionTable.lookup_eq_some_iff`
    * `OptionTable.spelling_index`
-/

------------------------------------------------------------
-- Distinct Spellings
------------------------------------------------------------

namespace OptionGrammar

namespace OptionTable

/-
  No spelling is repeated within a declaration, and two earlier
  and later declarations share none.
-/
theorem distinct_iff
    (specs : List OptionSpec) :
    (spellingsOf specs).Nodup ↔
      (∀ s ∈ specs, s.spellings.Nodup) ∧
        specs.Pairwise fun a b => List.Disjoint a.spellings b.spellings := by
  unfold spellingsOf
  exact List.nodup_flatMap

theorem spellings_nodup
    (t : OptionTable)
    {s : OptionSpec}
    (hs : s ∈ t.specs) :
    s.spellings.Nodup :=
  ((distinct_iff t.specs).mp t.distinct).1 s hs

/-
  Two declarations that have one spelling are the same
  declaration: the earlier of two different ones would share a
  spelling with the later.
-/
theorem eq_of_mem_spellings
    (t : OptionTable)
    {i j : Nat}
    {a b : OptionSpec}
    {spelling : String}
    (hi : t.get? i = some a)
    (hj : t.get? j = some b)
    (ha : spelling ∈ a.spellings)
    (hb : spelling ∈ b.spellings) :
    i = j := by
  have hPairwise := ((distinct_iff t.specs).mp t.distinct).2
  obtain ⟨hiLt, rfl⟩ := List.getElem?_eq_some_iff.mp hi
  obtain ⟨hjLt, rfl⟩ := List.getElem?_eq_some_iff.mp hj
  have hApart : ∀ p q (hp : p < t.specs.length) (hq : q < t.specs.length),
      p < q → spelling ∈ t.specs[p].spellings →
        spelling ∉ t.specs[q].spellings := by
    intro p q hp hq hpq hMem
    exact List.disjoint_left.mp
      (List.pairwise_iff_getElem.mp hPairwise p q hp hq hpq) hMem
  rcases Nat.lt_trichotomy i j with hLt | hEq | hGt
  · exact absurd hb (hApart i j hiLt hjLt hLt ha)
  · exact hEq
  · exact absurd ha (hApart j i hjLt hiLt hGt hb)

end OptionTable

end OptionGrammar

------------------------------------------------------------
-- Looking a Spelling Up
------------------------------------------------------------

namespace OptionGrammar

namespace OptionTable

theorem hasSpelling_iff
    (s : OptionSpec)
    (token : String) :
    s.hasSpelling token = true ↔ token ∈ s.spellings := by
  unfold OptionSpec.hasSpelling
  exact List.contains_iff_mem

/-
  The index gives the first declaration with the spelling; since no
  other declaration has it, that is the one declaration with it.
-/
theorem lookup_eq_some_iff
    (t : OptionTable)
    (spelling : String)
    (i : Nat) :
    t.lookup spelling = some i ↔
      ∃ s, t.get? i = some s ∧ spelling ∈ s.spellings := by
  rw [lookup_eq_findIdx?, List.findIdx?_eq_some_iff_getElem]
  constructor
  · rintro ⟨hLt, hHas, -⟩
    exact ⟨t.specs[i], List.getElem?_eq_getElem hLt,
      (hasSpelling_iff _ _).mp hHas⟩
  · rintro ⟨s, hs, hMem⟩
    obtain ⟨hLt, rfl⟩ := List.getElem?_eq_some_iff.mp hs
    refine ⟨hLt, (hasSpelling_iff _ _).mpr hMem, ?_⟩
    intro j hji hHas
    have hSame := t.eq_of_mem_spellings (List.getElem?_eq_getElem hLt)
      (List.getElem?_eq_getElem (Nat.lt_trans hji hLt)) hMem
      ((hasSpelling_iff _ _).mp hHas)
    omega

end OptionTable

end OptionGrammar

------------------------------------------------------------
-- The Index Invariant
------------------------------------------------------------

namespace OptionGrammar

namespace OptionTable

theorem canonical_mem_spellings
    {s : OptionSpec}
    (hs : s.spellings ≠ []) :
    s.canonical ∈ s.spellings := by
  unfold OptionSpec.canonical
  obtain ⟨first, rest, hSplit⟩ := List.exists_cons_of_ne_nil hs
  rw [hSplit]
  exact List.mem_cons_self

/- Declarations with a spelling that share their canonical name are the same. -/
theorem eq_of_canonical_eq
    (t : OptionTable)
    {i j : Nat}
    {a b : OptionSpec}
    (hi : t.get? i = some a)
    (hj : t.get? j = some b)
    (ha : a.spellings ≠ [])
    (hb : b.spellings ≠ [])
    (hCanonical : a.canonical = b.canonical) :
    i = j := by
  have hMemA := canonical_mem_spellings ha
  rw [hCanonical] at hMemA
  exact t.eq_of_mem_spellings hi hj hMemA (canonical_mem_spellings hb)

/-
  Every table, so every table built by adding options one by one
  or loaded from a grammar, keeps its spelling index exact:
  `lookup` gives `i` exactly for the spellings of the `i`-th
  declaration, no spelling belongs to two declarations or twice to
  one, every identity `lookup` gives names a declaration, and
  declarations with a spelling have distinct canonical names.
-/
theorem spelling_index
    (t : OptionTable) :
    (∀ spelling i, t.lookup spelling = some i ↔
        ∃ s, t.get? i = some s ∧ spelling ∈ s.spellings) ∧
      (∀ spelling i j a b, t.get? i = some a → t.get? j = some b →
        spelling ∈ a.spellings → spelling ∈ b.spellings → i = j) ∧
      (∀ s ∈ t.specs, s.spellings.Nodup) ∧
      (∀ spelling i, t.lookup spelling = some i → (t.get? i).isSome) ∧
      (∀ i j a b, t.get? i = some a → t.get? j = some b →
        a.spellings ≠ [] → b.spellings ≠ [] →
          a.canonical = b.canonical → i = j) := by
  refine ⟨t.lookup_eq_some_iff, ?_, ?_, ?_, ?_⟩
  · intro spelling i j a b hi hj ha hb
    exact t.eq_of_mem_spellings hi hj ha hb
  · intro s hs
    exact t.spellings_nodup hs
  · intro spelling i hLookup
    obtain ⟨s, hs, -⟩ := (t.lookup_eq_some_iff spelling i).mp hLookup
    rw [hs]
    rfl
  · intro i j a b hi hj ha hb hCanonical
    exact t.eq_of_canonical_eq hi hj ha hb hCanonical

/- Both spellings of a declaration find it; an undeclared one finds nothing. -/
example :
    let t : OptionTable :=
      OptionTable.ofSpecs [(OptionSpec.flag "-o").withAlias "--output", OptionSpec.flag "-v"]
        (by decide)
    t.lookup "-o" = some 0 ∧ t.lookup "--output" = some 0 ∧
      t.lookup "-v" = some 1 ∧ t.lookup "--missing" = none := by
  decide

end OptionTable

end OptionGrammar
