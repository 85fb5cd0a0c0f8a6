import OptionGrammar.Spec
import OptionGrammar.Error
import Std.Data.ExtTreeMap

/-
  Option tables.

  A table holds the declared options in declaration order; the
  place of an option in that order is its identity.  Beside the
  declarations it keeps a spelling index, from each declared
  spelling to the identity of its declaration, and lookups read
  only the index.

  Adding an option runs two loops.  The check loop walks the new
  spellings and stops at the first one that repeats a spelling
  before it in the same declaration, or that the index holds
  already; the insertion then fails with that spelling and the
  table stays as it was.  When nothing clashes, the write loop
  enters every new spelling into the index under the new identity
  and the declaration goes last.  The table carries the two facts
  this keeps true: no spelling is declared twice, and each spelling
  finds in the index the first declaration that has it.

  Two tables are equal when their declarations are.

  Key definitions include:
    * `spellingsOf`, `firstClash?`, `writeSpellings`, `IndexAgrees`
    * `OptionTable`, `OptionTable.insert`, `OptionTable.push`
    * `OptionTable.lookup`, `OptionTable.get?`, `OptionTable.members`
    * `OptionTable.toGrammar`
  Key statements include:
    * `firstClash?_eq_none`, `getElem?_writeSpellings`
    * `IndexAgrees.write`
-/

namespace OptionGrammar

------------------------------------------------------------
-- Spellings
------------------------------------------------------------

/- The spellings of a list of declarations, in order. -/
def spellingsOf (specs : List OptionSpec) : List String := specs.flatMap (·.spellings)

theorem spellingsOf_append (a b : List OptionSpec) :
    spellingsOf (a ++ b) = spellingsOf a ++ spellingsOf b :=
  List.flatMap_append

theorem spellingsOf_append_single (specs : List OptionSpec) (s : OptionSpec) :
    spellingsOf (specs ++ [s]) = spellingsOf specs ++ s.spellings := by
  simp [spellingsOf]

/- Distinct spellings stay distinct up to any one declaration. -/
theorem nodup_spellingsOf_of_cons {specs rest : List OptionSpec} {s : OptionSpec}
    (h : (spellingsOf (specs ++ s :: rest)).Nodup) :
    (spellingsOf (specs ++ [s])).Nodup := by
  rw [← List.singleton_append, ← List.append_assoc, spellingsOf_append] at h
  exact (List.nodup_append.mp h).1

/-
  One more declaration keeps the spellings distinct exactly when its
  own are distinct and none of them is declared already.
-/
theorem nodup_spellingsOf_append_single_iff {specs : List OptionSpec} {s : OptionSpec} :
    (spellingsOf (specs ++ [s])).Nodup ↔
      (spellingsOf specs).Nodup ∧ s.spellings.Nodup ∧ ∀ x ∈ s.spellings, x ∉ spellingsOf specs := by
  rw [spellingsOf_append_single, List.nodup_append]
  constructor
  · rintro ⟨hOld, hOwn, hApart⟩
    exact ⟨hOld, hOwn, fun x hx hTaken => hApart x hTaken x hx rfl⟩
  · rintro ⟨hOld, hOwn, hFresh⟩
    exact ⟨hOld, hOwn, fun a ha b hb e => hFresh b hb (e ▸ ha)⟩

/-
  The check loop of an insertion: the first spelling of `xs` that
  repeats one of `seen`, the spellings checked before it, or that
  `taken` holds.
-/
def firstClash? (taken : String → Bool) (seen : List String) : List String → Option String
  | [] => none
  | x :: xs => if seen.contains x || taken x then some x else firstClash? taken (x :: seen) xs

/-
  When the check loop finds no clash, the new spellings repeat
  neither each other nor one seen before, and none is taken.
-/
theorem firstClash?_eq_none {taken : String → Bool} {seen xs : List String}
    (h : firstClash? taken seen xs = none) :
    xs.Nodup ∧ ∀ a ∈ xs, a ∉ seen ∧ taken a = false := by
  induction xs generalizing seen with
  | nil => exact ⟨List.nodup_nil, by simp⟩
  | cons x xs ih =>
      rw [firstClash?] at h
      split at h
      · cases h
      · rename_i hx
        obtain ⟨hNodup, hFresh⟩ := ih h
        simp only [Bool.or_eq_true, List.contains_iff_mem, not_or, Bool.not_eq_true] at hx
        refine ⟨List.nodup_cons.mpr ⟨fun hm => (hFresh x hm).1 List.mem_cons_self, hNodup⟩, ?_⟩
        intro a ha
        rcases List.mem_cons.mp ha with rfl | hm
        · exact hx
        · exact ⟨fun hs => (hFresh a hm).1 (List.mem_cons_of_mem x hs), (hFresh a hm).2⟩

------------------------------------------------------------
-- The Spelling Index
------------------------------------------------------------

/-
  The spelling index: each declared spelling with the identity of
  its declaration.  Only lookups and insertions are made, never a
  walk over the entries, so the order in which a map keeps them is
  never seen; two indexes with the same entries are equal.
-/
abbrev SpellingIndex := Std.ExtTreeMap String Nat compare

/- The write loop of an insertion: every spelling of `xs` now finds `id`. -/
def writeSpellings (index : SpellingIndex) (id : Nat) (xs : List String) : SpellingIndex :=
  xs.foldl (fun m x => m.insert x id) index

@[simp] theorem getElem?_writeSpellings (index : SpellingIndex) (id : Nat)
    (xs : List String) (x : String) :
    (writeSpellings index id xs)[x]? = if x ∈ xs then some id else index[x]? := by
  -- the loop starts from any index, so the induction generalises it
  induction xs generalizing index with
  | nil => simp [writeSpellings]
  | cons y ys ih =>
      simp only [writeSpellings, List.foldl_cons] at ih ⊢
      rw [ih, Std.ExtTreeMap.getElem?_insert]
      by_cases h : x ∈ ys
      · simp [h]
      · by_cases hy : y = x
        · subst hy
          simp
        · have hCmp : compare y x ≠ .eq := fun e => hy (Std.compare_eq_iff_eq.mp e)
          simp [h, hCmp, Ne.symm hy]

/-
  An index agrees with a list of declarations when each spelling
  finds the first declaration that has it, and nothing else.
-/
def IndexAgrees (index : SpellingIndex) (specs : List OptionSpec) : Prop :=
  ∀ x, index[x]? = specs.findIdx? (·.hasSpelling x)

theorem IndexAgrees.empty : IndexAgrees ∅ [] := by
  intro x
  simp

/- A spelling is in an agreeing index exactly when it is declared. -/
theorem IndexAgrees.contains_iff {index : SpellingIndex} {specs : List OptionSpec}
    (h : IndexAgrees index specs) (x : String) :
    index.contains x = true ↔ x ∈ spellingsOf specs := by
  rw [Std.ExtTreeMap.contains_eq_isSome_getElem?, h x, Option.isSome_iff_ne_none, Ne,
    List.findIdx?_eq_none_iff, spellingsOf, List.mem_flatMap]
  simp [OptionSpec.hasSpelling]

/-
  One step of the write loop keeps the index in agreement: after
  declarations none of which has a spelling of `s`, the spellings
  of `s` find `s`, and every other spelling finds what it found.
-/
theorem IndexAgrees.write {index : SpellingIndex} {specs : List OptionSpec} {s : OptionSpec}
    (h : IndexAgrees index specs) (hFresh : ∀ x ∈ s.spellings, x ∉ spellingsOf specs) :
    IndexAgrees (writeSpellings index specs.length s.spellings) (specs ++ [s]) := by
  intro x
  rw [getElem?_writeSpellings, List.findIdx?_append, List.findIdx?_singleton]
  by_cases hx : x ∈ s.spellings
  · -- no earlier declaration has a new spelling
    have hAbsent : index.contains x = false := by
      rw [Bool.eq_false_iff, Ne, h.contains_iff]
      exact hFresh x hx
    have hNone : specs.findIdx? (·.hasSpelling x) = none := by
      rw [← h x]
      exact Std.ExtTreeMap.getElem?_eq_none_of_contains_eq_false hAbsent
    rw [hNone]
    simp [hx, OptionSpec.hasSpelling]
  · simp [hx, h x, OptionSpec.hasSpelling]

/-
  The index that write loops over `rest`, the first taking identity
  `id`, add to `index`.
-/
def indexFrom (id : Nat) (index : SpellingIndex) : List OptionSpec → SpellingIndex
  | [] => index
  | s :: rest => indexFrom (id + 1) (writeSpellings index id s.spellings) rest

/-
  Write loops over declarations with distinct spellings keep the
  index in agreement; the induction carries the declarations
  written so far.
-/
theorem IndexAgrees.indexFrom {index : SpellingIndex} {done : List OptionSpec}
    (h : IndexAgrees index done) (rest : List OptionSpec)
    (hDistinct : (spellingsOf (done ++ rest)).Nodup) :
    IndexAgrees (OptionGrammar.indexFrom done.length index rest) (done ++ rest) := by
  induction rest generalizing index done with
  | nil => simpa [OptionGrammar.indexFrom] using h
  | cons s rest ih =>
      have hNew :=
        (nodup_spellingsOf_append_single_iff.mp (nodup_spellingsOf_of_cons hDistinct)).2.2
      have hStep := ih (h.write hNew) (by simpa using hDistinct)
      simpa [OptionGrammar.indexFrom] using hStep

------------------------------------------------------------
-- Tables
------------------------------------------------------------

/- The declared options in declaration order, with their spelling index. -/
structure OptionTable where
  specs : List OptionSpec
  index : SpellingIndex
  agrees : IndexAgrees index specs
  distinct : (spellingsOf specs).Nodup

namespace OptionTable

/- The table with no options. -/
def empty : OptionTable := ⟨[], ∅, IndexAgrees.empty, List.nodup_nil⟩

instance : Inhabited OptionTable := ⟨empty⟩

instance : BEq OptionTable := ⟨fun a b => a.specs == b.specs⟩

def size (t : OptionTable) : Nat := t.specs.length

def isEmpty (t : OptionTable) : Bool := t.specs.isEmpty

/- Add an option, as declared on line `line`; gives its identity. -/
def insert (t : OptionTable) (line : Nat) (s : OptionSpec) : Except ArgError (OptionTable × Nat) :=
  match h : firstClash? t.index.contains [] s.spellings with
  | some x => .error (.duplicateSpelling line x)
  | none =>
      let fresh := firstClash?_eq_none h
      have hNew : ∀ x ∈ s.spellings, x ∉ spellingsOf t.specs := fun x hx hTaken => by
        rw [← t.agrees.contains_iff] at hTaken
        simp [(fresh.2 x hx).2] at hTaken
      have hd := nodup_spellingsOf_append_single_iff.mpr ⟨t.distinct, fresh.1, hNew⟩
      .ok (⟨t.specs ++ [s], writeSpellings t.index t.size s.spellings, t.agrees.write hNew, hd⟩,
        t.size)

/-
  Add an option; a repeated spelling is reported on the line the
  option would have in a grammar text.
-/
def push (t : OptionTable) (s : OptionSpec) : Except ArgError (OptionTable × Nat) :=
  t.insert (t.size + 1) s

/- The identity of the option with a spelling, as the index has it. -/
def lookup (t : OptionTable) (spelling : String) : Option Nat := t.index[spelling]?

def get? (t : OptionTable) (id : Nat) : Option OptionSpec := t.specs[id]?

def spec? (t : OptionTable) (spelling : String) : Option OptionSpec :=
  (t.lookup spelling).bind t.get?

/- The options with their identities, in declaration order. -/
def entries (t : OptionTable) : List (Nat × OptionSpec) :=
  (List.range t.size).zip t.specs

/- The identities of the options of a group, in declaration order. -/
def members (t : OptionTable) (g : Group) : List Nat :=
  (t.entries.filter fun (_, s) => s.group == g).map (·.1)

/- The table in the grammar language, one line per option. -/
def toGrammar (t : OptionTable) : String :=
  String.join (t.specs.map (·.toGrammarLine ++ "\n"))

@[simp] theorem size_empty : empty.size = 0 := rfl

/- Looking a spelling up finds the first declaration that has it. -/
theorem lookup_eq_findIdx? (t : OptionTable) (spelling : String) :
    t.lookup spelling = t.specs.findIdx? (·.hasSpelling spelling) :=
  t.agrees spelling

/- Two tables with the same declarations are the same table. -/
theorem ext {a b : OptionTable} (h : a.specs = b.specs) : a = b := by
  obtain ⟨specs, index, agrees, distinct⟩ := a
  obtain ⟨specs', index', agrees', distinct'⟩ := b
  dsimp only at h
  subst h
  -- both indexes agree with the same declarations, so they have the same entries
  have hIndex : index = index' :=
    Std.ExtTreeMap.ext_getElem? fun x => (agrees x).trans (agrees' x).symm
  subst hIndex
  rfl

/- The table of declarations whose spellings are distinct, indexed in order. -/
def ofSpecs (specs : List OptionSpec) (h : (spellingsOf specs).Nodup) : OptionTable :=
  ⟨specs, indexFrom 0 ∅ specs, IndexAgrees.empty.indexFrom specs h, h⟩

@[simp] theorem specs_ofSpecs (specs : List OptionSpec) (h : (spellingsOf specs).Nodup) :
    (ofSpecs specs h).specs = specs := rfl

end OptionTable

end OptionGrammar
