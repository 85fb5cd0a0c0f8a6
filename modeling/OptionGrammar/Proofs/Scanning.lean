import OptionGrammar.Proofs.Acceptance
import OptionGrammar.Proofs.SpellingIndex
import OptionGrammar.Proofs.ParseHistory
import Mathlib

/-
  One pass over the arguments.

  The scan reads its arguments once, from left to right, and
  carries nothing from one token to the next but what it has
  captured.  Three facts say so.  It is a homomorphism over
  concatenation at a token boundary: after a list that scans to
  `P`, a further list adds to `P` what it scans to on its own, or
  fails as it fails on its own; and a refused value fails every
  longer list in the same way.  Every token is accounted for: a
  positional token once, an occurrence of an option once for its
  spelling and once more for its value when it takes one.  And the
  scan fails exactly at the first option, met at a token boundary,
  that takes a value and either ends the arguments or is followed
  by a value its pattern refuses.

  Main declarations:
    * `Captured.append`, `OptionSpec.width`, `OptionTable.optionTokens`
    * `OptionTable.scan_append_of_ok`, `OptionTable.scan_append_of_badArgument`
    * `OptionTable.Accounts`, `OptionTable.accounts_of_scans`
    * `OptionTable.scan_eq_error_iff`
    * `OptionTable.scan_concatenation`
    * `OptionTable.scan_token_accounting`
-/

------------------------------------------------------------
-- Captures Read One After Another
------------------------------------------------------------

namespace OptionGrammar

namespace Captured

/- What two argument lists capture when read one after the other. -/
def append (c d : Captured) : Captured :=
  { occurrences := c.occurrences ++ d.occurrences
    positional := c.positional ++ d.positional }

instance : Append Captured := ⟨append⟩

variable (c d : Captured) (id j : Nat) (value token : String)

@[simp] theorem occurrences_append :
    (c ++ d).occurrences = c.occurrences ++ d.occurrences := rfl

@[simp] theorem positional_append :
    (c ++ d).positional = c.positional ++ d.positional := rfl

@[simp] theorem empty_append : ({} : Captured) ++ c = c := rfl

theorem consOccurrence_append :
    c.consOccurrence id value ++ d = (c ++ d).consOccurrence id value := rfl

theorem consPositional_append :
    c.consPositional token ++ d = (c ++ d).consPositional token := rfl

@[simp] theorem valuesOf_append :
    (c ++ d).valuesOf id = c.valuesOf id ++ d.valuesOf id := by
  simp [valuesOf]

@[simp] theorem count_append : (c ++ d).count id = c.count id + d.count id := by
  simp [count]

@[simp] theorem positional_consOccurrence :
    (c.consOccurrence id value).positional = c.positional := rfl

@[simp] theorem positional_consPositional :
    (c.consPositional token).positional = token :: c.positional := rfl

@[simp] theorem valuesOf_consPositional :
    (c.consPositional token).valuesOf j = c.valuesOf j := rfl

@[simp] theorem count_consPositional :
    (c.consPositional token).count j = c.count j := rfl

theorem valuesOf_consOccurrence :
    (c.consOccurrence id value).valuesOf j =
      if id = j then value :: c.valuesOf j else c.valuesOf j := by
  by_cases hSame : id = j <;> simp [valuesOf, consOccurrence, hSame]

theorem count_consOccurrence :
    (c.consOccurrence id value).count j = c.count j + if id = j then 1 else 0 := by
  unfold count
  rw [valuesOf_consOccurrence]
  by_cases hSame : id = j
  · simp [hSame]
  · simp [hSame]

end Captured

end OptionGrammar

------------------------------------------------------------
-- One Token at the Head
------------------------------------------------------------

namespace OptionGrammar

/- A mapped computation that succeeded succeeded before the map. -/
theorem Except.eq_ok_of_map_eq_ok
    {ε α β : Type}
    {f : α → β}
    {x : Except ε α}
    {b : β}
    (h : f <$> x = .ok b) :
    ∃ a, x = .ok a ∧ f a = b := by
  cases x with
  | error e => cases h
  | ok a => exact ⟨a, rfl, Except.ok.inj h⟩

/- A mapped computation that failed failed before the map. -/
theorem Except.eq_error_of_map_eq_error
    {ε α β : Type}
    {f : α → β}
    {x : Except ε α}
    {e : ε}
    (h : f <$> x = .error e) :
    x = .error e := by
  cases x with
  | error e' =>
      cases h
      rfl
  | ok a => cases h

namespace OptionTable

variable {t : OptionTable} {tok value : String} {rest : List String}
variable {id : Nat} {s : OptionSpec} {p : ValuePattern}

/-
  The scan asks of a token the declaration it names; since every
  identity `lookup` gives names a declaration, that asks only
  `lookup`.
-/
theorem head_eq_none_iff :
    ((t.lookup tok).bind fun id => (t.get? id).map ((id, ·))) = none ↔
      t.lookup tok = none := by
  cases hLookup : t.lookup tok with
  | none => simp
  | some i =>
      obtain ⟨s, hs, -⟩ := (t.lookup_eq_some_iff tok i).mp hLookup
      simp [hs]

theorem head_eq_some_iff :
    ((t.lookup tok).bind fun id => (t.get? id).map ((id, ·))) = some (id, s) ↔
      t.lookup tok = some id ∧ t.get? id = some s := by
  cases t.lookup tok with
  | none => simp
  | some i =>
      simp only [Option.bind_some, Option.map_eq_some_iff, Prod.mk.injEq,
        Option.some.injEq]
      constructor
      · rintro ⟨s', hs', rfl, rfl⟩
        exact ⟨rfl, hs'⟩
      · rintro ⟨rfl, hs'⟩
        exact ⟨s, hs', rfl, rfl⟩

theorem scan_undeclared
    (hLookup : t.lookup tok = none)
    (rest : List String) :
    t.scan (tok :: rest) = (·.consPositional tok) <$> t.scan rest := by
  simp only [scan, head_eq_none_iff.mpr hLookup]
  rfl

theorem scan_flag
    (hLookup : t.lookup tok = some id)
    (hSpec : t.get? id = some s)
    (hParam : s.param = none)
    (rest : List String) :
    t.scan (tok :: rest) = (·.consOccurrence id "") <$> t.scan rest := by
  simp only [scan, head_eq_some_iff.mpr ⟨hLookup, hSpec⟩, hParam]
  rfl

theorem scan_value
    (hLookup : t.lookup tok = some id)
    (hSpec : t.get? id = some s)
    (hParam : s.param = some p)
    (hAccepts : p.accepts value = true)
    (rest : List String) :
    t.scan (tok :: value :: rest) =
      (·.consOccurrence id value) <$> t.scan rest := by
  simp only [scan, head_eq_some_iff.mpr ⟨hLookup, hSpec⟩, hParam, hAccepts]
  rfl

theorem scan_missing
    (hLookup : t.lookup tok = some id)
    (hSpec : t.get? id = some s)
    (hParam : s.param = some p) :
    t.scan [tok] = .error (.missingParameter tok) := by
  simp only [scan, head_eq_some_iff.mpr ⟨hLookup, hSpec⟩, hParam]

theorem scan_refused
    (hLookup : t.lookup tok = some id)
    (hSpec : t.get? id = some s)
    (hParam : s.param = some p)
    (hRefused : p.accepts value = false)
    (rest : List String) :
    t.scan (tok :: value :: rest) =
      .error (.badArgument tok p.declared value) := by
  simp only [scan, head_eq_some_iff.mpr ⟨hLookup, hSpec⟩, hParam, hRefused]
  rfl

end OptionTable

end OptionGrammar

------------------------------------------------------------
-- Successful Scans, Step by Step
------------------------------------------------------------

namespace OptionGrammar

namespace OptionTable

/-
  The successful scans as a relation, one constructor for each way
  the scan reads the token at the head and goes on.
-/
inductive Scans (t : OptionTable) : List String → Captured → Prop
  /- Nothing is left. -/
  | nil : Scans t [] {}
  /- A token that names no option is positional. -/
  | undeclared {tok : String} {rest : List String} {c : Captured} :
      t.lookup tok = none → Scans t rest c →
      Scans t (tok :: rest) (c.consPositional tok)
  /- A flag records the empty text. -/
  | flag {tok : String} {rest : List String} {c : Captured} {id : Nat} {s : OptionSpec} :
      t.lookup tok = some id → t.get? id = some s → s.param = none →
      Scans t rest c →
      Scans t (tok :: rest) (c.consOccurrence id "")
  /- An option that takes a value records the next token, which its
     pattern accepts. -/
  | value {tok value : String} {rest : List String} {c : Captured} {id : Nat}
      {s : OptionSpec} {p : ValuePattern} :
      t.lookup tok = some id → t.get? id = some s → s.param = some p →
      p.accepts value = true → Scans t rest c →
      Scans t (tok :: value :: rest) (c.consOccurrence id value)

variable {t : OptionTable}

theorem scans_of_scan_eq_ok
    {args : List String}
    {c : Captured}
    (h : t.scan args = .ok c) :
    Scans t args c := by
  induction args using OptionTable.scan.induct (t := t) generalizing c with
  | case1 =>
      cases h
      exact Scans.nil
  | case2 tok rest hHead ih =>
      have hLookup := head_eq_none_iff.mp hHead
      rw [scan_undeclared hLookup] at h
      obtain ⟨c', hRest, rfl⟩ := Except.eq_ok_of_map_eq_ok h
      exact Scans.undeclared hLookup (ih hRest)
  | case3 tok rest id s hHead hParam ih =>
      obtain ⟨hLookup, hSpec⟩ := head_eq_some_iff.mp hHead
      rw [scan_flag hLookup hSpec hParam] at h
      obtain ⟨c', hRest, rfl⟩ := Except.eq_ok_of_map_eq_ok h
      exact Scans.flag hLookup hSpec hParam (ih hRest)
  | case4 tok id s hHead p hParam =>
      obtain ⟨hLookup, hSpec⟩ := head_eq_some_iff.mp hHead
      rw [scan_missing hLookup hSpec hParam] at h
      cases h
  | case5 tok id s hHead p hParam value rest hAccepts ih =>
      obtain ⟨hLookup, hSpec⟩ := head_eq_some_iff.mp hHead
      rw [scan_value hLookup hSpec hParam hAccepts] at h
      obtain ⟨c', hRest, rfl⟩ := Except.eq_ok_of_map_eq_ok h
      exact Scans.value hLookup hSpec hParam hAccepts (ih hRest)
  | case6 tok id s hHead p hParam value rest hRefused =>
      obtain ⟨hLookup, hSpec⟩ := head_eq_some_iff.mp hHead
      rw [scan_refused hLookup hSpec hParam (Bool.eq_false_iff.mpr hRefused)] at h
      cases h

theorem scan_eq_ok_of_scans
    {args : List String}
    {c : Captured}
    (h : Scans t args c) :
    t.scan args = .ok c := by
  induction h with
  | nil => rfl
  | undeclared hLookup _ ih =>
      rw [scan_undeclared hLookup, ih]
      rfl
  | flag hLookup hSpec hParam _ ih =>
      rw [scan_flag hLookup hSpec hParam, ih]
      rfl
  | value hLookup hSpec hParam hAccepts _ ih =>
      rw [scan_value hLookup hSpec hParam hAccepts, ih]
      rfl

theorem scan_eq_ok_iff
    {args : List String}
    {c : Captured} :
    t.scan args = .ok c ↔ Scans t args c :=
  ⟨scans_of_scan_eq_ok, scan_eq_ok_of_scans⟩

end OptionTable

end OptionGrammar

------------------------------------------------------------
-- Failure and Concatenation
------------------------------------------------------------

namespace OptionGrammar

namespace OptionTable

variable {t : OptionTable}

/-
  After a list that scans to `P`, the scan goes on from a token
  boundary with nothing pending, so a further list adds what it
  scans to on its own.
-/
theorem scan_append_of_ok
    {A : List String}
    {P : Captured}
    (h : t.scan A = .ok P)
    (B : List String) :
    t.scan (A ++ B) = (P ++ ·) <$> t.scan B := by
  have hScans := scans_of_scan_eq_ok h
  clear h
  induction hScans with
  | nil => simp
  | undeclared hLookup _ ih =>
      rw [List.cons_append, scan_undeclared hLookup, ih, Functor.map_map]
      rfl
  | flag hLookup hSpec hParam _ ih =>
      rw [List.cons_append, scan_flag hLookup hSpec hParam, ih, Functor.map_map]
      rfl
  | value hLookup hSpec hParam hAccepts _ ih =>
      rw [List.cons_append, List.cons_append,
        scan_value hLookup hSpec hParam hAccepts, ih, Functor.map_map]
      rfl

/-
  The scan fails exactly where it meets, at a token boundary after
  a prefix it reads through, an option that takes a value and
  either ends the arguments or is followed by a value its pattern
  refuses.  The error names the token as typed.
-/
theorem scan_eq_error_iff
    {args : List String}
    {e : ArgError} :
    t.scan args = .error e ↔
      ∃ pre tok rest id s p,
        args = pre ++ tok :: rest ∧ (∃ c, t.scan pre = .ok c) ∧
          t.lookup tok = some id ∧ t.get? id = some s ∧ s.param = some p ∧
          ((rest = [] ∧ e = .missingParameter tok) ∨
            ∃ value rest', rest = value :: rest' ∧ p.accepts value = false ∧
              e = .badArgument tok p.declared value) := by
  constructor
  · intro h
    induction args using OptionTable.scan.induct (t := t) with
    | case1 => cases h
    | case2 tok rest hHead ih =>
        -- the failure lies in the rest, after one positional token
        have hLookup := head_eq_none_iff.mp hHead
        rw [scan_undeclared hLookup] at h
        obtain ⟨pre, tok', rest', id, s, p, rfl, ⟨c, hPre⟩, hFail⟩ :=
          ih (Except.eq_error_of_map_eq_error h)
        refine ⟨tok :: pre, tok', rest', id, s, p, rfl, ?_, hFail⟩
        exact ⟨c.consPositional tok, by rw [scan_undeclared hLookup, hPre]; rfl⟩
    | case3 tok rest id s hHead hParam ih =>
        obtain ⟨hLookup, hSpec⟩ := head_eq_some_iff.mp hHead
        rw [scan_flag hLookup hSpec hParam] at h
        obtain ⟨pre, tok', rest', id', s', p, rfl, ⟨c, hPre⟩, hFail⟩ :=
          ih (Except.eq_error_of_map_eq_error h)
        refine ⟨tok :: pre, tok', rest', id', s', p, rfl, ?_, hFail⟩
        exact ⟨c.consOccurrence id "", by rw [scan_flag hLookup hSpec hParam, hPre]; rfl⟩
    | case4 tok id s hHead p hParam =>
        obtain ⟨hLookup, hSpec⟩ := head_eq_some_iff.mp hHead
        rw [scan_missing hLookup hSpec hParam] at h
        cases h
        exact ⟨[], tok, [], id, s, p, rfl, ⟨{}, rfl⟩, hLookup, hSpec, hParam,
          Or.inl ⟨rfl, rfl⟩⟩
    | case5 tok id s hHead p hParam value rest hAccepts ih =>
        obtain ⟨hLookup, hSpec⟩ := head_eq_some_iff.mp hHead
        rw [scan_value hLookup hSpec hParam hAccepts] at h
        obtain ⟨pre, tok', rest', id', s', p', rfl, ⟨c, hPre⟩, hFail⟩ :=
          ih (Except.eq_error_of_map_eq_error h)
        refine ⟨tok :: value :: pre, tok', rest', id', s', p', rfl, ?_, hFail⟩
        exact ⟨c.consOccurrence id value,
          by rw [scan_value hLookup hSpec hParam hAccepts, hPre]; rfl⟩
    | case6 tok id s hHead p hParam value rest hRefused =>
        obtain ⟨hLookup, hSpec⟩ := head_eq_some_iff.mp hHead
        have hRefused' := Bool.eq_false_iff.mpr hRefused
        rw [scan_refused hLookup hSpec hParam hRefused'] at h
        cases h
        exact ⟨[], tok, value :: rest, id, s, p, rfl, ⟨{}, rfl⟩, hLookup, hSpec,
          hParam, Or.inr ⟨value, rest, rfl, hRefused', rfl⟩⟩
  · rintro ⟨pre, tok, rest, id, s, p, rfl, ⟨c, hPre⟩, hLookup, hSpec, hParam, hEnd⟩
    rw [scan_append_of_ok hPre]
    rcases hEnd with ⟨rfl, rfl⟩ | ⟨value, rest', rfl, hRefused, rfl⟩
    · rw [scan_missing hLookup hSpec hParam]
      rfl
    · rw [scan_refused hLookup hSpec hParam hRefused]
      rfl

/-
  A refused value lies inside the list, so reading further tokens
  after it changes nothing.
-/
theorem scan_append_of_badArgument
    {A : List String}
    {option expected actual : String}
    (h : t.scan A = .error (.badArgument option expected actual))
    (B : List String) :
    t.scan (A ++ B) = .error (.badArgument option expected actual) := by
  obtain ⟨pre, tok, rest, id, s, p, rfl, hPre, hLookup, hSpec, hParam, hEnd⟩ :=
    scan_eq_error_iff.mp h
  -- a missing value would end `A`; a refused one is followed by the rest of `A`,
  -- to which `B` is appended
  rcases hEnd with ⟨_, hMissing⟩ | ⟨value, rest', rfl, hRefused, hBad⟩
  · cases hMissing
  · exact scan_eq_error_iff.mpr ⟨pre, tok, value :: (rest' ++ B), id, s, p, by simp,
      hPre, hLookup, hSpec, hParam, Or.inr ⟨value, rest' ++ B, rfl, hRefused, hBad⟩⟩

/-
  The scan is a homomorphism over concatenation at a token
  boundary.  If `A` scans to `P`, then `A ++ B` scans to `P ++ Q`
  when `B` scans to `Q`, which appends the values of `Q` to those
  of `P` option by option and the positional tokens likewise, and
  fails with the error of `B` otherwise.  If a value of `A` is
  refused, `A ++ B` fails with the same error.
-/
theorem scan_concatenation
    (t : OptionTable)
    (A B : List String) :
    (∀ P, t.scan A = .ok P →
      (∀ Q, t.scan B = .ok Q →
        t.scan (A ++ B) = .ok (P ++ Q) ∧
          (∀ id, (P ++ Q).valuesOf id = P.valuesOf id ++ Q.valuesOf id) ∧
          (P ++ Q).positional = P.positional ++ Q.positional) ∧
      (∀ e, t.scan B = .error e → t.scan (A ++ B) = .error e)) ∧
    ∀ option expected actual,
      t.scan A = .error (.badArgument option expected actual) →
        t.scan (A ++ B) = .error (.badArgument option expected actual) := by
  refine ⟨?_, fun _ _ _ hBad => scan_append_of_badArgument hBad B⟩
  intro P hA
  have hSplit := scan_append_of_ok hA B
  constructor
  · intro Q hB
    rw [hSplit, hB]
    exact ⟨rfl, fun id => Captured.valuesOf_append P Q id, rfl⟩
  · intro e hB
    rw [hSplit, hB]
    rfl

end OptionTable

end OptionGrammar

------------------------------------------------------------
-- Every Token Accounted For
------------------------------------------------------------

namespace OptionGrammar

/-
  How many argument tokens one occurrence of an option takes: its
  spelling, and its value when it takes one.
-/
def OptionSpec.width (s : OptionSpec) : Nat := if s.takesValue then 2 else 1

namespace OptionTable

/-
  How many argument tokens the occurrences of options in a capture
  take: each option's count times its width, summed over the
  declarations.
-/
def optionTokens (t : OptionTable) (c : Captured) : Nat :=
  (t.entries.map fun e => c.count e.1 * e.2.width).sum

theorem entries_keys_nodup (t : OptionTable) : (t.entries.map Prod.fst).Nodup := by
  unfold entries size
  rw [List.map_fst_zip (by simp)]
  exact List.nodup_range

/-
  A sum over a list with distinct keys of a term that vanishes away
  from one key is the term at that key.
-/
theorem sum_map_eq_at_key
    {α : Type}
    {l : List (Nat × α)}
    {id : Nat}
    {a : α}
    (hKeys : (l.map Prod.fst).Nodup)
    (hMem : (id, a) ∈ l)
    (f : Nat × α → Nat)
    (hZero : ∀ e ∈ l, e.1 ≠ id → f e = 0) :
    (l.map f).sum = f (id, a) := by
  induction l with
  | nil => cases hMem
  | cons e l ih =>
      rw [List.map_cons, List.nodup_cons] at hKeys
      rw [List.map_cons, List.sum_cons]
      by_cases hKey : e.1 = id
      · -- `e` is the entry at `id`, and no later entry has that key
        have hLater : ∀ e' ∈ l, e'.1 ≠ id := by
          intro e' he' hSame
          exact hKeys.1 (List.mem_map.mpr ⟨e', he', hSame.trans hKey.symm⟩)
        have hRest : (l.map f).sum = 0 := by
          apply List.sum_eq_zero
          intro x hx
          obtain ⟨e', he', rfl⟩ := List.mem_map.mp hx
          exact hZero e' (List.mem_cons_of_mem e he') (hLater e' he')
        have hHead : e = (id, a) := by
          rcases List.mem_cons.mp hMem with hFirst | hTail
          · exact hFirst.symm
          · exact absurd rfl (hLater _ hTail)
        rw [hRest, hHead, Nat.add_zero]
      · have hTail : (id, a) ∈ l := by
          rcases List.mem_cons.mp hMem with hFirst | hTail
          · exact absurd (congrArg Prod.fst hFirst).symm hKey
          · exact hTail
        rw [hZero e List.mem_cons_self hKey, Nat.zero_add,
          ih hKeys.2 hTail (fun e' he' => hZero e' (List.mem_cons_of_mem e he'))]

@[simp] theorem optionTokens_empty (t : OptionTable) : t.optionTokens {} = 0 := by
  simp [optionTokens, Captured.count, Captured.valuesOf]

@[simp] theorem optionTokens_consPositional
    (t : OptionTable)
    (c : Captured)
    (token : String) :
    t.optionTokens (c.consPositional token) = t.optionTokens c := rfl

theorem optionTokens_consOccurrence
    {t : OptionTable}
    {id : Nat}
    {s : OptionSpec}
    (hSpec : t.get? id = some s)
    (c : Captured)
    (value : String) :
    t.optionTokens (c.consOccurrence id value) = t.optionTokens c + s.width := by
  -- the new occurrence adds one to the count at `id` alone
  have hNew :
      (t.entries.map fun e => (if id = e.1 then 1 else 0) * e.2.width).sum = s.width := by
    rw [sum_map_eq_at_key t.entries_keys_nodup (mem_entries.mpr hSpec)]
    · simp
    · intro e _ hNe
      simp [Ne.symm hNe]
  unfold optionTokens
  simp only [Captured.count_consOccurrence, Nat.add_mul, List.sum_map_add]
  rw [hNew]

/-
  What a list of arguments and the capture it scans to agree on:
  every token is positional or belongs to one occurrence, the
  positional tokens keep their order and name no option, a flag
  records the empty text, and a value matches its option's pattern.
-/
structure Accounts (t : OptionTable) (args : List String) (c : Captured) : Prop where
  length_eq : args.length = c.positional.length + t.optionTokens c
  positional_sublist : c.positional.Sublist args
  positional_undeclared : ∀ x ∈ c.positional, t.lookup x = none
  flag_values :
    ∀ id s, t.get? id = some s → s.param = none → ∀ v ∈ c.valuesOf id, v = ""
  pattern_values :
    ∀ id s p, t.get? id = some s → s.param = some p →
      ∀ v ∈ c.valuesOf id, p.accepts v = true

theorem mem_valuesOf_consOccurrence
    {c : Captured}
    {id j : Nat}
    {value v : String}
    (hMem : v ∈ (c.consOccurrence id value).valuesOf j) :
    (id = j ∧ v = value) ∨ v ∈ c.valuesOf j := by
  rw [Captured.valuesOf_consOccurrence] at hMem
  by_cases hSame : id = j
  · rw [if_pos hSame, List.mem_cons] at hMem
    rcases hMem with rfl | hOld
    · exact Or.inl ⟨hSame, rfl⟩
    · exact Or.inr hOld
  · rw [if_neg hSame] at hMem
    exact Or.inr hMem

namespace Accounts

variable {t : OptionTable} {args : List String} {c : Captured}
variable {tok : String} {id : Nat} {s : OptionSpec} {p : ValuePattern}

theorem nil (t : OptionTable) : Accounts t [] {} where
  length_eq := by simp
  positional_sublist := List.Sublist.slnil
  positional_undeclared := by simp
  flag_values := by simp [Captured.valuesOf]
  pattern_values := by simp [Captured.valuesOf]

theorem undeclared
    (h : Accounts t args c)
    (hLookup : t.lookup tok = none) :
    Accounts t (tok :: args) (c.consPositional tok) where
  length_eq := by
    simp only [List.length_cons, Captured.positional_consPositional,
      optionTokens_consPositional, h.length_eq]
    omega
  positional_sublist := h.positional_sublist.cons_cons tok
  positional_undeclared := by
    intro x hx
    rcases List.mem_cons.mp hx with rfl | hOld
    · exact hLookup
    · exact h.positional_undeclared x hOld
  flag_values := h.flag_values
  pattern_values := h.pattern_values

theorem flag
    (h : Accounts t args c)
    (hSpec : t.get? id = some s)
    (hParam : s.param = none) :
    Accounts t (tok :: args) (c.consOccurrence id "") where
  length_eq := by
    have hWidth : s.width = 1 := by simp [OptionSpec.width, OptionSpec.takesValue, hParam]
    rw [List.length_cons, Captured.positional_consOccurrence,
      optionTokens_consOccurrence hSpec, hWidth, h.length_eq]
    omega
  positional_sublist := h.positional_sublist.cons tok
  positional_undeclared := h.positional_undeclared
  flag_values := by
    intro j o hj hParam' v hv
    rcases mem_valuesOf_consOccurrence hv with ⟨-, rfl⟩ | hOld
    · rfl
    · exact h.flag_values j o hj hParam' v hOld
  pattern_values := by
    intro j o q hj hParam' v hv
    rcases mem_valuesOf_consOccurrence hv with ⟨rfl, -⟩ | hOld
    · -- the new occurrence is of a flag, which has no pattern
      rw [hSpec, Option.some.injEq] at hj
      rw [← hj, hParam] at hParam'
      cases hParam'
    · exact h.pattern_values j o q hj hParam' v hOld

theorem value
    {value : String}
    (h : Accounts t args c)
    (hSpec : t.get? id = some s)
    (hParam : s.param = some p)
    (hAccepts : p.accepts value = true) :
    Accounts t (tok :: value :: args) (c.consOccurrence id value) where
  length_eq := by
    have hWidth : s.width = 2 := by simp [OptionSpec.width, OptionSpec.takesValue, hParam]
    rw [List.length_cons, List.length_cons, Captured.positional_consOccurrence,
      optionTokens_consOccurrence hSpec, hWidth, h.length_eq]
    omega
  positional_sublist := (h.positional_sublist.cons value).cons tok
  positional_undeclared := h.positional_undeclared
  flag_values := by
    intro j o hj hParam' v hv
    rcases mem_valuesOf_consOccurrence hv with ⟨rfl, -⟩ | hOld
    · -- the new occurrence is of an option with a pattern, not a flag
      rw [hSpec, Option.some.injEq] at hj
      rw [← hj, hParam] at hParam'
      cases hParam'
    · exact h.flag_values j o hj hParam' v hOld
  pattern_values := by
    intro j o q hj hParam' v hv
    rcases mem_valuesOf_consOccurrence hv with ⟨rfl, rfl⟩ | hOld
    · rw [hSpec, Option.some.injEq] at hj
      rw [← hj, hParam, Option.some.injEq] at hParam'
      rw [← hParam']
      exact hAccepts
    · exact h.pattern_values j o q hj hParam' v hOld

end Accounts

theorem accounts_of_scans
    {t : OptionTable}
    {args : List String}
    {c : Captured}
    (h : Scans t args c) :
    Accounts t args c := by
  induction h with
  | nil => exact Accounts.nil t
  | undeclared hLookup _ ih => exact ih.undeclared hLookup
  | flag _ hSpec hParam _ ih => exact ih.flag hSpec hParam
  | value _ hSpec hParam hAccepts _ ih => exact ih.value hSpec hParam hAccepts

/-
  No token is lost or counted twice.  When the scan succeeds, the
  arguments are as many as the positional tokens plus, for every
  option, its count times one or two tokens (two when it takes a
  value); the positional tokens are the arguments that name no
  option, in order; a flag records the empty text; and every value
  matches its option's pattern.  The scan fails exactly at the
  first option, met at a token boundary, that takes a value and
  ends the arguments or is followed by a value its pattern refuses,
  and names it as typed.
-/
theorem scan_token_accounting
    (t : OptionTable)
    (args : List String) :
    (∀ c, t.scan args = .ok c →
      args.length = c.positional.length + t.optionTokens c ∧
        c.positional.Sublist args ∧
        (∀ x ∈ c.positional, t.lookup x = none) ∧
        (∀ id s, t.get? id = some s → s.param = none →
          ∀ v ∈ c.valuesOf id, v = "") ∧
        (∀ id s p, t.get? id = some s → s.param = some p →
          ∀ v ∈ c.valuesOf id, p.accepts v = true)) ∧
      ∀ e, t.scan args = .error e ↔
        ∃ pre tok rest id s p,
          args = pre ++ tok :: rest ∧ (∃ c, t.scan pre = .ok c) ∧
            t.lookup tok = some id ∧ t.get? id = some s ∧ s.param = some p ∧
            ((rest = [] ∧ e = .missingParameter tok) ∨
              ∃ value rest', rest = value :: rest' ∧ p.accepts value = false ∧
                e = .badArgument tok p.declared value) := by
  refine ⟨?_, fun e => scan_eq_error_iff⟩
  intro c hScan
  have hAccounts := accounts_of_scans (scans_of_scan_eq_ok hScan)
  exact ⟨hAccounts.length_eq, hAccounts.positional_sublist,
    hAccounts.positional_undeclared, hAccounts.flag_values, hAccounts.pattern_values⟩

end OptionTable

end OptionGrammar
