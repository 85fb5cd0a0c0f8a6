import OptionGrammar.Access
import OptionGrammar.Proofs.SpellingIndex
import OptionGrammar.Proofs.Insertion

/-
  The accessors read the last parse faithfully.

  A key resolves to an option exactly when it is one of its
  spellings, and every keyed accessor then answers from the values
  captured for that option alone: how many there are, whether there
  is one, all of them read in order (stopping at the first one that
  does not read), the first one, or the first one with a default for
  an option that was not given.  The key itself shows only in the
  errors, so two spellings of one option give the same answers up to
  the key they echo, and a key that is no spelling fails every
  accessor.

  Main declarations:
    * `ArgError.withKey`, `OptionParser.ReadsValues`
    * `mapM_eq_ok_iff_forall₂`, `mapM_eq_error_iff`
    * `OptionParser.readsValues_of_resolve`, `OptionParser.ReadsValues.rekey`
    * `OptionParser.accessors_faithful`
-/

------------------------------------------------------------
-- Reading Every Value
------------------------------------------------------------

namespace OptionGrammar

section Traversal

variable {α β ε : Type} {f : α → Except ε β}

theorem mapM_cons_of_ok
    {x : α}
    {y : β}
    (xs : List α)
    (hx : f x = .ok y) :
    (x :: xs).mapM f = (xs.mapM f).map (y :: ·) := by
  rw [List.mapM_cons, hx]
  cases xs.mapM f <;> rfl

theorem mapM_cons_of_error
    {x : α}
    {e : ε}
    (xs : List α)
    (hx : f x = .error e) :
    (x :: xs).mapM f = .error e := by
  rw [List.mapM_cons, hx]
  rfl

variable (f)

/- A traversal succeeds when every element does, with their results. -/
theorem mapM_eq_ok_iff_forall₂
    (xs : List α)
    (ys : List β) :
    xs.mapM f = .ok ys ↔ List.Forall₂ (fun x y => f x = .ok y) xs ys := by
  induction xs generalizing ys with
  | nil => cases ys <;> simp [pure, Except.pure]
  | cons x xs ih =>
      cases hx : f x with
      | error e =>
          rw [mapM_cons_of_error xs hx]
          cases ys <;> simp [hx]
      | ok y =>
          -- the rest decides, through the induction hypothesis
          rw [mapM_cons_of_ok xs hx]
          cases ys with
          | nil => cases xs.mapM f <;> simp [Except.map]
          | cons y' ys =>
              rw [List.forall₂_cons, hx, ← ih]
              cases xs.mapM f <;> simp [Except.map, eq_comm]

/- A traversal fails with the error of its first failing element. -/
theorem mapM_eq_error_iff
    (xs : List α)
    (e : ε) :
    xs.mapM f = .error e ↔
      ∃ before x after, xs = before ++ x :: after ∧
        (∀ w ∈ before, ∃ y, f w = .ok y) ∧ f x = .error e := by
  constructor
  · -- the failing element is the head, or the first failing one of the tail
    intro h
    induction xs with
    | nil => cases h
    | cons x xs ih =>
        cases hx : f x with
        | error e' =>
            rw [mapM_cons_of_error xs hx] at h
            cases h
            exact ⟨[], x, xs, rfl, by simp, hx⟩
        | ok y =>
            rw [mapM_cons_of_ok xs hx] at h
            cases hRest : xs.mapM f with
            | ok ys => rw [hRest] at h; cases h
            | error e' =>
                rw [hRest] at h
                cases h
                obtain ⟨before, x', after, rfl, hBefore, hx'⟩ := ih hRest
                refine ⟨x :: before, x', after, rfl, ?_, hx'⟩
                intro w hw
                rcases List.mem_cons.mp hw with rfl | hw
                · exact ⟨y, hx⟩
                · exact hBefore w hw
  · -- every element before the failing one reads, so the traversal reaches it
    rintro ⟨before, x, after, rfl, hBefore, hx⟩
    induction before with
    | nil => exact mapM_cons_of_error after hx
    | cons w before ih =>
        obtain ⟨y, hy⟩ := hBefore w List.mem_cons_self
        rw [List.cons_append, mapM_cons_of_ok _ hy,
          ih fun w' hw' => hBefore w' (List.mem_cons_of_mem w hw')]
        rfl

end Traversal

------------------------------------------------------------
-- Errors That Echo a Key
------------------------------------------------------------

/- The error with the key it echoes replaced. -/
def ArgError.withKey (key : String) : ArgError → ArgError
  | .unknownOption _ => .unknownOption key
  | .notPresent _ => .notPresent key
  | .conversion _ value target reason => .conversion key value target reason
  | e => e

namespace OptionParser

/- Reading a value fails with a conversion error naming the key. -/
theorem convert_eq
    (key : String)
    (t : ValueType)
    (v : String) :
    convert key t v = (t.read v).mapError (.conversion key v t) := by
  unfold convert
  cases t.read v <;> rfl

theorem convert_eq_ok_iff
    {key v : String}
    {t : ValueType}
    {x : Value} :
    convert key t v = .ok x ↔ t.read v = .ok x := by
  rw [convert_eq]
  cases t.read v <;> simp [Except.mapError]

theorem convert_eq_error_iff
    {key v : String}
    {t : ValueType}
    {e : ArgError} :
    convert key t v = .error e ↔ ∃ r, t.read v = .error r ∧ e = .conversion key v t r := by
  rw [convert_eq]
  cases t.read v <;> simp [Except.mapError, eq_comm]

end OptionParser

end OptionGrammar

------------------------------------------------------------
-- What a Resolved Key Reads
------------------------------------------------------------

namespace OptionGrammar

namespace OptionParser

/-
  What the accessors answer for a key from the values of its option:
  the number of values; whether there is one; all of them, each read
  as the type, or the conversion error of the first one that does
  not read; the first one read, or `notPresent` when there is none;
  and the default exactly in place of `notPresent`.
-/
structure ReadsValues (p : OptionParser) (key : String) (values : List String) : Prop where
  count : p.count key = .ok values.length
  isPresent : p.isPresent key = .ok (decide (0 < values.length))
  getAll_ok : ∀ t xs, p.getAll key t = .ok xs ↔
    List.Forall₂ (fun v x => t.read v = .ok x) values xs
  getAll_error : ∀ t e, p.getAll key t = .error e ↔
    ∃ before v after r, values = before ++ v :: after ∧
      (∀ w ∈ before, ∃ x, t.read w = .ok x) ∧ t.read v = .error r ∧ e = .conversion key v t r
  get : ∀ t, p.get key t =
    values.head?.elim (.error (.notPresent key)) fun v => (t.read v).mapError (.conversion key v t)
  getOr : ∀ t d, p.getOr key t d = if values = [] then .ok d else p.get key t

variable {p : OptionParser} {key : String} {i : Nat}

theorem count_of_resolve
    (h : p.resolve key = .ok i) :
    p.count key = .ok (p.captured.valuesOf i).length := by
  simp [count, h, Captured.count, bind, Except.bind, pure, Except.pure]

theorem isPresent_of_resolve
    (h : p.resolve key = .ok i) :
    p.isPresent key = .ok (decide (0 < (p.captured.valuesOf i).length)) := by
  simp [isPresent, h, Captured.contains, Captured.count, bind, Except.bind, pure, Except.pure]

theorem getAll_of_resolve
    (h : p.resolve key = .ok i)
    (t : ValueType) :
    p.getAll key t = (p.captured.valuesOf i).mapM (convert key t) := by
  simp [getAll, h, bind, Except.bind]

theorem get_of_resolve
    (h : p.resolve key = .ok i)
    (t : ValueType) :
    p.get key t = (p.captured.valuesOf i).head?.elim (.error (.notPresent key))
      fun v => (t.read v).mapError (.conversion key v t) := by
  simp only [get, h, bind, Except.bind]
  cases p.captured.valuesOf i with
  | nil => rfl
  | cons v rest => exact convert_eq key t v

/- `getOr` swallows `notPresent` only, which `get` gives exactly for an
   option without values. -/
theorem getOr_of_resolve
    (h : p.resolve key = .ok i)
    (t : ValueType)
    (d : Value) :
    p.getOr key t d = if p.captured.valuesOf i = [] then .ok d else p.get key t := by
  have hGet := get_of_resolve h t
  unfold getOr
  cases hValues : p.captured.valuesOf i with
  | nil => rw [hValues] at hGet; rw [hGet]; rfl
  | cons v rest =>
      rw [hValues, List.head?_cons, Option.elim_some] at hGet
      simp only [reduceCtorEq, if_false]
      rw [hGet]
      cases t.read v <;> rfl

/- A key that resolves reads the values of its option. -/
theorem readsValues_of_resolve
    (h : p.resolve key = .ok i) :
    p.ReadsValues key (p.captured.valuesOf i) where
  count := count_of_resolve h
  isPresent := isPresent_of_resolve h
  getAll_ok t xs := by
    rw [getAll_of_resolve h, mapM_eq_ok_iff_forall₂]
    simp only [convert_eq_ok_iff]
  getAll_error t e := by
    rw [getAll_of_resolve h, mapM_eq_error_iff]
    simp only [convert_eq_ok_iff, convert_eq_error_iff]
    constructor
    · rintro ⟨before, v, after, hSplit, hBefore, r, hr, rfl⟩
      exact ⟨before, v, after, r, hSplit, hBefore, hr, rfl⟩
    · rintro ⟨before, v, after, r, hSplit, hBefore, hr, rfl⟩
      exact ⟨before, v, after, hSplit, hBefore, r, hr, rfl⟩
  get := get_of_resolve h
  getOr := getOr_of_resolve h

/- The first of all values read is the value `get` reads. -/
theorem ReadsValues.get_of_getAll
    {values : List String}
    (h : p.ReadsValues key values)
    {t : ValueType}
    {x : Value}
    {xs : List Value}
    (hAll : p.getAll key t = .ok (x :: xs)) :
    p.get key t = .ok x := by
  have hRead := (h.getAll_ok t (x :: xs)).mp hAll
  cases hRead with
  | cons hx _ =>
      rw [h.get, List.head?_cons, Option.elim_some, hx]
      rfl

/-
  Two keys that read the same values give the same answers, up to
  the key each error echoes.
-/
theorem ReadsValues.rekey
    {key' : String}
    {values : List String}
    (h : p.ReadsValues key values)
    (h' : p.ReadsValues key' values)
    (t : ValueType)
    (d : Value) :
    p.count key' = p.count key ∧
      p.isPresent key' = p.isPresent key ∧
      p.get key' t = (p.get key t).mapError (ArgError.withKey key') ∧
      p.getAll key' t = (p.getAll key t).mapError (ArgError.withKey key') ∧
      p.getOr key' t d = (p.getOr key t d).mapError (ArgError.withKey key') := by
  have hGet : p.get key' t = (p.get key t).mapError (ArgError.withKey key') := by
    rw [h.get, h'.get]
    cases values with
    | nil => rfl
    | cons v rest =>
        simp only [List.head?_cons, Option.elim_some]
        cases t.read v <;> rfl
  refine ⟨h.count ▸ h'.count, h.isPresent ▸ h'.isPresent, hGet, ?_, ?_⟩
  · -- all values read for both keys, or both stop at the same first failure
    cases hAll : p.getAll key t with
    | ok xs => exact (h'.getAll_ok t xs).mpr ((h.getAll_ok t xs).mp hAll)
    | error e =>
        obtain ⟨before, v, after, r, hSplit, hBefore, hr, rfl⟩ := (h.getAll_error t e).mp hAll
        exact (h'.getAll_error t _).mpr ⟨before, v, after, r, hSplit, hBefore, hr, rfl⟩
  · rw [h.getOr, h'.getOr]
    by_cases hNone : values = []
    · simp only [hNone, if_true]
      rfl
    · simp only [hNone, if_false]
      exact hGet

/- A spelling of a declared option resolves to it. -/
theorem resolve_of_mem_spellings
    {s : OptionSpec}
    (hs : p.table.get? i = some s)
    (hKey : key ∈ s.spellings) :
    p.resolve key = .ok i := by
  have hLookup : p.table.lookup key = some i :=
    (OptionTable.lookup_eq_some_iff p.table key i).mpr ⟨s, hs, hKey⟩
  simp [resolve, hLookup]

/- A key that is no spelling fails to resolve. -/
theorem resolve_of_undeclared
    (hKey : ∀ s ∈ p.table.specs, key ∉ s.spellings) :
    p.resolve key = .error (.unknownOption key) := by
  have hLookup : p.table.lookup key = none := by
    rw [OptionTable.lookup_eq_none_iff, spellingsOf, List.mem_flatMap]
    rintro ⟨s, hs, hMem⟩
    exact hKey s hs hMem
  simp [resolve, hLookup]

/-
  Every keyed accessor fails on a key that is no spelling, `getOr`
  included: it stands in a default for `notPresent` only.
-/
theorem accessors_of_undeclared
    (hKey : ∀ s ∈ p.table.specs, key ∉ s.spellings)
    (t : ValueType)
    (d : Value) :
    p.count key = .error (.unknownOption key) ∧
      p.isPresent key = .error (.unknownOption key) ∧
      p.get key t = .error (.unknownOption key) ∧
      p.getAll key t = .error (.unknownOption key) ∧
      p.getOr key t d = .error (.unknownOption key) := by
  have h := resolve_of_undeclared hKey
  have hGet : p.get key t = .error (.unknownOption key) := by
    simp only [get, h, bind, Except.bind]
  refine ⟨?_, ?_, hGet, ?_, ?_⟩
  · simp only [count, h, bind, Except.bind]
  · simp only [isPresent, h, bind, Except.bind]
  · simp only [getAll, h, bind, Except.bind]
  · simp only [getOr, hGet]

end OptionParser

end OptionGrammar

------------------------------------------------------------
-- The Accessors of a Parser
------------------------------------------------------------

namespace OptionGrammar

namespace OptionParser

/-
  The accessors of any parser, in particular of one reached by parse
  calls, are a view of the values it captured.  Every spelling of a
  declared option reads the values of that option: their number,
  whether there is one, all of them read in order up to the first
  that does not read, the first one, and the default exactly when
  there is none; the first of all values read is the one `get`
  reads; and two spellings of the option give the same answers up to
  the key each error echoes.  A key that is no spelling fails every
  accessor as unknown.
-/
theorem accessors_faithful
    (p : OptionParser) :
    (∀ i s key, p.table.get? i = some s → key ∈ s.spellings →
      p.ReadsValues key (p.captured.valuesOf i) ∧
        (∀ t x xs, p.getAll key t = .ok (x :: xs) → p.get key t = .ok x) ∧
        ∀ key' ∈ s.spellings, ∀ t d,
          p.count key' = p.count key ∧
            p.isPresent key' = p.isPresent key ∧
            p.get key' t = (p.get key t).mapError (ArgError.withKey key') ∧
            p.getAll key' t = (p.getAll key t).mapError (ArgError.withKey key') ∧
            p.getOr key' t d = (p.getOr key t d).mapError (ArgError.withKey key')) ∧
      ∀ key, (∀ s ∈ p.table.specs, key ∉ s.spellings) → ∀ t d,
        p.count key = .error (.unknownOption key) ∧
          p.isPresent key = .error (.unknownOption key) ∧
          p.get key t = .error (.unknownOption key) ∧
          p.getAll key t = .error (.unknownOption key) ∧
          p.getOr key t d = .error (.unknownOption key) := by
  refine ⟨?_, fun key hKey t d => accessors_of_undeclared hKey t d⟩
  intro i s key hs hKey
  have hReads := readsValues_of_resolve (resolve_of_mem_spellings hs hKey)
  refine ⟨hReads, fun t x xs hAll => hReads.get_of_getAll hAll, ?_⟩
  intro key' hKey' t d
  exact hReads.rekey (readsValues_of_resolve (resolve_of_mem_spellings hs hKey')) t d

/-
  A repeatable flag given once under each of its spellings, beside a
  positional argument: the long spelling reads both empty values,
  and an undeclared key is unknown.
-/
theorem accessors_faithful_verbose :
    let s := ((OptionSpec.flag "-v").withAlias "--verbose").repeatable
    let p := (({ table := OptionTable.ofSpecs [s] (by decide) } : OptionParser).parse ["-v", "x", "--verbose"]).2
    (p.table.get? 0 = some s ∧ "--verbose" ∈ s.spellings ∧ p.captured.valuesOf 0 = ["", ""] ∧
        p.ReadsValues "--verbose" ["", ""]) ∧
      (∀ s' ∈ p.table.specs, "-x" ∉ s'.spellings) ∧
        p.getOr "-x" .text (.text "none") = .error (.unknownOption "-x") := by
  intro s p
  have hs : p.table.get? 0 = some s := rfl
  have hKey : "--verbose" ∈ s.spellings := by decide
  have hValues : p.captured.valuesOf 0 = ["", ""] := by decide
  have hUnknown : ∀ s' ∈ p.table.specs, "-x" ∉ s'.spellings := by decide
  refine ⟨⟨hs, hKey, hValues, ?_⟩, hUnknown, ?_⟩
  · rw [← hValues]
    exact ((accessors_faithful p).1 0 s "--verbose" hs hKey).1
  · exact ((accessors_faithful p).2 "-x" hUnknown .text (.text "none")).2.2.2.2

end OptionParser

end OptionGrammar
