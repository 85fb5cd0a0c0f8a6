import OptionGrammar.Constraint
import Mathlib.Data.List.Basic

/-
  Which captured arguments the declaration checks accept.

  `OptionTable.check` walks the declarations once, carrying the
  violations found so far and the AND pairs already reported, and
  then, under the at-least-one policy, runs the IOR pass.  It
  reports nothing exactly when the captured arguments obey five
  rules, stated here over the declarations alone: every mandatory
  option is given, no unique option is given twice, at most one
  member of each numbered XOR group is given, a numbered AND group
  with a member given has all its mandatory members given, and
  (under the at-least-one policy) each numbered IOR group has a
  member given.  The AND rule follows from the first one, so AND
  groups never decide whether arguments are accepted.

  Main declarations:
    * `fst_foldl_eq_nil_iff`
    * `OptionTable.optionViolations_fst_eq_nil_iff`
    * `OptionTable.emptyIorGroups_eq_nil_iff`
    * `OptionTable.check_eq_nil_iff_rules`
-/

------------------------------------------------------------
-- Quiet Folds
------------------------------------------------------------

namespace OptionGrammar

section QuietFold

variable {α β γ : Type}
variable (F : List α × β → γ → List α × β) (start : β)

/- A step that only ever appends to the list it carries. -/
def Appending : Prop :=
  ∀ acc e, ∃ more, (F acc e).1 = acc.1 ++ more

/-
  A step that, from the empty list and the start state, either
  adds to the list or leaves the accumulator as it was.
-/
def QuietAt : Prop :=
  ∀ e, (F ([], start) e).1 = [] → F ([], start) e = ([], start)

variable {F start}

theorem fst_foldl_of_appending
    (hF : Appending F)
    (acc : List α × β)
    (l : List γ) :
    ∃ more, (l.foldl F acc).1 = acc.1 ++ more := by
  induction l generalizing acc with
  | nil => exact ⟨[], by simp⟩
  | cons e l ih =>
      obtain ⟨more, hMore⟩ := hF acc e
      obtain ⟨rest, hRest⟩ := ih (F acc e)
      refine ⟨more ++ rest, ?_⟩
      rw [List.foldl_cons, hRest, hMore, List.append_assoc]

/-
  A fold of appending, quiet steps from the empty list ends with
  the empty list exactly when no single step from the start adds
  anything: the first step that adds is taken from the start
  state, and what it adds is never removed.
-/
theorem fst_foldl_eq_nil_iff
    (hF : Appending F)
    (hQ : QuietAt F start)
    (l : List γ) :
    (l.foldl F ([], start)).1 = [] ↔
      ∀ e ∈ l, (F ([], start) e).1 = [] := by
  induction l with
  | nil => simp
  | cons e l ih =>
      rw [List.foldl_cons, List.forall_mem_cons]
      by_cases hStep : (F ([], start) e).1 = []
      · rw [hQ e hStep, ih]
        exact ⟨fun h => ⟨rfl, h⟩, fun h => h.2⟩
      · obtain ⟨more, hMore⟩ :=
          fst_foldl_of_appending hF (F ([], start) e) l
        have hNonempty : (l.foldl F (F ([], start) e)).1 ≠ [] := by
          rw [hMore]
          exact fun h => hStep (List.append_eq_nil_iff.mp h).1
        exact ⟨fun h => absurd h hNonempty, fun h => absurd h.1 hStep⟩

/- A fold that adds nothing leaves the start state as it was. -/
theorem foldl_eq_start_of_fst_eq_nil
    (hF : Appending F)
    (hQ : QuietAt F start)
    (l : List γ)
    (h : (l.foldl F ([], start)).1 = []) :
    l.foldl F ([], start) = ([], start) := by
  have hSteps := (fst_foldl_eq_nil_iff hF hQ l).mp h
  induction l with
  | nil => rfl
  | cons e l ih =>
      have hHead := hQ e (hSteps e List.mem_cons_self)
      rw [List.foldl_cons, hHead]
      apply ih
      · rw [← hHead, ← List.foldl_cons]
        exact h
      · exact fun e' he' => hSteps e' (List.mem_cons_of_mem e he')

end QuietFold

end OptionGrammar

------------------------------------------------------------
-- Declarations With Their Identities
------------------------------------------------------------

namespace OptionGrammar

namespace OptionTable

theorem mem_entries
    {t : OptionTable}
    {i : Nat}
    {s : OptionSpec} :
    (i, s) ∈ t.entries ↔ t.specs[i]? = some s := by
  unfold entries size
  rw [List.mem_iff_getElem, List.getElem?_eq_some_iff]
  constructor
  · rintro ⟨k, hk, hEntry⟩
    rw [List.getElem_zip, List.getElem_range] at hEntry
    obtain ⟨rfl, rfl⟩ := Prod.mk.inj hEntry
    exact ⟨by simp at hk; omega, rfl⟩
  · rintro ⟨hi, rfl⟩
    refine ⟨i, by simp [hi], ?_⟩
    rw [List.getElem_zip, List.getElem_range]

theorem mem_groupEntries
    {t : OptionTable}
    {g : Group}
    {e : Nat × OptionSpec} :
    e ∈ t.groupEntries g ↔ e ∈ t.entries ∧ e.2.group = g := by
  simp [groupEntries]

theorem mem_specs_iff_mem_entries
    {t : OptionTable}
    {s : OptionSpec} :
    s ∈ t.specs ↔ ∃ i, (i, s) ∈ t.entries := by
  simp only [mem_entries]
  exact List.mem_iff_getElem?

end OptionTable

theorem Captured.contains_iff
    (c : Captured)
    (id : Nat) :
    c.contains id = true ↔ 0 < c.count id := by
  simp [Captured.contains]

end OptionGrammar

------------------------------------------------------------
-- The Rules of One Option
------------------------------------------------------------

namespace OptionGrammar

theorem ownViolations_eq_nil_iff
    (c : Captured)
    (id : Nat)
    (s : OptionSpec) :
    ownViolations c id s = [] ↔
      (s.optional = false → 0 < c.count id) ∧
        (s.unique = true → c.count id ≤ 1) := by
  simp [ownViolations, Nat.pos_iff_ne_zero]

theorem appending_andStep
    (c : Captured)
    (id : Nat)
    (s : OptionSpec) :
    Appending (andStep c id s) := by
  intro acc e
  unfold andStep
  dsimp only
  split
  · exact ⟨[], by simp⟩
  · split
    · exact ⟨[], by simp⟩
    · exact ⟨_, rfl⟩

/-
  From no violations and no reported pairs, an AND member is
  either skipped or reported, never silently recorded.
-/
theorem quietAt_andStep
    (c : Captured)
    (id : Nat)
    (s : OptionSpec) :
    QuietAt (andStep c id s) [] := by
  intro e hQuiet
  unfold andStep at hQuiet ⊢
  split
  · rfl
  · rename_i hReported
    simp only [hReported, if_false, List.contains_nil, Bool.false_eq_true,
      List.nil_append, reduceCtorEq] at hQuiet ⊢

theorem andStep_fst_eq_nil_iff
    (c : Captured)
    (id : Nat)
    (s : OptionSpec)
    (e : Nat × OptionSpec) :
    (andStep c id s ([], []) e).1 = [] ↔
      (e.1 == id || e.2.optional || c.contains e.1) = true := by
  unfold andStep
  split
  · simp_all
  · simp_all

theorem xorViolations_eq_nil_iff
    (c : Captured)
    (id : Nat)
    (s : OptionSpec)
    (mates : List (Nat × OptionSpec)) :
    xorViolations c id s mates = [] ↔
      ∀ e ∈ mates, id < e.1 → c.contains e.1 = false := by
  simp [xorViolations, List.filter_eq_nil_iff]

end OptionGrammar

------------------------------------------------------------
-- One Declaration
------------------------------------------------------------

namespace OptionGrammar

namespace OptionTable

/-
  The rules one declaration `s`, at identity `id`, puts on the
  captured arguments: its own, and those it checks against the
  other members of its group when it was given.
-/
structure OptionRules
    (t : OptionTable)
    (c : Captured)
    (id : Nat)
    (s : OptionSpec) : Prop where
  given : s.optional = false → 0 < c.count id
  once : s.unique = true → c.count id ≤ 1
  andMates :
    0 < c.count id → s.group.isNumbered = true → s.group.kind = .and →
      ∀ e ∈ t.entries, e.2.group = s.group → e.1 ≠ id →
        e.2.optional = false → c.contains e.1 = true
  xorMates :
    0 < c.count id → s.group.isNumbered = true → s.group.kind = .xor →
      ∀ e ∈ t.entries, e.2.group = s.group → id < e.1 →
        c.contains e.1 = false

theorem andMates_iff
    (t : OptionTable)
    (c : Captured)
    (id : Nat)
    (g : Group) :
    (∀ e ∈ t.groupEntries g,
        (e.1 == id || e.2.optional || c.contains e.1) = true) ↔
      ∀ e ∈ t.entries, e.2.group = g → e.1 ≠ id →
        e.2.optional = false → c.contains e.1 = true := by
  simp only [mem_groupEntries, and_imp, Bool.or_eq_true, beq_iff_eq]
  constructor
  · intro h e he hg hne hopt
    rcases h e he hg with (hid | hopt') | hc
    · exact absurd hid hne
    · simp [hopt'] at hopt
    · exact hc
  · intro h e he hg
    by_cases hid : e.1 = id
    · exact Or.inl (Or.inl hid)
    · cases hopt : e.2.optional with
      | true => exact Or.inl (Or.inr rfl)
      | false => exact Or.inr (h e he hg hid hopt)

/-
  With no pairs reported yet, a declaration adds no violation
  exactly when the captured arguments obey its rules.
-/
theorem optionViolations_fst_eq_nil_iff
    (t : OptionTable)
    (c : Captured)
    (id : Nat)
    (s : OptionSpec) :
    (t.optionViolations c [] id s).1 = [] ↔
      OptionRules t c id s := by
  have hOwn := ownViolations_eq_nil_iff c id s
  unfold optionViolations
  by_cases hSkip : (c.count id == 0 || !s.group.isNumbered) = true
  · -- not given, or in no group: only its own rules apply
    have hNoGroup : c.count id = 0 ∨ s.group.isNumbered = false := by
      simpa using hSkip
    have hNoJoint : ∀ {P : Prop}, 0 < c.count id → s.group.isNumbered = true → P := by
      intro P hc hn
      rcases hNoGroup with h0 | hf
      · omega
      · simp [hf] at hn
    rw [if_pos hSkip, hOwn]
    constructor
    · rintro ⟨hGiven, hOnce⟩
      exact ⟨hGiven, hOnce, fun hc hn => hNoJoint hc hn, fun hc hn => hNoJoint hc hn⟩
    · intro h
      exact ⟨h.given, h.once⟩
  · have hGroup : 0 < c.count id ∧ s.group.isNumbered = true := by
      simp only [Bool.or_eq_true, beq_iff_eq, Bool.not_eq_true', not_or,
        Bool.not_eq_false] at hSkip
      exact ⟨Nat.pos_of_ne_zero hSkip.1, hSkip.2⟩
    rw [if_neg hSkip]
    cases hKind : s.group.kind with
    | and =>
        simp only [List.append_eq_nil_iff, hOwn]
        rw [fst_foldl_eq_nil_iff (appending_andStep c id s)
          (quietAt_andStep c id s)]
        simp only [andStep_fst_eq_nil_iff]
        rw [andMates_iff]
        constructor
        · rintro ⟨⟨hGiven, hOnce⟩, hMates⟩
          exact ⟨hGiven, hOnce, fun _ _ _ => hMates, fun _ _ h => by simp [hKind] at h⟩
        · intro h
          exact ⟨⟨h.given, h.once⟩, h.andMates hGroup.1 hGroup.2 hKind⟩
    | xor =>
        simp only [List.append_eq_nil_iff, hOwn, xorViolations_eq_nil_iff,
          mem_groupEntries, and_imp]
        constructor
        · rintro ⟨⟨hGiven, hOnce⟩, hMates⟩
          exact ⟨hGiven, hOnce, fun _ _ h => by simp [hKind] at h,
            fun _ _ _ e he hg hlt => hMates e he hg hlt⟩
        · intro h
          exact ⟨⟨h.given, h.once⟩, h.xorMates hGroup.1 hGroup.2 hKind⟩
    | ior =>
        simp only [hOwn]
        constructor
        · rintro ⟨hGiven, hOnce⟩
          exact ⟨hGiven, hOnce, fun _ _ h => by simp [hKind] at h,
            fun _ _ h => by simp [hKind] at h⟩
        · intro h
          exact ⟨h.given, h.once⟩

/-
  A declaration that adds no violation, with no pairs reported
  yet, reports no pair either.
-/
theorem optionViolations_snd_of_fst_eq_nil
    {t : OptionTable}
    {c : Captured}
    {id : Nat}
    {s : OptionSpec}
    (h : (t.optionViolations c [] id s).1 = []) :
    (t.optionViolations c [] id s).2 = [] := by
  unfold optionViolations at h ⊢
  split
  · rfl
  · rename_i hSkip
    rw [if_neg hSkip] at h
    cases hKind : s.group.kind with
    | and =>
        simp only [hKind, List.append_eq_nil_iff] at h ⊢
        have hFold := foldl_eq_start_of_fst_eq_nil
          (appending_andStep c id s) (quietAt_andStep c id s) _ h.2
        rw [hFold]
    | xor => rfl
    | ior => rfl

end OptionTable

end OptionGrammar

------------------------------------------------------------
-- The Walk and the IOR Pass
------------------------------------------------------------

namespace OptionGrammar

namespace OptionTable

theorem appending_checkStep
    (t : OptionTable)
    (c : Captured) :
    Appending (t.checkStep c) :=
  fun _ _ => ⟨_, rfl⟩

theorem quietAt_checkStep
    (t : OptionTable)
    (c : Captured) :
    QuietAt (t.checkStep c) [] := by
  intro e hQuiet
  unfold checkStep at hQuiet ⊢
  simp only [List.nil_append] at hQuiet ⊢
  rw [hQuiet, optionViolations_snd_of_fst_eq_nil hQuiet]

/-
  The walk over the declarations finds nothing exactly when every
  declaration's rules hold.
-/
theorem walk_eq_nil_iff
    (t : OptionTable)
    (c : Captured) :
    (t.entries.foldl (t.checkStep c) ([], [])).1 = [] ↔
      ∀ e ∈ t.entries, OptionRules t c e.1 e.2 := by
  rw [fst_foldl_eq_nil_iff (appending_checkStep t c)
    (quietAt_checkStep t c)]
  apply forall₂_congr
  intro e _
  rw [← optionViolations_fst_eq_nil_iff]
  simp [checkStep]

/-
  Adding the groups of a list of options keeps the groups seen
  before and adds exactly the numbered IOR groups of the list.
-/
theorem mem_foldl_addIorGroup
    (g : Group)
    (l : List OptionSpec)
    (acc : List Group) :
    g ∈ l.foldl addIorGroup acc ↔
      g ∈ acc ∨
        ∃ s ∈ l, s.group = g ∧ g.kind = .ior ∧ g.isNumbered = true := by
  induction l generalizing acc with
  | nil => simp
  | cons s l ih =>
      rw [List.foldl_cons, ih]
      have hCons :
          (∃ s' ∈ s :: l,
              s'.group = g ∧ g.kind = .ior ∧ g.isNumbered = true) ↔
            (s.group = g ∧ g.kind = .ior ∧ g.isNumbered = true) ∨
              ∃ s' ∈ l,
                s'.group = g ∧ g.kind = .ior ∧ g.isNumbered = true := by
        simp only [List.mem_cons, or_and_right, exists_or, exists_eq_left]
      rw [hCons]
      unfold addIorGroup
      split
      · rename_i hAdd
        simp only [Bool.and_eq_true, beq_iff_eq] at hAdd
        rw [List.mem_append, List.mem_singleton]
        constructor
        · rintro ((hAcc | rfl) | hRest)
          · exact Or.inl hAcc
          · exact Or.inr (Or.inl ⟨rfl, hAdd.1.1, hAdd.1.2⟩)
          · exact Or.inr (Or.inr hRest)
        · rintro (hAcc | ⟨rfl, -⟩ | hRest)
          · exact Or.inl (Or.inl hAcc)
          · exact Or.inl (Or.inr rfl)
          · exact Or.inr hRest
      · rename_i hSkip
        constructor
        · rintro (hAcc | hRest)
          · exact Or.inl hAcc
          · exact Or.inr (Or.inr hRest)
        · rintro (hAcc | ⟨rfl, hKind, hNumbered⟩ | hRest)
          · exact Or.inl hAcc
          · -- a numbered IOR group is skipped only when seen before
            left
            simpa [hKind, hNumbered] using hSkip
          · exact Or.inr hRest

theorem mem_iorGroups
    (t : OptionTable)
    (g : Group) :
    g ∈ t.iorGroups ↔
      ∃ s ∈ t.specs, s.group = g ∧ g.kind = .ior ∧ g.isNumbered = true := by
  unfold iorGroups
  rw [mem_foldl_addIorGroup]
  simp

theorem emptyIorGroups_eq_nil_iff
    (t : OptionTable)
    (c : Captured) :
    t.emptyIorGroups c = [] ↔
      ∀ g ∈ t.iorGroups,
        ∃ e ∈ t.entries, e.2.group = g ∧ c.contains e.1 = true := by
  simp [emptyIorGroups, members, List.filter_eq_nil_iff]

end OptionTable

end OptionGrammar

------------------------------------------------------------
-- Acceptance
------------------------------------------------------------

namespace OptionGrammar

namespace OptionTable

section Rules

variable (t : OptionTable) (c : Captured)

/- Every mandatory option is given. -/
def MandatoryGiven : Prop :=
  ∀ e ∈ t.entries, e.2.optional = false → 0 < c.count e.1

/- No unique option is given more than once. -/
def UniqueOnce : Prop :=
  ∀ e ∈ t.entries, e.2.unique = true → c.count e.1 ≤ 1

/- At most one member of each numbered XOR group is given. -/
def XorExclusive : Prop :=
  ∀ e ∈ t.entries, ∀ f ∈ t.entries,
    e.2.group = f.2.group → e.2.group.kind = .xor →
      e.2.group.isNumbered = true →
        c.contains e.1 = true → c.contains f.1 = true → e.1 = f.1

/-
  A numbered AND group with a member given has all its mandatory
  members given.
-/
def AndComplete : Prop :=
  ∀ e ∈ t.entries, ∀ f ∈ t.entries,
    e.2.group = f.2.group → e.2.group.kind = .and →
      e.2.group.isNumbered = true →
        c.contains e.1 = true → f.2.optional = false →
          c.contains f.1 = true

/- Each numbered IOR group has a member given. -/
def IorCovered : Prop :=
  ∀ e ∈ t.entries, e.2.group.kind = .ior →
    e.2.group.isNumbered = true →
      ∃ f ∈ t.entries, f.2.group = e.2.group ∧ c.contains f.1 = true

instance : Decidable (MandatoryGiven t c) := by
  unfold MandatoryGiven
  infer_instance

instance : Decidable (UniqueOnce t c) := by
  unfold UniqueOnce
  infer_instance

instance : Decidable (XorExclusive t c) := by
  unfold XorExclusive
  infer_instance

instance : Decidable (AndComplete t c) := by
  unfold AndComplete
  infer_instance

instance : Decidable (IorCovered t c) := by
  unfold IorCovered
  infer_instance

/-
  Every AND member that the AND rule asks for is mandatory, so the
  mandatory rule already asks for it.
-/
theorem andComplete_of_mandatoryGiven
    (hMandatory : MandatoryGiven t c) :
    AndComplete t c := by
  intro e _ f hf _ _ _ _ hOptional
  exact (c.contains_iff f.1).mpr (hMandatory f hf hOptional)

theorem forall_optionRules_iff :
    (∀ e ∈ t.entries, OptionRules t c e.1 e.2) ↔
      MandatoryGiven t c ∧ UniqueOnce t c ∧ XorExclusive t c ∧
        AndComplete t c := by
  constructor
  · intro h
    refine ⟨fun e he => (h e he).given, fun e he => (h e he).once,
      ?_, ?_⟩
    · -- of two members given, the earlier one reports the later
      intro e he f hf hGroup hKind hNumbered hGivenE hGivenF
      have hCountE := (c.contains_iff e.1).mp hGivenE
      have hCountF := (c.contains_iff f.1).mp hGivenF
      rcases Nat.lt_trichotomy e.1 f.1 with hLt | hEq | hGt
      · have hAbsent := (h e he).xorMates hCountE hNumbered hKind
          f hf hGroup.symm hLt
        rw [hAbsent] at hGivenF
        exact absurd hGivenF Bool.false_ne_true
      · exact hEq
      · have hAbsent := (h f hf).xorMates hCountF
          (hGroup ▸ hNumbered) (hGroup ▸ hKind) e he hGroup hGt
        rw [hAbsent] at hGivenE
        exact absurd hGivenE Bool.false_ne_true
    · intro e he f hf hGroup hKind hNumbered hGivenE hOptional
      by_cases hSame : f.1 = e.1
      · rw [hSame]
        exact hGivenE
      · exact (h e he).andMates ((c.contains_iff e.1).mp hGivenE)
          hNumbered hKind f hf hGroup.symm hSame hOptional
  · rintro ⟨hMandatory, hUnique, hXor, hAnd⟩ e he
    refine ⟨hMandatory e he, hUnique e he, ?_, ?_⟩
    · intro hCount hNumbered hKind f hf hGroup hNe hOptional
      exact hAnd e he f hf hGroup.symm hKind hNumbered
        ((c.contains_iff e.1).mpr hCount) hOptional
    · intro hCount hNumbered hKind f hf hGroup hLt
      cases hGivenF : c.contains f.1 with
      | false => rfl
      | true =>
          have hSame := hXor e he f hf hGroup.symm hKind hNumbered
            ((c.contains_iff e.1).mpr hCount) hGivenF
          exact absurd hSame (Nat.ne_of_lt hLt)

theorem iorCovered_iff_emptyIorGroups_eq_nil :
    IorCovered t c ↔ t.emptyIorGroups c = [] := by
  rw [emptyIorGroups_eq_nil_iff]
  constructor
  · intro h g hg
    obtain ⟨s, hs, rfl, hKind, hNumbered⟩ := (mem_iorGroups t g).mp hg
    obtain ⟨i, hi⟩ := mem_specs_iff_mem_entries.mp hs
    exact h (i, s) hi hKind hNumbered
  · intro h e he hKind hNumbered
    have hSpec : e.2 ∈ t.specs := mem_specs_iff_mem_entries.mpr ⟨e.1, he⟩
    exact h e.2.group
      ((mem_iorGroups t _).mpr ⟨e.2, hSpec, rfl, hKind, hNumbered⟩)

theorem check_eq_nil_iff_parts
    (policy : IorPolicy) :
    t.check c policy = [] ↔
      (t.entries.foldl (t.checkStep c) ([], [])).1 = [] ∧
        (policy = .atLeastOne → t.emptyIorGroups c = []) := by
  unfold check
  cases policy with
  | permissive => simp
  | atLeastOne => simp

/-
  The checks report nothing exactly when the five presence rules
  hold, the IOR rule only under the at-least-one policy; and the
  AND rule is implied by the mandatory one.
-/
theorem check_eq_nil_iff_rules
    (policy : IorPolicy) :
    (t.check c policy = [] ↔
        MandatoryGiven t c ∧ UniqueOnce t c ∧ XorExclusive t c ∧
          AndComplete t c ∧ (policy = .atLeastOne → IorCovered t c)) ∧
      (MandatoryGiven t c → AndComplete t c) := by
  refine ⟨?_, andComplete_of_mandatoryGiven t c⟩
  rw [check_eq_nil_iff_parts, walk_eq_nil_iff, forall_optionRules_iff,
    iorCovered_iff_emptyIorGroups_eq_nil]
  simp only [and_assoc]

/- Two members of XOR group 1 given together break only the XOR rule. -/
example :
    let t : OptionTable :=
      OptionTable.ofSpecs [{ spellings := ["-a"], group := { kind := .xor, number := 1 } },
        { spellings := ["-b"], group := { kind := .xor, number := 1 } }]
        (by decide)
    let c : Captured := { occurrences := [(0, ""), (1, "")] }
    t.check c .atLeastOne = [.xorConflict 1 "-a" "-b"] ∧
      ¬ XorExclusive t c ∧ MandatoryGiven t c ∧ IorCovered t c := by
  decide

end Rules

end OptionTable

end OptionGrammar
