import OptionGrammar.Proofs.Acceptance

/-
  The exact list of violations.

  `OptionTable.check` walks the declarations once, carrying the
  AND pairs (group number, missing name) it has reported so that
  none is reported twice, and then, under the at-least-one policy,
  collects the numbered IOR groups in order of first appearance.
  `OptionTable.ruleViolations` states its result rule by rule,
  with no state: for each declaration in order, its own rules, then
  for a given member of a numbered group its group rule.  The first
  given member of an AND group reports every name missing from the
  group, and later members report nothing; a given member of an XOR
  group reports every later member given.

  The AND pairs are keyed by name, not by declaration, so members
  that share a canonical name are reported once between them.  Only
  declarations with no spelling, or with the empty text as first
  spelling, share a name: `check_nameless_and_members` shows two
  mandatory members of one AND group with no spelling reported once.

  Main declarations:
    * `OptionTable.reportsOf`, `OptionTable.iorReports`,
      `OptionTable.ruleViolations`
    * `List.eraseDups_filter_cons`
    * `foldl_andStep`, `OptionTable.foldl_addIorGroup`
    * `OptionTable.WalkState`, `OptionTable.walkState_take`
    * `OptionTable.check_eq_ruleViolations`
    * `OptionTable.check_nameless_and_members`
-/

------------------------------------------------------------
-- The Violations Rule by Rule
------------------------------------------------------------

namespace OptionGrammar

namespace OptionTable

/- No member of group `g` declared before identity `i` was given. -/
def firstGivenAt (t : OptionTable) (c : Captured) (g : Group) (i : Nat) : Bool :=
  (t.groupEntries g).all fun e => i ≤ e.1 || c.count e.1 == 0

/-
  The canonical names of the mandatory members of group `g` that
  were not given, in declaration order, each name once.
-/
def missingNames (t : OptionTable) (c : Captured) (g : Group) : List String :=
  (((t.groupEntries g).filter fun e => !e.2.optional && c.count e.1 == 0).map
    (·.2.canonical)).eraseDups

/-
  What the group rule reports for a given member `s`, at identity
  `i`, of a numbered group: for an AND group, if it is the first
  member given, every name missing from the group; for an XOR
  group, every later member given.
-/
def groupReports (t : OptionTable) (c : Captured) (i : Nat) (s : OptionSpec) :
    List Violation :=
  if 0 < c.count i && s.group.isNumbered then
    match s.group.kind with
    | .and =>
        if t.firstGivenAt c s.group i then
          (t.missingNames c s.group).map (.andIncomplete s.group.number s.canonical)
        else []
    | .xor =>
        ((t.groupEntries s.group).filter fun e => i < e.1 && 0 < c.count e.1).map
          fun e => .xorConflict s.group.number s.canonical e.2.canonical
    | .ior => []
  else []

/-
  What the rules report for the declaration `s` at identity `i`:
  missing if mandatory and not given, repeated if unique and given
  more than once, then its group rule.
-/
def reportsOf (t : OptionTable) (c : Captured) (i : Nat) (s : OptionSpec) :
    List Violation :=
  (if !s.optional && c.count i == 0 then [.missingMandatory s.canonical] else []) ++
    (if s.unique && c.count i > 1 then [.repeated s.canonical (c.count i)] else []) ++
    t.groupReports c i s

/- The numbered IOR groups, in order of first appearance. -/
def numberedIorGroups (t : OptionTable) : List Group :=
  ((t.specs.map (·.group)).filter fun g => g.kind == .ior && g.isNumbered).eraseDups

/-
  One violation for each numbered IOR group with no member given,
  listing the canonical names of all its members in declaration
  order.
-/
def iorReports (t : OptionTable) (c : Captured) : List Violation :=
  (t.numberedIorGroups.filter fun g => !(t.groupEntries g).any fun e => 0 < c.count e.1).map
    fun g => .iorEmpty g.number ((t.groupEntries g).map (·.2.canonical))

/-
  The violations of a capture, rule by rule: those of every
  declaration in declaration order, then, under the at-least-one
  policy, the empty IOR groups.
-/
def ruleViolations (t : OptionTable) (c : Captured) (policy : IorPolicy) : List Violation :=
  t.entries.flatMap (fun e => t.reportsOf c e.1 e.2) ++
    if policy = .atLeastOne then t.iorReports c else []

end OptionTable

end OptionGrammar

------------------------------------------------------------
-- Keeping First Occurrences
------------------------------------------------------------

/-
  Dropping what was seen before and keeping first occurrences, one
  element at a time: the head is kept unless seen, and a kept head
  counts as seen for the rest.
-/
theorem List.eraseDups_filter_cons
    {α : Type}
    [BEq α]
    [LawfulBEq α]
    (seen : α → Bool)
    (x : α)
    (xs : List α) :
    ((x :: xs).filter fun y => !seen y).eraseDups =
      if seen x then (xs.filter fun y => !seen y).eraseDups
      else x :: (xs.filter fun y => !(seen y || y == x)).eraseDups := by
  by_cases hSeen : seen x = true
  · simp [hSeen]
  · simp only [List.filter_cons, hSeen, Bool.not_false, if_true, List.eraseDups_cons,
      Bool.false_eq_true, if_false, List.filter_filter, Bool.not_or]
    congr 3
    funext y
    exact Bool.and_comm _ _

namespace OptionGrammar

/-
  The AND names a walk over the members `mates` of the group of `s`
  reports, given the pairs reported before: the names of the
  mandatory members other than `id` that were not given, less the
  names reported already, each name once.
-/
def andNames (c : Captured) (id : Nat) (s : OptionSpec) (reported : List (UInt8 × String))
    (mates : List (Nat × OptionSpec)) : List String :=
  ((((mates.filter fun e => !(e.1 == id || e.2.optional || c.contains e.1)).map
    (·.2.canonical)).filter fun name => !reported.contains (s.group.number, name))).eraseDups

section AndNames

variable {c : Captured} {id : Nat} {s : OptionSpec} {reported : List (UInt8 × String)}
variable {e : Nat × OptionSpec} {mates : List (Nat × OptionSpec)}

/- A member that is `s` itself, optional or given adds no name. -/
theorem andNames_cons_of_skip
    (hSkip : (e.1 == id || e.2.optional || c.contains e.1) = true) :
    andNames c id s reported (e :: mates) = andNames c id s reported mates := by
  have hDrop : ¬(!(e.1 == id || e.2.optional || c.contains e.1)) = true := by
    simp only [hSkip, Bool.not_true, Bool.false_eq_true, not_false_eq_true]
  unfold andNames
  rw [List.filter_cons_of_neg
    (p := fun e : Nat × OptionSpec => !(e.1 == id || e.2.optional || c.contains e.1)) hDrop]

/-
  A mandatory member not given adds its name unless reported, and
  the name counts as reported for the rest.
-/
theorem andNames_cons_of_keep
    (hSkip : ¬(e.1 == id || e.2.optional || c.contains e.1) = true) :
    andNames c id s reported (e :: mates) =
      if reported.contains (s.group.number, e.2.canonical) then
        andNames c id s reported mates
      else e.2.canonical :: andNames c id s
        (reported ++ [(s.group.number, e.2.canonical)]) mates := by
  have hKeep : (!(e.1 == id || e.2.optional || c.contains e.1)) = true := by
    simpa using hSkip
  unfold andNames
  rw [List.filter_cons_of_pos
    (p := fun e : Nat × OptionSpec => !(e.1 == id || e.2.optional || c.contains e.1)) hKeep,
    List.map_cons, List.eraseDups_filter_cons]
  simp [Bool.beq_eq_decide_eq]

end AndNames

/-
  The AND walk of one member reports each new name once and adds
  its pair to those reported.
-/
theorem foldl_andStep
    (c : Captured)
    (id : Nat)
    (s : OptionSpec)
    (mates : List (Nat × OptionSpec))
    (found : List Violation)
    (reported : List (UInt8 × String)) :
    mates.foldl (andStep c id s) (found, reported) =
      (found ++ (andNames c id s reported mates).map
          (.andIncomplete s.group.number s.canonical),
        reported ++ (andNames c id s reported mates).map (s.group.number, ·)) := by
  induction mates generalizing found reported with
  | nil => simp [andNames]
  | cons e mates ih =>
      rw [List.foldl_cons]
      by_cases hSkip : (e.1 == id || e.2.optional || c.contains e.1) = true
      · have hStep : andStep c id s (found, reported) e = (found, reported) := by
          simp [andStep, hSkip]
        rw [hStep, ih, andNames_cons_of_skip hSkip]
      · rw [andNames_cons_of_keep hSkip]
        by_cases hReported : (s.group.number, e.2.canonical) ∈ reported
        · have hStep : andStep c id s (found, reported) e = (found, reported) := by
            simp [andStep, hSkip, hReported]
          rw [hStep, ih, if_pos (List.contains_iff_mem.mpr hReported)]
        · have hStep : andStep c id s (found, reported) e =
              (found ++ [.andIncomplete s.group.number s.canonical e.2.canonical],
                reported ++ [(s.group.number, e.2.canonical)]) := by
            simp [andStep, hSkip, hReported]
          have hFresh : reported.contains (s.group.number, e.2.canonical) = false := by
            simpa using hReported
          rw [hStep, ih, hFresh]
          simp

namespace OptionTable

/-
  Collecting the numbered IOR groups keeps the groups seen before
  and adds the new ones in order of first appearance.
-/
theorem foldl_addIorGroup
    (acc : List Group)
    (l : List OptionSpec) :
    l.foldl addIorGroup acc =
      acc ++ ((((l.map (·.group)).filter fun g => g.kind == .ior && g.isNumbered)).filter
        fun g => !acc.contains g).eraseDups := by
  induction l generalizing acc with
  | nil => simp
  | cons s l ih =>
      rw [List.foldl_cons, List.map_cons, List.filter_cons]
      by_cases hIor : (s.group.kind == .ior && s.group.isNumbered) = true
      · rw [if_pos hIor, List.eraseDups_filter_cons]
        by_cases hSeen : s.group ∈ acc
        · -- a group seen before is not added again
          have hStep : addIorGroup acc s = acc := by
            simp [addIorGroup, hSeen]
          rw [hStep, ih, if_pos (List.contains_iff_mem.mpr hSeen)]
        · have hStep : addIorGroup acc s = acc ++ [s.group] := by
            simp [addIorGroup, hIor, hSeen]
          have hFresh : acc.contains s.group = false := by
            simpa using hSeen
          rw [hStep, ih, hFresh, List.append_assoc]
          simp [Bool.beq_eq_decide_eq]
      · have hStep : addIorGroup acc s = acc := by
          simp [addIorGroup, hIor]
        rw [if_neg hIor, hStep, ih]

theorem iorGroups_eq
    (t : OptionTable) :
    t.iorGroups = t.numberedIorGroups := by
  simp [iorGroups, numberedIorGroups, foldl_addIorGroup]

theorem members_eq_map
    (t : OptionTable)
    (g : Group) :
    t.members g = (t.groupEntries g).map (·.1) := rfl

theorem emptyIorGroups_eq_iorReports
    (t : OptionTable)
    (c : Captured) :
    t.emptyIorGroups c = t.iorReports c := by
  have hEmpty : (fun g => !(t.members g).any c.contains) =
      fun g => !(t.groupEntries g).any fun e => 0 < c.count e.1 := by
    funext g
    rw [members_eq_map, List.any_map]
    rfl
  have hNames : ∀ g, (t.members g).filterMap (fun j => (t.get? j).map (·.canonical)) =
      (t.groupEntries g).map (·.2.canonical) := by
    intro g
    rw [members_eq_map, List.filterMap_map, ← List.filterMap_eq_map]
    apply List.filterMap_congr
    intro e he
    have hSpec : t.get? e.1 = some e.2 := mem_entries.mp (mem_groupEntries.mp he).1
    simp [hSpec]
  unfold emptyIorGroups iorReports
  rw [iorGroups_eq, hEmpty]
  simp only [hNames]

end OptionTable

end OptionGrammar

------------------------------------------------------------
-- The Walk, One Declaration at a Time
------------------------------------------------------------

namespace OptionGrammar

namespace OptionTable

variable {t : OptionTable} {c : Captured}

/-
  The AND pairs a given member `e` of a numbered AND group stands
  for: its group number with each name missing from the group.
-/
def pairsOf (t : OptionTable) (c : Captured) (e : Nat × OptionSpec) :
    List (UInt8 × String) :=
  if 0 < c.count e.1 && e.2.group.isNumbered && e.2.group.kind == .and then
    (t.missingNames c e.2.group).map (e.2.group.number, ·)
  else []

/-
  The AND pairs reported are those of the declarations before
  identity `k`.
-/
def PairsBefore (t : OptionTable) (c : Captured) (k : Nat)
    (reported : List (UInt8 × String)) : Prop :=
  ∀ key, key ∈ reported ↔ ∃ e ∈ t.entries, e.1 < k ∧ key ∈ t.pairsOf c e

theorem reportsOf_eq
    (t : OptionTable)
    (c : Captured)
    (i : Nat)
    (s : OptionSpec) :
    t.reportsOf c i s = ownViolations c i s ++ t.groupReports c i s := rfl

/-
  Of a given member, the AND walk keeps exactly the mandatory
  members not given: the member itself was given.
-/
theorem filter_andMates
    {k : Nat}
    (hGiven : 0 < c.count k)
    (mates : List (Nat × OptionSpec)) :
    mates.filter (fun e => !(e.1 == k || e.2.optional || c.contains e.1)) =
      mates.filter fun e => !e.2.optional && c.count e.1 == 0 := by
  apply List.filter_congr
  intro e _
  rw [Bool.eq_iff_iff]
  by_cases hSelf : e.1 = k
  · simp [hSelf, Captured.contains, Nat.pos_iff_ne_zero.mp hGiven]
  · simp [hSelf, Captured.contains]

/-
  A given member of a numbered AND group with no earlier member
  given finds no pair of its group reported before it.
-/
theorem not_reported_of_firstGivenAt
    {k : Nat}
    {s : OptionSpec}
    {reported : List (UInt8 × String)}
    (hPairs : PairsBefore t c k reported)
    (hKind : s.group.kind = .and)
    (hFirst : t.firstGivenAt c s.group k = true)
    (name : String) :
    (s.group.number, name) ∉ reported := by
  intro hMem
  obtain ⟨e, he, hBefore, hPair⟩ := (hPairs _).mp hMem
  unfold pairsOf at hPair
  split at hPair
  · rename_i hAnd
    simp only [Bool.and_eq_true, decide_eq_true_eq, beq_iff_eq] at hAnd
    obtain ⟨⟨hGiven, -⟩, hKind'⟩ := hAnd
    obtain ⟨name', -, hEq⟩ := List.mem_map.mp hPair
    have hNumber : e.2.group.number = s.group.number := congrArg Prod.fst hEq
    -- the earlier member is of the same group, and was given
    have hGroup : e.2.group = s.group :=
      calc e.2.group = ⟨e.2.group.kind, e.2.group.number⟩ := rfl
        _ = ⟨s.group.kind, s.group.number⟩ := by rw [hKind', hKind, hNumber]
        _ = s.group := rfl
    have hAll := List.all_eq_true.mp hFirst e (mem_groupEntries.mpr ⟨he, hGroup⟩)
    simp only [Bool.or_eq_true, decide_eq_true_eq, beq_iff_eq] at hAll
    omega
  · cases hPair

/-
  A given member of a numbered AND group with an earlier member
  given finds every pair of its group reported: the earlier member
  reported them.
-/
theorem reported_of_firstGivenAt_eq_false
    {k : Nat}
    {s : OptionSpec}
    {reported : List (UInt8 × String)}
    (hPairs : PairsBefore t c k reported)
    (hNumbered : s.group.isNumbered = true)
    (hKind : s.group.kind = .and)
    (hFirst : t.firstGivenAt c s.group k = false)
    {name : String}
    (hName : name ∈ t.missingNames c s.group) :
    (s.group.number, name) ∈ reported := by
  obtain ⟨e, he, hEarly⟩ := List.all_eq_false.mp hFirst
  obtain ⟨hEntry, hGroup⟩ := mem_groupEntries.mp he
  simp only [Bool.or_eq_true, decide_eq_true_eq, beq_iff_eq, not_or, Nat.not_le] at hEarly
  apply (hPairs _).mpr
  refine ⟨e, hEntry, hEarly.1, ?_⟩
  have hStands : (0 < c.count e.1 && e.2.group.isNumbered && e.2.group.kind == .and) = true := by
    simp [hGroup, hNumbered, hKind, Nat.pos_iff_ne_zero, hEarly.2]
  unfold pairsOf
  rw [if_pos hStands, hGroup]
  exact List.mem_map.mpr ⟨name, hName, rfl⟩

/-
  A given member of a numbered AND group with an earlier member
  given stands for pairs all reported before it.
-/
theorem pairsOf_reported_of_firstGivenAt_eq_false
    {k : Nat}
    {s : OptionSpec}
    {reported : List (UInt8 × String)}
    (hPairs : PairsBefore t c k reported)
    (hGiven : 0 < c.count k)
    (hNumbered : s.group.isNumbered = true)
    (hKind : s.group.kind = .and)
    (hFirst : t.firstGivenAt c s.group k = false) :
    ∀ key ∈ t.pairsOf c (k, s), key ∈ reported := by
  intro key hKey
  simp only [pairsOf, hGiven, hNumbered, hKind] at hKey
  simp only [decide_true, Bool.and_self, beq_self_eq_true, if_true] at hKey
  obtain ⟨name, hName, rfl⟩ := List.mem_map.mp hKey
  exact reported_of_firstGivenAt_eq_false hPairs hNumbered hKind hFirst hName

/-
  What the AND walk of a given member reports: every name missing
  from its group if no earlier member was given, and nothing
  otherwise.
-/
theorem andNames_groupEntries
    {k : Nat}
    {s : OptionSpec}
    {reported : List (UInt8 × String)}
    (hPairs : PairsBefore t c k reported)
    (hGiven : 0 < c.count k)
    (hNumbered : s.group.isNumbered = true)
    (hKind : s.group.kind = .and) :
    andNames c k s reported (t.groupEntries s.group) =
      if t.firstGivenAt c s.group k then t.missingNames c s.group else [] := by
  unfold andNames
  rw [filter_andMates hGiven]
  cases hFirst : t.firstGivenAt c s.group k with
  | true =>
      -- no pair of the group was reported before: nothing is dropped
      rw [if_pos rfl, List.filter_eq_self.mpr]
      · rfl
      · intro name _
        have hFresh := not_reported_of_firstGivenAt hPairs hKind hFirst name
        simpa using hFresh
  | false =>
      -- every missing name was reported by the earlier member
      rw [List.filter_eq_nil_iff.mpr]
      · rfl
      · intro name hName
        have hMissing : name ∈ t.missingNames c s.group := List.mem_eraseDups.mpr hName
        have hOld := reported_of_firstGivenAt_eq_false hPairs hNumbered hKind hFirst hMissing
        simpa using hOld

/-
  One declaration of the walk: what it adds to the violations is
  what the rules report for it, and the pairs reported afterwards
  are those before and its own.
-/
theorem optionViolations_step
    {k : Nat}
    {s : OptionSpec}
    {reported : List (UInt8 × String)}
    (hPairs : PairsBefore t c k reported) :
    (t.optionViolations c reported k s).1 = t.reportsOf c k s ∧
      ∀ key, key ∈ (t.optionViolations c reported k s).2 ↔
        key ∈ reported ∨ key ∈ t.pairsOf c (k, s) := by
  rw [reportsOf_eq]
  unfold optionViolations
  by_cases hSkip : (c.count k == 0 || !s.group.isNumbered) = true
  · -- not given, or in no group: no group rule applies and no pair
    have hQuiet : (0 < c.count k && s.group.isNumbered) = false := by
      simp only [Bool.or_eq_true, beq_iff_eq, Bool.not_eq_true'] at hSkip
      rcases hSkip with hZero | hPlain
      · simp [hZero]
      · simp [hPlain]
    rw [if_pos hSkip]
    refine ⟨?_, fun key => ?_⟩
    · simp [groupReports, hQuiet]
    · simp [pairsOf, hQuiet]
  · simp only [Bool.or_eq_true, beq_iff_eq, Bool.not_eq_true', not_or,
      Bool.not_eq_false] at hSkip
    have hGiven : 0 < c.count k := Nat.pos_of_ne_zero hSkip.1
    have hNumbered : s.group.isNumbered = true := hSkip.2
    have hStands : (0 < c.count k && s.group.isNumbered) = true := by
      simp [hGiven, hNumbered]
    rw [if_neg (by simp [hSkip.1, hNumbered])]
    cases hKind : s.group.kind with
    | and =>
        simp only [foldl_andStep, andNames_groupEntries hPairs hGiven hNumbered hKind,
          List.nil_append]
        cases hFirst : t.firstGivenAt c s.group k with
        | true =>
            refine ⟨?_, fun key => ?_⟩
            · simp [groupReports, hStands, hKind, hFirst]
            · simp [pairsOf, hGiven, hNumbered, hKind]
        | false =>
            refine ⟨?_, fun key => ?_⟩
            · simp [groupReports, hStands, hKind, hFirst]
            · -- the member's own pairs were reported before it
              have hOld := pairsOf_reported_of_firstGivenAt_eq_false hPairs hGiven
                hNumbered hKind hFirst
              simp only [Bool.false_eq_true, if_false, List.map_nil, List.append_nil]
              exact ⟨Or.inl, fun h => h.elim id (hOld key)⟩
    | xor =>
        refine ⟨?_, fun key => ?_⟩
        · simp [groupReports, hStands, hKind, xorViolations, Captured.contains]
        · simp [pairsOf, hKind]
    | ior =>
        refine ⟨?_, fun key => ?_⟩
        · simp [groupReports, hStands, hKind]
        · simp [pairsOf, hKind]

theorem entries_take_succ
    {k : Nat}
    {s : OptionSpec}
    (hSpec : t.get? k = some s) :
    t.entries.take (k + 1) = t.entries.take k ++ [(k, s)] := by
  have hLt : k < t.specs.length := (List.getElem?_eq_some_iff.mp hSpec).1
  have hAt : t.entries[k]? = some (k, s) := by
    unfold entries size
    rw [List.getElem?_zip_eq_some, List.getElem?_range hLt]
    exact ⟨rfl, hSpec⟩
  rw [List.take_add_one, hAt]
  rfl

/-
  The state of the walk after the declarations before identity
  `k`: the violations those declarations report, rule by rule, and
  the AND pairs of their given members.
-/
structure WalkState (t : OptionTable) (c : Captured) (k : Nat)
    (acc : List Violation × List (UInt8 × String)) : Prop where
  found : acc.1 = (t.entries.take k).flatMap fun e => t.reportsOf c e.1 e.2
  pairs : PairsBefore t c k acc.2

theorem WalkState.start
    (t : OptionTable)
    (c : Captured) :
    WalkState t c 0 ([], []) where
  found := by simp
  pairs := by
    intro key
    simp

/- One declaration of the walk keeps the state. -/
theorem WalkState.step
    {k : Nat}
    {s : OptionSpec}
    {acc : List Violation × List (UInt8 × String)}
    (h : WalkState t c k acc)
    (hSpec : t.get? k = some s) :
    WalkState t c (k + 1) (t.checkStep c acc (k, s)) where
  found := by
    rw [entries_take_succ hSpec, List.flatMap_append, ← h.found]
    simp [checkStep, (optionViolations_step h.pairs).1]
  pairs := by
    intro key
    have hOne := (optionViolations_step (s := s) h.pairs).2 key
    simp only [checkStep]
    rw [hOne, h.pairs key]
    constructor
    · rintro (⟨e, he, hBefore, hKey⟩ | hOwn)
      · exact ⟨e, he, Nat.lt_succ_of_lt hBefore, hKey⟩
      · exact ⟨(k, s), mem_entries.mpr hSpec, Nat.lt_succ_self k, hOwn⟩
    · rintro ⟨e, he, hBefore, hKey⟩
      rcases Nat.lt_succ_iff_lt_or_eq.mp hBefore with hEarlier | hAt
      · exact Or.inl ⟨e, he, hEarlier, hKey⟩
      · -- the declaration at `k` is the one just walked
        have hSame : e = (k, s) := by
          have hEntry : t.specs[e.1]? = some e.2 := mem_entries.mp he
          rw [hAt] at hEntry
          exact Prod.ext hAt (Option.some.inj (hEntry.symm.trans hSpec))
        rw [hSame] at hKey
        exact Or.inr hKey

/- The walk keeps its state over every prefix of the declarations. -/
theorem walkState_take
    (t : OptionTable)
    (c : Captured)
    (k : Nat)
    (hk : k ≤ t.size) :
    WalkState t c k ((t.entries.take k).foldl (t.checkStep c) ([], [])) := by
  induction k with
  | zero => exact WalkState.start t c
  | succ k ih =>
      have hLt : k < t.specs.length := hk
      have hSpec : t.get? k = some t.specs[k] := List.getElem?_eq_getElem hLt
      rw [entries_take_succ hSpec, List.foldl_append, List.foldl_cons, List.foldl_nil]
      exact (ih (Nat.le_of_lt hk)).step hSpec

/-
  The checks report exactly the violations of the rules, in order:
  for each declaration in declaration order, missing if mandatory
  and not given, repeated if unique and given more than once, and,
  if given and in a numbered group, for an AND group and its first
  member given every name missing from the group, for an XOR group
  every later member given; then, under the at-least-one policy,
  each numbered IOR group with no member given, in order of first
  appearance, with the canonical names of all its members.
-/
theorem check_eq_ruleViolations
    (t : OptionTable)
    (c : Captured)
    (policy : IorPolicy) :
    t.check c policy = t.ruleViolations c policy := by
  have hWalk := walkState_take t c t.size (Nat.le_refl _)
  have hAll : t.entries.take t.size = t.entries :=
    List.take_of_length_le (by simp [entries, size])
  rw [hAll] at hWalk
  unfold check ruleViolations
  rw [hWalk.found, hAll, emptyIorGroups_eq_iorReports]
  cases policy with
  | permissive => simp
  | atLeastOne => simp

/-
  Two mandatory members of AND group 1 with no spelling share the
  canonical name "", and the one member given reports that name
  once for both: a single AND violation for two missing members.
-/
theorem check_nameless_and_members :
    let t : OptionTable :=
      OptionTable.ofSpecs [{ spellings := ["-a"], group := { kind := .and, number := 1 } },
        { spellings := [], optional := false, group := { kind := .and, number := 1 } },
        { spellings := [], optional := false, group := { kind := .and, number := 1 } }]
        (by decide)
    let c : Captured := { occurrences := [(0, "")] }
    t.check c .permissive =
      [.andIncomplete 1 "-a" "", .missingMandatory "", .missingMandatory ""] := by
  decide

end OptionTable

end OptionGrammar
