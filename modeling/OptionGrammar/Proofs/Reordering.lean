import OptionGrammar.Proofs.Scanning

/-
  Reordering the units of the arguments.

  The checks read the captured arguments only through how often
  each option was given: neither where an option was typed, nor
  through which spelling, nor its values.  The scan cuts a list of
  arguments into units, a token that names an option taking a
  value together with the token after it and every other token
  alone, and each unit of a successful scan reads the same on its
  own.  So the units may be put in any order: the new list scans,
  each option is given as often, its values and the positional
  tokens come in the new order of their units, the checks report
  the same violations, and a parse that does not ask for help ends
  the same way.

  Main declarations:
    * `OptionTable.check_eq_of_count_eq`
    * `OptionTable.units`, `Captured.concat`
    * `OptionTable.units_records`, `OptionTable.scan_flatten`
    * `OptionTable.scan_reordered_units`
-/

------------------------------------------------------------
-- The Checks Read Only Counts
------------------------------------------------------------

namespace OptionGrammar

section Counts

variable {c d : Captured}

theorem contains_eq_of_count_eq
    (hCount : ∀ id, c.count id = d.count id) :
    c.contains = d.contains := by
  funext id
  simp [Captured.contains, hCount]

theorem ownViolations_eq_of_count_eq
    (hCount : ∀ id, c.count id = d.count id) :
    ownViolations c = ownViolations d := by
  funext id s
  simp only [ownViolations, hCount]

theorem andStep_eq_of_count_eq
    (hCount : ∀ id, c.count id = d.count id) :
    andStep c = andStep d := by
  funext id s acc e
  simp only [andStep, contains_eq_of_count_eq hCount]

theorem xorViolations_eq_of_count_eq
    (hCount : ∀ id, c.count id = d.count id) :
    xorViolations c = xorViolations d := by
  funext id s mates
  simp only [xorViolations, contains_eq_of_count_eq hCount]

namespace OptionTable

theorem optionViolations_eq_of_count_eq
    (t : OptionTable)
    (hCount : ∀ id, c.count id = d.count id) :
    t.optionViolations c = t.optionViolations d := by
  funext reported id s
  simp only [optionViolations, hCount, ownViolations_eq_of_count_eq hCount,
    andStep_eq_of_count_eq hCount, xorViolations_eq_of_count_eq hCount]

theorem emptyIorGroups_eq_of_count_eq
    (t : OptionTable)
    (hCount : ∀ id, c.count id = d.count id) :
    t.emptyIorGroups c = t.emptyIorGroups d := by
  simp only [emptyIorGroups, contains_eq_of_count_eq hCount]

/-
  Two captures that give every option as often get the same
  violations, in the same order: no check looks at where or how an
  option was typed, nor at its values.
-/
theorem check_eq_of_count_eq
    (t : OptionTable)
    (hCount : ∀ id, c.count id = d.count id)
    (policy : IorPolicy) :
    t.check c policy = t.check d policy := by
  have hStep : t.checkStep c = t.checkStep d := by
    funext acc e
    simp only [checkStep, t.optionViolations_eq_of_count_eq hCount]
  unfold check
  rw [hStep, t.emptyIorGroups_eq_of_count_eq hCount]

end OptionTable

end Counts

end OptionGrammar

------------------------------------------------------------
-- Units of the Arguments
------------------------------------------------------------

namespace OptionGrammar

/- What a list of captures amounts to, read one after another. -/
def Captured.concat (records : List Captured) : Captured :=
  records.foldr (· ++ ·) {}

namespace Captured

@[simp] theorem concat_nil : concat [] = {} := rfl

@[simp] theorem concat_cons (r : Captured) (records : List Captured) :
    concat (r :: records) = r ++ concat records := rfl

theorem valuesOf_concat (records : List Captured) (id : Nat) :
    (concat records).valuesOf id = records.flatMap (·.valuesOf id) := by
  induction records with
  | nil => simp [valuesOf]
  | cons r records ih => simp [ih]

theorem positional_concat (records : List Captured) :
    (concat records).positional = records.flatMap (·.positional) := by
  induction records with
  | nil => rfl
  | cons r records ih => simp [ih]

theorem count_concat (records : List Captured) (id : Nat) :
    (concat records).count id = (records.map (·.count id)).sum := by
  induction records with
  | nil => simp [count, valuesOf]
  | cons r records ih => simp [ih]

/- Reading the same records in another order gives every option as often. -/
theorem count_concat_of_perm
    {records records' : List Captured}
    (hPerm : records'.Perm records)
    (id : Nat) :
    (concat records').count id = (concat records).count id := by
  rw [count_concat, count_concat]
  exact (hPerm.map _).sum_eq

end Captured

namespace OptionTable

/-
  The units of a list of arguments along the scan: a token that
  names an option taking a value, together with the token after
  it, and every other token alone.
-/
def units (t : OptionTable) : List String → List (List String)
  | [] => []
  | [tok] => [[tok]]
  | tok :: value :: rest =>
      if (t.spec? tok).any OptionSpec.takesValue then [tok, value] :: t.units rest
      else [tok] :: t.units (value :: rest)

variable {t : OptionTable} {tok value : String} {rest : List String}

theorem units_of_takesValue_eq_false
    (h : (t.spec? tok).any OptionSpec.takesValue = false)
    (rest : List String) :
    t.units (tok :: rest) = [tok] :: t.units rest := by
  cases rest with
  | nil => rfl
  | cons value rest => simp [units, h]

theorem units_of_takesValue
    (h : (t.spec? tok).any OptionSpec.takesValue = true)
    (value : String)
    (rest : List String) :
    t.units (tok :: value :: rest) = [tok, value] :: t.units rest := by
  simp [units, h]

theorem spec?_eq_some
    {id : Nat}
    {s : OptionSpec}
    (hLookup : t.lookup tok = some id)
    (hSpec : t.get? id = some s) :
    t.spec? tok = some s := by
  simp [spec?, hLookup, hSpec]

/- A unit in front of the others puts its record in front of theirs. -/
theorem units_records_cons
    {args rest u : List String}
    {r c : Captured}
    (hUnits : t.units args = u :: t.units rest)
    (hUnit : t.scan u = .ok r)
    (hRest : ∃ records, List.Forall₂ (fun u r => t.scan u = .ok r) (t.units rest) records ∧
      Captured.concat records = c) :
    ∃ records, List.Forall₂ (fun u r => t.scan u = .ok r) (t.units args) records ∧
      Captured.concat records = r ++ c := by
  obtain ⟨records, hRecords, rfl⟩ := hRest
  rw [hUnits]
  exact ⟨r :: records, List.Forall₂.cons hUnit hRecords, rfl⟩

/-
  Along a successful scan every unit reads on its own, and the
  records of the units, read one after another, are what the whole
  list captures.
-/
theorem units_records
    {args : List String}
    {c : Captured}
    (h : Scans t args c) :
    ∃ records, List.Forall₂ (fun u r => t.scan u = .ok r) (t.units args) records ∧
      Captured.concat records = c := by
  induction h with
  | nil => exact ⟨[], List.Forall₂.nil, rfl⟩
  | @undeclared tok rest c hLookup _ ih =>
      have hAlone : (t.spec? tok).any OptionSpec.takesValue = false := by
        simp [spec?, hLookup]
      have hUnit : t.scan [tok] = .ok (({} : Captured).consPositional tok) := by
        rw [scan_undeclared hLookup]
        rfl
      exact units_records_cons (units_of_takesValue_eq_false hAlone rest) hUnit ih
  | @flag tok rest c id s hLookup hSpec hParam _ ih =>
      have hAlone : (t.spec? tok).any OptionSpec.takesValue = false := by
        simp [spec?_eq_some hLookup hSpec, OptionSpec.takesValue, hParam]
      have hUnit : t.scan [tok] = .ok (({} : Captured).consOccurrence id "") := by
        rw [scan_flag hLookup hSpec hParam]
        rfl
      exact units_records_cons (units_of_takesValue_eq_false hAlone rest) hUnit ih
  | @value tok value rest c id s p hLookup hSpec hParam hAccepts _ ih =>
      have hPair : (t.spec? tok).any OptionSpec.takesValue = true := by
        simp [spec?_eq_some hLookup hSpec, OptionSpec.takesValue, hParam]
      have hUnit : t.scan [tok, value] = .ok (({} : Captured).consOccurrence id value) := by
        rw [scan_value hLookup hSpec hParam hAccepts]
        rfl
      exact units_records_cons (units_of_takesValue hPair value rest) hUnit ih

/-
  Units that each read on their own read, one after another, as
  their records do.
-/
theorem scan_flatten
    {pieces : List (List String)}
    {records : List Captured}
    (h : List.Forall₂ (fun u r => t.scan u = .ok r) pieces records) :
    t.scan pieces.flatten = .ok (Captured.concat records) := by
  induction h with
  | nil => rfl
  | cons hHead _ ih =>
      rw [List.flatten_cons, scan_append_of_ok hHead, ih]
      rfl

/- Reordered units read as their records, reordered alike. -/
theorem exists_records_of_perm
    {pieces pieces' : List (List String)}
    {records : List Captured}
    (hRecords : List.Forall₂ (fun u r => t.scan u = .ok r) pieces records)
    (hPerm : pieces'.Perm pieces) :
    ∃ records', List.Forall₂ (fun u r => t.scan u = .ok r) pieces' records' ∧
      records'.Perm records := by
  have hComp : Relation.Comp List.Perm (List.Forall₂ fun u r => t.scan u = .ok r)
      pieces' records := ⟨pieces, hPerm, hRecords⟩
  rw [← List.forall₂_comp_perm_eq_perm_comp_forall₂] at hComp
  exact hComp

/-
  A parse that does not ask for help and whose arguments scan ends
  as the checks of its capture say; two such parses whose captures
  get the same violations end the same way.
-/
theorem parse_fst_eq_of_check_eq
    {p : OptionParser}
    {args args' : List String}
    {c c' : Captured}
    (hHelp : p.config.asksHelp args = false)
    (hHelp' : p.config.asksHelp args' = false)
    (hScan : p.table.scan args = .ok c)
    (hScan' : p.table.scan args' = .ok c')
    (hCheck : p.table.check c p.config.iorPolicy = p.table.check c' p.config.iorPolicy) :
    (p.parse args).1 = (p.parse args').1 := by
  simp only [OptionParser.parse, hHelp, hHelp', hScan, hScan', hCheck,
    Bool.false_eq_true, if_false]
  cases p.table.check c' p.config.iorPolicy <;> rfl

/-
  Reordering the units of arguments that scan changes nothing the
  checks can see.  Any permutation of the units scans; each unit
  reads on its own, and the new list captures what the units
  capture in their new order: the values of each option, and the
  positional tokens, in the order of their units.  Every option is
  given as often as before, the checks report the same violations
  under either policy, and a parse of either list that does not
  ask for help ends the same way.
-/
theorem scan_reordered_units
    {t : OptionTable}
    {args : List String}
    {c : Captured}
    (hScan : t.scan args = .ok c)
    {reordered : List (List String)}
    (hPerm : reordered.Perm (t.units args)) :
    ∃ records : List Captured,
      List.Forall₂ (fun u r => t.scan u = .ok r) reordered records ∧
        t.scan reordered.flatten = .ok (Captured.concat records) ∧
        (∀ id, (Captured.concat records).valuesOf id = records.flatMap (·.valuesOf id)) ∧
        (Captured.concat records).positional = records.flatMap (·.positional) ∧
        (∀ id, (Captured.concat records).count id = c.count id) ∧
        (∀ policy, t.check (Captured.concat records) policy = t.check c policy) ∧
        ∀ p : OptionParser, p.table = t →
          p.config.asksHelp args = false →
          p.config.asksHelp reordered.flatten = false →
            (p.parse reordered.flatten).1 = (p.parse args).1 := by
  obtain ⟨records, hUnits, hConcat⟩ := units_records (scans_of_scan_eq_ok hScan)
  obtain ⟨records', hReordered, hRecordsPerm⟩ := exists_records_of_perm hUnits hPerm
  have hCount : ∀ id, (Captured.concat records').count id = c.count id := by
    intro id
    rw [← hConcat]
    exact Captured.count_concat_of_perm hRecordsPerm id
  have hCheck : ∀ policy, t.check (Captured.concat records') policy = t.check c policy :=
    t.check_eq_of_count_eq hCount
  have hScan' := scan_flatten hReordered
  refine ⟨records', hReordered, hScan', Captured.valuesOf_concat records',
    Captured.positional_concat records', hCount, hCheck, ?_⟩
  intro p hTable hHelp hHelp'
  subst hTable
  exact parse_fst_eq_of_check_eq hHelp' hHelp hScan' hScan (hCheck p.config.iorPolicy)

/- A positional token and two flags, read with the last flag first. -/
theorem scan_reordered_flags :
    let t : OptionTable := OptionTable.ofSpecs [OptionSpec.flag "-v", OptionSpec.flag "-w"] (by decide)
    let args := ["x", "-v", "-w"]
    let reordered := [["-w"], ["x"], ["-v"]]
    let c : Captured := { occurrences := [(0, ""), (1, "")], positional := ["x"] }
    t.scan args = .ok c ∧ reordered.Perm (t.units args) ∧
      ∃ records : List Captured,
        List.Forall₂ (fun u r => t.scan u = .ok r) reordered records ∧
          t.scan reordered.flatten = .ok (Captured.concat records) ∧
          (∀ id, (Captured.concat records).valuesOf id = records.flatMap (·.valuesOf id)) ∧
          (Captured.concat records).positional = records.flatMap (·.positional) ∧
          (∀ id, (Captured.concat records).count id = c.count id) ∧
          (∀ policy, t.check (Captured.concat records) policy = t.check c policy) ∧
          ∀ p : OptionParser, p.table = t →
            p.config.asksHelp args = false →
            p.config.asksHelp reordered.flatten = false →
              (p.parse reordered.flatten).1 = (p.parse args).1 :=
  ⟨rfl, by decide, scan_reordered_units rfl (by decide)⟩

end OptionTable

end OptionGrammar
