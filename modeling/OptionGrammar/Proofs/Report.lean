import OptionGrammar.Proofs.Scanning
import OptionGrammar.Access

/-
  The report of a parse.

  The captured results key each value by the identity of its
  option; the report collects them into a map keyed by canonical
  name, ordered by name, where a later entry under a name takes the
  place of an earlier one.  Renaming keys so could merge or drop
  entries, and it does neither here: the identities of the options
  given are collected once each, and every option a scan captures
  was named by one of its spellings, so it has a canonical name, and
  options with a spelling have distinct canonical names.  After any history of
  parse calls on a fresh parser the report therefore holds exactly
  one entry per option given, under its canonical name and with its
  values in order, sorted by name, and as many entries as options
  were given, whichever spellings were typed.

  Main declarations:
    * `Captured.mem_insertId`, `Captured.mem_givenIds`, `Captured.pairwise_givenIds`
    * `Captured.Named`, `OptionTable.Scans.named`, `Parses.named`
    * `mem_toList_ofList_iff`, `length_toList_ofList`
    * `OptionParser.namedEntries_keys_nodup`
    * `OptionParser.mem_report_options`, `OptionParser.report_keys_pairwise`
    * `OptionParser.length_report_options`
    * `OptionParser.report_one_entry_per_option`
-/

------------------------------------------------------------
-- The Options Given
------------------------------------------------------------

namespace OptionGrammar

namespace Captured

theorem mem_insertId
    {x id : Nat}
    {l : List Nat} :
    x ∈ insertId id l ↔ x = id ∨ x ∈ l := by
  induction l with
  | nil => simp [insertId]
  | cons y ys ih =>
      unfold insertId
      by_cases hLt : id < y
      · simp [hLt]
      · by_cases hEq : id = y
        · subst hEq
          simp
        · simp only [hLt, if_false, beq_iff_eq, hEq, List.mem_cons, ih]
          tauto

/- Inserting into an ascending list keeps it ascending. -/
theorem pairwise_insertId
    {id : Nat}
    {l : List Nat}
    (h : l.Pairwise (· < ·)) :
    (insertId id l).Pairwise (· < ·) := by
  induction l with
  | nil => simp [insertId]
  | cons y ys ih =>
      obtain ⟨hHead, hTail⟩ := List.pairwise_cons.mp h
      unfold insertId
      by_cases hLt : id < y
      · rw [if_pos hLt]
        refine List.Pairwise.cons ?_ h
        intro z hz
        rcases List.mem_cons.mp hz with rfl | hz
        · exact hLt
        · exact Nat.lt_trans hLt (hHead z hz)
      · rw [if_neg hLt]
        by_cases hEq : id = y
        · rw [if_pos (beq_iff_eq.mpr hEq)]
          exact h
        · rw [if_neg (by simpa using hEq)]
          refine List.Pairwise.cons ?_ (ih hTail)
          intro z hz
          rcases mem_insertId.mp hz with rfl | hz
          · omega
          · exact hHead z hz

/- Folding the occurrences into a list of identities. -/
theorem foldl_insertId
    (os : List (Nat × String))
    (acc : List Nat) :
    ((os.foldl (fun acc (id, _) => insertId id acc) acc).Pairwise (· < ·) ∨
        ¬ acc.Pairwise (· < ·)) ∧
      ∀ x, x ∈ os.foldl (fun acc (id, _) => insertId id acc) acc ↔
        x ∈ acc ∨ ∃ v, (x, v) ∈ os := by
  induction os generalizing acc with
  | nil => simp only [List.foldl_nil, List.not_mem_nil, exists_false, or_false, implies_true,
      and_true, em]
  | cons o os ih =>
      obtain ⟨hSorted, hMem⟩ := ih (insertId o.1 acc)
      refine ⟨?_, fun x => ?_⟩
      · rcases hSorted with hSorted | hNot
        · exact .inl hSorted
        · exact .inr fun hAcc => hNot (pairwise_insertId hAcc)
      · rw [List.foldl_cons, hMem, mem_insertId]
        constructor
        · rintro ((rfl | hx) | ⟨v, hv⟩)
          · exact .inr ⟨o.2, List.mem_cons_self⟩
          · exact .inl hx
          · exact .inr ⟨v, List.mem_cons_of_mem o hv⟩
        · rintro (hx | ⟨v, hv⟩)
          · exact .inl (.inr hx)
          · rcases List.mem_cons.mp hv with rfl | hv
            · exact .inl (.inl rfl)
            · exact .inr ⟨v, hv⟩

/- The identities of the options given are those of the occurrences. -/
theorem mem_givenIds
    {c : Captured}
    {x : Nat} :
    x ∈ c.givenIds ↔ ∃ v, (x, v) ∈ c.occurrences := by
  unfold givenIds
  rw [(foldl_insertId c.occurrences []).2 x]
  simp

/- They come in ascending order, so each once. -/
theorem pairwise_givenIds
    (c : Captured) :
    c.givenIds.Pairwise (· < ·) := by
  unfold givenIds
  rcases (foldl_insertId c.occurrences []).1 with h | h
  · exact h
  · exact absurd List.Pairwise.nil h

theorem valuesOf_ne_nil_iff
    {c : Captured}
    {id : Nat} :
    c.valuesOf id ≠ [] ↔ ∃ v, (id, v) ∈ c.occurrences := by
  unfold valuesOf
  simp only [ne_eq, List.map_eq_nil_iff, List.filter_eq_nil_iff, beq_iff_eq, not_forall,
    not_not, exists_prop]
  constructor
  · rintro ⟨⟨i, v⟩, hMem, rfl⟩
    exact ⟨v, hMem⟩
  · rintro ⟨v, hMem⟩
    exact ⟨(id, v), hMem, rfl⟩

/-
  Every occurrence names a declared option that has a spelling, as
  an option is only ever captured through one of its spellings.
-/
def Named (t : OptionTable) (c : Captured) : Prop :=
  ∀ o ∈ c.occurrences, ∃ s, t.get? o.1 = some s ∧ s.spellings ≠ []

theorem named_empty
    (t : OptionTable) :
    ({} : Captured).Named t := by
  intro o ho
  cases ho

end Captured

namespace OptionTable

/- A scan captures options only through their spellings. -/
theorem Scans.named
    {t : OptionTable}
    {args : List String}
    {c : Captured}
    (h : Scans t args c) :
    c.Named t := by
  have hSpelled : ∀ {tok id}, t.lookup tok = some id →
      ∃ s, t.get? id = some s ∧ s.spellings ≠ [] := by
    intro tok id hLookup
    obtain ⟨s, hs, hMem⟩ := (t.lookup_eq_some_iff tok id).mp hLookup
    exact ⟨s, hs, List.ne_nil_of_mem hMem⟩
  induction h with
  | nil => exact Captured.named_empty t
  | undeclared _ _ ih => exact ih
  | flag hLookup _ _ _ ih =>
      intro o ho
      rcases List.mem_cons.mp ho with rfl | ho
      · exact hSpelled hLookup
      · exact ih o ho
  | value hLookup _ _ _ _ ih =>
      intro o ho
      rcases List.mem_cons.mp ho with rfl | ho
      · exact hSpelled hLookup
      · exact ih o ho

end OptionTable

/- Whatever a parse call keeps was captured through spellings. -/
theorem Parses.named
    {t : OptionTable}
    {cfg : ParserConfig}
    {args : List String}
    {outcome : Except ArgError ParseOutcome}
    {c : Captured}
    (h : Parses t cfg args outcome c) :
    c.Named t := by
  cases h with
  | help _ => exact Captured.named_empty t
  | matchError _ _ => exact Captured.named_empty t
  | violation _ hScan _ => exact (OptionTable.scans_of_scan_eq_ok hScan).named
  | accepted _ hScan _ => exact (OptionTable.scans_of_scan_eq_ok hScan).named

------------------------------------------------------------
-- Collecting Entries by Name
------------------------------------------------------------

section Collect

/-
  Collecting entries into a map ordered by name, where a later entry
  takes the place of an earlier one under the same name: when no two
  entries share a name, nothing is lost, and the map lists them by
  ascending name.
-/

variable {β : Type} {l : List (String × β)}

/- Entries under distinct names are never compared equal. -/
theorem pairwise_compare_ne_eq (h : (l.map Prod.fst).Nodup) :
    l.Pairwise fun a b => ¬compare a.1 b.1 = .eq :=
  (List.pairwise_map.mp h).imp fun hNe hEq => hNe (Std.compare_eq_iff_eq.mp hEq)

theorem mem_toList_ofList_iff (h : (l.map Prod.fst).Nodup) (k : String) (v : β) :
    (k, v) ∈ (Std.TreeMap.ofList l compare).toList ↔ (k, v) ∈ l := by
  have hDistinct := pairwise_compare_ne_eq h
  rw [Std.TreeMap.mem_toList_iff_getElem?_eq_some]
  constructor
  · intro hGet
    -- a name the entries lack finds nothing in the map
    have hKey : (l.map Prod.fst).contains k = true := by
      by_contra hNot
      rw [Std.TreeMap.getElem?_ofList_of_contains_eq_false (by simpa using hNot)] at hGet
      cases hGet
    obtain ⟨⟨k', w⟩, hMem, hk⟩ : ∃ e ∈ l, e.1 = k := by simpa using hKey
    dsimp only at hk
    subst hk
    rw [Std.TreeMap.getElem?_ofList_of_mem (Std.compare_eq_iff_eq.mpr rfl) hDistinct hMem,
      Option.some.injEq] at hGet
    rwa [← hGet]
  · intro hMem
    exact Std.TreeMap.getElem?_ofList_of_mem (Std.compare_eq_iff_eq.mpr rfl) hDistinct hMem

theorem length_toList_ofList (h : (l.map Prod.fst).Nodup) :
    (Std.TreeMap.ofList l compare).toList.length = l.length := by
  rw [Std.TreeMap.length_toList, Std.TreeMap.size_ofList (pairwise_compare_ne_eq h)]

theorem toList_ofList_keys_pairwise :
    ((Std.TreeMap.ofList l compare).toList.map Prod.fst).Pairwise (· < ·) := by
  have hOrdered : (Std.TreeMap.ofList l compare).toList.Pairwise
      fun a b => compare a.1 b.1 = .lt := Std.TreeMap.ordered_keys_toList
  rw [List.pairwise_map]
  exact hOrdered.imp compareOfLessAndEq_eq_lt.mp

end Collect

------------------------------------------------------------
-- The Entries of the Report
------------------------------------------------------------

namespace OptionParser

/- The named entries are the options given, with their values. -/
theorem mem_namedEntries
    (p : OptionParser)
    (k : String)
    (vs : List String) :
    (k, vs) ∈ p.namedEntries ↔
      ∃ i s, p.table.get? i = some s ∧ p.captured.valuesOf i ≠ [] ∧
        k = s.canonical ∧ vs = p.captured.valuesOf i := by
  unfold namedEntries Captured.grouped
  simp only [List.mem_filterMap, List.mem_map, Option.map_eq_some_iff, Prod.mk.injEq]
  constructor
  · rintro ⟨_, ⟨i, hi, rfl⟩, s, hs, rfl, rfl⟩
    exact ⟨i, s, hs, Captured.valuesOf_ne_nil_iff.mpr (Captured.mem_givenIds.mp hi), rfl, rfl⟩
  · rintro ⟨i, s, hs, hGiven, rfl, rfl⟩
    exact ⟨_, ⟨i, Captured.mem_givenIds.mpr (Captured.valuesOf_ne_nil_iff.mp hGiven), rfl⟩,
      s, hs, rfl, rfl⟩

/-
  When every option given is named, there is one named entry for
  each, in ascending order of identity.
-/
theorem namedEntries_eq
    (p : OptionParser)
    (hNamed : p.captured.Named p.table) :
    p.namedEntries = p.captured.givenIds.map fun i =>
        ((p.table.get? i).elim "" (·.canonical), p.captured.valuesOf i) := by
  unfold namedEntries Captured.grouped
  rw [List.filterMap_map, List.filterMap_eq_map_iff_forall_eq_some]
  intro i hi
  obtain ⟨v, hv⟩ := Captured.mem_givenIds.mp hi
  obtain ⟨s, hs, -⟩ := hNamed (i, v) hv
  simp [hs]

/-
  The names of the entries are distinct: each option given has a
  spelling, and declarations with a spelling have distinct
  canonical names.
-/
theorem namedEntries_keys_nodup
    (p : OptionParser)
    (hNamed : p.captured.Named p.table) :
    (p.namedEntries.map Prod.fst).Nodup := by
  rw [namedEntries_eq p hNamed, List.map_map]
  refine List.Nodup.map_on ?_ (p.captured.pairwise_givenIds.imp Nat.ne_of_lt)
  intro i hi j hj hKey
  obtain ⟨v, hv⟩ := Captured.mem_givenIds.mp hi
  obtain ⟨w, hw⟩ := Captured.mem_givenIds.mp hj
  obtain ⟨a, ha, haNamed⟩ := hNamed (i, v) hv
  obtain ⟨b, hb, hbNamed⟩ := hNamed (j, w) hw
  simp only [Function.comp_apply, ha, hb, Option.elim_some] at hKey
  exact p.table.eq_of_canonical_eq ha hb haNamed hbNamed hKey

/-
  When every option given is named, the report lists exactly the
  options given, each under its canonical name with its values: no
  two of them share a name, so none takes the place of another.
-/
theorem mem_report_options
    (p : OptionParser)
    (hNamed : p.captured.Named p.table)
    (k : String)
    (vs : List String) :
    (k, vs) ∈ p.report.options ↔
      ∃ i s, p.table.get? i = some s ∧ p.captured.valuesOf i ≠ [] ∧
        k = s.canonical ∧ vs = p.captured.valuesOf i := by
  rw [report, mem_toList_ofList_iff (p.namedEntries_keys_nodup hNamed), mem_namedEntries]

/- The report is sorted by name, each name once. -/
theorem report_keys_pairwise
    (p : OptionParser) :
    (p.report.options.map Prod.fst).Pairwise (· < ·) :=
  toList_ofList_keys_pairwise

/- As many entries as options were given. -/
theorem length_report_options
    (p : OptionParser)
    (hNamed : p.captured.Named p.table) :
    p.report.options.length = (p.captured.occurrences.map Prod.fst).toFinset.card := by
  have hNodup := p.captured.pairwise_givenIds.imp Nat.ne_of_lt
  have hSame : (p.captured.occurrences.map Prod.fst).toFinset = p.captured.givenIds.toFinset := by
    ext x
    simp [Captured.mem_givenIds]
  rw [report, length_toList_ofList (p.namedEntries_keys_nodup hNamed), namedEntries_eq p hNamed,
    List.length_map, hSame, List.toFinset_card_of_nodup hNodup]

/- What parse calls keep was captured through spellings. -/
theorem named_parseAll
    (p : OptionParser)
    (hp : p.captured.Named p.table)
    (history : List (List String)) :
    (p.parseAll history).captured.Named (p.parseAll history).table := by
  induction history generalizing p with
  | nil => exact hp
  | cons args history ih =>
      have hFrame := parse_snd_eq p args
      have hKept : (p.parse args).2.captured.Named (p.parse args).2.table := by
        rw [hFrame]
        exact (parses_parse p args).named
      exact ih _ hKept

/-
  After any history of parse calls on a fresh parser, the report
  neither merges nor drops options: its entries are exactly the
  options given, each under its canonical name with its values in
  order; the names are distinct and ascending; there are as many
  entries as distinct options given; and the positional arguments
  are those the parser holds.
-/
theorem report_one_entry_per_option
    (t : OptionTable)
    (config : ParserConfig)
    (history : List (List String)) :
    let p := ({ table := t, config := config } : OptionParser).parseAll history
    (∀ k vs, (k, vs) ∈ p.report.options ↔
        ∃ i s, t.get? i = some s ∧ p.captured.valuesOf i ≠ [] ∧
          k = s.canonical ∧ vs = p.captured.valuesOf i) ∧
      (p.report.options.map Prod.fst).Pairwise (· < ·) ∧
      p.report.options.length = (p.captured.occurrences.map Prod.fst).toFinset.card ∧
      p.report.positional = p.positional := by
  intro p
  have hTable : p.table = t := (parseAll_table_config _ history).1
  have hNamed : p.captured.Named p.table :=
    named_parseAll _ (Captured.named_empty _) history
  refine ⟨fun k vs => hTable ▸ mem_report_options p hNamed k vs, report_keys_pairwise p,
    length_report_options p hNamed, rfl⟩

end OptionParser

end OptionGrammar
