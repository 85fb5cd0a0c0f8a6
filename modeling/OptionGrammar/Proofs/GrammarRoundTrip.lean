import OptionGrammar.Proofs.LoadedLine
import Mathlib

/-
  A loaded table printed as a grammar and loaded again.

  Loading a grammar reads its lines in order and appends the
  declaration of each; a table is fixed by its declarations.  Every
  declaration a grammar loads is of line shape, so its printed line
  holds no line feed and does not end in a carriage return, and the
  printed grammar splits back into exactly the printed lines.  Each
  of them loads as its declaration unless the declaration has an
  empty pattern, and the spellings stay distinct.  So a loaded
  table loads back from its printed grammar exactly when none of
  its patterns is empty.

  Main declarations:
    * `OptionTable.addLines_eq_ok`
    * `OptionTable.lineShaped_of_ofGrammar`
    * `OptionTable.grammarLines_toGrammar`
    * `OptionTable.ofGrammar_toGrammar_iff`
-/

------------------------------------------------------------
-- Adding Declarations
------------------------------------------------------------

namespace OptionGrammar

/-
  The check loop finds no clash among spellings that repeat neither
  each other nor one seen before, and none of which is taken.
-/
theorem firstClash?_eq_none_of_nodup
    {taken : String → Bool}
    {seen xs : List String}
    (hNodup : xs.Nodup)
    (hFresh : ∀ a ∈ xs, a ∉ seen ∧ taken a = false) :
    firstClash? taken seen xs = none := by
  induction xs generalizing seen with
  | nil => rfl
  | cons x xs ih =>
      obtain ⟨hNew, hRest⟩ := List.nodup_cons.mp hNodup
      obtain ⟨hUnseen, hFree⟩ := hFresh x List.mem_cons_self
      have hPass : (seen.contains x || taken x) = false := by
        simp [hUnseen, hFree]
      rw [firstClash?, hPass, if_neg Bool.false_ne_true]
      apply ih hRest
      intro a ha
      refine ⟨?_, (hFresh a (List.mem_cons_of_mem x ha)).2⟩
      intro hSeen
      rcases List.mem_cons.mp hSeen with rfl | hOld
      · exact hNew ha
      · exact (hFresh a (List.mem_cons_of_mem x ha)).1 hOld

namespace OptionTable

/- A successful insertion appends the declaration. -/
theorem insert_eq_ok
    {t t' : OptionTable}
    {line id : Nat}
    {s : OptionSpec}
    (h : t.insert line s = .ok (t', id)) :
    t'.specs = t.specs ++ [s] := by
  unfold insert at h
  split at h
  · cases h
  · simp only [Except.ok.injEq, Prod.mk.injEq] at h
    rw [← h.1]

/- A declaration whose spellings stay distinct is inserted. -/
theorem insert_of_nodup
    {t : OptionTable}
    {s : OptionSpec}
    (hDistinct : (spellingsOf (t.specs ++ [s])).Nodup)
    (line : Nat) :
    ∃ t', t.insert line s = .ok (t', t.size) ∧ t'.specs = t.specs ++ [s] := by
  obtain ⟨-, hOwn, hNew⟩ := nodup_spellingsOf_append_single_iff.mp hDistinct
  have hFresh : firstClash? t.index.contains [] s.spellings = none := by
    refine firstClash?_eq_none_of_nodup hOwn fun a ha => ⟨List.not_mem_nil, ?_⟩
    rw [Bool.eq_false_iff, Ne, t.agrees.contains_iff]
    exact hNew a ha
  unfold insert
  split
  · rename_i x hClash
    rw [hFresh] at hClash
    cases hClash
  · exact ⟨_, rfl, rfl⟩

/-
  One line added: it declares nothing and loading goes on, or it
  declares an option that is inserted and loading goes on.
-/
theorem addLines_cons_eq_ok
    {t T : OptionTable}
    {n : Nat}
    {raw : String}
    {ps : List (Nat × String)}
    (h : t.addLines ((n, raw) :: ps) = .ok T) :
    (OptionSpec.ofLine n raw = .ok none ∧ t.addLines ps = .ok T) ∨
      ∃ s t' id, OptionSpec.ofLine n raw = .ok (some s) ∧
        t.insert n s = .ok (t', id) ∧ t'.addLines ps = .ok T := by
  unfold addLines at h
  cases hLine : OptionSpec.ofLine n raw with
  | error e => simp [hLine, bind, Except.bind] at h
  | ok r =>
      simp only [hLine, bind, Except.bind] at h
      cases r with
      | none => exact Or.inl ⟨rfl, h⟩
      | some s =>
          cases hInsert : t.insert n s with
          | error e => simp [hInsert] at h
          | ok ti =>
              obtain ⟨t', id⟩ := ti
              simp only [hInsert] at h
              exact Or.inr ⟨s, t', id, rfl, hInsert, h⟩

/-
  Loading lines only appends, and every declaration it appends is
  loaded from one of the lines.
-/
theorem addLines_eq_ok
    {t T : OptionTable}
    {ps : List (Nat × String)}
    (h : t.addLines ps = .ok T) :
    ∃ extra, T.specs = t.specs ++ extra ∧
      ∀ s ∈ extra, ∃ p ∈ ps, OptionSpec.ofLine p.1 p.2 = .ok (some s) := by
  induction ps generalizing t with
  | nil =>
      simp only [addLines, Except.ok.injEq] at h
      subst h
      exact ⟨[], by simp, by simp⟩
  | cons p ps ih =>
      obtain ⟨n, raw⟩ := p
      rcases addLines_cons_eq_ok h with ⟨-, hRest⟩ | ⟨s, t', id, hLine, hInsert, hRest⟩
      · -- a blank or comment line adds nothing
        obtain ⟨extra, hSpecs, hFrom⟩ := ih hRest
        exact ⟨extra, hSpecs, fun s hs =>
          let ⟨q, hq, hRead⟩ := hFrom s hs
          ⟨q, List.mem_cons_of_mem _ hq, hRead⟩⟩
      · obtain ⟨extra, hSpecs, hFrom⟩ := ih hRest
        refine ⟨s :: extra, ?_, ?_⟩
        · rw [hSpecs, insert_eq_ok hInsert, List.append_assoc, List.singleton_append]
        · intro s' hs'
          rcases List.mem_cons.mp hs' with rfl | hMem
          · exact ⟨(n, raw), List.mem_cons_self, hLine⟩
          · obtain ⟨q, hq, hRead⟩ := hFrom s' hMem
            exact ⟨q, List.mem_cons_of_mem _ hq, hRead⟩

end OptionTable

end OptionGrammar

------------------------------------------------------------
-- Printing a Loaded Table
------------------------------------------------------------

namespace OptionGrammar

open Text

namespace OptionTable

/- Every declaration of a loaded table is of line shape. -/
theorem lineShaped_of_ofGrammar
    {G : String}
    {T : OptionTable}
    (h : ofGrammar G = .ok T) :
    ∀ s ∈ T.specs, s.LineShaped := by
  unfold ofGrammar at h
  obtain ⟨extra, hSpecs, hFrom⟩ := addLines_eq_ok h
  intro s hs
  rw [hSpecs] at hs
  obtain ⟨⟨n, raw⟩, hp, hRead⟩ := hFrom s (by simpa [empty] using hs)
  have hLine : raw ∈ grammarLines G := (List.of_mem_zip hp).2
  exact OptionSpec.lineShaped_of_ofLine (newline_not_mem_grammarLines hLine) hRead

theorem toGrammar_eq_join
    (T : OptionTable) :
    T.toGrammar = String.join ((T.specs.map (·.toGrammarLine)).map (· ++ "\n")) := by
  unfold toGrammar
  rw [List.map_map]
  rfl

/-
  The grammar of a table of line-shaped declarations splits back
  into their printed lines: none holds a line feed, and none ends
  in a carriage return, which is blank.
-/
theorem grammarLines_toGrammar
    {T : OptionTable}
    (h : ∀ s ∈ T.specs, s.LineShaped) :
    grammarLines T.toGrammar = T.specs.map (·.toGrammarLine) := by
  rw [toGrammar_eq_join]
  apply grammarLines_join
  intro l hl
  obtain ⟨s, hs, rfl⟩ := List.mem_map.mp hl
  refine ⟨(OptionSpec.uncommented_toGrammarLine (h s hs)).1, fun hReturn => ?_⟩
  have hSolid := (OptionSpec.trimmed_toGrammarLine (h s hs)).2 '\r' hReturn
  exact absurd hSolid (by decide)

end OptionTable

end OptionGrammar

------------------------------------------------------------
-- Loading a Printed Table
------------------------------------------------------------

namespace OptionGrammar

namespace OptionTable


/-
  Printed lines that each load as their declaration add those
  declarations, when their spellings stay distinct.
-/
theorem addLines_printed
    (t : OptionTable)
    {ss : List OptionSpec}
    {ns : List Nat}
    (hLen : ns.length = ss.length)
    (hRead : ∀ s ∈ ss, ∀ n, OptionSpec.ofLine n s.toGrammarLine = .ok (some s))
    (hDistinct : (spellingsOf (t.specs ++ ss)).Nodup) :
    ∃ T, t.addLines (ns.zip (ss.map (·.toGrammarLine))) = .ok T ∧ T.specs = t.specs ++ ss := by
  induction ss generalizing ns t with
  | nil => exact ⟨t, by simp [addLines], by simp⟩
  | cons s ss ih =>
      cases ns with
      | nil => simp at hLen
      | cons n ns =>
          obtain ⟨t', hInsert, hSpecs'⟩ := insert_of_nodup (nodup_spellingsOf_of_cons hDistinct) n
          have hRest : (spellingsOf (t'.specs ++ ss)).Nodup := by
            rw [hSpecs', List.append_assoc, List.singleton_append]
            exact hDistinct
          obtain ⟨T, hLoad, hSpecs⟩ :=
            ih t' (by simpa using hLen) (fun x hx => hRead x (List.mem_cons_of_mem s hx)) hRest
          refine ⟨T, ?_, by rw [hSpecs, hSpecs', List.append_assoc, List.singleton_append]⟩
          simp only [List.map_cons, List.zip_cons_cons, addLines,
            hRead s List.mem_cons_self n, hInsert, bind, Except.bind]
          exact hLoad

/-
  When printed lines load into exactly their declarations, each
  line loaded as its own declaration.
-/
theorem reads_of_addLines_printed
    {t T : OptionTable}
    {ss : List OptionSpec}
    {ns : List Nat}
    (hLen : ns.length = ss.length)
    (hShaped : ∀ s ∈ ss, s.LineShaped)
    (h : t.addLines (ns.zip (ss.map (·.toGrammarLine))) = .ok T)
    (hSpecs : T.specs = t.specs ++ ss) :
    ∀ s ∈ ss, ∃ n, OptionSpec.ofLine n s.toGrammarLine = .ok (some s) := by
  induction ss generalizing ns t with
  | nil => simp
  | cons s ss ih =>
      cases ns with
      | nil => simp at hLen
      | cons n ns =>
          simp only [List.map_cons, List.zip_cons_cons] at h
          have hSome := OptionSpec.ofLine_toGrammarLine_ne_none (hShaped s List.mem_cons_self) n
          rcases addLines_cons_eq_ok h with ⟨hNone, -⟩ | ⟨s₀, t', id, hLine, hInsert, hRest⟩
          · exact absurd hNone hSome
          · -- the declarations after `t'` are the rest, so `s₀` is `s`
            obtain ⟨extra, hExtra, -⟩ := addLines_eq_ok hRest
            rw [hSpecs, insert_eq_ok hInsert, List.append_assoc,
              List.singleton_append] at hExtra
            obtain ⟨rfl, -⟩ := List.cons.inj (List.append_cancel_left hExtra)
            have hSpecs' : T.specs = t'.specs ++ ss := by
              rw [hSpecs, insert_eq_ok hInsert, List.append_assoc, List.singleton_append]
            intro x hx
            rcases List.mem_cons.mp hx with rfl | hMem
            · exact ⟨n, hLine⟩
            · exact ih (by simpa using hLen)
                (fun y hy => hShaped y (List.mem_cons_of_mem _ hy)) hRest hSpecs' x hMem

end OptionTable

end OptionGrammar

------------------------------------------------------------
-- The Grammar Round Trip
------------------------------------------------------------

namespace OptionGrammar

namespace OptionTable

/-
  A table loaded from a grammar loads back, equal, from the grammar
  it prints exactly when none of its value patterns is empty.  An
  empty pattern, loaded from a line such as `? -a < >`, prints as
  `<>`, and a `>` right after `<` never closes a pattern: the
  printed line then fails to load or loads another pattern.
-/
theorem ofGrammar_toGrammar_iff
    {G : String}
    {T : OptionTable}
    (h : ofGrammar G = .ok T) :
    ofGrammar T.toGrammar = .ok T ↔ ∀ s ∈ T.specs, ∀ p ∈ s.param, p.declared ≠ "" := by
  have hShaped := lineShaped_of_ofGrammar h
  have hLen : ((List.range (T.specs.map (·.toGrammarLine)).length).map (· + 1)).length =
      T.specs.length := by
    simp
  unfold ofGrammar
  rw [grammarLines_toGrammar hShaped]
  constructor
  · intro hReload s hs p hp hEmpty
    obtain ⟨n, hRead⟩ :=
      reads_of_addLines_printed hLen hShaped hReload (by simp [empty]) s hs
    exact OptionSpec.ofLine_toGrammarLine_ne_of_empty (hShaped s hs) hp hEmpty n hRead
  · intro hFilled
    have hRead : ∀ s ∈ T.specs, ∀ n, OptionSpec.ofLine n s.toGrammarLine = .ok (some s) :=
      fun s hs n => OptionSpec.ofLine_toGrammarLine (hShaped s hs) (hFilled s hs) n
    obtain ⟨T', hLoad, hSpecs⟩ :=
      addLines_printed empty hLen hRead (by simpa [empty] using T.distinct)
    have hSame : T' = T := ext (by simpa [empty] using hSpecs)
    rw [hLoad, hSame]

/-
  The grammar `? -a < >` loads, its one option declaring the empty
  pattern, since the blank between the brackets is trimmed away; the
  grammar that table prints, `?|- -a <>`, does not load.
-/
theorem ofLine_printed_emptyPattern :
    ∃ T, ofGrammar "? -a < >" = .ok T ∧ T.specs.map (·.param.map (·.declared)) = [some ""] ∧
      T.toGrammar = "?|- -a <>\n" ∧ ofGrammar T.toGrammar = .error (.grammar 1 "?|- -a <>") := by
  -- the empty pattern compiles, as the empty expression anchored at both ends
  have hSome : (ValuePattern.compile "").toOption.isSome = true := by cbv
  obtain ⟨v, hv⟩ : ∃ v, ValuePattern.compile "" = .ok v := by
    cases hCompile : ValuePattern.compile "" with
    | error e => simp [hCompile, Except.toOption] at hSome
    | ok v => exact ⟨v, rfl⟩
  have hDeclared : v.declared = "" := ValuePattern.declared_of_compile hv
  have hRead : DeclarationLine.read? (Text.trimBlankList (cutComment "? -a < >".toList)) =
      some ⟨true, none, none, none, "-a", none, some " ", none⟩ := by
    rfl
  have hLine : OptionSpec.ofLine 1 "? -a < >" = .ok (some { spellings := ["-a"], param := some v }) := by
    have hTrim : Text.trimBlank " " = "" := by decide
    have hFilled : (Text.trimBlankList (cutComment "? -a < >".toList)).isEmpty = false := by decide
    simp only [OptionSpec.ofLine, hFilled, hRead, DeclarationLine.toSpec, hTrim, hv]
    rfl
  have hLines : grammarLines "? -a < >" = ["? -a < >"] := by decide
  obtain ⟨T, hInsert, hSpecs⟩ := insert_of_nodup (t := empty)
    (s := { spellings := ["-a"], param := some v }) (by simp [spellingsOf, empty]) 1
  have hLoad : ofGrammar "? -a < >" = .ok T := by
    simp only [ofGrammar, hLines]
    simp [addLines, hLine, hInsert, bind, Except.bind]
  have hPrinted : T.toGrammar = "?|- -a <>\n" := by
    simp [toGrammar, hSpecs, empty, OptionSpec.toGrammarLine, hDeclared]
    decide
  refine ⟨T, hLoad, by simp [hSpecs, empty, hDeclared], hPrinted, ?_⟩
  rw [hPrinted]
  rfl

/- A grammar with no value patterns reloads from its printed form. -/
theorem ofGrammar_toGrammar_of_flags :
    ∃ T, ofGrammar "!&2+ -o --output | file name\n// note\n?^1 -v" = .ok T ∧
      ofGrammar T.toGrammar = .ok T :=
  have hLoad : ofGrammar "!&2+ -o --output | file name\n// note\n?^1 -v" =
      .ok (OptionTable.ofSpecs
        [{ spellings := ["-o", "--output"], optional := false,
           group := { kind := .and, number := 2 }, unique := false, help := "file name" },
         { spellings := ["-v"], group := { kind := .xor, number := 1 } }] (by decide)) := by
    rfl
  ⟨_, hLoad, (ofGrammar_toGrammar_iff hLoad).mpr (by simp)⟩

end OptionTable

end OptionGrammar
