import OptionGrammar.Help
import OptionGrammar.Proofs.PrintedLine
import Mathlib.Data.List.Forall2

/-
  The layout of help text.

  The help of a table with options is a usage line, an empty line,
  `Options:` and one row per option in declaration order, each ended
  by a line feed.  The rows line up: the width is the longest
  signature, counted in characters, and every signature followed by
  a description is padded with spaces to exactly that width, so
  every description starts in the same column, four characters past
  it; an option without a description has its signature alone.  As
  long as no spelling, pattern, help text or program name holds a
  line feed, cutting the help at its line feeds gives back exactly
  these lines.

  Main declarations:
    * `OptionSpec.HelpRow`, `OptionSpec.HelpRow.description_column`
    * `OptionSpec.newline_not_mem_signature`, `OptionSpec.newline_not_mem_description`
    * `OptionTable.helpWidth`, `OptionTable.helpWidth_spec`
    * `OptionTable.renderHelp_eq_join`
    * `OptionTable.renderHelp_columns`
-/

------------------------------------------------------------
-- Texts Without Line Feeds
------------------------------------------------------------

namespace OptionGrammar

/- An element absent from the separator and from every part is absent
   from the parts joined by it. -/
theorem not_mem_intercalate
    {α : Type}
    {x : α}
    {sep : List α} :
    ∀ {ls : List (List α)}, x ∉ sep → (∀ l ∈ ls, x ∉ l) → x ∉ sep.intercalate ls
  | [], _, _ => by simp
  | [l], _, h => by simpa using h l List.mem_cons_self
  | l :: l' :: ls, hSep, h => by
      rw [List.intercalate_cons_cons]
      simp only [List.mem_append, not_or]
      exact ⟨⟨h l List.mem_cons_self, hSep⟩,
        not_mem_intercalate hSep fun m hm => h m (List.mem_cons_of_mem l hm)⟩

/- The name of a group is its kind and its number in digits. -/
theorem Group.newline_not_mem_label
    (g : Group) :
    '\n' ∉ g.label.toList := by
  have hKind : '\n' ∉ g.kind.label.toList := by
    cases g.kind <;> decide
  have hDigits : '\n' ∉ (toString g.number.toNat).toList := by
    intro h
    have hDigit := Nat.isDigit_of_mem_toDigits (by decide) (by decide)
      (Nat.toList_repr ▸ h)
    exact absurd hDigit (by decide)
  simp only [label, String.toList_append, List.mem_append, not_or]
  exact ⟨⟨hKind, by decide⟩, hDigits⟩

namespace OptionSpec

variable {s : OptionSpec}

/- A signature holds no line feed when no spelling and no pattern does. -/
theorem newline_not_mem_signature
    (hSpellings : ∀ k ∈ s.spellings, '\n' ∉ k.toList)
    (hPattern : ∀ p ∈ s.param, '\n' ∉ p.declared.toList) :
    '\n' ∉ s.signature.toList := by
  have hJoined : '\n' ∉ (", ".intercalate s.spellings).toList := by
    rw [String.toList_intercalate]
    refine not_mem_intercalate (by decide) ?_
    intro l hl
    obtain ⟨k, hk, rfl⟩ := List.mem_map.mp hl
    exact hSpellings k hk
  unfold signature
  cases hParam : s.param with
  | none => simpa using hJoined
  | some p =>
      have hp := hPattern p hParam
      simp only [String.toList_append, List.mem_append, not_or]
      exact ⟨hJoined, ⟨by decide, hp⟩, by decide⟩

/- The notes are fixed words and the name of the group. -/
theorem newline_not_mem_notes :
    ∀ n ∈ s.notes, '\n' ∉ n.toList := by
  intro n hn
  unfold notes at hn
  simp only [List.mem_append] at hn
  rcases hn with (hn | hn) | hn
  · split at hn <;> simp_all
  · split at hn <;> simp_all
  · split at hn
    · simp only [List.mem_singleton] at hn
      exact hn ▸ s.group.newline_not_mem_label
    · simp at hn

/- A description holds no line feed when the help text does not. -/
theorem newline_not_mem_description
    (hHelp : '\n' ∉ s.help.toList) :
    '\n' ∉ s.description.toList := by
  have hNotes : '\n' ∉ ("(" ++ ", ".intercalate s.notes ++ ")").toList := by
    simp only [String.toList_append, String.toList_intercalate, List.mem_append, not_or]
    refine ⟨⟨by decide, not_mem_intercalate (by decide) ?_⟩, by decide⟩
    intro l hl
    obtain ⟨n, hn, rfl⟩ := List.mem_map.mp hl
    exact newline_not_mem_notes n hn
  unfold description
  dsimp only
  split
  · simp
  · exact hNotes
  · exact hHelp
  · simp only [String.toList_append, List.mem_append, not_or] at hNotes ⊢
    exact ⟨⟨hHelp, by decide⟩, hNotes⟩

end OptionSpec

end OptionGrammar

------------------------------------------------------------
-- Rows
------------------------------------------------------------

namespace OptionGrammar

namespace OptionSpec

variable {s : OptionSpec}

/-
  A row of help for an option at width `w`: two spaces and the
  signature alone when the option has no description; otherwise two
  spaces, the signature padded with spaces to exactly `w`
  characters, two spaces and the description.
-/
def HelpRow (w : Nat) (s : OptionSpec) (row : String) : Prop :=
  (s.description = "" ∧ row = "  " ++ s.signature) ∨
    (s.description ≠ "" ∧ ∃ pad, s.signature.length + pad = w ∧
      row = "  " ++ s.signature ++ String.ofList (List.replicate pad ' ') ++ "  " ++
        s.description)

/- A description starts in column `w + 4` of its row. -/
theorem HelpRow.description_column
    {w : Nat}
    {row : String}
    (h : s.HelpRow w row)
    (hd : s.description ≠ "") :
    row.toList.drop (w + 4) = s.description.toList := by
  rcases h with ⟨hEmpty, -⟩ | ⟨-, pad, hPad, rfl⟩
  · exact absurd hEmpty hd
  · have hSpaces : "  ".toList = [' ', ' '] := rfl
    simp only [String.toList_append, String.toList_ofList, hSpaces]
    apply List.drop_left'
    simp only [List.length_append, List.length_cons, List.length_nil, List.length_replicate,
      String.length_toList]
    omega

/- The row the help prints for an option at width `w`. -/
def helpRow (w : Nat) (s : OptionSpec) : String :=
  if s.description.isEmpty then "  " ++ s.signature
  else "  " ++ padRight s.signature w ++ "  " ++ s.description

/- Printed at a width no narrower than its signature, a row is laid
   out as `HelpRow` says. -/
theorem helpRow_of_le
    {w : Nat}
    (h : s.signature.length ≤ w) :
    s.HelpRow w (s.helpRow w) := by
  unfold helpRow
  by_cases hd : s.description = ""
  · exact Or.inl ⟨hd, by simp [hd]⟩
  · refine Or.inr ⟨hd, w - s.signature.length, by omega, ?_⟩
    have hNotEmpty : s.description.isEmpty = false := by
      simpa [String.isEmpty_iff] using hd
    simp only [hNotEmpty, Bool.false_eq_true, if_false, padRight, String.append_assoc]

/- A row holds no line feed when its signature and description do not. -/
theorem newline_not_mem_helpRow
    (w : Nat)
    (hSignature : '\n' ∉ s.signature.toList)
    (hDescription : '\n' ∉ s.description.toList) :
    '\n' ∉ (s.helpRow w).toList := by
  have hPad : '\n' ∉ (padRight s.signature w).toList := by
    simp only [padRight, String.toList_append, String.toList_ofList, List.mem_append, not_or]
    exact ⟨hSignature, fun h => absurd (List.eq_of_mem_replicate h) (by decide)⟩
  unfold helpRow
  split
  · simp only [String.toList_append, List.mem_append, not_or]
    exact ⟨by decide, hSignature⟩
  · simp only [String.toList_append, List.mem_append, not_or] at hPad ⊢
    exact ⟨⟨⟨by decide, hPad⟩, by decide⟩, hDescription⟩

end OptionSpec

end OptionGrammar

------------------------------------------------------------
-- The Help of a Table
------------------------------------------------------------

namespace OptionGrammar

namespace OptionTable

/- The width the help pads signatures to: the longest signature. -/
def helpWidth (t : OptionTable) : Nat :=
  (t.specs.map fun s => (s.signature, s.description)).foldl (fun w r => max w r.1.length) 0

/- The width is the length of the longest signature. -/
theorem helpWidth_spec
    (t : OptionTable)
    (hne : t.specs ≠ []) :
    (∀ s ∈ t.specs, s.signature.length ≤ t.helpWidth) ∧
      ∃ s ∈ t.specs, s.signature.length = t.helpWidth := by
  have hLengths : (t.specs.map fun s => s.signature.length) ≠ [] := by simpa using hne
  have hFold : t.helpWidth = (t.specs.map fun s => s.signature.length).foldl max 0 := by
    simp only [helpWidth, List.foldl_map]
  have hMax : t.helpWidth = (t.specs.map fun s => s.signature.length).max hLengths := by
    rw [hFold, List.foldl_max_eq_max hLengths, Nat.zero_max]
  obtain ⟨hMem, hLe⟩ := (List.max_eq_iff hLengths).mp hMax.symm
  refine ⟨fun s hs => hLe _ (List.mem_map_of_mem hs), ?_⟩
  obtain ⟨s, hs, hLength⟩ := List.mem_map.mp hMem
  exact ⟨s, hs, hLength⟩

/-
  The help of a table with options is its usage line, an empty line,
  `Options:` and the row of each option at the help width, each
  ended by a line feed.
-/
theorem renderHelp_eq_join
    (t : OptionTable)
    (c : ParserConfig)
    (hne : t.specs ≠ []) :
    t.renderHelp c =
      String.join ((["Usage: " ++ c.programName.getD "program" ++ " [OPTIONS] [ARGS]...", "",
        "Options:"] ++ t.specs.map (·.helpRow t.helpWidth)).map (· ++ "\n")) := by
  have hNotEmpty : t.isEmpty = false := by simpa [isEmpty] using hne
  have hRows : ∀ s : OptionSpec,
      (if s.description.isEmpty then "  " ++ s.signature ++ "\n"
        else "  " ++ padRight s.signature t.helpWidth ++ "  " ++ s.description ++ "\n") =
        s.helpRow t.helpWidth ++ "\n" := by
    intro s
    unfold OptionSpec.helpRow
    split <;> rfl
  -- the usage line ends in the line feed that the empty line follows
  have hFrame : ∀ u j : String,
      u ++ " [OPTIONS] [ARGS]...\n" ++ "\nOptions:\n" ++ j =
        u ++ " [OPTIONS] [ARGS]..." ++ "\n" ++ ("" ++ "\n" ++ ("Options:" ++ "\n" ++ j)) := by
    intro u j
    have hText : " [OPTIONS] [ARGS]...\n" ++ "\nOptions:\n" =
        " [OPTIONS] [ARGS]..." ++ "\n" ++ ("" ++ "\n" ++ ("Options:" ++ "\n")) := by
      decide
    calc u ++ " [OPTIONS] [ARGS]...\n" ++ "\nOptions:\n" ++ j
        = u ++ (" [OPTIONS] [ARGS]...\n" ++ "\nOptions:\n") ++ j := by
          simp only [String.append_assoc]
      _ = u ++ (" [OPTIONS] [ARGS]..." ++ "\n" ++ ("" ++ "\n" ++ ("Options:" ++ "\n"))) ++ j := by
          rw [hText]
      _ = u ++ " [OPTIONS] [ARGS]..." ++ "\n" ++ ("" ++ "\n" ++ ("Options:" ++ "\n" ++ j)) := by
          simp only [String.append_assoc]
  unfold renderHelp
  simp only [hNotEmpty, Bool.false_eq_true, if_false, List.map_map, List.map_cons,
    List.cons_append, List.nil_append, String.join_cons]
  refine Eq.trans (congrArg (fun rows => "Usage: " ++ c.programName.getD "program" ++
    " [OPTIONS] [ARGS]...\n" ++ "\nOptions:\n" ++ String.join rows) ?_) (hFrame _ _)
  exact List.map_congr_left fun s _ => hRows s

/- The usage line holds no line feed when the program name does not. -/
theorem newline_not_mem_usage
    {c : ParserConfig}
    (hProgram : ∀ name ∈ c.programName, '\n' ∉ name.toList) :
    '\n' ∉ ("Usage: " ++ c.programName.getD "program" ++ " [OPTIONS] [ARGS]...").toList := by
  have hName : '\n' ∉ (c.programName.getD "program").toList := by
    cases hName : c.programName with
    | none => decide
    | some name => exact hProgram name hName
  simp only [String.toList_append, List.mem_append, not_or]
  exact ⟨⟨by decide, hName⟩, by decide⟩

/-
  Help text lines its rows up by characters.  For a table with
  options, where no spelling, pattern, help text or program name
  holds a line feed, the help cut at its line feeds is the usage
  line, an empty line, `Options:` and one row per option in
  declaration order, and nothing after the last line feed.  With
  `w` the length of the longest signature in characters, the row of
  an option without a description is two spaces and its signature;
  any other row is two spaces, the signature padded with spaces to
  exactly `w` characters, two spaces and the description, which so
  starts in column `w + 4`.
-/
theorem renderHelp_columns
    (t : OptionTable)
    (c : ParserConfig)
    (hne : t.specs ≠ [])
    (hSpellings : ∀ s ∈ t.specs, ∀ k ∈ s.spellings, '\n' ∉ k.toList)
    (hPatterns : ∀ s ∈ t.specs, ∀ p ∈ s.param, '\n' ∉ p.declared.toList)
    (hHelp : ∀ s ∈ t.specs, '\n' ∉ s.help.toList)
    (hProgram : ∀ name ∈ c.programName, '\n' ∉ name.toList) :
    ∃ w rows,
      ((∀ s ∈ t.specs, s.signature.length ≤ w) ∧ ∃ s ∈ t.specs, s.signature.length = w) ∧
        (splitNewlines (t.renderHelp c).toList).map String.ofList =
          ["Usage: " ++ c.programName.getD "program" ++ " [OPTIONS] [ARGS]...", "", "Options:"] ++
            rows ++ [""] ∧
        List.Forall₂ (fun s row => s.HelpRow w row ∧
          (s.description ≠ "" → row.toList.drop (w + 4) = s.description.toList)) t.specs rows := by
  obtain ⟨hLe, hLongest⟩ := t.helpWidth_spec hne
  refine ⟨t.helpWidth, t.specs.map (·.helpRow t.helpWidth), ⟨hLe, hLongest⟩, ?_, ?_⟩
  · -- no line holds a line feed, so the help splits into exactly its lines
    have hRows : ∀ s ∈ t.specs, '\n' ∉ (s.helpRow t.helpWidth).toList := fun s hs =>
      OptionSpec.newline_not_mem_helpRow _
        (OptionSpec.newline_not_mem_signature (hSpellings s hs) (hPatterns s hs))
        (OptionSpec.newline_not_mem_description (hHelp s hs))
    have hLines : ∀ l ∈ ["Usage: " ++ c.programName.getD "program" ++ " [OPTIONS] [ARGS]...", "",
        "Options:"] ++ t.specs.map (·.helpRow t.helpWidth), '\n' ∉ l.toList := by
      intro l hl
      simp only [List.cons_append, List.nil_append, List.mem_cons, List.mem_map] at hl
      rcases hl with rfl | rfl | rfl | ⟨s, hs, rfl⟩
      · exact newline_not_mem_usage hProgram
      · decide
      · decide
      · exact hRows s hs
    have hBack : (String.ofList ∘ String.toList) = id := funext fun _ => String.ofList_toList
    rw [renderHelp_eq_join t c hne, splitNewlines_join hLines, List.map_append, List.map_map,
      hBack, List.map_id]
    rfl
  · -- every signature is at most the width, so padding reaches it exactly
    rw [List.forall₂_map_right_iff]
    refine List.forall₂_same.mpr fun s hs => ?_
    have hRow := OptionSpec.helpRow_of_le (hLe s hs)
    exact ⟨hRow, hRow.description_column⟩

example :
    (splitNewlines ((OptionTable.ofSpecs [{ spellings := ["-ü"], help := "First" },
      { spellings := ["--long-name"], help := "Second" }] (by decide) : OptionTable).renderHelp
        {}).toList).map String.ofList =
      ["Usage: program [OPTIONS] [ARGS]...", "", "Options:", "  -ü           First",
        "  --long-name  Second", ""] := by
  decide

/-
  A table whose first option has a non-ASCII spelling and pattern, and
  whose last has no description: the help lines its rows up.
-/
theorem renderHelp_columns_non_ascii :
    let t : OptionTable := OptionTable.ofSpecs [
      { spellings := ["-ü"], help := "First", param := (ValuePattern.compile "größe").toOption },
      { spellings := ["--long-name"], help := "Second" },
      { spellings := ["-q"] }] (by decide)
    let c : ParserConfig := {}
    (t.specs ≠ [] ∧ (∀ s ∈ t.specs, ∀ k ∈ s.spellings, '\n' ∉ k.toList) ∧
        (∀ s ∈ t.specs, ∀ p ∈ s.param, '\n' ∉ p.declared.toList) ∧
        (∀ s ∈ t.specs, '\n' ∉ s.help.toList) ∧ (∀ name ∈ c.programName, '\n' ∉ name.toList)) ∧
      ∃ w rows,
        ((∀ s ∈ t.specs, s.signature.length ≤ w) ∧ ∃ s ∈ t.specs, s.signature.length = w) ∧
          (splitNewlines (t.renderHelp c).toList).map String.ofList =
            ["Usage: " ++ c.programName.getD "program" ++ " [OPTIONS] [ARGS]...", "",
              "Options:"] ++ rows ++ [""] ∧
          List.Forall₂ (fun s row => s.HelpRow w row ∧
            (s.description ≠ "" → row.toList.drop (w + 4) = s.description.toList)) t.specs rows := by
  intro t c
  have hne : t.specs ≠ [] := List.cons_ne_nil _ _
  have hSpellings : ∀ s ∈ t.specs, ∀ k ∈ s.spellings, '\n' ∉ k.toList := by decide
  have hHelp : ∀ s ∈ t.specs, '\n' ∉ s.help.toList := by decide
  have hProgram : ∀ name ∈ c.programName, '\n' ∉ name.toList := by simp [c]
  have hPatterns : ∀ s ∈ t.specs, ∀ p ∈ s.param, '\n' ∉ p.declared.toList := by
    intro s hs p hp
    simp only [t, OptionTable.specs_ofSpecs, List.mem_cons, List.not_mem_nil, or_false] at hs
    rcases hs with rfl | rfl | rfl
    · -- the pattern compiled from its declared text keeps it
      have hCompile : ValuePattern.compile "größe" = .ok p := by
        cases h : ValuePattern.compile "größe" with
        | error e => simp [h, Except.toOption] at hp
        | ok v => simp only [h, Except.toOption, Option.mem_def, Option.some.injEq] at hp; rw [hp]
      rw [ValuePattern.declared_of_compile hCompile]
      decide
    · simp at hp
    · simp at hp
  exact ⟨⟨hne, hSpellings, hPatterns, hHelp, hProgram⟩,
    renderHelp_columns t c hne hSpellings hPatterns hHelp hProgram⟩

end OptionTable

end OptionGrammar
