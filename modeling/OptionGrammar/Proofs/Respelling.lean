import OptionGrammar.Proofs.Scanning

/-
  Which spelling of an option is typed does not matter.

  The scan asks of an option token only which option it names,
  through `lookup`; the token itself reaches the outcome only in the
  error raised for it, when its option takes a value that is missing
  or refused.  So where the scan reads an option token, after a
  prefix it reads through, any other spelling of the same option
  gives the same captured arguments and the same errors raised
  later, and the error raised for that token names the spelling
  typed instead.  The checks, the report and the accessors read
  only the captured arguments, so they see no difference either.

  Main declarations:
    * `OptionTable.scan_cons_respelled_of_reads`
    * `OptionTable.scan_respelled`
-/

------------------------------------------------------------
-- Another Spelling of the Same Option
------------------------------------------------------------

namespace OptionGrammar

namespace OptionTable

variable {t : OptionTable} {tok tok' : String} {id : Nat} {s : OptionSpec}

/-
  A flag, or an option whose value its pattern accepts, is read the
  same whichever of its spellings stands at the head.
-/
theorem scan_cons_respelled_of_reads
    {post : List String}
    (hTok : t.lookup tok = some id)
    (hTok' : t.lookup tok' = some id)
    (hSpec : t.get? id = some s)
    (hReads : s.param = none ∨
      ∃ p v rest, s.param = some p ∧ post = v :: rest ∧ p.accepts v = true) :
    t.scan (tok' :: post) = t.scan (tok :: post) := by
  rcases hReads with hParam | ⟨p, v, rest, hParam, rfl, hAccepts⟩
  · rw [scan_flag hTok hSpec hParam, scan_flag hTok' hSpec hParam]
  · rw [scan_value hTok hSpec hParam hAccepts, scan_value hTok' hSpec hParam hAccepts]

/-
  Spelling independence of the scan.  Let the scan read the token at
  the head of `tok :: post` as an occurrence of option `id`, after a
  prefix `pre` that it reads through, and let `tok'` be another
  spelling of the same option.  Both argument lists capture the same
  arguments, if either does.  When the option is a flag or its value
  is accepted, the two scans agree outright, errors raised later
  included.  When its value is missing or refused, both fail on that
  token, each error naming the spelling typed.
-/
theorem scan_respelled
    (t : OptionTable)
    {pre post : List String}
    (hPre : ∃ c, t.scan pre = .ok c)
    (hTok : t.lookup tok = some id)
    (hTok' : t.lookup tok' = some id)
    (hSpec : t.get? id = some s) :
    (∀ P, t.scan (pre ++ tok :: post) = .ok P ↔ t.scan (pre ++ tok' :: post) = .ok P) ∧
      ((s.param = none ∨
          ∃ p v rest, s.param = some p ∧ post = v :: rest ∧ p.accepts v = true) →
        t.scan (pre ++ tok' :: post) = t.scan (pre ++ tok :: post)) ∧
      (∀ p, s.param = some p → post = [] →
        t.scan (pre ++ tok :: post) = .error (.missingParameter tok) ∧
          t.scan (pre ++ tok' :: post) = .error (.missingParameter tok')) ∧
      (∀ p v rest, s.param = some p → post = v :: rest → p.accepts v = false →
        t.scan (pre ++ tok :: post) = .error (.badArgument tok p.declared v) ∧
          t.scan (pre ++ tok' :: post) = .error (.badArgument tok' p.declared v)) := by
  obtain ⟨c, hc⟩ := hPre
  -- the prefix is read through, so the scan goes on from the token
  have hSplit : ∀ x, t.scan (pre ++ x :: post) = (c ++ ·) <$> t.scan (x :: post) :=
    fun x => scan_append_of_ok hc (x :: post)
  have hReads : (s.param = none ∨
      ∃ p v rest, s.param = some p ∧ post = v :: rest ∧ p.accepts v = true) →
        t.scan (pre ++ tok' :: post) = t.scan (pre ++ tok :: post) := by
    intro h
    rw [hSplit, hSplit, scan_cons_respelled_of_reads hTok hTok' hSpec h]
  have hMissing : ∀ p, s.param = some p → post = [] →
      t.scan (pre ++ tok :: post) = .error (.missingParameter tok) ∧
        t.scan (pre ++ tok' :: post) = .error (.missingParameter tok') := by
    rintro p hParam rfl
    rw [hSplit, hSplit, scan_missing hTok hSpec hParam, scan_missing hTok' hSpec hParam]
    exact ⟨rfl, rfl⟩
  have hRefused : ∀ p v rest, s.param = some p → post = v :: rest → p.accepts v = false →
      t.scan (pre ++ tok :: post) = .error (.badArgument tok p.declared v) ∧
        t.scan (pre ++ tok' :: post) = .error (.badArgument tok' p.declared v) := by
    rintro p v rest hParam rfl hRefused
    rw [hSplit, hSplit, scan_refused hTok hSpec hParam hRefused,
      scan_refused hTok' hSpec hParam hRefused]
    exact ⟨rfl, rfl⟩
  refine ⟨fun P => ?_, hReads, hMissing, hRefused⟩
  -- the token is read whichever spelling is typed, or both spellings fail on it
  cases hParam : s.param with
  | none => rw [hReads (Or.inl hParam)]
  | some p =>
      cases post with
      | nil =>
          obtain ⟨hFails, hFails'⟩ := hMissing p hParam rfl
          rw [hFails, hFails']
          exact ⟨nofun, nofun⟩
      | cons v rest =>
          cases hAccepts : p.accepts v with
          | true => rw [hReads (Or.inr ⟨p, v, rest, hParam, rfl, hAccepts⟩)]
          | false =>
              obtain ⟨hFails, hFails'⟩ := hRefused p v rest hParam rfl hAccepts
              rw [hFails, hFails']
              exact ⟨nofun, nofun⟩

/-
  After the positional `x`, typing `--verbose` for `-v` captures the
  same arguments.
-/
theorem scan_respelled_verbose :
    let s := (OptionSpec.flag "-v").withAlias "--verbose"
    let t : OptionTable := OptionTable.ofSpecs [s] (by decide)
    ((∃ c, t.scan ["x"] = .ok c) ∧ t.lookup "-v" = some 0 ∧ t.lookup "--verbose" = some 0 ∧
        t.get? 0 = some s) ∧
      (∀ P, t.scan (["x"] ++ "-v" :: ["y"]) = .ok P ↔
        t.scan (["x"] ++ "--verbose" :: ["y"]) = .ok P) ∧
      ((s.param = none ∨
          ∃ p v rest, s.param = some p ∧ ["y"] = v :: rest ∧ p.accepts v = true) →
        t.scan (["x"] ++ "--verbose" :: ["y"]) = t.scan (["x"] ++ "-v" :: ["y"])) ∧
      (∀ p, s.param = some p → ["y"] = [] →
        t.scan (["x"] ++ "-v" :: ["y"]) = .error (.missingParameter "-v") ∧
          t.scan (["x"] ++ "--verbose" :: ["y"]) = .error (.missingParameter "--verbose")) ∧
      (∀ p v rest, s.param = some p → ["y"] = v :: rest → p.accepts v = false →
        t.scan (["x"] ++ "-v" :: ["y"]) = .error (.badArgument "-v" p.declared v) ∧
          t.scan (["x"] ++ "--verbose" :: ["y"]) =
            .error (.badArgument "--verbose" p.declared v)) :=
  ⟨⟨⟨_, rfl⟩, rfl, rfl, rfl⟩, scan_respelled _ ⟨_, rfl⟩ rfl rfl rfl⟩

end OptionTable

end OptionGrammar
