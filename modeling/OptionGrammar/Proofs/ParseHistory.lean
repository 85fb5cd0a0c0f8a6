import OptionGrammar.Session

/-
  Parsing does not remember earlier calls.

  A parser keeps the results of its last parse, and `parse` has
  four exits: a help request, a matching error, a constraint
  violation and success.  `Parses` states what each exit returns
  and keeps, from the table, the configuration and the arguments
  alone; a parse call after any history of earlier calls, failed
  ones included, takes the exit `Parses` gives and ends in the
  same parser as the first call on a fresh one.

  Main declarations:
    * `Parses`, `OptionParser.parseAll`
    * `OptionTable.scan_error_cases`
    * `OptionParser.parses_parse`
    * `OptionParser.parse_after_history`
-/

------------------------------------------------------------
-- The Exits of a Parse
------------------------------------------------------------

namespace OptionGrammar

/-
  What a parse of `args` returns and keeps, for a table and a
  configuration: the outcome, and the captured results the parser
  holds afterwards.
-/
inductive Parses (t : OptionTable) (cfg : ParserConfig) :
    List String → Except ArgError ParseOutcome → Captured → Prop
  /- Help is asked for: nothing is matched and nothing kept. -/
  | help {args : List String} :
      cfg.asksHelp args = true →
      Parses t cfg args (.ok .helpRequested) {}
  /- Matching fails: its error is returned and nothing kept. -/
  | matchError {args : List String} {e : ArgError} :
      cfg.asksHelp args = false →
      t.scan args = .error e →
      Parses t cfg args (.error e) {}
  /- A rule is broken: the first violation is returned, and the
     matched arguments are kept so that they can still be read. -/
  | violation {args : List String} {c : Captured} {v : Violation}
      {rest : List Violation} :
      cfg.asksHelp args = false →
      t.scan args = .ok c →
      t.check c cfg.iorPolicy = v :: rest →
      Parses t cfg args (.error (.constraint v)) c
  /- Every rule holds: the matched arguments are kept. -/
  | accepted {args : List String} {c : Captured} :
      cfg.asksHelp args = false →
      t.scan args = .ok c →
      t.check c cfg.iorPolicy = [] →
      Parses t cfg args (.ok .parsed) c

namespace OptionParser

/- The parser after a sequence of parse calls, their outcomes dropped. -/
def parseAll (p : OptionParser) : List (List String) → OptionParser
  | [] => p
  | args :: history => (p.parse args).2.parseAll history

end OptionParser

end OptionGrammar

------------------------------------------------------------
-- Matching Errors
------------------------------------------------------------

namespace OptionGrammar

namespace OptionTable

/- A step that failed after a result was mapped failed before. -/
theorem eq_error_of_bind_pure
    {α β : Type}
    {x : Except ArgError α}
    {f : α → β}
    {e : ArgError}
    (h : (do let a ← x; pure (f a)) = Except.error e) :
    x = .error e := by
  cases x with
  | error e' =>
      cases h
      rfl
  | ok a => cases h

/-
  Matching fails only for an option that takes a value and ends
  the arguments, or for a value its pattern refuses.
-/
theorem scan_error_cases
    {t : OptionTable}
    {args : List String}
    {e : ArgError}
    (h : t.scan args = .error e) :
    (∃ option, e = .missingParameter option) ∨
      ∃ option expected actual, e = .badArgument option expected actual := by
  induction args using OptionTable.scan.induct (t := t) with
  | case1 => simp [scan] at h
  | case2 tok rest hLookup ih =>
      -- an undeclared token is positional; the error is the rest's
      simp only [scan, hLookup] at h
      exact ih (eq_error_of_bind_pure h)
  | case3 tok rest id s hLookup hParam ih =>
      simp only [scan, hLookup, hParam] at h
      exact ih (eq_error_of_bind_pure h)
  | case4 tok id s hLookup pattern hParam =>
      simp only [scan, hLookup, hParam, Except.error.injEq] at h
      exact Or.inl ⟨tok, h.symm⟩
  | case5 tok id s hLookup pattern hParam value rest hAccepts ih =>
      simp only [scan, hLookup, hParam, if_pos hAccepts] at h
      exact ih (eq_error_of_bind_pure h)
  | case6 tok id s hLookup pattern hParam value rest hRefused =>
      simp only [scan, hLookup, hParam, if_neg hRefused,
        Except.error.injEq] at h
      exact Or.inr ⟨tok, pattern.declared, value, h.symm⟩

end OptionTable

end OptionGrammar

------------------------------------------------------------
-- One Parse Call
------------------------------------------------------------

namespace OptionGrammar

/- Every error of a parse is a matching error or a violation. -/
theorem Parses.error_cases
    {t : OptionTable}
    {cfg : ParserConfig}
    {args : List String}
    {e : ArgError}
    {c : Captured}
    (h : Parses t cfg args (.error e) c) :
    (∃ option, e = .missingParameter option) ∨
      (∃ option expected actual, e = .badArgument option expected actual) ∨
        ∃ v, e = .constraint v := by
  cases h with
  | matchError _ hScan =>
      rcases OptionTable.scan_error_cases hScan with hMissing | hBad
      · exact Or.inl hMissing
      · exact Or.inr (Or.inl hBad)
  | violation _ _ _ => exact Or.inr (Or.inr ⟨_, rfl⟩)

namespace OptionParser

/- Each parse call takes one of the four exits. -/
theorem parses_parse
    (p : OptionParser)
    (args : List String) :
    Parses p.table p.config args (p.parse args).1
      (p.parse args).2.captured := by
  unfold parse
  cases hHelp : p.config.asksHelp args with
  | true =>
      rw [if_pos rfl]
      exact Parses.help hHelp
  | false =>
      rw [if_neg Bool.false_ne_true]
      cases hScan : p.table.scan args with
      | error e => exact Parses.matchError hHelp hScan
      | ok c =>
          dsimp only
          cases hCheck : p.table.check c p.config.iorPolicy with
          | nil => exact Parses.accepted hHelp hScan hCheck
          | cons v rest => exact Parses.violation hHelp hScan hCheck

/- A parse call changes the captured results and nothing else. -/
theorem parse_snd_eq
    (p : OptionParser)
    (args : List String) :
    (p.parse args).2 = { p with captured := (p.parse args).2.captured } := by
  unfold parse
  split
  · rfl
  · split
    · rfl
    · split <;> rfl

/-
  A parse call reads the table and the configuration of the
  parser, never the results it held before.
-/
theorem parse_eq_of_table_config
    {p q : OptionParser}
    (hTable : p.table = q.table)
    (hConfig : p.config = q.config)
    (args : List String) :
    p.parse args = q.parse args := by
  obtain ⟨table, config, captured⟩ := p
  obtain ⟨table', config', captured'⟩ := q
  dsimp only at hTable hConfig
  subst hTable hConfig
  rfl

/- A run of parse calls keeps the table and the configuration. -/
theorem parseAll_table_config
    (p : OptionParser)
    (history : List (List String)) :
    (p.parseAll history).table = p.table ∧
      (p.parseAll history).config = p.config := by
  induction history generalizing p with
  | nil => exact ⟨rfl, rfl⟩
  | cons args history ih =>
      obtain ⟨hTable, hConfig⟩ := ih (p.parse args).2
      have hFrame := parse_snd_eq p args
      refine ⟨?_, ?_⟩
      · rw [parseAll, hTable, hFrame]
      · rw [parseAll, hConfig, hFrame]

/-
  After any history of parse calls, failed ones included, a parse
  call ends as the first call on a fresh parser with the same
  table and configuration would: it takes the exit `Parses` gives
  for the arguments alone, and every error it returns is a
  matching error or a violation.  So nothing captured by an
  earlier call can be read after it.
-/
theorem parse_after_history
    (p : OptionParser)
    (history : List (List String))
    (args : List String) :
    (p.parseAll history).parse args =
        ({ table := p.table, config := p.config } : OptionParser).parse args ∧
      Parses p.table p.config args ((p.parseAll history).parse args).1
        ((p.parseAll history).parse args).2.captured ∧
      ∀ e, ((p.parseAll history).parse args).1 = .error e →
        (∃ option, e = .missingParameter option) ∨
          (∃ option expected actual, e = .badArgument option expected actual) ∨
            ∃ v, e = .constraint v := by
  obtain ⟨hTable, hConfig⟩ := parseAll_table_config p history
  have hExit := parses_parse (p.parseAll history) args
  rw [hTable, hConfig] at hExit
  refine ⟨parse_eq_of_table_config hTable hConfig args, hExit, ?_⟩
  intro e hError
  rw [hError] at hExit
  exact hExit.error_cases

end OptionParser

end OptionGrammar
