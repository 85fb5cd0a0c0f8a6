import OptionGrammar.Table
import OptionGrammar.Config

/-
  Help text.

  Help starts with a usage line naming the program (`program` when
  the configuration names none).  A table with options follows it
  with an empty line, `Options:` and one row per option: its
  signature (the spellings joined by commas, and the pattern in
  angle brackets if it takes a value) and its description (the help
  text, then in parentheses the notes `required`, `repeatable` and
  the group).  Descriptions start in one column: signatures are
  padded to the widest one, counted in characters.

  Key definitions include:
    * `OptionSpec.signature`, `OptionSpec.description`
    * `padRight`
    * `OptionTable.renderHelp`
-/

namespace OptionGrammar

namespace OptionSpec

/- The spellings joined by commas, and the pattern if the option
    takes a value. -/
def signature (s : OptionSpec) : String :=
  ", ".intercalate s.spellings ++
    match s.param with
    | some p => " <" ++ p.declared ++ ">"
    | none => ""

/- The notes on an option: required, repeatable, its group. -/
def notes (s : OptionSpec) : List String :=
  (if s.optional then [] else ["required"]) ++
  (if s.unique then [] else ["repeatable"]) ++
  (if s.group.isNumbered then [s.group.label] else [])

/- The help text and the notes in parentheses. -/
def description (s : OptionSpec) : String :=
  let ns := s.notes
  let inParens := "(" ++ ", ".intercalate ns ++ ")"
  match s.help.isEmpty, ns.isEmpty with
  | true, true => ""
  | true, false => inParens
  | false, true => s.help
  | false, false => s.help ++ " " ++ inParens

end OptionSpec

/- A text padded with spaces to at least `width` characters. -/
def padRight (s : String) (width : Nat) : String :=
  s ++ String.ofList (List.replicate (width - s.length) ' ')

/- The help text of a table under a configuration. -/
def OptionTable.renderHelp (t : OptionTable) (c : ParserConfig) : String :=
  let usage := "Usage: " ++ c.programName.getD "program" ++ " [OPTIONS] [ARGS]...\n"
  if t.isEmpty then usage
  else
    let rows := t.specs.map fun s => (s.signature, s.description)
    let width := rows.foldl (fun w r => max w r.1.length) 0
    let line := fun (r : String × String) =>
      if r.2.isEmpty then "  " ++ r.1 ++ "\n"
      else "  " ++ padRight r.1 width ++ "  " ++ r.2 ++ "\n"
    usage ++ "\nOptions:\n" ++ String.join (rows.map line)

end OptionGrammar
