import OptionGrammar.Grammar.Line

/-
  Loading a grammar text.

  A grammar text is cut into lines at each line feed; a carriage
  return right before a line feed belongs to the line break, and a
  final line feed ends the last line rather than starting an empty
  one.  The lines are numbered from one and read in order; each
  declaration is added to the table under its line number, and the
  first line that fails stops the loading with its error.

  Key definitions include:
    * `splitNewlines`, `grammarLines`
    * `OptionTable.ofGrammar`
-/

namespace OptionGrammar

/- The pieces of a text between line feeds. -/
def splitNewlines : List Char → List (List Char)
  | [] => [[]]
  | c :: cs =>
      if c = '\n' then [] :: splitNewlines cs
      else match splitNewlines cs with
        | l :: ls => (c :: l) :: ls
        | [] => [[c]]

/- A line ended by a line feed, without a carriage return at its end. -/
def dropReturn (l : List Char) : List Char :=
  match l.getLast? with
  | some '\r' => l.dropLast
  | _ => l

/- The lines of a text: every piece ended by a line feed loses its
    carriage return, and an empty last piece is no line. -/
def grammarLines (text : String) : List String :=
  match (splitNewlines text.toList).reverse with
  | [] => []
  | last :: ended =>
      let ended := ended.reverse.map fun l => String.ofList (dropReturn l)
      if last.isEmpty then ended else ended ++ [String.ofList last]

/- Add the declarations of numbered lines to a table. -/
def OptionTable.addLines (t : OptionTable) : List (Nat × String) → Except ArgError OptionTable
  | [] => .ok t
  | (n, raw) :: rest => do
      match ← OptionSpec.ofLine n raw with
      | none => t.addLines rest
      | some s =>
          let (t', _) ← t.insert n s
          t'.addLines rest

def OptionTable.ofGrammar (text : String) : Except ArgError OptionTable :=
  let lines := grammarLines text
  OptionTable.empty.addLines ((List.range lines.length).map (· + 1) |>.zip lines)

end OptionGrammar
