import OptionGrammar.Regex.Lower
import OptionGrammar.Regex.Match
import OptionGrammar.Regex.Size

/-
  Regular expressions: reading and matching.

  A pattern is read into its syntax tree, given its meaning under
  the default flags, and refused if its automaton would pass the
  memory limit.  A compiled regular expression keeps its text and
  its meaning; a text matches it in full when the whole text is a
  match.

  Key definitions include:
    * `Compiled`
    * `compile`
    * `Compiled.fullMatch`
-/

namespace OptionGrammar.Regex

/- A compiled regular expression: its text and its meaning. -/
structure Compiled where
  source : String
  expr : Expr
  deriving Repr, Inhabited

/- Compile a pattern, or say why it cannot be compiled. -/
def compile (text : String) : Except RegexError Compiled := do
  let tree ← (parseSyntax text).mapError (RegexError.pattern text)
  let e ← tree.toExpr.mapError (RegexError.pattern text)
  if !automatonFits e then throw (RegexError.tooBig sizeLimit)
  return ⟨text, e⟩

/- Whether the whole text is a match of the expression. -/
def Compiled.fullMatch (r : Compiled) (text : String) : Bool :=
  r.expr.fullMatch text

end OptionGrammar.Regex
