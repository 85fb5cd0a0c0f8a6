import OptionGrammar.Regex.Basic

/-
  Value patterns.

  An option that takes a value declares the form of that value
  between angle brackets.  Four names stand for common forms:
  `int`, `real` (also `float`) and `string`; any other text is a
  regular expression.  A value matches when the whole of it is a
  match: the expression is compiled on its own first, so that an
  unbalanced text cannot close the group that anchors it, and then
  inside `^(?:` and `)$`.

  Two patterns are equal when they were declared with the same text.

  Key definitions include:
    * `expandAlias?`
    * `ValuePattern`, `ValuePattern.compile`, `ValuePattern.accepts`
-/

namespace OptionGrammar

open OptionGrammar.Regex

------------------------------------------------------------
-- Named forms
------------------------------------------------------------

def intForm : String := "[+-]?[0-9]+"

/- A decimal number with an optional point and exponent. -/
def realForm : String := "[+-]?(?:[0-9]+\\.?[0-9]*|\\.[0-9]+)(?:[eE][+-]?[0-9]+)?"

def stringForm : String := "(?s:.*)"

/- The regular expression a named form stands for, if the text
    names one. -/
def expandAlias? : String → Option String
  | "int" => some intForm
  | "real" => some realForm
  | "float" => some realForm
  | "string" => some stringForm
  | _ => none

/- The regular expression of a declared text: the named form it
    stands for, or the text itself. -/
def expandText (declared : String) : String :=
  (expandAlias? declared).getD declared

/- The expression of a declared text, anchored at both ends. -/
def anchoredText (declared : String) : String :=
  "^(?:" ++ expandText declared ++ ")$"

------------------------------------------------------------
-- Patterns
------------------------------------------------------------

/- A declared value pattern with its anchored expression. -/
structure ValuePattern where
  /- The text as declared between the angle brackets. -/
  declared : String
  /- The anchored expression that values must match. -/
  regex : Regex.Compiled
  deriving Inhabited

namespace ValuePattern

/- The expression the declared text stands for. -/
def expanded (p : ValuePattern) : String := expandText p.declared

/- Whether the pattern was declared through a named form. -/
def isAlias (p : ValuePattern) : Bool := (expandAlias? p.declared).isSome

/- Compile a declared text: its expression alone, then anchored. -/
def compile (declared : String) : Except RegexError ValuePattern := do
  let _ ← Regex.compile (expandText declared)
  let r ← Regex.compile (anchoredText declared)
  return ⟨declared, r⟩

/- Whether a whole value matches the pattern. -/
def accepts (p : ValuePattern) (value : String) : Bool := p.regex.fullMatch value

instance : BEq ValuePattern := ⟨fun p q => p.declared == q.declared⟩

theorem beq_iff (p q : ValuePattern) : (p == q) = (p.declared == q.declared) := rfl

end ValuePattern

end OptionGrammar
