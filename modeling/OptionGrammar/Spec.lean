import OptionGrammar.Group
import OptionGrammar.ValuePattern

/-
  Option declarations.

  A declaration lists the spellings of one option (the first is its
  canonical name, used in messages and reports), whether it is
  optional, its group, whether it may appear only once, the pattern
  of its value if it takes one, and a line of help.

  A declaration is built from a first spelling with the defaults
  (optional, ungrouped, unique, no value, no help) and refined step
  by step.  It prints back as one grammar line.

  Key definitions include:
    * `OptionSpec`, `OptionSpec.flag`
    * `OptionSpec.canonical`, `OptionSpec.hasSpelling`, `OptionSpec.takesValue`
    * `OptionSpec.toGrammarLine`
-/

namespace OptionGrammar

structure OptionSpec where
  spellings : List String
  optional : Bool := true
  group : Group := {}
  unique : Bool := true
  param : Option ValuePattern := none
  help : String := ""
  deriving BEq, Inhabited

namespace OptionSpec

------------------------------------------------------------
-- Building
------------------------------------------------------------

/- An optional, ungrouped, unique flag with one spelling. -/
def flag (spelling : String) : OptionSpec := { spellings := [spelling] }

def withAlias (s : OptionSpec) (spelling : String) : OptionSpec :=
  { s with spellings := s.spellings ++ [spelling] }

def withGroup (s : OptionSpec) (g : Group) : OptionSpec := { s with group := g }

/- Let the option take a value of a pattern. -/
def withParam (s : OptionSpec) (p : ValuePattern) : OptionSpec := { s with param := some p }

def withHelp (s : OptionSpec) (help : String) : OptionSpec := { s with help := help }

def required (s : OptionSpec) : OptionSpec := { s with optional := false }

/- Let the option appear more than once. -/
def repeatable (s : OptionSpec) : OptionSpec := { s with unique := false }

------------------------------------------------------------
-- Queries
------------------------------------------------------------

/- The canonical name: the first spelling, or the empty text when
    there is none. -/
def canonical (s : OptionSpec) : String := s.spellings.headD ""

/- Whether a token is one of the spellings. -/
def hasSpelling (s : OptionSpec) (token : String) : Bool := s.spellings.contains token

/- Whether the option takes the following argument as its value. -/
def takesValue (s : OptionSpec) : Bool := s.param.isSome

/- The declaration as one grammar line: the markers, the spellings,
    the pattern in angle brackets and the help after a bar. -/
def toGrammarLine (s : OptionSpec) : String :=
  let head := [if s.optional then '?' else '!', s.group.kind.marker]
  let num := if s.group.isNumbered then toString s.group.number.toNat else ""
  let uniq := if s.unique then "-" else "+"
  let names := String.join (s.spellings.map (" " ++ ·))
  let pat := match s.param with
    | some p => " <" ++ p.declared ++ ">"
    | none => ""
  let help := if s.help.isEmpty then "" else " | " ++ s.help
  String.ofList head ++ num ++ uniq ++ names ++ pat ++ help

@[simp] theorem canonical_flag (spelling : String) : (flag spelling).canonical = spelling := rfl

@[simp] theorem takesValue_withParam (s : OptionSpec) (p : ValuePattern) :
    (s.withParam p).takesValue = true := rfl

end OptionSpec

end OptionGrammar
