/-
  Parser configuration.

  A configuration gives the program name shown in help, the tokens
  that ask for help when they come first, and the policy for IOR
  groups: permissive (an IOR group may be left out entirely) or
  at least one (each numbered IOR group needs a member).

  Key definitions include:
    * `IorPolicy`
    * `ParserConfig`, `ParserConfig.isHelpFlag`, `ParserConfig.asksHelp`
-/

namespace OptionGrammar

/- Whether a numbered IOR group needs a member. -/
inductive IorPolicy where
  | permissive
  | atLeastOne
  deriving BEq, DecidableEq, Repr, Inhabited

namespace IorPolicy

/- The name of a policy in data. -/
def key : IorPolicy → String
  | .permissive => "permissive"
  | .atLeastOne => "at_least_one"

def ofKey? : String → Option IorPolicy
  | "permissive" => some .permissive
  | "at_least_one" => some .atLeastOne
  | _ => none

end IorPolicy

/- How a parser presents itself and checks groups. -/
structure ParserConfig where
  programName : Option String := none
  helpFlags : List String := ["--help", "-h"]
  iorPolicy : IorPolicy := .permissive
  deriving BEq, DecidableEq, Repr, Inhabited

namespace ParserConfig

def isHelpFlag (c : ParserConfig) (token : String) : Bool := c.helpFlags.contains token

/- Whether a list of arguments asks for help: its first argument does. -/
def asksHelp (c : ParserConfig) : List String → Bool
  | first :: _ => c.isHelpFlag first
  | [] => false

def withProgramName (c : ParserConfig) (name : String) : ParserConfig :=
  { c with programName := some name }

def withIorPolicy (c : ParserConfig) (p : IorPolicy) : ParserConfig :=
  { c with iorPolicy := p }

end ParserConfig

end OptionGrammar
