import OptionGrammar.Constraint
import OptionGrammar.Help
import Std.Data.TreeMap

/-
  Parsers.

  A parser holds a table, a configuration and the arguments
  captured by its last parse.  Parsing first forgets the previous
  results.  If the first argument asks for help, nothing is matched.
  Otherwise the arguments are matched; a matching error leaves the
  results empty, and a constraint violation is reported after the
  results are kept, so that they can still be read.  Only the first
  violation is reported.

  The report of a parser maps each option that was given, by its
  canonical name, to its values, in the order of the names, beside
  the positional arguments.

  Key definitions include:
    * `ParseOutcome`, `OptionParser`, `OptionParser.parse`
    * `Report`, `OptionParser.report`
-/

namespace OptionGrammar

inductive ParseOutcome where
  | parsed
  | helpRequested
  deriving BEq, DecidableEq, Repr, Inhabited

/- A table with a configuration and the results of the last parse. -/
structure OptionParser where
  table : OptionTable
  config : ParserConfig := {}
  captured : Captured := {}
  deriving Inhabited

/- The options given, by canonical name in order, and the positional
    arguments. -/
structure Report where
  options : List (String × List String)
  positional : List String
  deriving BEq, Repr, Inhabited

namespace OptionParser

/- Parse a list of arguments; gives the outcome and the parser with
    its new results. -/
def parse (p : OptionParser) (args : List String) :
    Except ArgError ParseOutcome × OptionParser :=
  let cleared := { p with captured := {} }
  if p.config.asksHelp args then (.ok .helpRequested, cleared)
  else
    match p.table.scan args with
    | .error e => (.error e, cleared)
    | .ok c =>
        let kept := { p with captured := c }
        match p.table.check c p.config.iorPolicy with
        | v :: _ => (.error (.constraint v), kept)
        | [] => (.ok .parsed, kept)

def help (p : OptionParser) : String := p.table.renderHelp p.config

/- The options given, in order of identity, each by its canonical
    name with its values. -/
def namedEntries (p : OptionParser) : List (String × List String) :=
  p.captured.grouped.filterMap fun (id, vs) => (p.table.get? id).map fun s => (s.canonical, vs)

/- The report of the last parse: the named entries collected into a
    map ordered by name, where a later entry under a name already
    there takes its place. -/
def report (p : OptionParser) : Report :=
  { options := (Std.TreeMap.ofList p.namedEntries compare).toList
    positional := p.captured.positional }

end OptionParser

end OptionGrammar
