/-
  The command line of the grammar tool.

  The tool `optgroup` has three commands: `check` prints the option
  table of a grammar, `help` prints the help text a grammar
  generates, and `parse` parses arguments given after `--` against a
  grammar.  Each takes `--grammar`; `help` and `parse` take
  `--config`, and `check` and `parse` take `--format` with a default
  and a fixed set of values.  `--debug` is accepted everywhere, and
  `-h` or `--help` shows the help of the command it follows.

  This module holds the shape of that command line and the texts
  derived from it: help pages, usage lines and the way options are
  named in messages.  A help page lists options in two columns, the
  first padded to the widest entry; usage lines name the required
  options after `[OPTIONS]`.

  Key definitions include:
    * `OptionDecl`, `CommandDecl`
    * `tool`, `CommandDecl.helpPage`, `CommandDecl.fullUsage`, `topHelpPage`
-/

namespace OptionGrammar.Cli

/- An option of the tool's command line. -/
structure OptionDecl where
  long : String
  short : Option Char := none
  /- The name of its value, for options that take one. -/
  valueName : Option String := none
  help : String
  required : Bool := false
  defaultValue : Option String := none
  choices : List String := []
  deriving BEq, Repr, Inhabited

namespace OptionDecl

def takesValue (o : OptionDecl) : Bool := o.valueName.isSome

/- The option as messages name it: `--grammar <GRAMMAR>`, `--debug`. -/
def display (o : OptionDecl) : String :=
  "--" ++ o.long ++ match o.valueName with
    | some v => " <" ++ v ++ ">"
    | none => ""

/- The first column of the option in a help page. -/
def helpLabel (o : OptionDecl) : String :=
  "  " ++ (match o.short with
    | some c => "-" ++ String.singleton c ++ ", "
    | none => "    ") ++ o.display

/- The help of the option with its default and possible values. -/
def helpText (o : OptionDecl) : String :=
  let notes :=
    (match o.defaultValue with
      | some d => ["[default: " ++ d ++ "]"]
      | none => []) ++
    (if o.choices.isEmpty then [] else ["[possible values: " ++ ", ".intercalate o.choices ++ "]"])
  if notes.isEmpty then o.help else o.help ++ " " ++ " ".intercalate notes

end OptionDecl

/- The arguments a command collects after `--`. -/
structure TrailingDecl where
  valueName : String
  help : String
  deriving BEq, Repr, Inhabited

structure CommandDecl where
  name : String
  about : String
  /- The options, in the order of the help page. -/
  options : List OptionDecl
  trailing : Option TrailingDecl := none
  deriving BEq, Repr, Inhabited

def toolName : String := "optgroup"

def toolAbout : String := "Check option grammars and parse arguments against them"

/- The option that turns on debug logging; every command accepts it. -/
def debugOption : OptionDecl := { long := "debug", help := "Enable debug logging on stderr" }

def helpOption : OptionDecl := { long := "help", short := some 'h', help := "Print help" }

def grammarOption : OptionDecl :=
  { long := "grammar", valueName := some "GRAMMAR", help := "Grammar file", required := true }

def configOption : OptionDecl :=
  { long := "config", valueName := some "CONFIG", help := "Parser configuration (YAML)" }

def tableFormatOption : OptionDecl :=
  { long := "format", valueName := some "FORMAT", help := "Output format",
    defaultValue := some "table", choices := ["json", "yaml", "table", "grammar"] }

def reportFormatOption : OptionDecl :=
  { long := "format", valueName := some "FORMAT", help := "Output format",
    defaultValue := some "json", choices := ["json", "yaml"] }

def checkCommand : CommandDecl :=
  { name := "check", about := "Load a grammar and print its option table",
    options := [debugOption, grammarOption, tableFormatOption, helpOption] }

def helpCommand : CommandDecl :=
  { name := "help", about := "Print the help text generated from a grammar",
    options := [debugOption, grammarOption, configOption, helpOption] }

def parseCommand : CommandDecl :=
  { name := "parse", about := "Parse arguments against a grammar and print the captured values",
    options := [debugOption, grammarOption, configOption, reportFormatOption, helpOption],
    trailing := some { valueName := "ARGS", help := "Arguments to parse, given after `--`" } }

/- The commands of the tool, in the order of its help page. -/
def commands : List CommandDecl := [checkCommand, helpCommand, parseCommand]

def topOptions : List OptionDecl := [debugOption, helpOption]

------------------------------------------------------------
-- Help pages
------------------------------------------------------------

/- Spaces to widen a text to a width, counted in characters. -/
def padTo (width : Nat) (s : String) : String :=
  s ++ String.ofList (List.replicate (width - s.length) ' ')

/- Rows of two columns, the first padded to the widest entry. -/
def twoColumns (rows : List (String × String)) : String :=
  let width := rows.foldl (fun w r => max w r.1.length) 0
  String.join (rows.map fun (l, r) => padTo width l ++ "  " ++ r ++ "\n")

/- The trailing arguments as a help page shows them. -/
def TrailingDecl.label (t : TrailingDecl) : String := "[" ++ t.valueName ++ "]..."

namespace CommandDecl

/- The name of the command in usage lines. -/
def usageName (c : CommandDecl) : String := toolName ++ " " ++ c.name

/- The usage line of the command with all its required options. -/
def fullUsage (c : CommandDecl) : String :=
  let required := c.options.filter (·.required)
  c.usageName ++ " [OPTIONS]" ++ String.join (required.map fun o => " " ++ o.display) ++
    match c.trailing with
    | some t => " [-- <" ++ t.valueName ++ ">...]"
    | none => ""

def helpPage (c : CommandDecl) : String :=
  let arguments := match c.trailing with
    | some t => "Arguments:\n" ++ twoColumns [("  " ++ t.label, t.help)] ++ "\n"
    | none => ""
  c.about ++ "\n\nUsage: " ++ c.fullUsage ++ "\n\n" ++ arguments ++ "Options:\n" ++
    twoColumns (c.options.map fun o => (o.helpLabel, o.helpText))

end CommandDecl

def topUsage : String := toolName ++ " [OPTIONS] <COMMAND>"

def topHelpPage : String :=
  toolAbout ++ "\n\nUsage: " ++ topUsage ++ "\n\nCommands:\n" ++
    twoColumns (commands.map fun c => ("  " ++ c.name, c.about)) ++ "\nOptions:\n" ++
    twoColumns (topOptions.map fun o => (o.helpLabel, o.helpText))

end OptionGrammar.Cli
