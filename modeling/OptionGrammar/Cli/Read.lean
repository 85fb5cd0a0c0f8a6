import OptionGrammar.Cli.Shape
import OptionGrammar.Text.Similarity

/-
  Reading the tool's command line.

  The arguments are read from left to right.  Before a command come
  `--debug`, `-h` and `--help`; the first argument that names a
  command hands the rest to that command.  Within a command, a long
  option takes its value after `=` or as the next argument, unless
  that argument is an option itself; `-h` and `--help` show the
  command's help at once; `--` ends the options, and only `parse`
  collects the arguments after it.

  A mistake stops the reading with a message in three parts: the
  problem, tips (a similar option, command or value, or how to pass
  the argument as a value), and a usage line.  The usage line is the
  full one when nothing was given yet, else the short one: the
  command, its required options and the options given so far.
  Without any argument, or with `--` alone, the tool's help is shown
  as a mistake; with options but no command, the missing command is
  the mistake.

  Key definitions include:
    * `TableFormat`, `ReportFormat`, `Action`, `Invocation`
    * `UsageProblem`, `UsageError`, `UsageError.render`, `Stop`
    * `readCommandLine`
-/

namespace OptionGrammar.Cli

------------------------------------------------------------
-- What the command line asks for
------------------------------------------------------------

inductive TableFormat where
  | json
  | yaml
  | table
  | grammar
  deriving BEq, DecidableEq, Repr, Inhabited

inductive ReportFormat where
  | json
  | yaml
  deriving BEq, DecidableEq, Repr, Inhabited

def TableFormat.ofName? : String → Option TableFormat
  | "json" => some .json
  | "yaml" => some .yaml
  | "table" => some .table
  | "grammar" => some .grammar
  | _ => none

def ReportFormat.ofName? : String → Option ReportFormat
  | "json" => some .json
  | "yaml" => some .yaml
  | _ => none

/- What a command does, with its files and formats. -/
inductive Action where
  | check (grammar : String) (format : TableFormat)
  | showHelp (grammar : String) (config : Option String)
  | parse (grammar : String) (config : Option String) (format : ReportFormat)
      (args : List String)
  deriving BEq, Repr, Inhabited

/- A command to run, and whether debug logging is on. -/
structure Invocation where
  debug : Bool
  action : Action
  deriving BEq, Repr, Inhabited

------------------------------------------------------------
-- Mistakes
------------------------------------------------------------

inductive UsageProblem where
  | unexpectedArgument (arg : String)
  | unrecognizedCommand (name : String)
  /- An option without a value, or with an empty one; the values it
      could take. -/
  | missingValue (option : String) (choices : List String)
  | invalidValue (value : String) (option : String) (choices : List String)
  | missingRequired (options : List String)
  | repeatedOption (option : String)
  | unexpectedValue (value : String) (option : String)
  | missingCommand (commands : List String)
  deriving BEq, Repr, Inhabited

/- The list of the values an option could take, on its own line. -/
def valuesLine (name : String) (values : List String) : String :=
  if values.isEmpty then "" else "\n  [" ++ name ++ ": " ++ ", ".intercalate values ++ "]"

def UsageProblem.message : UsageProblem → String
  | .unexpectedArgument a => "unexpected argument '" ++ a ++ "' found"
  | .unrecognizedCommand n => "unrecognized subcommand '" ++ n ++ "'"
  | .missingValue o choices =>
      "a value is required for '" ++ o ++ "' but none was supplied" ++
        valuesLine "possible values" choices
  | .invalidValue v o choices =>
      (if v.isEmpty then "a value is required for '" ++ o ++ "' but none was supplied"
       else "invalid value '" ++ v ++ "' for '" ++ o ++ "'") ++ valuesLine "possible values" choices
  | .missingRequired os =>
      "the following required arguments were not provided:" ++
        String.join (os.map fun o => "\n  " ++ o)
  | .repeatedOption o => "the argument '" ++ o ++ "' cannot be used multiple times"
  | .unexpectedValue v o => "unexpected value '" ++ v ++ "' for '" ++ o ++ "' found; no more were expected"
  | .missingCommand cs =>
      "'" ++ toolName ++ "' requires a subcommand but one was not provided" ++
        valuesLine "subcommands" cs

/- A mistake with its tips and usage line. -/
structure UsageError where
  problem : UsageProblem
  tips : List String := []
  usage : Option String := none
  deriving BEq, Repr, Inhabited

/- The full text of a mistake, as printed. -/
def UsageError.render (e : UsageError) : String :=
  let tips := if e.tips.isEmpty then "" else "\n" ++ String.join (e.tips.map fun t => "\n  tip: " ++ t)
  let usage := match e.usage with
    | some u => "\n\nUsage: " ++ u
    | none => ""
  "error: " ++ e.problem.message ++ tips ++ usage ++ "\n\nFor more information, try '--help'.\n"

/- Why reading stops without a command to run. -/
inductive Stop where
  /- Help was asked for: the page goes to the standard output. -/
  | help (page : String)
  /- Nothing was given: the tool's help goes to the error output. -/
  | helpOnEmpty (page : String)
  | mistake (e : UsageError)
  deriving BEq, Repr, Inhabited

def similarTip (what : String) (names : List String) : List String :=
  match names with
  | [] => []
  | [n] => ["a similar " ++ what ++ " exists: '" ++ n ++ "'"]
  | ns => ["some similar " ++ what ++ "s exist: " ++ ", ".intercalate (ns.map fun n => "'" ++ n ++ "'")]

/- The tip for passing an argument as a value after `--`. -/
def trailingTip (arg : String) : String := "to pass '" ++ arg ++ "' as a value, use '-- " ++ arg ++ "'"

/- The most alike candidate, if any is alike enough. -/
def bestSuggestion (word : String) (candidates : List String) : Option String :=
  (Text.suggestions word candidates).getLast?

------------------------------------------------------------
-- Arguments
------------------------------------------------------------

/- An argument that starts with `--` and has more: its name and the
    value after the first `=`. -/
def longArg? (arg : String) : Option (String × Option String) :=
  if arg.startsWith "--" && arg.length > 2 then
    let body := (arg.drop 2).toString
    match body.splitOn "=" with
    | [name] => some (name, none)
    | name :: rest => some (name, some ("=".intercalate rest))
    | [] => some (body, none)
  else none

/- The letters of an argument that starts with one `-` and has more. -/
def shortArg? (arg : String) : Option (List Char) :=
  if arg.startsWith "-" && !arg.startsWith "--" && arg.length > 1 then some (arg.toList.drop 1)
  else none

------------------------------------------------------------
-- Reading a command's arguments
------------------------------------------------------------

/- What a command has read so far. -/
structure CommandState where
  /- The options given, with their values, in the order given. -/
  given : List (OptionDecl × String) := []
  /- What was given, as usage lines name it, in the order given. -/
  used : List String := []
  /- The option still waiting for its value. -/
  pending : Option OptionDecl := none
  trailing : Bool := false
  args : Array String := #[]
  deriving Inhabited

namespace CommandState

def use (s : CommandState) (label : String) : CommandState :=
  if s.used.contains label then s else { s with used := s.used ++ [label] }

def has (s : CommandState) (o : OptionDecl) : Bool := s.given.any (·.1.long == o.long)

end CommandState

namespace CommandDecl

/- The short usage line: the command, its required options and the
    options given, then the trailing arguments, which are bracketed
    when none were given. -/
def shortUsage (c : CommandDecl) (used : List String) : String :=
  let required := (c.options.filter (·.required)).map OptionDecl.display
  let labels := (required ++ used).foldl (fun acc l => if acc.contains l then acc else acc ++ [l]) []
  let trailingLabels := match c.trailing with
    | some t => [t.label]
    | none => []
  let named := labels.filter fun l => !trailingLabels.contains l
  let positional := match c.trailing with
    | some t =>
        if labels.contains t.label then " -- <" ++ t.valueName ++ ">..."
        else " [-- <" ++ t.valueName ++ ">...]"
    | none => ""
  c.usageName ++ String.join (named.map fun l => " " ++ l) ++ positional

/- The usage line after what was given: the full one when nothing
    was given. -/
def usageAfter (c : CommandDecl) (used : List String) : String :=
  if used.isEmpty then c.fullUsage else c.shortUsage used

def findLong? (c : CommandDecl) (name : String) : Option OptionDecl :=
  c.options.find? (·.long == name)

/- A mistake of the command with the full usage line. -/
def mistake (c : CommandDecl) (p : UsageProblem) (tips : List String) : Stop :=
  .mistake { problem := p, tips, usage := some c.fullUsage }

/- Fail when an option is still waiting for its value. -/
def settle (s : CommandState) : Except Stop CommandState :=
  match s.pending with
  | some o => .error (.mistake { problem := .missingValue o.display o.choices })
  | none => .ok s

/- Give an option its value: an option given twice, an empty file
    name and a value outside the choices are mistakes. -/
def assign (c : CommandDecl) (s : CommandState) (o : OptionDecl) (v : String) :
    Except Stop CommandState := do
  if s.has o then throw (c.mistake (.repeatedOption o.display) [])
  if !o.choices.isEmpty && !o.choices.contains v then
    throw (.mistake { problem := .invalidValue v o.display o.choices,
                      tips := similarTip "value" (bestSuggestion v o.choices).toList })
  if o.choices.isEmpty && v.isEmpty then
    throw (.mistake { problem := .missingValue o.display [] })
  return { (s.use o.display) with given := s.given ++ [(o, v)], pending := none }

/- The mistake of an unknown long option: a similar option of the
    command is suggested, and taken as given for the usage line; a
    command with trailing arguments also suggests passing it after
    `--`, unless the arguments are already past `--`. -/
def unknownLong (c : CommandDecl) (s : CommandState) (name : String) : Stop :=
  let suggestion := (bestSuggestion name (c.options.map (·.long))).bind c.findLong?
  let used := match suggestion with
    | some o => (s.use o.display).used
    | none => s.used
  let tips := similarTip "argument" (suggestion.map fun o => "--" ++ o.long).toList ++
    (if c.trailing.isSome && !s.trailing then [trailingTip ("--" ++ name)] else [])
  .mistake { problem := .unexpectedArgument ("--" ++ name), tips, usage := some (c.usageAfter used) }

def step (c : CommandDecl) (s : CommandState) (arg : String) : Except Stop CommandState := do
  if !s.trailing then
    if arg == "--" then return { s with trailing := true }
    match longArg? arg with
    | some (name, attached) =>
        match c.findLong? name with
        | none => throw (c.unknownLong s name)
        | some o =>
            if o.long == "help" then
              if let some v := attached then
                throw (.mistake { problem := .unexpectedValue v o.display,
                                  usage := some (c.shortUsage (s.use o.display).used) })
              let _ ← settle s
              throw (.help c.helpPage)
            else if o.takesValue then
              let s ← settle s
              match attached with
              | some v => return (← c.assign s o v)
              | none => return { s with pending := some o }
            else
              if let some v := attached then
                let shown := s.used.filter fun l =>
                  !(c.options.any fun r => r.required && r.display == l)
                throw (.mistake { problem := .unexpectedValue v o.display,
                                  usage := some (c.shortUsage (shown ++ [o.display])) })
              let s ← settle s
              if s.has o then throw (c.mistake (.repeatedOption o.display) [])
              return { (s.use o.display) with given := s.given ++ [(o, "true")] }
    | none =>
    match shortArg? arg with
    | some letters =>
        match letters.head? with
        | some 'h' =>
            let _ ← settle s
            throw (.help c.helpPage)
        | some l =>
            let shown := "-" ++ String.singleton l
            throw (c.mistake (.unexpectedArgument shown)
              (if c.trailing.isSome then [trailingTip shown] else []))
        | none => throw (c.mistake (.unexpectedArgument arg) [])
    | none =>
    if let some o := s.pending then
      return (← c.assign s o arg)
  match c.trailing with
  | some t =>
      if s.trailing then
        let s ← settle s
        return { (s.use t.label) with args := s.args.push arg }
      else throw (c.mistake (.unexpectedArgument arg) [])
  | none => throw (c.mistake (.unexpectedArgument arg) [])

/- Read all arguments of the command; the required options must be
    given. -/
def readArgs (c : CommandDecl) (args : List String) : Except Stop CommandState := do
  let mut s : CommandState := {}
  for a in args do
    s ← c.step s a
  let done ← settle s
  let missing := c.options.filter fun o => o.required && !done.has o
  unless missing.isEmpty do
    let labels := missing.map OptionDecl.display
    throw (.mistake { problem := .missingRequired labels,
                      usage := some (c.shortUsage (done.used ++ labels)) })
  return done

/- The value given for an option, or its default. -/
def valueOf (s : CommandState) (o : OptionDecl) : Option String :=
  match s.given.find? (·.1.long == o.long) with
  | some (_, v) => some v
  | none => o.defaultValue

end CommandDecl

/- The action of a command from what it read. -/
def actionOf (c : CommandDecl) (s : CommandState) : Option Action :=
  let grammar := (CommandDecl.valueOf s grammarOption).getD ""
  let config := CommandDecl.valueOf s configOption
  if c.name == "check" then
    (TableFormat.ofName? ((CommandDecl.valueOf s tableFormatOption).getD "table")).map
      (Action.check grammar)
  else if c.name == "help" then some (.showHelp grammar config)
  else
    (ReportFormat.ofName? ((CommandDecl.valueOf s reportFormatOption).getD "json")).map
      fun f => .parse grammar config f s.args.toList

------------------------------------------------------------
-- Reading the whole command line
------------------------------------------------------------

/- A mistake before a command with the full usage line. -/
def topMistake (p : UsageProblem) (tips : List String) : Stop :=
  .mistake { problem := p, tips, usage := some topUsage }

/- The usage line before a command after what was given. -/
def topUsageAfter (used : List String) : String :=
  if used.isEmpty then topUsage else toolName ++ String.join (used.map (" " ++ ·)) ++ " <COMMAND>"

/- The mistake of an unknown long option before a command: a similar
    option of the tool is suggested, else an option of a command named
    later on the line. -/
def topUnknownLong (debug : Bool) (name : String) (rest : List String) : Stop :=
  let used := if debug then [debugOption.display] else []
  match bestSuggestion name (topOptions.map (·.long)) with
  | some s =>
      let o := (topOptions.find? (·.long == s)).getD debugOption
      let used := if used.contains o.display then used else used ++ [o.display]
      .mistake { problem := .unexpectedArgument ("--" ++ name),
                 tips := similarTip "argument" ["--" ++ s], usage := some (topUsageAfter used) }
  | none =>
      let scored := commands.filterMap fun c =>
        (bestSuggestion name (c.options.map (·.long))).bind fun cand =>
          (rest.findIdx? (· == c.name)).map fun pos => (pos, c.name ++ " --" ++ cand)
      let best := scored.foldl (fun acc x => match acc with
        | some y => if x.1 < y.1 then some x else some y
        | none => some x) none
      .mistake { problem := .unexpectedArgument ("--" ++ name),
                 tips := (best.map fun (_, t) => "'" ++ t ++ "' exists").toList,
                 usage := some (topUsageAfter used) }

/- The mistake of an argument before a command that is not one. -/
def notACommand (arg : String) (trailing : Bool) : Stop :=
  if trailing && commands.any (·.name == arg) then
    topMistake (.unexpectedArgument arg)
      ["subcommand '" ++ arg ++ "' exists; to use it, remove the '--' before it"]
  else
    topMistake (.unrecognizedCommand arg)
      (similarTip "subcommand" (Text.suggestions arg (commands.map (·.name))))

/- Read the command line of the tool. -/
def readCommandLine (args : List String) : Except Stop Invocation := do
  if args.isEmpty then throw (.helpOnEmpty topHelpPage)
  let rec go (debug trailing : Bool) : List String → Except Stop Invocation
    | [] =>
        if debug then throw (topMistake (.missingCommand (commands.map (·.name))) [])
        else throw (.helpOnEmpty topHelpPage)
    | arg :: rest => do
        if !trailing then
          match commands.find? (·.name == arg) with
          | some c =>
              let s ← c.readArgs rest
              let subDebug := s.has debugOption
              match actionOf c s with
              | some a => return { debug := debug || subDebug, action := a }
              | none => throw (topMistake (.unrecognizedCommand c.name) [])
          | none => pure ()
          if arg == "--" then return (← go debug true rest)
          match longArg? arg with
          | some (name, attached) =>
              if name == "debug" then
                if let some v := attached then
                  throw (.mistake { problem := .unexpectedValue v debugOption.display,
                                    usage := some (topUsageAfter [debugOption.display]) })
                if debug then throw (topMistake (.repeatedOption debugOption.display) [])
                return (← go true trailing rest)
              else if name == "help" then
                if let some v := attached then
                  let used := (if debug then [debugOption.display] else []) ++ [helpOption.display]
                  throw (.mistake { problem := .unexpectedValue v helpOption.display,
                                    usage := some (topUsageAfter used) })
                throw (.help topHelpPage)
              else throw (topUnknownLong debug name rest)
          | none =>
          match shortArg? arg with
          | some letters =>
              match letters.head? with
              | some 'h' => throw (.help topHelpPage)
              | some l => throw (topMistake (.unexpectedArgument ("-" ++ String.singleton l)) [])
              | none => throw (topMistake (.unexpectedArgument arg) [])
          | none => pure ()
        throw (notACommand arg trailing)
  go false false args

end OptionGrammar.Cli
