import OptionGrammar.Cli.Read
import OptionGrammar.ConfigFile
import OptionGrammar.Grammar.Load
import OptionGrammar.Tree.Json

/-
  Running the grammar tool.

  A run reads the grammar file, and for `help` and `parse` the
  configuration file, then prints:
    * `check`: the table as rows, JSON, YAML or grammar lines, with a
      final line break;
    * `help`: the help text the grammar generates;
    * `parse`: the help text when the first argument asks for help,
      else the captured values as JSON or YAML.
  A failure prints `error: ` and its message and exits with one; a
  mistake on the command line exits with two.

  Logging goes to the error output, one record a line, each line
  starting with a timestamp; only the lines a record spills over to,
  when a value in it holds line breaks, are kept as part of the
  output.  Records name the arguments taken as positional and the
  values given to options, when debug logging is on, and the help
  flag, always.

  Key definitions include:
    * `FileText`, `FileView`
    * `Outcome`, `Stop.outcome`
    * `scanTrace`, `Invocation.run`
-/

namespace OptionGrammar.Cli

------------------------------------------------------------
-- Files and outcomes
------------------------------------------------------------

/- What reading a file gives: its text, a failure to open it, or a
    failure to read it once open (a directory opens but does not read). -/
inductive FileText where
  | contents (text : String)
  | unopenable (reason : String)
  | unreadable (reason : String)
  deriving BEq, Repr, Inhabited

/- The reason given for a missing file. -/
def noSuchFile : String := "No such file or directory (os error 2)"

/- The reason given for reading a directory. -/
def isADirectory : String := "Is a directory (os error 21)"

/- The reason given for a file name used as a directory. -/
def notADirectory : String := "Not a directory (os error 20)"

/- Files by name, as a scratch directory holds them. -/
structure FileView where
  files : List (String × String)
  deriving Inhabited

/- Drop leading `./` from a relative path. -/
def dropCurrentDir (path : String) (fuel : Nat) : String :=
  match fuel with
  | 0 => path
  | fuel + 1 =>
      if path.startsWith "./" then dropCurrentDir (path.drop 2).toString fuel else path

namespace FileView

/- Whether a path names a directory of the view. -/
def isDirectory (v : FileView) (path : String) : Bool :=
  path.isEmpty || path == "." || path == ".." || path == "/" ||
    v.files.any fun (n, _) => n.startsWith (path ++ "/")

def read (v : FileView) (path : String) : FileText :=
  let name := dropCurrentDir path path.length
  if name.endsWith "/" && name.length > 1 then
    let base := (name.dropEnd 1).toString
    if v.isDirectory base then .unreadable isADirectory
    else if v.files.any (·.1 == base) then .unopenable notADirectory
    else .unopenable noSuchFile
  else if v.isDirectory name then .unreadable isADirectory
  else
    match v.files.find? (·.1 == name) with
    | some (_, t) => .contents t
    | none => .unopenable noSuchFile

end FileView

/- What a run printed, and its exit status. -/
structure Outcome where
  status : Nat
  stdout : String
  stderr : String
  deriving BEq, Repr, Inhabited

/- The outcome of a command line that asks for no command. -/
def Stop.outcome : Stop → Outcome
  | .help page => ⟨0, page, ""⟩
  | .helpOnEmpty page => ⟨2, "", page⟩
  | .mistake e => ⟨2, "", e.render⟩

/- The files a run reads: the grammar, then the configuration. -/
def Invocation.files (inv : Invocation) : String × Option String :=
  match inv.action with
  | .check g _ => (g, none)
  | .showHelp g c => (g, c)
  | .parse g c _ _ => (g, c)

------------------------------------------------------------
-- Logging
------------------------------------------------------------

/- Whether a line starts with a date and the time separator, as log
    lines do. -/
def startsWithTimestamp (line : String) : Bool :=
  let cs := line.toList
  let digitsAt := fun (is : List Nat) => is.all fun i => (cs[i]?.getD ' ').isDigit
  digitsAt [0, 1, 2, 3, 5, 6, 8, 9] && cs[4]? == some '-' && cs[7]? == some '-' &&
    cs[10]? == some 'T'

/- The lines a log record spills over to when its last value holds
    line breaks, without those that look like log lines. -/
def spill (value : String) : String :=
  String.join (((value.splitOn "\n").drop 1).filter (!startsWithTimestamp ·) |>.map (· ++ "\n"))

/- The values a scan of the arguments logs, in order: each argument
    taken as positional and each value given to an option, up to the
    first failure. -/
def scanTrace (t : OptionTable) : List String → List String
  | [] => []
  | [tok] =>
      match (t.lookup tok).bind t.get? with
      | none => [tok]
      | some spec => if spec.param.isSome then [] else [""]
  | tok :: v :: after =>
      match (t.lookup tok).bind t.get? with
      | none => tok :: scanTrace t (v :: after)
      | some spec =>
          match spec.param with
          | some p => if p.accepts v then v :: scanTrace t after else []
          | none => "" :: scanTrace t (v :: after)

------------------------------------------------------------
-- Running
------------------------------------------------------------

def loadGrammar (path : String) (file : FileText) : Except String OptionTable :=
  let fail := fun (e : ArgError) => "Failed to load '" ++ path ++ "': " ++ e.message
  match file with
  | .contents text => (OptionTable.ofGrammar text).mapError fail
  | .unopenable r => .error (fail (.io r))
  | .unreadable r => .error (fail (.io r))

/- Load the configuration of a run; the default without a file. -/
def loadConfig (file : Option (String × FileText)) : Except String ParserConfig :=
  match file with
  | none => .ok {}
  | some (path, f) =>
      let fail := fun (e : ArgError) => "Failed to load config '" ++ path ++ "': " ++ e.message
      match f with
      | .contents text => (ParserConfig.ofYaml text).mapError fun e => fail (.yaml e)
      | .unopenable r => .error (fail (.io r))
      | .unreadable r => .error (fail (.yaml (.other r)))

/- The table as rows of a text table. -/
def tableRows (t : OptionTable) : String :=
  let row := fun (s : OptionSpec) =>
    "| " ++ ", ".intercalate s.spellings ++ " | " ++ (if s.optional then "no" else "yes") ++
      " | " ++ (if s.group.isNumbered then s.group.label else "-") ++
      " | " ++ (if s.unique then "no" else "yes") ++
      " | " ++ (match s.param with
        | some p => "<" ++ p.declared ++ ">"
        | none => "-") ++ " |\n"
  "| Option | Required | Group | Repeatable | Value |\n" ++
    "|--------|----------|-------|------------|-------|\n" ++ String.join (t.specs.map row)

/- The table in a format of `check`. -/
def renderTable (t : OptionTable) : TableFormat → String
  | .json => t.toTree.renderJson
  | .yaml => t.toTree.renderYaml
  | .table => tableRows t
  | .grammar => t.toGrammar

/- A text without trailing white space, then one line break. -/
def trimmedLine (s : String) : String :=
  String.ofList (s.toList.reverse.dropWhile Text.isBlank).reverse ++ "\n"

/- The outcome of a failure after the command line was read. -/
def failed (stderr message : String) : Outcome := ⟨1, "", stderr ++ "error: " ++ message ++ "\n"⟩

/- Run a command with the files it reads. -/
def Invocation.run (inv : Invocation) (grammar : FileText) (config : Option FileText) :
    Outcome :=
  let (gPath, cPath) := inv.files
  let configFile := match cPath, config with
    | some p, some f => some (p, f)
    | _, _ => none
  match loadGrammar gPath grammar with
  | .error m => failed "" m
  | .ok table =>
  match inv.action with
  | .check _ format =>
      let raw := renderTable table format
      ⟨0, if raw.endsWith "\n" then raw else raw ++ "\n", ""⟩
  | .showHelp _ _ =>
      match loadConfig configFile with
      | .error m => failed "" m
      | .ok cfg => ⟨0, table.renderHelp cfg, ""⟩
  | .parse _ _ format args =>
      match loadConfig configFile with
      | .error m => failed "" m
      | .ok cfg =>
          let parser : OptionParser := { table, config := cfg }
          let asksHelp := match args.head? with
            | some first => cfg.isHelpFlag first
            | none => false
          let logs :=
            if asksHelp then spill (args.head?.getD "")
            else if inv.debug then String.join ((scanTrace table args).map spill)
            else ""
          let (result, after) := parser.parse args
          match result with
          | .error e => failed logs e.message
          | .ok .helpRequested => ⟨0, after.help, logs⟩
          | .ok .parsed =>
              let raw := match format with
                | .json => after.report.toTree.renderJson
                | .yaml => after.report.toTree.renderYaml
              ⟨0, trimmedLine raw, logs⟩

/- Run the tool on a command line with a view of its files. -/
def runWithFiles (args : List String) (view : FileView) : Outcome :=
  match readCommandLine args with
  | .error stop => stop.outcome
  | .ok inv =>
      let (g, c) := inv.files
      inv.run (view.read g) (c.map view.read)

end OptionGrammar.Cli
