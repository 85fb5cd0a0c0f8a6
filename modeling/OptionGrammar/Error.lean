import OptionGrammar.Regex.Error
import OptionGrammar.Violation
import OptionGrammar.Value.Kind
import OptionGrammar.Yaml.Error

/-
  Errors of the option parser.

  Each way in which loading a grammar, matching arguments, checking
  them, reading a value or reading a configuration can fail is one
  constructor, with the facts its message needs.  The wording of all
  of them is in `ArgError.message`.

  Key definitions include:
    * `ArgError`, `ArgError.message`, `ArgError.kindName`
-/

namespace OptionGrammar

open OptionGrammar.Regex OptionGrammar.Yaml

/- Why an operation of the option parser failed. -/
inductive ArgError where
  /- A file could not be read; the reason as the system gives it. -/
  | io (reason : String)
  /- A configuration text is not a valid configuration. -/
  | yaml (err : YamlError)
  /- A grammar line does not follow the declaration syntax. -/
  | grammar (line : Nat) (text : String)
  /- A declared value pattern does not compile. -/
  | invalidPattern (line : Nat) (pattern : String) (reason : RegexError)
  /- A spelling is declared a second time. -/
  | duplicateSpelling (line : Nat) (spelling : String)
  /- An option that takes a value ends the arguments. -/
  | missingParameter (option : String)
  /- A value does not match the pattern of its option. -/
  | badArgument (option expected actual : String)
  /- The arguments break a rule of the declarations. -/
  | constraint (v : Violation)
  /- A key names no declared option. -/
  | unknownOption (key : String)
  /- A declared option was not given. -/
  | notPresent (key : String)
  /- A captured value does not read as the type asked for. -/
  | conversion (option value : String) (target : ValueType) (reason : ConversionFailure)
  deriving BEq, Inhabited

namespace ArgError

def message : ArgError → String
  | .io reason => "I/O error: " ++ reason
  | .yaml e => "YAML error: " ++ e.message
  | .grammar line text => "grammar error on line " ++ toString line ++ ": '" ++ text ++ "'"
  | .invalidPattern line pattern reason =>
      "grammar error on line " ++ toString line ++ ": invalid pattern <" ++ pattern ++ ">: " ++
        reason.message
  | .duplicateSpelling line spelling =>
      "grammar error on line " ++ toString line ++ ": option '" ++ spelling ++
        "' is already declared"
  | .missingParameter o => "missing parameter for option '" ++ o ++ "'"
  | .badArgument o expected actual =>
      "bad argument for option '" ++ o ++ "': expected <" ++ expected ++ ">, got '" ++ actual ++ "'"
  | .constraint v => v.message
  | .unknownOption k => "unknown option '" ++ k ++ "'"
  | .notPresent k => "option '" ++ k ++ "' was not supplied"
  | .conversion o v target reason =>
      "cannot convert value '" ++ v ++ "' of option '" ++ o ++ "' to " ++ target.typeName ++
        ": " ++ reason.message

/- The name of the kind of error. -/
def kindName : ArgError → String
  | .io _ => "IoError"
  | .yaml _ => "YamlError"
  | .grammar .. => "Grammar"
  | .invalidPattern .. => "InvalidPattern"
  | .duplicateSpelling .. => "DuplicateSpelling"
  | .missingParameter _ => "MissingParameter"
  | .badArgument .. => "BadArgument"
  | .constraint v => "Constraint." ++ v.kindName
  | .unknownOption _ => "UnknownOption"
  | .notPresent _ => "NotPresent"
  | .conversion .. => "Conversion"

end ArgError

end OptionGrammar
