import OptionGrammar.Text.Escape

/-
  Errors of YAML documents.

  A document can fail in two ways.  Its text can break the syntax of
  YAML: the error then names the problem and where it was found, and
  often the construct that was being read and where it began.  Or the
  text is well formed but does not describe the value that was asked
  for: the error then names the place in the value (a path such as
  `help_flags[0]`), what was found and what was expected.

  Places are written with lines and columns counted from one; a
  place at the very start of the text is left out.

  Key definitions include:
    * `Mark`, `Mark.render`
    * `Unexpected`, `DataProblem`
    * `YamlError`, `YamlError.message`
-/

namespace OptionGrammar.Yaml

/- A place in a YAML text: line and column, counted from zero. -/
structure Mark where
  line : Nat := 0
  column : Nat := 0
  deriving BEq, DecidableEq, Repr, Inhabited

namespace Mark

/- Whether the place is the very start of the text. -/
def isOrigin (m : Mark) : Bool := m.line == 0 && m.column == 0

/- The place as `line L column C`, counted from one. -/
def render (m : Mark) : String :=
  "line " ++ toString (m.line + 1) ++ " column " ++ toString (m.column + 1)

end Mark

/- What was found where something else was expected. -/
inductive Unexpected where
  | unit
  | bool (b : Bool)
  | integer (text : String)
  | float (text : String)
  | string (s : String)
  | sequence
  | map
  /- Something described by its own text. -/
  | other (text : String)
  deriving BEq, Repr, Inhabited

def Unexpected.describe : Unexpected → String
  | .unit => "unit value"
  | .bool b => "boolean `" ++ toString b ++ "`"
  | .integer t => "integer `" ++ t ++ "`"
  | .float t => "floating point `" ++ t ++ "`"
  | .string s => "string " ++ Text.quoteDebug s
  | .sequence => "sequence"
  | .map => "map"
  | .other t => t

/- Why a well-formed document does not describe the value asked for. -/
inductive DataProblem where
  | invalidType (found : Unexpected) (expected : String)
  | invalidValue (found : Unexpected) (expected : String)
  | unknownVariant (name : String) (expected : List String)
  | duplicateField (name : String)
  | custom (text : String)
  deriving BEq, Repr, Inhabited

/- A list of names for messages: `a`, `a` or `b`, one of `a`, `b`, `c`. -/
def oneOf (names : List String) : String :=
  let q := names.map fun n => "`" ++ n ++ "`"
  match q with
  | [a] => a
  | [a, b] => a ++ " or " ++ b
  | _ => "one of " ++ ", ".intercalate q

def DataProblem.message : DataProblem → String
  | .invalidType found expected => "invalid type: " ++ found.describe ++ ", expected " ++ expected
  | .invalidValue found expected => "invalid value: " ++ found.describe ++ ", expected " ++ expected
  | .unknownVariant n [] => "unknown variant `" ++ n ++ "`, there are no variants"
  | .unknownVariant n expected => "unknown variant `" ++ n ++ "`, expected " ++ oneOf expected
  | .duplicateField n => "duplicate field `" ++ n ++ "`"
  | .custom t => t

/- Why a YAML text could not be read as the value asked for. -/
inductive YamlError where
  /- The text breaks the syntax: the problem and its place, and the
      construct being read with the place where it began. -/
  | malformed (problem : String) (mark : Mark) (context : Option (String × Mark))
  /- The document does not describe the value: the path in the value,
      the problem, and the place of the offending node. -/
  | data (path : String) (problem : DataProblem) (mark : Mark)
  /- The text holds a character that YAML does not allow; the
      offset of that character in bytes. -/
  | unreadable (problem : String) (offset : Nat)
  /- Any other failure, with its text. -/
  | other (text : String)
  deriving BEq, Repr, Inhabited

def YamlError.message : YamlError → String
  | .malformed problem mark context =>
      let place := if mark.isOrigin then "" else " at " ++ mark.render
      let ctx := match context with
        | none => ""
        | some (c, cm) =>
            ", " ++ c ++ (if cm.isOrigin || cm == mark then "" else " at " ++ cm.render)
      problem ++ place ++ ctx
  | .data path problem mark =>
      let prefixText := if path == "." then "" else path ++ ": "
      let place := if mark.isOrigin then "" else " at " ++ mark.render
      prefixText ++ problem.message ++ place
  | .unreadable problem offset =>
      problem ++ (if offset == 0 then "" else " at position " ++ toString offset)
  | .other t => t

end OptionGrammar.Yaml
