import OptionGrammar.Views
import OptionGrammar.Tree.Yaml
import OptionGrammar.Yaml.Decode

/-
  Parser configurations in YAML.

  A configuration file is a mapping with the optional fields
  `program_name` (a text or null), `help_flags` (a list of texts)
  and `ior_policy` (`permissive` or `at_least_one`); a missing field
  keeps its default, other keys are skipped, and a field given twice
  is an error.  An empty document is the default configuration;
  anything else that is not a mapping is an error.  A configuration
  is written back with its three fields in that order.

  Key definitions include:
    * `IorPolicy.all`
    * `ParserConfig.ofYaml`, `ParserConfig.toYaml`
-/

namespace OptionGrammar

def IorPolicy.all : List IorPolicy := [.permissive, .atLeastOne]

namespace ParserConfig

open Yaml

/- The partly read fields of a configuration. -/
structure Fields where
  programName : Option (Option String) := none
  helpFlags : Option (List String) := none
  iorPolicy : Option IorPolicy := none

/- The configuration of read fields, the defaults for the others. -/
def Fields.toConfig (f : Fields) : ParserConfig :=
  { programName := f.programName.getD none
    helpFlags := f.helpFlags.getD ({} : ParserConfig).helpFlags
    iorPolicy := f.iorPolicy.getD .permissive }

/- Read the entry of one field into the read fields. -/
def readField (path : NodePath) (f : Fields) (field : String) : DecodeM Fields := do
  match field with
  | "program_name" =>
      if f.programName.isSome then throw (.problem (.duplicateField field))
      pure { f with programName := some (← readOptionalText path) }
  | "help_flags" =>
      if f.helpFlags.isSome then throw (.problem (.duplicateField field))
      pure { f with helpFlags := some (← readTexts path) }
  | "ior_policy" =>
      if f.iorPolicy.isSome then throw (.problem (.duplicateField field))
      let name ← readVariant path (IorPolicy.all.map IorPolicy.key)
      pure { f with iorPolicy := IorPolicy.ofKey? name }
  | _ => skipNode; pure f

/- Read the entries of a configuration mapping up to its end. -/
def readEntries : DecodeM ParserConfig := do
  let mut fields : Fields := {}
  for _ in [0:(← get).doc.items.size] do
    let (key, _) ← peekItem
    match key with
    | .mappingEnd => break
    | .void => break
    | _ => pure ()
    let valuePath := match key with
      | .scalar k _ _ => NodePath.key .root k
      | _ => .unknown .root
    let field ← readText .root "field identifier"
    fields ← readField valuePath fields field
  let _ ← nextItem
  pure fields.toConfig

/- Read a configuration from the root node. -/
def readRoot : DecodeM ParserConfig :=
  withNextNode fun item mark => placed .root mark do
    match item with
    | .mappingStart _ => readEntries
    | .void => pure {}
    | .scalar v style _ =>
        if v.isEmpty && style == .plain then pure {}
        else throw (mismatch item "struct ParserConfig")
    | other => throw (mismatch other "struct ParserConfig")

end ParserConfig

def ParserConfig.ofYaml (text : String) : Except Yaml.YamlError ParserConfig :=
  Yaml.decodeText text ParserConfig.readRoot

def ParserConfig.toYaml (c : ParserConfig) : String := c.toTree.renderYaml

end OptionGrammar
