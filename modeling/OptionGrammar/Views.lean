import OptionGrammar.Session
import OptionGrammar.Tree

/-
  Tree views of declarations, tables, reports and configurations.

  These are the shapes written out as JSON and YAML.  A declaration
  is a record of its spellings, whether it is optional, its group
  (kind and number), whether it is unique, its value pattern (the
  declared and the expanded text) or null, and its help text.  A
  table is the list of its declarations.  A report is a record of
  the captured values by canonical spelling and the positional
  arguments.  A configuration is a record of the program name, the
  help flags and the IOR policy.

  Key definitions include:
    * `OptionSpec.toTree`, `OptionTable.toTree`
    * `Report.toTree`, `ParserConfig.toTree`
-/

namespace OptionGrammar

def OptionSpec.toTree (s : OptionSpec) : Tree :=
  .record [
    ("spellings", Tree.ofTexts s.spellings),
    ("optional", .bool s.optional),
    ("group", .record [("kind", .text s.group.kind.key), ("number", .int s.group.number.toNat)]),
    ("unique", .bool s.unique),
    ("param", match s.param with
      | none => .null
      | some p => .record [("declared", .text p.declared), ("expanded", .text p.expanded)]),
    ("help", .text s.help)]

/- The tree of a table: its declarations in order. -/
def OptionTable.toTree (t : OptionTable) : Tree := .list (t.specs.map OptionSpec.toTree)

def Report.toTree (r : Report) : Tree :=
  .record [
    ("options", .record (r.options.map fun (k, vs) => (k, Tree.ofTexts vs))),
    ("positional", Tree.ofTexts r.positional)]

def ParserConfig.toTree (c : ParserConfig) : Tree :=
  .record [
    ("program_name", Tree.ofOptionText c.programName),
    ("help_flags", Tree.ofTexts c.helpFlags),
    ("ior_policy", .text c.iorPolicy.key)]

end OptionGrammar
