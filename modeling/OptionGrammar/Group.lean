/-
  Option groups.

  An option may belong to a group, given by a kind and a number.
  The kind says how the members of a group may appear together:
  any of them (IOR, the default), all the mandatory ones together
  (AND), or at most one (XOR).  Group number zero means that the
  option is in no group, and no joint check applies to it.

  Key definitions include:
    * `GroupKind`, `GroupKind.ofMarker?`, `GroupKind.marker`
    * `Group`, `Group.isNumbered`, `Group.label`
-/

namespace OptionGrammar

/- How the members of a group may appear together. -/
inductive GroupKind where
  /- Inclusive or: any or all members. -/
  | ior
  /- All mandatory members together. -/
  | and
  /- At most one member. -/
  | xor
  deriving BEq, ReflBEq, LawfulBEq, DecidableEq, Repr, Inhabited

namespace GroupKind

/- The kind a grammar marker stands for: `|`, `&` or `^`. -/
def ofMarker? : Char → Option GroupKind
  | '|' => some .ior
  | '&' => some .and
  | '^' => some .xor
  | _ => none

def marker : GroupKind → Char
  | .ior => '|'
  | .and => '&'
  | .xor => '^'

/- The name of a kind in messages. -/
def label : GroupKind → String
  | .ior => "IOR"
  | .and => "AND"
  | .xor => "XOR"

/- The name of a kind in data: `ior`, `and` or `xor`. -/
def key : GroupKind → String
  | .ior => "ior"
  | .and => "and"
  | .xor => "xor"

def ofKey? : String → Option GroupKind
  | "ior" => some .ior
  | "and" => some .and
  | "xor" => some .xor
  | _ => none

theorem ofMarker?_marker (k : GroupKind) : ofMarker? k.marker = some k := by
  cases k <;> rfl

end GroupKind

/- The group of an option: a kind and a number from 0 to 255. -/
structure Group where
  kind : GroupKind := .ior
  number : UInt8 := 0
  deriving BEq, ReflBEq, LawfulBEq, DecidableEq, Repr, Inhabited

namespace Group

/- Whether the group is a real group, with a number other than 0. -/
def isNumbered (g : Group) : Bool := g.number != 0

/- The name of a group in messages, as in `AND group 2`. -/
def label (g : Group) : String := g.kind.label ++ " group " ++ toString g.number.toNat

end Group

end OptionGrammar
