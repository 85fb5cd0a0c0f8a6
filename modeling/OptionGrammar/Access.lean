import OptionGrammar.Session
import OptionGrammar.Value.Read

/-
  Reading the results of a parse.

  A key is any spelling of a declared option; an undeclared key is
  an error.  The first value of an option, all its values or a
  default when it was not given can be read as a value of a type,
  and a value that does not read is an error that names the key,
  the value and the type.

  Key definitions include:
    * `OptionParser.resolve`
    * `OptionParser.get`, `OptionParser.getAll`, `OptionParser.getOr`
    * `OptionParser.isPresent`, `OptionParser.count`
-/

namespace OptionGrammar

namespace OptionParser

/- The identity of the option with a spelling. -/
def resolve (p : OptionParser) (key : String) : Except ArgError Nat :=
  match p.table.lookup key with
  | some id => .ok id
  | none => .error (.unknownOption key)

/- Read a captured value as a value of a type. -/
def convert (key : String) (t : ValueType) (value : String) : Except ArgError Value :=
  match t.read value with
  | .ok v => .ok v
  | .error r => .error (.conversion key value t r)

/- The first value of an option, read as a type. -/
def get (p : OptionParser) (key : String) (t : ValueType) : Except ArgError Value := do
  let id ← p.resolve key
  match p.captured.valuesOf id with
  | [] => throw (.notPresent key)
  | v :: _ => convert key t v

/- All values of an option in order, read as a type. -/
def getAll (p : OptionParser) (key : String) (t : ValueType) : Except ArgError (List Value) := do
  let id ← p.resolve key
  (p.captured.valuesOf id).mapM (convert key t)

/- The first value of an option, or a default when it was not given. -/
def getOr (p : OptionParser) (key : String) (t : ValueType) (default : Value) :
    Except ArgError Value :=
  match p.get key t with
  | .error (.notPresent _) => .ok default
  | r => r

def isPresent (p : OptionParser) (key : String) : Except ArgError Bool := do
  return p.captured.contains (← p.resolve key)

def count (p : OptionParser) (key : String) : Except ArgError Nat := do
  return p.captured.count (← p.resolve key)

def positional (p : OptionParser) : List String := p.captured.positional

end OptionParser

end OptionGrammar
