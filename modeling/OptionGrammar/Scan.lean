import OptionGrammar.Table

/-
  Matching arguments against a table.

  The arguments are read from left to right.  A token that is a
  declared spelling is an occurrence of its option; if the option
  takes a value, the next token is its value, whatever it looks
  like, and it must match the option's pattern in full.  A flag
  records the empty text.  Every other token is positional.

  The result keeps each occurrence in order, as the identity of its
  option with its value, and the positional tokens in order.  The
  first token that fails stops the scan: an option that takes a
  value at the end of the arguments, or a value that does not match.

  Key definitions include:
    * `Captured`, `Captured.valuesOf`, `Captured.count`
    * `OptionTable.scan`
-/

namespace OptionGrammar

/- The occurrences of options and the positional tokens of a list of
    arguments, each in order. -/
structure Captured where
  occurrences : List (Nat × String) := []
  positional : List String := []
  deriving BEq, Repr, Inhabited

namespace Captured

/- The values captured for an option, in order. -/
def valuesOf (c : Captured) (id : Nat) : List String :=
  (c.occurrences.filter (·.1 == id)).map (·.2)

def count (c : Captured) (id : Nat) : Nat := (c.valuesOf id).length

def contains (c : Captured) (id : Nat) : Bool := c.count id > 0

def isEmpty (c : Captured) : Bool := c.occurrences.isEmpty && c.positional.isEmpty

/- Insert a number into an ascending list without repetitions. -/
def insertId (id : Nat) : List Nat → List Nat
  | [] => [id]
  | x :: xs => if id < x then id :: x :: xs else if id == x then x :: xs else x :: insertId id xs

/- The identities of the options that were given, ascending. -/
def givenIds (c : Captured) : List Nat :=
  c.occurrences.foldl (fun acc (id, _) => insertId id acc) []

/- The options that were given, ascending by identity, with their values. -/
def grouped (c : Captured) : List (Nat × List String) :=
  c.givenIds.map fun id => (id, c.valuesOf id)

def consOccurrence (c : Captured) (id : Nat) (value : String) : Captured :=
  { c with occurrences := (id, value) :: c.occurrences }

def consPositional (c : Captured) (token : String) : Captured :=
  { c with positional := token :: c.positional }

end Captured

/- Match a list of arguments against the table. -/
def OptionTable.scan (t : OptionTable) : List String → Except ArgError Captured
  | [] => .ok {}
  | tok :: rest =>
      match (t.lookup tok).bind fun id => (t.get? id).map ((id, ·)) with
      | none => return (← t.scan rest).consPositional tok
      | some (id, s) =>
          match s.param with
          | none => return (← t.scan rest).consOccurrence id ""
          | some p =>
              match rest with
              | [] => .error (.missingParameter tok)
              | v :: rest' =>
                  if p.accepts v then return (← t.scan rest').consOccurrence id v
                  else .error (.badArgument tok p.declared v)

end OptionGrammar
