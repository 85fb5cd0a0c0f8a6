import OptionGrammar.Value.Kind

/-
  Reading integers.

  An integer is an optional sign and decimal digits.  A sign alone
  is an invalid digit, and so is a minus sign before an unsigned
  type.  The digits are read from left to right: a character that is
  not a digit is reported when it is reached, and so is the first
  digit that takes the value out of the range of the type, above it
  for a positive number and below it for a negative one.

  Key definitions include:
    * `intRange`
    * `readMagnitude`, `readInteger`
-/

namespace OptionGrammar

/- The least and greatest values of an integer type. -/
def intRange (signed : Bool) (bits : Nat) : Int × Int :=
  if signed then (-(Nat.pow 2 (bits - 1) : Nat), ((Nat.pow 2 (bits - 1) - 1 : Nat) : Int))
  else (0, ((Nat.pow 2 bits - 1 : Nat) : Int))

def digitValue? (c : Char) : Option Nat :=
  if '0' ≤ c && c ≤ '9' then some (c.toNat - '0'.toNat) else none

/- Read digits onto `acc`; `limit` is the greatest magnitude allowed
    and `overflow` the failure when it is passed. -/
def readMagnitude (limit : Nat) (overflow : ConversionFailure) (acc : Nat) :
    List Char → Except ConversionFailure Nat
  | [] => .ok acc
  | c :: cs =>
      match digitValue? c with
      | none => .error .invalidDigit
      | some d =>
          let next := acc * 10 + d
          if next > limit then .error overflow else readMagnitude limit overflow next cs

/- Read an integer of a type given by signedness and width. -/
def readInteger (signed : Bool) (bits : Nat) (s : String) : Except ConversionFailure Int :=
  let (lo, hi) := intRange signed bits
  match s.toList with
  | [] => .error .emptyInteger
  | ['+'] => .error .invalidDigit
  | ['-'] => .error .invalidDigit
  | '+' :: ds => (readMagnitude hi.toNat .tooLarge 0 ds).map Int.ofNat
  | '-' :: ds =>
      if signed then (readMagnitude lo.natAbs .tooSmall 0 ds).map fun n => -(n : Int)
      else readMagnitude hi.toNat .tooLarge 0 ('-' :: ds) |>.map Int.ofNat
  | ds => (readMagnitude hi.toNat .tooLarge 0 ds).map Int.ofNat

end OptionGrammar
