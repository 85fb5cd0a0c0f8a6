import OptionGrammar.Value.Float

/-
  Reading a captured text as a value of a type.

  Text reads as itself.  A truth value is `true` or `false`
  exactly.  A character is a text of exactly one character.
  Integers and floating-point numbers read as in their own modules.

  Key definitions include:
    * `ValueType.read`
-/

namespace OptionGrammar

/- Read a text as a value of a type. -/
def ValueType.read (t : ValueType) (s : String) : Except ConversionFailure Value :=
  match t with
  | .text => .ok (.text s)
  | .bool =>
      if s == "true" then .ok (.bool true)
      else if s == "false" then .ok (.bool false)
      else .error .notBool
  | .char =>
      match s.toList with
      | [] => .error .emptyChar
      | [c] => .ok (.char c)
      | _ => .error .tooManyChars
  | .signed w => (readInteger true w.bits s).map .int
  | .unsigned w => (readInteger false w.bits s).map .int
  | .float32 => (FloatFormat.binary32.read s).map fun b => .float32 b.toUInt32
  | .float64 => (FloatFormat.binary64.read s).map fun b => .float64 b.toUInt64

end OptionGrammar
