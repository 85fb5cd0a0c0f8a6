import OptionGrammar.Yaml.Error
import OptionGrammar.Value.Shortest

/-
  What a plain YAML scalar stands for.

  A plain scalar without a tag is read as the first of these that
  fits it:
    * null: empty, `~`, `null`, `Null` or `NULL`;
    * a boolean: `true`, `True`, `TRUE`, `false`, `False` or `FALSE`;
    * an integer: an optional sign and digits, or `0x`, `0o` or `0b`
      and digits of that base, in the range of 64 or else of 128
      bits; decimal digits after a leading zero are not a number;
    * a float: a decimal or `.inf`, `.nan` and their capitalised
      forms, when the value is finite or one of those words;
    * otherwise a string.

  Key definitions include:
    * `isNullWord`, `boolWord?`, `leadingZeroDigits`
    * `readRadix`, `unsignedInt?`, `negativeInt?`, `floatBits?`
    * `PlainValue`, `PlainValue.ofText`, `PlainValue.unexpected`
-/

namespace OptionGrammar.Yaml

------------------------------------------------------------
-- Words
------------------------------------------------------------

/- Whether a plain scalar stands for null. -/
def isNullWord (s : String) : Bool := s ∈ ["", "~", "null", "Null", "NULL"]

/- The boolean a plain scalar stands for. -/
def boolWord? (s : String) : Option Bool :=
  if s ∈ ["true", "True", "TRUE"] then some true
  else if s ∈ ["false", "False", "FALSE"] then some false
  else none

/- Whether a text is a zero followed by decimal digits only, after an
    optional sign: such a text is a string, not a number. -/
def leadingZeroDigits (s : String) : Bool :=
  let cs := match s.toList with
    | '-' :: rest => rest
    | '+' :: rest => rest
    | cs => cs
  match cs with
  | '0' :: d :: rest => (d :: rest).all Char.isDigit
  | _ => false

------------------------------------------------------------
-- Integers
------------------------------------------------------------

/- The value of a digit in a base up to sixteen. -/
def radixDigit? (radix : Nat) (c : Char) : Option Nat :=
  let v := if '0' ≤ c && c ≤ '9' then some (c.toNat - '0'.toNat)
    else if 'a' ≤ c && c ≤ 'f' then some (c.toNat - 'a'.toNat + 10)
    else if 'A' ≤ c && c ≤ 'F' then some (c.toNat - 'A'.toNat + 10)
    else none
  v.bind fun d => if d < radix then some d else none

/- Read digits of a base; none when a character is not a digit or
    the value passes `limit`. -/
def radixMagnitude (radix limit acc : Nat) : List Char → Option Nat
  | [] => some acc
  | c :: cs =>
      (radixDigit? radix c).bind fun d =>
        let next := acc * radix + d
        if next > limit then none else radixMagnitude radix limit next cs

/- Read a whole text as an integer of a base and a type: an optional
    sign, `-` only for a signed type, then at least one digit. -/
def readRadix (radix : Nat) (signed : Bool) (bits : Nat) (s : String) : Option Int :=
  let (lo, hi) := intRange signed bits
  match s.toList with
  | [] => none
  | ['+'] => none
  | ['-'] => none
  | '+' :: ds => (radixMagnitude radix hi.toNat 0 ds).map Int.ofNat
  | '-' :: ds =>
      if signed then (radixMagnitude radix lo.natAbs 0 ds).map fun n => -(n : Int)
      else none
  | ds => (radixMagnitude radix hi.toNat 0 ds).map Int.ofNat

/- The prefixes of bases other than ten. -/
def radixPrefixes : List (String × Nat) := [("0x", 16), ("0o", 8), ("0b", 2)]

/- Whether a text starts with a sign. -/
def startsWithSign (s : String) : Bool := s.startsWith "+" || s.startsWith "-"

/- Read a plain scalar as an unsigned integer of a width: an optional
    `+`, then digits of base ten or a prefixed base. -/
def unsignedInt? (bits : Nat) (s : String) : Option Int :=
  let body := if s.startsWith "+" then s.drop 1 |>.toString else s
  let prefixed := radixPrefixes.findSome? fun (p, radix) =>
    if body.startsWith p then
      let rest := body.drop p.length |>.toString
      if startsWithSign rest then some none
      else (readRadix radix false bits rest).map some
    else none
  match prefixed with
  | some r => r
  | none =>
      if startsWithSign body || leadingZeroDigits s then none
      else readRadix 10 false bits body

/- Read a plain scalar as a signed integer of a width: `-` and a
    prefixed base, or digits of base ten with an optional sign. -/
def negativeInt? (bits : Nat) (s : String) : Option Int :=
  let prefixed := radixPrefixes.findSome? fun (p, radix) =>
    if s.startsWith ("-" ++ p) then
      readRadix radix true bits ("-" ++ (s.drop (p.length + 1)).toString)
    else none
  match prefixed with
  | some v => some v
  | none => if leadingZeroDigits s then none else readRadix 10 true bits s

/- The integer a plain scalar stands for, described as found: the
    widths of 64 bits first, then those of 128 bits. -/
def integerText? (s : String) : Option Unexpected :=
  match unsignedInt? 64 s with
  | some v => some (.integer (toString v))
  | none =>
  match negativeInt? 64 s with
  | some v => some (.integer (toString v))
  | none =>
  match unsignedInt? 128 s with
  | some v => some (.other ("integer `" ++ toString v ++ "` as u128"))
  | none =>
  match negativeInt? 128 s with
  | some v => some (.other ("integer `" ++ toString v ++ "` as i128"))
  | none => none

------------------------------------------------------------
-- Floats
------------------------------------------------------------

/- Whether the bits of a double are of a finite number. -/
def isFiniteBits (bits : Nat) : Bool :=
  bits % FloatFormat.binary64.signBit < FloatFormat.binary64.infinityBits

/- The double a plain scalar stands for: `.inf`, `-.inf`, `.nan` in
    three cases each, or a finite decimal with an optional sign. -/
def floatBits? (s : String) : Option Nat :=
  let f := FloatFormat.binary64
  let body? := if s.startsWith "+" then
      let rest := (s.drop 1).toString
      if startsWithSign rest then none else some rest
    else some s
  body?.bind fun body =>
    if body ∈ [".inf", ".Inf", ".INF"] then some f.infinityBits
    else if s ∈ ["-.inf", "-.Inf", "-.INF"] then some (f.signBit + f.infinityBits)
    else if s ∈ [".nan", ".NaN", ".NAN"] then some f.nanBits
    else
      match f.read body with
      | .ok bits => if isFiniteBits bits then some bits else none
      | .error _ => none

/- The text of a double in a description: its shortest decimal,
    with `.0` when it has no point, or `inf`, `-inf`, `NaN`. -/
def floatText (bits : Nat) : String :=
  let t := FloatFormat.binary64.display bits
  if isFiniteBits bits && !t.contains '.' then t ++ ".0" else t

------------------------------------------------------------
-- Resolution
------------------------------------------------------------

/- What a plain scalar without a tag stands for. -/
inductive PlainValue where
  | null
  | bool (b : Bool)
  /- An integer, described as found. -/
  | integer (found : Unexpected)
  /- A double, by its bits. -/
  | float (bits : Nat)
  | string
  deriving BEq, Repr, Inhabited

namespace PlainValue

/- Resolve a plain scalar without a tag. -/
def ofText (s : String) : PlainValue :=
  if isNullWord s then .null
  else match boolWord? s with
  | some b => .bool b
  | none =>
  match integerText? s with
  | some found => .integer found
  | none =>
  match (if leadingZeroDigits s then none else floatBits? s) with
  | some bits => .float bits
  | none => .string

/- The description of a plain scalar as found where something else
    was expected. -/
def unexpected (s : String) : Unexpected :=
  match ofText s with
  | .null => .unit
  | .bool b => .bool b
  | .integer found => found
  | .float bits => .float (floatText bits)
  | .string => .string s

end PlainValue

theorem PlainValue.ofText_of_isNullWord {s : String} (h : isNullWord s = true) :
    PlainValue.ofText s = .null := by
  simp [PlainValue.ofText, h]

end OptionGrammar.Yaml
