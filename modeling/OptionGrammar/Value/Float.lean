import OptionGrammar.Value.Integer

/-
  Reading binary floating-point numbers.

  A number is an optional sign and either a decimal or one of the
  words `inf`, `infinity` and `nan` in any case.  A decimal has
  digits with at most one point, at least one digit in all, and an
  optional exponent: `e` or `E`, an optional sign and at least one
  digit.  An exponent stops growing once it passes 65535.

  The value of a decimal is rounded to the nearest number of the
  format, a tie to the one with an even significand; a value too
  large for the format becomes infinity, and one below half the
  least subnormal number becomes zero.  The rounding is computed
  exactly on natural numbers.  A minus sign sets the sign bit, also
  of zero and of NaN.

  Key definitions include:
    * `FloatFormat`, `FloatFormat.binary32`, `FloatFormat.binary64`
    * `FloatFormat.roundRatio`
    * `DecimalText`, `DecimalText.read?`
    * `FloatFormat.read`
-/

namespace OptionGrammar

/- A binary floating-point format: the bits of the significand,
    the hidden bit included, and of the exponent field. -/
structure FloatFormat where
  precision : Nat
  exponentBits : Nat
  deriving Repr, Inhabited

namespace FloatFormat

def binary32 : FloatFormat := ⟨24, 8⟩

def binary64 : FloatFormat := ⟨53, 11⟩

def bias (f : FloatFormat) : Nat := Nat.pow 2 (f.exponentBits - 1) - 1

/- The exponent of the unit in the last place of subnormal numbers. -/
def leastExponent (f : FloatFormat) : Int := 1 - (f.bias : Int) - (f.precision - 1 : Nat)

/- The biased exponent field of infinity and NaN. -/
def topField (f : FloatFormat) : Nat := Nat.pow 2 f.exponentBits - 1

def signBit (f : FloatFormat) : Nat := Nat.pow 2 (f.precision - 1 + f.exponentBits)

def infinityBits (f : FloatFormat) : Nat := f.topField * Nat.pow 2 (f.precision - 1)

def nanBits (f : FloatFormat) : Nat := f.infinityBits + Nat.pow 2 (f.precision - 2)

/- The quotient and remainder of `num / (den * 2 ^ k)`, as a pair
    of numerator and denominator scaled to whole numbers. -/
def scaled (num den : Nat) (k : Int) : Nat × Nat :=
  if k ≥ 0 then (num, den * Nat.pow 2 k.toNat) else (num * Nat.pow 2 (-k).toNat, den)

/- The bits of the positive number `num / den` rounded to the
    format, ties to even; `num` and `den` are positive. -/
def roundRatio (f : FloatFormat) (num den : Nat) : Nat :=
  let p := f.precision
  let e0 : Int := (Nat.log2 num : Int) - (Nat.log2 den : Int)
  let k1 : Int := e0 - p
  let k := let (n, d) := scaled num den k1; if n / d ≥ Nat.pow 2 p then k1 + 1 else k1
  let k := max k f.leastExponent
  let (n, d) := scaled num den k
  let q := n / d
  let r := n % d
  let up := 2 * r > d || (2 * r == d && q % 2 == 1)
  let q := if up then q + 1 else q
  let (q, k) := if q == Nat.pow 2 p then (Nat.pow 2 (p - 1), k + 1) else (q, k)
  if q < Nat.pow 2 (p - 1) then q
  else
    let field := k + (p - 1 : Nat) + (f.bias : Int)
    if field ≥ (f.topField : Int) then f.infinityBits
    else field.toNat * Nat.pow 2 (p - 1) + (q - Nat.pow 2 (p - 1))

end FloatFormat

------------------------------------------------------------
-- Decimal text
------------------------------------------------------------

/- A decimal as written: its digits, with the point and the
    exponent folded into one power of ten. -/
structure DecimalText where
  digits : Nat
  digitCount : Nat
  exponent : Int
  deriving Repr, Inhabited

/- Read leading digits onto a number; gives the number, how many
    digits were read, and the rest. -/
def takeDigits (acc count : Nat) : List Char → Nat × Nat × List Char
  | c :: cs =>
      match digitValue? c with
      | some d => takeDigits (acc * 10 + d) (count + 1) cs
      | none => (acc, count, c :: cs)
  | [] => (acc, count, [])

/- Read leading exponent digits; the exponent stops growing once it
    passes 65535. -/
def takeExponentDigits (acc count : Nat) : List Char → Nat × Nat × List Char
  | c :: cs =>
      match digitValue? c with
      | some d => takeExponentDigits (if acc < 0x10000 then acc * 10 + d else acc) (count + 1) cs
      | none => (acc, count, c :: cs)
  | [] => (acc, count, [])

/- Read an exponent after its `e`: an optional sign and digits, to
    the end of the text. -/
def readExponent (cs : List Char) : Option Int :=
  let (neg, cs) := match cs with
    | '-' :: rest => (true, rest)
    | '+' :: rest => (false, rest)
    | _ => (false, cs)
  let (e, n, rest) := takeExponentDigits 0 0 cs
  if n == 0 || !rest.isEmpty then none
  else some (if neg then -(e : Int) else e)

/- Read an unsigned decimal that is the whole text. -/
def DecimalText.read? (cs : List Char) : Option DecimalText :=
  let (m, n1, rest) := takeDigits 0 0 cs
  let (m, n2, rest) := match rest with
    | '.' :: after => takeDigits m 0 after
    | _ => (m, 0, rest)
  if n1 + n2 == 0 then none
  else
    match rest with
    | [] => some ⟨m, n1 + n2, -(n2 : Int)⟩
    | c :: after =>
        if c == 'e' || c == 'E' then
          (readExponent after).map fun e => ⟨m, n1 + n2, e - n2⟩
        else none

/- The special words, in any case: infinity or NaN. -/
def specialWord? (cs : List Char) : Option Bool :=
  match String.ofList (cs.map Char.toLower) with
  | "inf" => some true
  | "infinity" => some true
  | "nan" => some false
  | _ => none

namespace FloatFormat

/- The bits of the positive number `m * 10 ^ e`. -/
def decimalBits (f : FloatFormat) (m : Nat) (e : Int) : Nat :=
  if m == 0 then 0
  else
    let d : Int := (Nat.toDigits 10 m).length
    -- the value lies in [10 ^ (d - 1 + e), 10 ^ (d + e)); 10 ^ 400 is
    -- beyond every format here, and 10 ^ -400 below half of every
    -- least subnormal number
    if d - 1 + e > 400 then f.infinityBits
    else if d + e < -400 then 0
    else if e ≥ 0 then f.roundRatio (m * Nat.pow 10 e.toNat) 1
    else f.roundRatio m (Nat.pow 10 (-e).toNat)

/- Read a number of the format; gives its bits. -/
def read (f : FloatFormat) (s : String) : Except ConversionFailure Nat :=
  match s.toList with
  | [] => .error .emptyFloat
  | c :: rest =>
      let neg := c == '-'
      let body := if c == '-' || c == '+' then rest else c :: rest
      let sign := if neg then f.signBit else 0
      if body.isEmpty then .error .invalidFloat
      else
        match DecimalText.read? body with
        | some d => .ok (sign + f.decimalBits d.digits d.exponent)
        | none =>
            match specialWord? body with
            | some true => .ok (sign + f.infinityBits)
            | some false => .ok (sign + f.nanBits)
            | none => .error .invalidFloat

end FloatFormat

end OptionGrammar
