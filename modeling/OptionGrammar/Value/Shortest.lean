import OptionGrammar.Value.Float

/-
  The shortest decimal text of a binary floating-point number.

  A finite number `m * 2 ^ q` is the nearest number of its format to
  every real of an interval around it, reaching halfway to each
  neighbour; the ends belong to it when `m` is even, since a tie
  rounds to the even significand.  Its shortest text has the fewest
  significant digits that land in that interval.  For one digit,
  then two, and so on, the two points of the decimal grid around the
  number are tested; the first length with a hit wins, and of two
  hits the nearer one, the upper one on an exact tie.

  The text is written without an exponent: digits, a point where the
  value has a fraction, and zeros to fill.  Everything is computed
  exactly on natural numbers.

  Key definitions include:
    * `Ratio`, `Ratio.le`, `Ratio.lt`
    * `FloatFormat.shortest`
    * `FloatFormat.display`
-/

namespace OptionGrammar

/- A nonnegative rational number as a numerator and a positive
    denominator. -/
structure Ratio where
  num : Nat
  den : Nat
  deriving Repr, Inhabited

namespace Ratio

def mul (a b : Ratio) : Ratio := ⟨a.num * b.num, a.den * b.den⟩

/- Whether one ratio is at most another. -/
def le (a b : Ratio) : Bool := a.num * b.den ≤ b.num * a.den

def lt (a b : Ratio) : Bool := a.num * b.den < b.num * a.den

def dist (a b : Ratio) : Ratio :=
  let x := a.num * b.den
  let y := b.num * a.den
  ⟨if x ≤ y then y - x else x - y, a.den * b.den⟩

def floor (a : Ratio) : Nat := a.num / a.den

/- A power of a base with an integer exponent. -/
def power (base : Nat) (k : Int) : Ratio :=
  if k ≥ 0 then ⟨Nat.pow base k.toNat, 1⟩ else ⟨1, Nat.pow base (-k).toNat⟩

end Ratio

/- The number of decimal digits of a positive number. -/
def decimalLength (n : Nat) : Nat := (Nat.toDigits 10 n).length

/- The exponent `k` with `10 ^ (k - 1) ≤ v < 10 ^ k`, for a positive `v`. -/
def decimalMagnitude (v : Ratio) : Int :=
  let l : Int := (decimalLength v.num : Int) - (decimalLength v.den : Int)
  if (Ratio.power 10 l).le v then l + 1 else l

namespace FloatFormat

/- The significand and exponent of the bits of a finite positive
    number: its value is `m * 2 ^ q`. -/
def decode (f : FloatFormat) (bits : Nat) : Nat × Int :=
  let fracBits := f.precision - 1
  let frac := bits % Nat.pow 2 fracBits
  let field := (bits / Nat.pow 2 fracBits) % Nat.pow 2 f.exponentBits
  if field == 0 then (frac, f.leastExponent)
  else (frac + Nat.pow 2 fracBits, f.leastExponent + (field - 1 : Nat))

/- The reals that round to `m * 2 ^ q`: the lower and upper ends. -/
def roundingInterval (f : FloatFormat) (m : Nat) (q : Int) : Ratio × Ratio :=
  let upper := (Ratio.power 2 (q - 1)).mul ⟨2 * m + 1, 1⟩
  -- at the bottom of a binade the lower neighbour is half as far
  let lower :=
    if m == Nat.pow 2 (f.precision - 1) && q > f.leastExponent then
      (Ratio.power 2 (q - 2)).mul ⟨4 * m - 1, 1⟩
    else (Ratio.power 2 (q - 1)).mul ⟨2 * m - 1, 1⟩
  (lower, upper)

/- The shortest digits `c` and exponent `e` with `c * 10 ^ e` in the
    rounding interval of the finite positive number of the bits. -/
def shortest (f : FloatFormat) (bits : Nat) : Nat × Int :=
  let (m, q) := f.decode bits
  let v := Ratio.power 2 q |>.mul ⟨m, 1⟩
  let (lower, upper) := f.roundingInterval m q
  let inside := fun (x : Ratio) =>
    if m % 2 == 0 then lower.le x && x.le upper else lower.lt x && x.lt upper
  let k := decimalMagnitude v
  let rec search (n : Nat) (fuel : Nat) : Nat × Int :=
    match fuel with
    | 0 => (m, q)
    | fuel + 1 =>
      let e : Int := k - n
      let grid := Ratio.power 10 e
      let below := (v.mul (Ratio.power 10 (-e))).floor
      let above := below + 1
      let atBelow := grid.mul ⟨below, 1⟩
      let atAbove := grid.mul ⟨above, 1⟩
      match inside atBelow, inside atAbove with
      | true, true =>
          if (atBelow.dist v).lt (atAbove.dist v) then (below, e) else (above, e)
      | true, false => (below, e)
      | false, true => (above, e)
      | false, false => search (n + 1) fuel
  search 1 (decimalLength m + 2)

/- Drop the trailing zeros of digits, raising the exponent. -/
def trimZeros (c : Nat) (e : Int) (fuel : Nat) : Nat × Int :=
  match fuel with
  | 0 => (c, e)
  | fuel + 1 => if c != 0 && c % 10 == 0 then trimZeros (c / 10) (e + 1) fuel else (c, e)

/- Digits `ds` with the value `0.ds * 10 ^ point`, written without
    an exponent. -/
def positional (ds : String) (point : Int) : String :=
  if point ≤ 0 then "0." ++ String.ofList (List.replicate (-point).toNat '0') ++ ds
  else if point.toNat < ds.length then
    String.ofList (ds.toList.take point.toNat) ++ "." ++ String.ofList (ds.toList.drop point.toNat)
  else ds ++ String.ofList (List.replicate (point.toNat - ds.length) '0')

/- The text of a number of the format: the shortest digits written
    without an exponent, `inf`, `-inf` or `NaN`. -/
def display (f : FloatFormat) (bits : Nat) : String :=
  let negative := bits / f.signBit % 2 == 1
  let magnitude := bits % f.signBit
  let sign := if negative then "-" else ""
  if magnitude ≥ f.infinityBits then
    if magnitude == f.infinityBits then sign ++ "inf" else "NaN"
  else if magnitude == 0 then sign ++ "0"
  else
    let (c, e) := f.shortest magnitude
    let (c, e) := trimZeros c e (decimalLength c)
    let ds := toString c
    sign ++ positional ds (e + ds.length)

end FloatFormat

end OptionGrammar
