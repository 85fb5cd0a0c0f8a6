import OptionGrammar.Value.Shortest

/-
  How alike two words are.

  The Jaro similarity of two words counts the characters they share:
  a character of the first word matches an equal, not yet matched
  character of the second word no further away than half the longer
  length less one.  With `m` matches and `t` half the number of
  matched characters that come in a different order, the similarity
  is the mean of `m / |a|`, `m / |b|` and `(m - t) / m`, or zero
  without matches, one for two empty words.  It is computed in double
  precision: each quotient is rounded to the nearest double, and so is
  each sum and the final division by three, left to right.  The
  doubles are kept as exact ratios.

  Suggestions for a mistyped word are the candidates more than 0.7
  alike, from the least to the most alike.

  Key definitions include:
    * `jaro`
    * `suggestions`
-/

namespace OptionGrammar.Text

/- Match the characters of `a` against those of `b`: the flags of
    the matched characters of both words. -/
def jaroFlags (a b : Array Char) : Array Bool × Array Bool := Id.run do
  let range := max a.size b.size / 2 - 1
  let mut aFlags := Array.replicate a.size false
  let mut bFlags := Array.replicate b.size false
  for i in [0:a.size] do
    let lo := i - range
    let hi := min b.size (i + range + 1)
    for j in [lo:hi] do
      if a[i]! == b[j]! && !bFlags[j]! then
        aFlags := aFlags.set! i true
        bFlags := bFlags.set! j true
        break
  return (aFlags, bFlags)

/- The matched characters of a word, in order. -/
def matchedChars (w : Array Char) (flags : Array Bool) : List Char :=
  (w.toList.zip flags.toList).filterMap fun (c, f) => if f then some c else none

/- The double nearest to a ratio, ties to even, as an exact ratio. -/
def nearestDouble (r : Ratio) : Ratio :=
  if r.num == 0 then ⟨0, 1⟩
  else
    let (m, q) := FloatFormat.binary64.decode (FloatFormat.binary64.roundRatio r.num r.den)
    (Ratio.power 2 q).mul ⟨m, 1⟩

/- The sum of two ratios rounded to the nearest double. -/
def addDouble (x y : Ratio) : Ratio :=
  nearestDouble ⟨x.num * y.den + y.num * x.den, x.den * y.den⟩

/- The Jaro similarity of two words in double precision, as a ratio. -/
def jaro (a b : String) : Ratio :=
  let a := a.toList.toArray
  let b := b.toList.toArray
  if a.isEmpty && b.isEmpty then ⟨1, 1⟩
  else if a.isEmpty || b.isEmpty then ⟨0, 1⟩
  else
    let (aFlags, bFlags) := jaroFlags a b
    let ma := matchedChars a aFlags
    let mb := matchedChars b bFlags
    let m := ma.length
    let t := ((ma.zip mb).filter fun (x, y) => x != y).length / 2
    if m == 0 then ⟨0, 1⟩
    else
      let sum := addDouble (addDouble (nearestDouble ⟨m, a.size⟩) (nearestDouble ⟨m, b.size⟩))
        (nearestDouble ⟨m - t, m⟩)
      nearestDouble ⟨sum.num, sum.den * 3⟩

def threshold : Ratio := nearestDouble ⟨7, 10⟩

/- The candidates more than 0.7 alike to a word, from the least to
    the most alike; equally alike candidates keep their order. -/
def suggestions (word : String) (candidates : List String) : List String :=
  let scored := candidates.filterMap fun c =>
    let r := jaro word c
    if Ratio.lt threshold r then some (r, c) else none
  (scored.mergeSort fun x y => Ratio.le x.1 y.1).map (·.2)

end OptionGrammar.Text
