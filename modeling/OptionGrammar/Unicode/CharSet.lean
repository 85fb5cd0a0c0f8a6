/-
  Sets of code points.

  A `CharSet` is a list of closed ranges of code points, in
  increasing order, pairwise disjoint and never adjacent.  Every
  operation below returns a set in that form, so two sets are
  equal exactly when their range lists are.

  Key definitions include:
    * `CharSet`
    * `CharSet.ofRanges`
    * `CharSet.mem`
    * `CharSet.union`, `CharSet.inter`, `CharSet.diff`,
      `CharSet.symmDiff`, `CharSet.complement`
    * `CharSet.decode`
-/

namespace OptionGrammar.Unicode

def maxCodePoint : Nat := 0x10FFFF

/- A set of code points as ordered, disjoint, non-adjacent ranges. -/
structure CharSet where
  ranges : List (Nat × Nat)
  deriving BEq, Repr, Inhabited

namespace CharSet

------------------------------------------------------------
-- Normal form
------------------------------------------------------------

/- Merge ranges sorted by their first point into the normal form:
   a range that overlaps or touches the one before joins it. -/
def mergeSorted : List (Nat × Nat) → List (Nat × Nat)
  | [] => []
  | [r] => [r]
  | (a, b) :: (c, d) :: rest =>
      if c ≤ b + 1 then mergeSorted ((a, max b d) :: rest)
      else (a, b) :: mergeSorted ((c, d) :: rest)
termination_by rs => rs.length

/- The set of all points of the given ranges; a range whose
   ends are reversed is read in increasing order. -/
def ofRanges (rs : List (Nat × Nat)) : CharSet :=
  let ordered := rs.map fun (a, b) => if a ≤ b then (a, b) else (b, a)
  ⟨mergeSorted (ordered.mergeSort fun x y => x.1 ≤ y.1)⟩

def empty : CharSet := ⟨[]⟩

def univ : CharSet := ⟨[(0, maxCodePoint)]⟩

/- The set of the points `lo` to `hi`. -/
def range (lo hi : Nat) : CharSet := ofRanges [(lo, hi)]

def single (c : Char) : CharSet := ⟨[(c.toNat, c.toNat)]⟩

def ofChars (cs : List Char) : CharSet :=
  ofRanges (cs.map fun c => (c.toNat, c.toNat))

------------------------------------------------------------
-- Membership and measures
------------------------------------------------------------

/- Whether the code point `n` lies in the set. -/
def memNat (s : CharSet) (n : Nat) : Bool :=
  s.ranges.any fun (a, b) => a ≤ n && n ≤ b

/- Whether the character `c` lies in the set. -/
def mem (s : CharSet) (c : Char) : Bool := s.memNat c.toNat

def isEmpty (s : CharSet) : Bool := s.ranges.isEmpty

/- Whether every point of the set is below 128. -/
def isAscii (s : CharSet) : Bool := s.ranges.all fun (_, b) => b ≤ 0x7F

/- The one point of a set that has exactly one. -/
def singleton? (s : CharSet) : Option Nat :=
  match s.ranges with
  | [(a, b)] => if a = b then some a else none
  | _ => none

------------------------------------------------------------
-- Set operations
------------------------------------------------------------

def union (s t : CharSet) : CharSet := ofRanges (s.ranges ++ t.ranges)

/- The ranges between the given ranges, from `next` up to the
   largest code point. -/
def gaps : Nat → List (Nat × Nat) → List (Nat × Nat)
  | next, [] => if next ≤ maxCodePoint then [(next, maxCodePoint)] else []
  | next, (a, b) :: rest =>
      let tail := gaps (b + 1) rest
      if next < a then (next, a - 1) :: tail else tail

/- Points of no range of the set. -/
def complement (s : CharSet) : CharSet := ⟨gaps 0 s.ranges⟩

def inter (s t : CharSet) : CharSet := (s.complement.union t.complement).complement

/- Points of the first set that are not in the second. -/
def diff (s t : CharSet) : CharSet := s.inter t.complement

/- Points of exactly one of the sets. -/
def symmDiff (s t : CharSet) : CharSet := (s.diff t).union (t.diff s)

/- The union of a list of sets. -/
def unionAll (ss : List CharSet) : CharSet := ofRanges (ss.flatMap CharSet.ranges)

instance : Union CharSet := ⟨union⟩

------------------------------------------------------------
-- Reading the tables
------------------------------------------------------------

def hexValue? (c : Char) : Option Nat :=
  if '0' ≤ c ∧ c ≤ '9' then some (c.toNat - '0'.toNat)
  else if 'a' ≤ c ∧ c ≤ 'f' then some (c.toNat - 'a'.toNat + 10)
  else if 'A' ≤ c ∧ c ≤ 'F' then some (c.toNat - 'A'.toNat + 10)
  else none

/- The number written by hexadecimal digits; other characters
   are skipped. -/
def hexNumber (cs : List Char) : Nat :=
  cs.foldl (fun n c => match hexValue? c with
    | some d => 16 * n + d
    | none => n) 0

/- One range of the table encoding, read after the range that
   ended just before `next`: a gap and, after `:`, a length less
   one. -/
def decodeRange (next : Nat) (token : String) : Nat × Nat :=
  match token.splitOn ":" with
  | [gap, len] =>
      let lo := next + hexNumber gap.toList
      (lo, lo + hexNumber len.toList)
  | _ =>
      let lo := next + hexNumber token.toList
      (lo, lo)

/- Read ranges written as gaps and lengths, each range counted
   from the end of the one before. -/
def decodeFrom : Nat → List String → List (Nat × Nat)
  | _, [] => []
  | next, token :: rest =>
      let r := decodeRange next token
      r :: decodeFrom (r.2 + 1) rest

/- Read a set written in the encoding of the Unicode tables. -/
def decode (text : String) : CharSet :=
  ⟨decodeFrom 0 ((text.splitOn " ").filter fun t => !t.isEmpty)⟩

end CharSet

end OptionGrammar.Unicode
