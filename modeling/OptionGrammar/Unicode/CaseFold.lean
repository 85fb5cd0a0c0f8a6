import OptionGrammar.Unicode.CharSet
import OptionGrammar.Unicode.Data.CaseFold

/-
  Closing sets of code points under case folding.

  Simple case folding makes some code points equal: `k`, `K`
  and the Kelvin sign form one class.  A set is closed under
  folding when it holds, with every member, its whole class.

  Key definitions include:
    * `foldClasses`, `foldEntries`
    * `CharSet.foldSimple`
    * `CharSet.foldAscii`
    * `hasSimpleFold`
-/

namespace OptionGrammar.Unicode

------------------------------------------------------------
-- The fold classes
------------------------------------------------------------

/- The classes of simple case folding, each in increasing order. -/
def foldClasses : Array (List Nat) :=
  ((Data.simpleFoldClasses.splitOn ";").map fun cls =>
    (cls.splitOn ",").map fun m => CharSet.hexNumber m.toList).toArray

/- Every code point that belongs to a fold class, with the index
    of its class, in increasing order of code point. -/
def foldEntries : List (Nat × Nat) :=
  let pairs := (List.range foldClasses.size).flatMap fun k =>
    (foldClasses.getD k []).map fun m => (m, k)
  pairs.mergeSort fun x y => x.1 ≤ y.1

/- The indices of the classes of the entries that lie in the
    ranges; both lists are in increasing order. -/
def classesIn : List (Nat × Nat) → List (Nat × Nat) → List Nat → List Nat
  | [], _, acc => acc
  | _, [], acc => acc
  | (cp, k) :: es, (a, b) :: rs, acc =>
      if cp < a then classesIn es ((a, b) :: rs) acc
      else if cp ≤ b then classesIn es ((a, b) :: rs) (k :: acc)
      else classesIn ((cp, k) :: es) rs acc
termination_by es rs => es.length + rs.length

/- Whether simple case folding relates `n` to another code point. -/
def hasSimpleFold (n : Nat) : Bool :=
  foldEntries.any fun (cp, _) => cp == n

namespace CharSet

/- The least superset closed under simple case folding. -/
def foldSimple (s : CharSet) : CharSet :=
  let found := classesIn foldEntries s.ranges []
  let members := found.flatMap fun k => foldClasses.getD k []
  s.union (ofRanges (members.map fun m => (m, m)))

/- The least superset closed under the case folding of the
    ASCII letters alone. -/
def foldAscii (s : CharSet) : CharSet :=
  let upper := s.inter (range 0x41 0x5A)
  let lower := s.inter (range 0x61 0x7A)
  let shift (t : CharSet) (up : Bool) : CharSet :=
    ⟨t.ranges.map fun (a, b) => if up then (a - 32, b - 32) else (a + 32, b + 32)⟩
  s.union ((shift upper false).union (shift lower true))

end CharSet

end OptionGrammar.Unicode
