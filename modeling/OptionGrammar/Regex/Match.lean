import OptionGrammar.Regex.Expr

/-
  Matching by sets of places.

  A place of a text is a number from zero to its length: the
  place before the character of that index.  The places where a
  match of an expression can end, given the places where it can
  start, are computed for each expression from those of its
  parts: a set of characters moves each place forward by one
  where the character belongs to the set, an assertion keeps the
  places where it holds, a sequence passes the places from one
  item to the next, a choice joins the places of its branches,
  and a repetition applies its body again until it has done so
  the least number of times and no new place appears, or the
  greatest number is reached.

  A text matches an expression in full when its end is among the
  places reached from its start.

  Key definitions include:
    * `Places`, `Places.union`
    * `Expr.advance`
    * `Expr.fullMatch`
-/

namespace OptionGrammar.Regex

open OptionGrammar.Unicode

/- A set of places, in increasing order without repetition. -/
abbrev Places := List Nat

def Places.union : Places → Places → Places
  | [], ys => ys
  | xs, [] => xs
  | x :: xs, y :: ys =>
      if x < y then x :: Places.union xs (y :: ys)
      else if y < x then y :: Places.union (x :: xs) ys
      else x :: Places.union xs ys

/- Whether every place of the first set is in the second. -/
def Places.subset (xs ys : Places) : Bool := xs.all fun x => ys.contains x

/- Apply `f` to `s` up to `k` times, stopping early once the set
    stops changing. -/
def iterateStable (f : Places → Places) : Nat → Places → Places
  | 0, s => s
  | k + 1, s =>
      let t := f s
      if t == s then s else iterateStable f k t

/- The union of `s` and every set reached from it by up to `k`
    applications of `f`; stops once nothing new appears. -/
def closeUnder (f : Places → Places) : Nat → Places → Places → Places
  | 0, acc, _ => acc
  | k + 1, acc, cur =>
      let next := f cur
      if next.subset acc then acc else closeUnder f k (acc.union next) next

namespace Expr

/- The places where a match of the expression can end, from the
    places where it can start. -/
def advance (text : Array Char) : Expr → Places → Places
  | .empty, s => s
  | .chars set, s =>
      s.filterMap fun i => match text[i]? with
        | some c => if set.mem c then some (i + 1) else none
        | none => none
  | .look l, s => s.filter fun i => l.holds text i
  | .concat items, s => items.attach.foldl (fun acc ⟨e, _⟩ => advance text e acc) s
  | .alt branches, s =>
      branches.attach.foldl (fun acc ⟨e, _⟩ => acc.union (advance text e s)) []
  | .rep m n _ body, s =>
      let step := fun p => advance text body p
      let base := iterateStable step m s
      let bound := match n with
        | some k => k - m
        | none => text.size + 1
      closeUnder step bound base base
  | .capture _ body, s => advance text body s

/- Whether the whole text matches the expression. -/
def fullMatch (e : Expr) (text : String) : Bool :=
  let cs := text.toList.toArray
  (e.advance cs [0]).contains cs.size

end Expr

end OptionGrammar.Regex
