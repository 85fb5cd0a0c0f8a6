import OptionGrammar.Unicode.Property

/-
  Regular expressions by meaning.

  An `Expr` is what a pattern means once flags are applied:
  sets of characters, assertions about the place between two
  characters, sequences, choices, bounded and unbounded
  repetition, and numbered groups.  Case folding, the extended
  mode and the greed of repetitions are gone by now; only the
  groups remain as they were written.

  Key definitions include:
    * `Look`, `Look.holds`
    * `Expr`
    * `Expr.minLength`, `Expr.maxLength`
-/

namespace OptionGrammar.Regex

open OptionGrammar.Unicode

------------------------------------------------------------
-- Assertions
------------------------------------------------------------

/- The places a zero-width assertion can require. -/
inductive Look where
  | start
  | finish
  | startLF
  | endLF
  | startCRLF
  | endCRLF
  | wordAscii
  | wordAsciiNegate
  | wordUnicode
  | wordUnicodeNegate
  | wordStartAscii
  | wordEndAscii
  | wordStartUnicode
  | wordEndUnicode
  | wordStartHalfAscii
  | wordEndHalfAscii
  | wordStartHalfUnicode
  | wordEndHalfUnicode
  deriving BEq, Repr, DecidableEq

/- Whether a character is an ASCII word character. -/
def isAsciiWord (c : Char) : Bool :=
  c.isAlphanum || c == '_'

/- Whether a character is a word character in the Unicode sense. -/
def isUnicodeWord (c : Char) : Bool :=
  wordChars.mem c

/- Whether the character on one side of a place is a word
    character; there is none before the start or after the end. -/
def wordAt (isWord : Char → Bool) (c : Option Char) : Bool :=
  match c with
  | some c => isWord c
  | none => false

/- Whether an assertion holds at the place `i` of a text, between
    the characters `i - 1` and `i`. -/
def Look.holds (l : Look) (text : Array Char) (i : Nat) : Bool :=
  let before : Option Char := if i = 0 then none else text[i - 1]?
  let after : Option Char := text[i]?
  let ascii := fun c => wordAt isAsciiWord c
  let uni := fun c => wordAt isUnicodeWord c
  match l with
  | .start => i == 0
  | .finish => i == text.size
  | .startLF => i == 0 || before == some '\n'
  | .endLF => i == text.size || after == some '\n'
  | .startCRLF =>
      i == 0 || before == some '\n' || (before == some '\r' && after != some '\n')
  | .endCRLF =>
      i == text.size || after == some '\r' || (after == some '\n' && before != some '\r')
  | .wordAscii => ascii before != ascii after
  | .wordAsciiNegate => ascii before == ascii after
  | .wordUnicode => uni before != uni after
  | .wordUnicodeNegate => uni before == uni after
  | .wordStartAscii => !ascii before && ascii after
  | .wordEndAscii => ascii before && !ascii after
  | .wordStartUnicode => !uni before && uni after
  | .wordEndUnicode => uni before && !uni after
  | .wordStartHalfAscii => !ascii before
  | .wordEndHalfAscii => !ascii after
  | .wordStartHalfUnicode => !uni before
  | .wordEndHalfUnicode => !uni after

------------------------------------------------------------
-- Expressions
------------------------------------------------------------

inductive Expr where
  /- The empty text. -/
  | empty
  /- One character of a set. -/
  | chars (set : CharSet)
  /- A zero-width assertion. -/
  | look (l : Look)
  /- The items one after another. -/
  | concat (items : List Expr)
  /- Any one of the branches. -/
  | alt (branches : List Expr)
  /- The body at least `min` times, and at most `max` times when a
      bound is given. -/
  | rep (min : Nat) (max : Option Nat) (greedy : Bool) (body : Expr)
  /- A numbered group. -/
  | capture (index : Nat) (body : Expr)
  deriving BEq, Repr, Inhabited

namespace Expr

def char (c : Char) : Expr := .chars (CharSet.single c)

def fail : Expr := .chars CharSet.empty

/- The least number of characters of a match, or `none` when the
    expression matches nothing. -/
def minLength : Expr → Option Nat
  | .empty => some 0
  | .chars s => if s.isEmpty then none else some 1
  | .look _ => some 0
  | .concat items => items.foldl (fun acc e => do let a ← acc; let b ← minLength e; pure (a + b)) (some 0)
  | .alt branches =>
      branches.foldl (fun acc e => match acc, minLength e with
        | none, x => x
        | x, none => x
        | some a, some b => some (min a b)) none
  | .rep m _ _ body =>
      match minLength body with
      | none => if m = 0 then some 0 else none
      | some b => some (m * b)
  | .capture _ body => minLength body

/- The greatest number of characters of a match: `some none` when
    there is no bound, `none` when the expression matches nothing. -/
def maxLength : Expr → Option (Option Nat)
  | .empty => some (some 0)
  | .chars s => if s.isEmpty then none else some (some 1)
  | .look _ => some (some 0)
  | .concat items =>
      items.foldl (fun acc e => match acc, maxLength e with
        | none, _ => none
        | _, none => none
        | some (some a), some (some b) => some (some (a + b))
        | some _, some _ => some none) (some (some 0))
  | .alt branches =>
      branches.foldl (fun acc e => match acc, maxLength e with
        | none, x => x
        | x, none => x
        | some (some a), some (some b) => some (some (max a b))
        | some _, some _ => some none) none
  | .rep m n _ body =>
      match maxLength body, n with
      | none, _ => if m = 0 then some (some 0) else none
      | some (some 0), _ => some (some 0)
      | some (some b), some k => some (some (b * k))
      | some _, _ => some none
  | .capture _ body => maxLength body

end Expr

end OptionGrammar.Regex
