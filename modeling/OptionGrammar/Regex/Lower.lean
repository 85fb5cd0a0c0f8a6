import OptionGrammar.Regex.Parser
import OptionGrammar.Regex.Expr
import OptionGrammar.Unicode.CaseFold

/-
  From syntax to meaning.

  Lowering walks the syntax tree from left to right with the
  flags in force.  A flag setting such as `(?i)` holds until the
  end of the group it stands in, across `|`; a group restores the
  flags of its outside when it closes.

  With the flag `u` off, classes and case folding know ASCII
  alone, and nothing may match a byte that cannot start or
  continue a character: a negated ASCII class, `.`, `\B` or a
  `\x` escape above 127 is an error.  With `i` on, a literal or a
  class is closed under simple case folding, and a class is
  folded before it is negated.

  Key definitions include:
    * `Flags`
    * `lowerClass`, `lower`
    * `Syntax.toExpr`
-/

namespace OptionGrammar.Regex

open OptionGrammar.Unicode

------------------------------------------------------------
-- Flags
------------------------------------------------------------

/- The flags in force at a place of a pattern. -/
structure Flags where
  caseInsensitive : Bool := false
  multiLine : Bool := false
  dotMatchesNewLine : Bool := false
  swapGreed : Bool := false
  unicode : Bool := true
  crlf : Bool := false
  deriving BEq, Repr, Inhabited

/- The flags after a flag list has set and cleared its flags. -/
def Flags.apply (fl : Flags) (items : List FlagItem) : Flags :=
  let pick := fun (f : Flag) (old : Bool) => (flagState items f).getD old
  { caseInsensitive := pick .caseInsensitive fl.caseInsensitive
    multiLine := pick .multiLine fl.multiLine
    dotMatchesNewLine := pick .dotMatchesNewLine fl.dotMatchesNewLine
    swapGreed := pick .swapGreed fl.swapGreed
    unicode := pick .unicode fl.unicode
    crlf := pick .crlf fl.crlf }

/- Stop with an error about a span. -/
def failWith {α : Type} (span : Span) (kind : ErrorKind) : Except PatternError α :=
  .error ⟨kind, span⟩

------------------------------------------------------------
-- Leaves
------------------------------------------------------------

/- The set of the bytes 0 to 255. -/
def byteRange : CharSet := CharSet.range 0 0xFF

/- The character of a literal.  Without `u`, a two-digit `\x`
    escape above 127 would stand for a lone byte, which is an error. -/
def literalChar (fl : Flags) (lit : Literal) : Except PatternError Char :=
  if !fl.unicode && lit.kind == .hexByte && lit.c.toNat > 0x7F then
    failWith lit.span .invalidUtf8
  else .ok lit.c

/- A literal character, closed under case folding when `i` is on. -/
def lowerLiteral (fl : Flags) (lit : Literal) : Except PatternError Expr := do
  let c ← literalChar fl lit
  if !fl.caseInsensitive then return .char c
  if fl.unicode then
    if hasSimpleFold c.toNat then return .chars (CharSet.single c).foldSimple
    else return .char c
  else
    if c.isAlpha then return .chars (CharSet.single c).foldAscii
    else return .char c

def lowerDot (fl : Flags) (span : Span) : Except PatternError Expr :=
  if !fl.unicode then failWith span .invalidUtf8
  else if fl.dotMatchesNewLine then .ok (.chars CharSet.univ)
  else if fl.crlf then .ok (.chars (CharSet.ofChars ['\n', '\r']).complement)
  else .ok (.chars (CharSet.single '\n').complement)

def lowerAssertion (fl : Flags) (span : Span) : AssertionKind → Except PatternError Expr
  | .startLine => .ok (.look (if fl.multiLine then (if fl.crlf then .startCRLF else .startLF) else .start))
  | .endLine => .ok (.look (if fl.multiLine then (if fl.crlf then .endCRLF else .endLF) else .finish))
  | .startText => .ok (.look .start)
  | .endText => .ok (.look .finish)
  | .wordBoundary => .ok (.look (if fl.unicode then .wordUnicode else .wordAscii))
  | .notWordBoundary =>
      if fl.unicode then .ok (.look .wordUnicodeNegate) else failWith span .invalidUtf8
  | .wordStart => .ok (.look (if fl.unicode then .wordStartUnicode else .wordStartAscii))
  | .wordEnd => .ok (.look (if fl.unicode then .wordEndUnicode else .wordEndAscii))
  | .wordStartHalf => .ok (.look (if fl.unicode then .wordStartHalfUnicode else .wordStartHalfAscii))
  | .wordEndHalf => .ok (.look (if fl.unicode then .wordEndHalfUnicode else .wordEndHalfAscii))

/- The ASCII set of a Perl class. -/
def PerlClass.asciiSet : PerlClass → CharSet
  | .digit => CharSet.ofRanges AsciiClass.digit.ranges
  | .space => CharSet.ofRanges AsciiClass.space.ranges
  | .word => CharSet.ofRanges AsciiClass.word.ranges

/- The Unicode set of a Perl class. -/
def PerlClass.unicodeSet : PerlClass → CharSet
  | .digit => decimalDigits
  | .space => whiteSpace
  | .word => wordChars

/- Negate a set within the bytes when `u` is off, within all code
    points when it is on. -/
def negateIn (fl : Flags) (s : CharSet) : CharSet :=
  if fl.unicode then s.complement else byteRange.diff s

/- Fold a set when `i` is on, then negate it if asked; without `u`
    the result must be ASCII. -/
def foldAndNegate (fl : Flags) (span : Span) (negated : Bool) (s : CharSet) :
    Except PatternError CharSet :=
  let folded := if fl.caseInsensitive then (if fl.unicode then s.foldSimple else s.foldAscii) else s
  let result := if negated then negateIn fl folded else folded
  if !fl.unicode && !result.isAscii then failWith span .invalidUtf8 else .ok result

/- The set of a Perl class such as `\w` or `\D`. -/
def lowerPerl (fl : Flags) (span : Span) (cls : PerlClass) (negated : Bool) :
    Except PatternError CharSet :=
  if fl.unicode then
    .ok (if negated then cls.unicodeSet.complement else cls.unicodeSet)
  else
    let s := if negated then byteRange.diff cls.asciiSet else cls.asciiSet
    if !s.isAscii then failWith span .invalidUtf8 else .ok s

/- The set of a property escape such as `\pL`. -/
def lowerProperty (fl : Flags) (span : Span) (negated : Bool) (q : PropertyQuery) :
    Except PatternError CharSet := do
  if !fl.unicode then failWith span .unicodeNotAllowed
  match q.resolve with
  | .error .notFound => failWith span .unicodePropertyNotFound
  | .error .valueNotFound => failWith span .unicodePropertyValueNotFound
  | .ok s => foldAndNegate fl span negated s

/- A literal inside a bracket expression, as a code point; without
    `u` it must be ASCII or a byte escape below 128. -/
def classLiteral (fl : Flags) (lit : Literal) : Except PatternError Nat := do
  if fl.unicode then return lit.c.toNat
  let c ← literalChar fl lit
  if c.toNat ≤ 0x7F then return c.toNat else failWith lit.span .unicodeNotAllowed

------------------------------------------------------------
-- Bracket expressions
------------------------------------------------------------

/- The set of a part of a bracket expression, before the folding
    and negation of the brackets that hold it. -/
def lowerClass (fl : Flags) : ClassTree → Except PatternError CharSet
  | .empty _ => .ok CharSet.empty
  | .literal lit => do
      let n ← classLiteral fl lit
      return CharSet.range n n
  | .range _ lo hi => do
      let a ← classLiteral fl lo
      let b ← classLiteral fl hi
      return CharSet.range a b
  | .ascii span cls negated => foldAndNegate fl span negated (CharSet.ofRanges cls.ranges)
  | .property span negated q => lowerProperty fl span negated q
  | .perl span cls negated => lowerPerl fl span cls negated
  | .bracketed span negated inner => do
      let s ← lowerClass fl inner
      foldAndNegate fl span negated s
  | .union _ items => do
      let mut acc := CharSet.empty
      for x in items do
        acc := acc.union (← lowerClass fl x)
      return acc
  | .binOp _ op lhs rhs => do
      let l ← lowerClass fl lhs
      let r ← lowerClass fl rhs
      let fold := fun (s : CharSet) =>
        if fl.caseInsensitive then (if fl.unicode then s.foldSimple else s.foldAscii) else s
      let (l, r) := (fold l, fold r)
      return match op with
        | .intersection => l.inter r
        | .difference => l.diff r
        | .symmetricDifference => l.symmDiff r

------------------------------------------------------------
-- The tree
------------------------------------------------------------

def RepeatKind.bounds : RepeatKind → Nat × Option Nat
  | .zeroOrOne => (0, some 1)
  | .zeroOrMore => (0, none)
  | .oneOrMore => (1, none)
  | .exactly n => (n, some n)
  | .atLeast n => (n, none)
  | .between m n => (m, some n)

/- Lower a syntax tree under the given flags; gives its meaning and
    the flags in force after it. -/
def lower (fl : Flags) : Syntax → Except PatternError (Expr × Flags)
  | .empty _ => .ok (.empty, fl)
  | .flags _ items => .ok (.empty, fl.apply items)
  | .literal lit => do return (← lowerLiteral fl lit, fl)
  | .dot span => do return (← lowerDot fl span, fl)
  | .assertion span kind => do return (← lowerAssertion fl span kind, fl)
  | .property span negated q => do return (.chars (← lowerProperty fl span negated q), fl)
  | .perl span cls negated => do return (.chars (← lowerPerl fl span cls negated), fl)
  | .bracketed span negated inner => do
      let s ← lowerClass fl inner
      return (.chars (← foldAndNegate fl span negated s), fl)
  | .repetition _ kind greedy sub => do
      let (body, fl') ← lower fl sub
      let (m, n) := kind.bounds
      return (.rep m n (if fl'.swapGreed then !greedy else greedy) body, fl')
  | .group _ kind sub => do
      let inner := match kind with
        | .plain items => fl.apply items
        | _ => fl
      let (body, _) ← lower inner sub
      match kind with
      | .capture i => return (.capture i body, fl)
      | .named i _ => return (.capture i body, fl)
      | .plain _ => return (body, fl)
  | .alternation _ alts => do
      let mut cur := fl
      let mut out : Array Expr := #[]
      for x in alts do
        let (e, fl') ← lower cur x
        out := out.push e
        cur := fl'
      return (.alt out.toList, cur)
  | .concat _ items => do
      let mut cur := fl
      let mut out : Array Expr := #[]
      for x in items do
        let (e, fl') ← lower cur x
        out := out.push e
        cur := fl'
      return (.concat out.toList, cur)

/- The meaning of a whole pattern, read with the default flags:
    only `u` on. -/
def Syntax.toExpr (s : Syntax) : Except PatternError Expr :=
  (lower {} s).map (·.1)

end OptionGrammar.Regex
