import OptionGrammar.Unicode.Property

/-
  The syntax tree of a regular expression.

  Every node carries the span of the text it was read from, so
  that an error can point at the characters it is about.  A
  position counts characters from the start of the pattern and
  also knows its line and column, both from one.

  Key definitions include:
    * `Position`, `Span`
    * `Flag`, `FlagItem`
    * `Literal`, `AssertionKind`, `PerlClass`, `AsciiClass`
    * `ClassTree`, `GroupKind`, `RepeatKind`
    * `Syntax`
-/

namespace OptionGrammar.Regex

open OptionGrammar.Unicode

------------------------------------------------------------
-- Positions and spans
------------------------------------------------------------

/- A place in a pattern: characters before it, and its line and
    column, counted from one. -/
structure Position where
  offset : Nat
  line : Nat
  column : Nat
  deriving BEq, Repr, Inhabited

def Position.origin : Position := ⟨0, 1, 1⟩

/- The text between two positions, the second excluded. -/
structure Span where
  start : Position
  stop : Position
  deriving BEq, Repr, Inhabited

def Span.at (p : Position) : Span := ⟨p, p⟩

/- The span from `start` to the end of `s`. -/
def Span.withStart (s : Span) (start : Position) : Span := ⟨start, s.stop⟩

/- The span from the start of `s` to `stop`. -/
def Span.withStop (s : Span) (stop : Position) : Span := ⟨s.start, stop⟩

/- Whether a span starts and ends on one line. -/
def Span.isOneLine (s : Span) : Bool := s.start.line == s.stop.line

/- Spans are ordered by where they start, then by where they end. -/
def Span.le (a b : Span) : Bool :=
  a.start.offset < b.start.offset ||
    (a.start.offset == b.start.offset && a.stop.offset ≤ b.stop.offset)

------------------------------------------------------------
-- Flags
------------------------------------------------------------

inductive Flag where
  | caseInsensitive
  | multiLine
  | dotMatchesNewLine
  | swapGreed
  | unicode
  | crlf
  | ignoreWhitespace
  deriving BEq, Repr, DecidableEq

/- One item of a flag list: a flag, or the `-` that turns the
    flags after it off. -/
inductive FlagItem where
  | negation
  | flag (f : Flag)
  deriving BEq, Repr, DecidableEq

/- The state a flag list gives to a flag: `some true` when it is
    set, `some false` when it is cleared, `none` when the list does
    not name it. -/
def flagState (items : List FlagItem) (f : Flag) : Option Bool :=
  let rec go : Bool → List FlagItem → Option Bool
    | _, [] => none
    | _, .negation :: rest => go false rest
    | on, .flag g :: rest => if g == f then some on else go on rest
  go true items

------------------------------------------------------------
-- Leaves
------------------------------------------------------------

/- How a literal character was written; only a two-digit `\x`
    escape can stand for a byte of its own. -/
inductive LiteralKind where
  | verbatim
  | escaped
  | hexByte
  | hexOther
  deriving BEq, Repr

/- A literal character and where it stands. -/
structure Literal where
  span : Span
  kind : LiteralKind
  c : Char
  deriving BEq, Repr

inductive AssertionKind where
  | startLine
  | endLine
  | startText
  | endText
  | wordBoundary
  | notWordBoundary
  | wordStart
  | wordEnd
  | wordStartHalf
  | wordEndHalf
  deriving BEq, Repr, DecidableEq

inductive PerlClass where
  | digit
  | space
  | word
  deriving BEq, Repr, DecidableEq

/- The named ASCII classes of bracket expressions, as in
    `[[:alpha:]]`. -/
inductive AsciiClass where
  | alnum | alpha | ascii | blank | cntrl | digit | graph
  | lower | print | punct | space | upper | word | xdigit
  deriving BEq, Repr, DecidableEq

def AsciiClass.ofName? : String → Option AsciiClass
  | "alnum" => some .alnum
  | "alpha" => some .alpha
  | "ascii" => some .ascii
  | "blank" => some .blank
  | "cntrl" => some .cntrl
  | "digit" => some .digit
  | "graph" => some .graph
  | "lower" => some .lower
  | "print" => some .print
  | "punct" => some .punct
  | "space" => some .space
  | "upper" => some .upper
  | "word" => some .word
  | "xdigit" => some .xdigit
  | _ => none

/- The code points of an ASCII class. -/
def AsciiClass.ranges : AsciiClass → List (Nat × Nat)
  | .alnum => [(0x30, 0x39), (0x41, 0x5A), (0x61, 0x7A)]
  | .alpha => [(0x41, 0x5A), (0x61, 0x7A)]
  | .ascii => [(0x00, 0x7F)]
  | .blank => [(0x09, 0x09), (0x20, 0x20)]
  | .cntrl => [(0x00, 0x1F), (0x7F, 0x7F)]
  | .digit => [(0x30, 0x39)]
  | .graph => [(0x21, 0x7E)]
  | .lower => [(0x61, 0x7A)]
  | .print => [(0x20, 0x7E)]
  | .punct => [(0x21, 0x2F), (0x3A, 0x40), (0x5B, 0x60), (0x7B, 0x7E)]
  | .space => [(0x09, 0x0D), (0x20, 0x20)]
  | .upper => [(0x41, 0x5A)]
  | .word => [(0x30, 0x39), (0x41, 0x5A), (0x5F, 0x5F), (0x61, 0x7A)]
  | .xdigit => [(0x30, 0x39), (0x41, 0x46), (0x61, 0x66)]

inductive ClassOp where
  | intersection
  | difference
  | symmetricDifference
  deriving BEq, Repr, DecidableEq

------------------------------------------------------------
-- Bracket expressions
------------------------------------------------------------

inductive ClassTree where
  /- Nothing, as between `[` and `&&`. -/
  | empty (span : Span)
  | literal (lit : Literal)
  | range (span : Span) (lo hi : Literal)
  | ascii (span : Span) (cls : AsciiClass) (negated : Bool)
  | property (span : Span) (negated : Bool) (query : PropertyQuery)
  | perl (span : Span) (cls : PerlClass) (negated : Bool)
  /- A bracket expression nested in another. -/
  | bracketed (span : Span) (negated : Bool) (inner : ClassTree)
  | union (span : Span) (items : List ClassTree)
  | binOp (span : Span) (op : ClassOp) (lhs rhs : ClassTree)
  deriving BEq, Repr, Inhabited

/- The span of a part of a bracket expression. -/
def ClassTree.span : ClassTree → Span
  | .empty s => s
  | .literal l => l.span
  | .range s _ _ => s
  | .ascii s _ _ => s
  | .property s _ _ => s
  | .perl s _ _ => s
  | .bracketed s _ _ => s
  | .union s _ => s
  | .binOp s _ _ _ => s

------------------------------------------------------------
-- The tree
------------------------------------------------------------

/- How a group treats what it encloses. -/
inductive GroupKind where
  /- A numbered capture. -/
  | capture (index : Nat)
  /- A named capture. -/
  | named (index : Nat) (name : String)
  /- A group that captures nothing and may set flags. -/
  | plain (flags : List FlagItem)
  deriving BEq, Repr

/- How often a repeated expression may occur. -/
inductive RepeatKind where
  | zeroOrOne
  | zeroOrMore
  | oneOrMore
  | exactly (n : Nat)
  | atLeast (n : Nat)
  | between (m n : Nat)
  deriving BEq, Repr

inductive Syntax where
  | empty (span : Span)
  /- Flags set for the rest of the enclosing group, as in `(?i)`. -/
  | flags (span : Span) (items : List FlagItem)
  | literal (lit : Literal)
  | dot (span : Span)
  | assertion (span : Span) (kind : AssertionKind)
  | property (span : Span) (negated : Bool) (query : PropertyQuery)
  | perl (span : Span) (cls : PerlClass) (negated : Bool)
  | bracketed (span : Span) (negated : Bool) (inner : ClassTree)
  | repetition (span : Span) (kind : RepeatKind) (greedy : Bool) (sub : Syntax)
  | group (span : Span) (kind : GroupKind) (sub : Syntax)
  | alternation (span : Span) (alts : List Syntax)
  | concat (span : Span) (items : List Syntax)
  deriving BEq, Repr, Inhabited

def Syntax.span : Syntax → Span
  | .empty s => s
  | .flags s _ => s
  | .literal l => l.span
  | .dot s => s
  | .assertion s _ => s
  | .property s _ _ => s
  | .perl s _ _ => s
  | .bracketed s _ _ => s
  | .repetition s _ _ _ => s
  | .group s _ _ => s
  | .alternation s _ => s
  | .concat s _ => s

end OptionGrammar.Regex
