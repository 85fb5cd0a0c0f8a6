import OptionGrammar.Regex.Error
import OptionGrammar.Unicode.CharClass
import OptionGrammar.Text.Blank

/-
  Reading a pattern into its syntax tree.

  The reader walks the pattern once, left to right.  Open groups
  and alternations wait on one stack and open bracket expressions
  on another, so that a closing `)` or `]` finds what it closes.
  In the extended mode, set by the flag `x`, blanks and comments
  from `#` to the end of the line are skipped between items.
  After a whole pattern is read, its nesting is checked against
  a limit of 250.

  Every loop below reads at least one character per round, so a
  number of rounds equal to the length of the pattern, plus one,
  is enough; each loop takes that number as its bound.

  Key definitions include:
    * `ParserState`, `ParseM`
    * `parseSyntax`
    * `checkNesting`
-/

namespace OptionGrammar.Regex

open OptionGrammar.Unicode
open OptionGrammar.Text

------------------------------------------------------------
-- Pieces under construction
------------------------------------------------------------

/- A sequence being read: its span so far and its items. -/
structure ConcatBuild where
  span : Span
  items : Array Syntax
  deriving Inhabited

/- The tree of a sequence: nothing, its one item, or the sequence. -/
def ConcatBuild.toSyntax (c : ConcatBuild) : Syntax :=
  match c.items.toList with
  | [] => .empty c.span
  | [x] => x
  | xs => .concat c.span xs

def ConcatBuild.push (c : ConcatBuild) (x : Syntax) : ConcatBuild :=
  { c with items := c.items.push x }

/- An alternation being read: its span so far and its branches. -/
structure AltBuild where
  span : Span
  alts : Array Syntax

def AltBuild.toSyntax (a : AltBuild) : Syntax :=
  match a.alts.toList with
  | [] => .empty a.span
  | [x] => x
  | xs => .alternation a.span xs

inductive GroupFrame where
  /- The branches read so far of an alternation. -/
  | alternation (alt : AltBuild)
  /- An open group: the sequence it stands in, the span of its
      opening, its kind, and the extended mode outside it. -/
  | group (outer : ConcatBuild) (span : Span) (kind : GroupKind) (extended : Bool)

/- The items of a bracket expression read so far. -/
structure UnionBuild where
  span : Span
  items : Array ClassTree

/- Add an item to a bracket union; the span grows to cover it. -/
def UnionBuild.push (u : UnionBuild) (x : ClassTree) : UnionBuild :=
  let start := if u.items.isEmpty then x.span.start else u.span.start
  { span := ⟨start, x.span.stop⟩, items := u.items.push x }

/- The tree of a bracket union: nothing, its one item, or the union. -/
def UnionBuild.toTree (u : UnionBuild) : ClassTree :=
  match u.items.toList with
  | [] => .empty u.span
  | [x] => x
  | xs => .union u.span xs

inductive ClassFrame where
  /- An open bracket: the union it stands in, its span up to the
      end of its opening, and whether it is negated. -/
  | opened (parent : UnionBuild) (span : Span) (negated : Bool)
  /- The left side of an operation whose right side is being read. -/
  | op (kind : ClassOp) (lhs : ClassTree)

/- A single item of a pattern, before it takes its place in a tree. -/
inductive Primitive where
  | literal (lit : Literal)
  | assertion (span : Span) (kind : AssertionKind)
  | dot (span : Span)
  | perl (span : Span) (cls : PerlClass) (negated : Bool)
  | property (span : Span) (negated : Bool) (query : PropertyQuery)

def Primitive.span : Primitive → Span
  | .literal l => l.span
  | .assertion s _ => s
  | .dot s => s
  | .perl s _ _ => s
  | .property s _ _ => s

def Primitive.toSyntax : Primitive → Syntax
  | .literal l => .literal l
  | .assertion s k => .assertion s k
  | .dot s => .dot s
  | .perl s c n => .perl s c n
  | .property s n q => .property s n q

------------------------------------------------------------
-- The reader's state
------------------------------------------------------------

/- Where the reader is in a pattern and what it has open. -/
structure ParserState where
  pattern : Array Char
  pos : Position
  extended : Bool
  captureIndex : Nat
  captureNames : List (String × Span)
  groups : List GroupFrame
  classes : List ClassFrame

/- A reading step: it may move the reader or stop with an error. -/
abbrev ParseM := StateT ParserState (Except PatternError)

/- Stop with an error about a span. -/
def failAt {α : Type} (span : Span) (kind : ErrorKind) : ParseM α :=
  throw ⟨kind, span⟩

def current : ParseM (Option Char) := do
  let st ← get
  return st.pattern[st.pos.offset]?

/- The character under the reader, or NUL at the end. -/
def currentD : ParseM Char := do
  return (← current).getD '\x00'

/- Whether the reader is past the last character. -/
def atEnd : ParseM Bool := do
  return (← current).isNone

/- Whether the reader is on the given character. -/
def onChar (c : Char) : ParseM Bool := do
  return (← current) == some c

def position : ParseM Position := do
  return (← get).pos

/- The empty span where the reader is. -/
def spanHere : ParseM Span := do
  return Span.at (← position)

/- The position after a character read at `p`. -/
def Position.after (p : Position) (c : Char) : Position :=
  if c == '\n' then ⟨p.offset + 1, p.line + 1, 1⟩ else ⟨p.offset + 1, p.line, p.column + 1⟩

/- The span of the character under the reader. -/
def spanChar : ParseM Span := do
  let p ← position
  return ⟨p, p.after (← currentD)⟩

/- Move past one character; says whether a character follows. -/
def bump : ParseM Bool := do
  let st ← get
  match st.pattern[st.pos.offset]? with
  | none => return false
  | some c =>
      let np := st.pos.after c
      set { st with pos := np }
      return np.offset < st.pattern.size

/- Put the reader back at a position. -/
def moveTo (p : Position) : ParseM Unit :=
  modify fun st => { st with pos := p }

/- The number of rounds that bounds every loop of the reader. -/
def rounds : ParseM Nat := do
  return (← get).pattern.size + 1

/- Skip to just past the end of the line. -/
def skipComment : Nat → ParseM Unit
  | 0 => return
  | fuel + 1 => do
      match ← current with
      | none => return
      | some c =>
          discard bump
          if c == '\n' then return else skipComment fuel

/- In the extended mode, skip blanks and comments. -/
def bumpSpaceLoop : Nat → ParseM Unit
  | 0 => return
  | fuel + 1 => do
      match ← current with
      | none => return
      | some c =>
          if isBlank c then
            discard bump
            bumpSpaceLoop fuel
          else if c == '#' then
            discard bump
            skipComment (← rounds)
            bumpSpaceLoop fuel
          else return

/- Skip blanks and comments when the extended mode is on. -/
def bumpSpace : ParseM Unit := do
  if (← get).extended then bumpSpaceLoop (← rounds)

/- Move past one character and skip blanks; says whether a
    character follows. -/
def bumpAndBumpSpace : ParseM Bool := do
  if !(← bump) then return false
  bumpSpace
  return !(← atEnd)

/- Whether the text at the reader starts with `s`. -/
def startsWith (s : String) : ParseM Bool := do
  let st ← get
  let cs := s.toList
  return (List.range cs.length).all fun i => st.pattern[st.pos.offset + i]? == cs[i]?

/- Move past `s` if the text at the reader starts with it. -/
def bumpIf (s : String) : ParseM Bool := do
  if ← startsWith s then
    for _ in s.toList do
      discard bump
    return true
  else return false

/- The character after the one under the reader. -/
def peek : ParseM (Option Char) := do
  let st ← get
  if st.pos.offset < st.pattern.size then return st.pattern[st.pos.offset + 1]?
  else return none

/- The first character after the one under the reader that is
    not blank; a comment hides only its `#` and the blanks and line
    feeds that follow it. -/
def peekSpaceFrom (pat : Array Char) (start : Nat) : Nat → Nat → Bool → Option Char
  | 0, _, _ => pat[start]?
  | fuel + 1, i, inComment =>
      match pat[i]? with
      | none => pat[start]?
      | some c =>
          if isBlank c then peekSpaceFrom pat start fuel (i + 1) inComment
          else if !inComment && c == '#' then peekSpaceFrom pat start fuel (i + 1) true
          else if inComment && c == '\n' then peekSpaceFrom pat start fuel (i + 1) false
          else some c

/- The next character after the one under the reader, skipping
    blanks in the extended mode. -/
def peekSpace : ParseM (Option Char) := do
  let st ← get
  if !st.extended then peek
  else if st.pos.offset < st.pattern.size then
    let start := st.pos.offset + 1
    return peekSpaceFrom st.pattern start (st.pattern.size + 1) start false
  else return none

/- The characters from position `a` up to position `b`. -/
def textBetween (a b : Nat) : ParseM String := do
  let st ← get
  return String.ofList ((st.pattern.toList.drop a).take (b - a))

------------------------------------------------------------
-- Escapes
------------------------------------------------------------

/- Characters that have a meaning of their own in patterns. -/
def isMetaCharacter (c : Char) : Bool :=
  "\\.+*?()|[]{}^$#&-~".toList.contains c

/- Characters that may follow a backslash and stand for
    themselves: the meta characters, and the ASCII characters that
    are neither letters, digits, `<` nor `>`. -/
def isEscapeable (c : Char) : Bool :=
  if isMetaCharacter c then true
  else if c.toNat > 0x7F then false
  else if c.isAlphanum then false
  else c != '<' && c != '>'

/- Whether a character is a hexadecimal digit. -/
def isHexDigit (c : Char) : Bool :=
  ('0' ≤ c && c ≤ '9') || ('a' ≤ c && c ≤ 'f') || ('A' ≤ c && c ≤ 'F')

/- The number written by hexadecimal digits, if it is a Unicode
    scalar value below the limit of 32 bits. -/
def hexScalar? (digits : List Char) : Option Char :=
  let n := CharSet.hexNumber digits
  if n ≥ Nat.pow 2 32 then none
  else if n < 0xD800 || (0xDFFF < n && n ≤ 0x10FFFF) then some (Char.ofNat n) else none

/- Read a fixed number of hexadecimal digits, as in `\x41`. -/
def parseHexDigits (wide : Bool) (count : Nat) : ParseM Literal := do
  let start ← position
  let mut digits : Array Char := #[]
  for i in List.range count do
    if i > 0 then
      if !(← bumpAndBumpSpace) then failAt (← spanHere) .escapeUnexpectedEof
    let c ← currentD
    if !isHexDigit c then failAt (← spanChar) .escapeHexInvalidDigit
    digits := digits.push c
  discard bumpAndBumpSpace
  let stop ← position
  match hexScalar? digits.toList with
  | none => failAt ⟨start, stop⟩ .escapeHexInvalid
  | some c => return ⟨⟨start, stop⟩, if wide then .hexOther else .hexByte, c⟩

/- Read hexadecimal digits between braces, as in `\x{1F600}`. -/
def parseHexBraceLoop : Nat → Array Char → ParseM (Array Char)
  | 0, acc => return acc
  | fuel + 1, acc => do
      if !(← bumpAndBumpSpace) then return acc
      let c ← currentD
      if c == '}' then return acc
      if !isHexDigit c then failAt (← spanChar) .escapeHexInvalidDigit
      parseHexBraceLoop fuel (acc.push c)

/- Read a braced hexadecimal escape; the reader is on the brace. -/
def parseHexBrace : ParseM Literal := do
  let bracePos ← position
  let start := (← spanChar).stop
  let digits ← parseHexBraceLoop (← rounds) #[]
  if ← atEnd then failAt ⟨bracePos, ← position⟩ .escapeUnexpectedEof
  let stop ← position
  discard bumpAndBumpSpace
  if digits.isEmpty then failAt ⟨bracePos, ← position⟩ .escapeHexEmpty
  match hexScalar? digits.toList with
  | none => failAt ⟨start, stop⟩ .escapeHexInvalid
  | some c => return ⟨⟨start, ← position⟩, .hexOther, c⟩

/- Read a hexadecimal escape after its letter `x`, `u` or `U`. -/
def parseHex : ParseM Literal := do
  let letter ← currentD
  let count := if letter == 'x' then 2 else if letter == 'u' then 4 else 8
  if !(← bumpAndBumpSpace) then failAt (← spanHere) .escapeUnexpectedEof
  if ← onChar '{' then parseHexBrace else parseHexDigits (letter != 'x') count

/- Read the name of a property between braces. -/
def parsePropertyNameLoop : Nat → Array Char → ParseM (Array Char)
  | 0, acc => return acc
  | fuel + 1, acc => do
      if !(← bumpAndBumpSpace) then return acc
      let c ← currentD
      if c == '}' then return acc
      parsePropertyNameLoop fuel (acc.push c)

/- The first place where `sub` occurs in `cs`. -/
def findSub (cs sub : List Char) : Option Nat :=
  (List.range (cs.length + 1)).find? fun i => (cs.drop i).take sub.length == sub

/- Read a property escape after its letter `p` or `P`. -/
def parseProperty : ParseM Primitive := do
  let negated := (← currentD) == 'P'
  if !(← bumpAndBumpSpace) then failAt (← spanHere) .escapeUnexpectedEof
  if ← onChar '{' then
    let start := (← spanChar).stop
    let name ← parsePropertyNameLoop (← rounds) #[]
    if ← atEnd then failAt (← spanHere) .escapeUnexpectedEof
    discard bump
    let cs := name.toList
    let (query, flip) :=
      match findSub cs ['!', '='] with
      | some i => (PropertyQuery.valued (String.ofList (cs.take i)) (String.ofList (cs.drop (i + 2))), true)
      | none =>
          match findSub cs [':'] with
          | some i => (.valued (String.ofList (cs.take i)) (String.ofList (cs.drop (i + 1))), false)
          | none =>
              match findSub cs ['='] with
              | some i => (.valued (String.ofList (cs.take i)) (String.ofList (cs.drop (i + 1))), false)
              | none => (.named (String.ofList cs), false)
    return .property ⟨start, ← position⟩ (negated != flip) query
  else
    let start ← position
    let c ← currentD
    if c == '\\' then failAt (← spanChar) .unicodeClassInvalid
    discard bumpAndBumpSpace
    return .property ⟨start, ← position⟩ negated (.letter c)

/- Read the letters of a special word boundary. -/
def wordBoundaryLetters : Nat → Array Char → ParseM (Array Char)
  | 0, acc => return acc
  | fuel + 1, acc => do
      match ← current with
      | some c =>
          if c.isAlpha || c == '-' then
            discard bumpAndBumpSpace
            wordBoundaryLetters fuel (acc.push c)
          else return acc
      | none => return acc

/- After `\b` and on a brace, read a special word boundary such as
    `\b{start}`; gives nothing, with the reader back on the brace,
    when the brace opens a repetition instead. -/
def maybeSpecialWordBoundary (wbStart : Position) : ParseM (Option AssertionKind) := do
  let start ← position
  if !(← bumpAndBumpSpace) then
    failAt ⟨wbStart, ← position⟩ .specialWordOrRepetitionUnexpectedEof
  let contentStart ← position
  let c ← currentD
  if !(c.isAlpha || c == '-') then
    moveTo start
    return none
  let letters ← wordBoundaryLetters (← rounds) #[]
  if (← atEnd) || !(← onChar '}') then
    failAt ⟨start, ← position⟩ .specialWordBoundaryUnclosed
  let stop ← position
  discard bump
  match String.ofList letters.toList with
  | "start" => return some .wordStart
  | "end" => return some .wordEnd
  | "start-half" => return some .wordStartHalf
  | "end-half" => return some .wordEndHalf
  | _ => failAt ⟨contentStart, stop⟩ .specialWordBoundaryUnrecognized

/- Read an escape; the reader is on the backslash. -/
def parseEscape : ParseM Primitive := do
  let start ← position
  if !(← bump) then failAt ⟨start, ← position⟩ .escapeUnexpectedEof
  let c ← currentD
  if '0' ≤ c && c ≤ '9' then
    failAt ⟨start, (← spanChar).stop⟩ .unsupportedBackreference
  if c == 'x' || c == 'u' || c == 'U' then
    let lit ← parseHex
    return .literal { lit with span := lit.span.withStart start }
  if c == 'p' || c == 'P' then
    match ← parseProperty with
    | .property s n q => return .property (s.withStart start) n q
    | other => return other
  if "dswDSW".toList.contains c then
    discard bump
    let cls := if c == 'd' || c == 'D' then PerlClass.digit
      else if c == 's' || c == 'S' then PerlClass.space else PerlClass.word
    return .perl ⟨start, ← position⟩ cls c.isUpper
  discard bump
  let span : Span := ⟨start, ← position⟩
  if isMetaCharacter c || isEscapeable c then
    return .literal ⟨span, .escaped, c⟩
  match c with
  | 'a' => return .literal ⟨span, .escaped, '\x07'⟩
  | 'f' => return .literal ⟨span, .escaped, '\x0C'⟩
  | 't' => return .literal ⟨span, .escaped, '\t'⟩
  | 'n' => return .literal ⟨span, .escaped, '\n'⟩
  | 'r' => return .literal ⟨span, .escaped, '\r'⟩
  | 'v' => return .literal ⟨span, .escaped, '\x0B'⟩
  | 'A' => return .assertion span .startText
  | 'z' => return .assertion span .endText
  | 'b' =>
      if !(← atEnd) && (← onChar '{') then
        match ← maybeSpecialWordBoundary start with
        | some kind => return .assertion ⟨start, ← position⟩ kind
        | none => return .assertion span .wordBoundary
      else return .assertion span .wordBoundary
  | 'B' => return .assertion span .notWordBoundary
  | '<' => return .assertion span .wordStart
  | '>' => return .assertion span .wordEnd
  | _ => failAt span .escapeUnrecognized

/- Read one item outside a bracket expression. -/
def parsePrimitive : ParseM Primitive := do
  let c ← currentD
  let span ← spanChar
  if c == '\\' then parseEscape
  else
    discard bump
    if c == '.' then return .dot span
    else if c == '^' then return .assertion span .startLine
    else if c == '$' then return .assertion span .endLine
    else return .literal ⟨span, .verbatim, c⟩

------------------------------------------------------------
-- Groups and flags
------------------------------------------------------------

def flagOfChar? : Char → Option Flag
  | 'i' => some .caseInsensitive
  | 'm' => some .multiLine
  | 's' => some .dotMatchesNewLine
  | 'U' => some .swapGreed
  | 'u' => some .unicode
  | 'R' => some .crlf
  | 'x' => some .ignoreWhitespace
  | _ => none

/- Read flag letters up to `:` or `)`, each with its span. -/
def parseFlagsLoop :
    Nat → Array (FlagItem × Span) → Option Span → ParseM (Array (FlagItem × Span) × Option Span)
  | 0, items, neg => return (items, neg)
  | fuel + 1, items, neg => do
      let c ← currentD
      if c == ':' || c == ')' then return (items, neg)
      let here ← spanChar
      let (item, neg') ←
        if c == '-' then pure (FlagItem.negation, some here)
        else
          match flagOfChar? c with
          | some f => pure (FlagItem.flag f, none)
          | none => failAt here .flagUnrecognized
      match items.find? (fun x => x.1 == item) with
      | some (_, orig) =>
          if item == .negation then failAt here (.flagRepeatedNegation orig)
          else failAt here (.flagDuplicate orig)
      | none => pure ()
      let items := items.push (item, here)
      if !(← bump) then failAt (← spanHere) .flagUnexpectedEof
      parseFlagsLoop fuel items neg'

/- Read a flag list such as `i-s`; a `-` may not end it. -/
def parseFlags : ParseM (List FlagItem) := do
  let (items, neg) ← parseFlagsLoop (← rounds) #[] none
  if let some s := neg then failAt s .flagDanglingNegation
  return items.toList.map (·.1)

/- Characters allowed in a group name; the first may be neither a
    digit nor a dot nor a bracket. -/
def isNameChar (c : Char) (first : Bool) : Bool :=
  if first then c == '_' || isAlphabetic c
  else c == '_' || c == '.' || c == '[' || c == ']' || isAlphanumeric c

/- Read the characters of a group name up to `>`. -/
def captureNameLoop (start : Position) : Nat → ParseM Unit
  | 0 => return
  | fuel + 1 => do
      let c ← currentD
      if c == '>' then return
      if !isNameChar c ((← position).offset == start.offset) then
        failAt (← spanChar) .groupNameInvalid
      if !(← bump) then return
      captureNameLoop start fuel

/- Read a group name and its closing `>`, and record it. -/
def parseCaptureName : ParseM String := do
  if ← atEnd then failAt (← spanHere) .groupNameUnexpectedEof
  let start ← position
  captureNameLoop start (← rounds)
  let stop ← position
  if ← atEnd then failAt (← spanHere) .groupNameUnexpectedEof
  discard bump
  let name ← textBetween start.offset stop.offset
  if name.isEmpty then failAt ⟨start, start⟩ .groupNameEmpty
  let span : Span := ⟨start, stop⟩
  match (← get).captureNames.find? (fun x => x.1 == name) with
  | some (_, orig) => failAt span (.groupNameDuplicate orig)
  | none => modify fun st => { st with captureNames := st.captureNames ++ [(name, span)] }
  return name

def nextCaptureIndex (openSpan : Span) : ParseM Nat := do
  let st ← get
  if st.captureIndex + 1 ≥ Nat.pow 2 32 then failAt openSpan .captureLimitExceeded
  set { st with captureIndex := st.captureIndex + 1 }
  return st.captureIndex + 1

/- Move past a look-around opening such as `?=`, if there is one. -/
def lookAroundPrefix : ParseM Bool := do
  if ← bumpIf "?=" then return true
  if ← bumpIf "?!" then return true
  if ← bumpIf "?<=" then return true
  bumpIf "?<!"

/- Read the opening of a group; the reader is on `(`.  Gives either
    flags set for the rest of the enclosing group, or the span of the
    opening and the kind of a group. -/
def parseGroup : ParseM (Sum (Span × List FlagItem) (Span × GroupKind)) := do
  let openSpan ← spanChar
  discard bump
  bumpSpace
  if ← lookAroundPrefix then
    failAt ⟨openSpan.start, ← position⟩ .unsupportedLookAround
  let innerSpan ← spanHere
  let named ← do
    if ← bumpIf "?P<" then pure true else bumpIf "?<"
  if named then
    let index ← nextCaptureIndex openSpan
    let name ← parseCaptureName
    return .inr (openSpan, .named index name)
  if ← bumpIf "?" then
    if ← atEnd then failAt openSpan .groupUnclosed
    let flags ← parseFlags
    let closing ← currentD
    discard bump
    if closing == ')' then
      if flags.isEmpty then failAt innerSpan .repetitionMissing
      return .inl (openSpan.withStop (← position), flags)
    else
      return .inr (openSpan, .plain flags)
  let index ← nextCaptureIndex openSpan
  return .inr (openSpan, .capture index)

/- Open a group, or apply flags that end at the enclosing group. -/
def pushGroup (concat : ConcatBuild) : ParseM ConcatBuild := do
  match ← parseGroup with
  | .inl (span, items) =>
      if let some v := flagState items .ignoreWhitespace then
        modify fun st => { st with extended := v }
      return concat.push (.flags span items)
  | .inr (span, kind) =>
      let st ← get
      let inner := match kind with
        | .plain items => (flagState items .ignoreWhitespace).getD st.extended
        | _ => st.extended
      set { st with groups := .group concat span kind st.extended :: st.groups, extended := inner }
      return ⟨← spanHere, #[]⟩

/- Close the current branch at `|` and start the next one. -/
def pushAlternate (concat : ConcatBuild) : ParseM ConcatBuild := do
  let here ← position
  let branch := { concat with span := concat.span.withStop here }.toSyntax
  modify fun st =>
    match st.groups with
    | .alternation alt :: rest =>
        { st with groups := .alternation { alt with alts := alt.alts.push branch } :: rest }
    | gs => { st with groups := .alternation ⟨⟨concat.span.start, here⟩, #[branch]⟩ :: gs }
  discard bump
  return ⟨← spanHere, #[]⟩

def popGroup (groupConcat : ConcatBuild) : ParseM ConcatBuild := do
  let st ← get
  let (outer, span, kind, ext, alt, rest) ←
    match st.groups with
    | .group outer span kind ext :: rest => pure (outer, span, kind, ext, none, rest)
    | .alternation alt :: .group outer span kind ext :: rest =>
        pure (outer, span, kind, ext, some alt, rest)
    | _ => failAt (← spanChar) .groupUnopened
  set { st with groups := rest, extended := ext }
  let bodyStop ← position
  let body := { groupConcat with span := groupConcat.span.withStop bodyStop }
  discard bump
  let groupSpan := span.withStop (← position)
  let inner := match alt with
    | some a => ({ span := a.span.withStop bodyStop, alts := a.alts.push body.toSyntax } : AltBuild).toSyntax
    | none => body.toSyntax
  return outer.push (.group groupSpan kind inner)

/- Close the whole pattern at its end. -/
def popGroupEnd (concat : ConcatBuild) : ParseM Syntax := do
  let here ← position
  let concat := { concat with span := concat.span.withStop here }
  let st ← get
  match st.groups with
  | [] => return concat.toSyntax
  | .alternation alt :: rest =>
      match rest with
      | [] =>
          return ({ span := alt.span.withStop here, alts := alt.alts.push concat.toSyntax } : AltBuild).toSyntax
      | .group _ span _ _ :: _ => failAt span .groupUnclosed
      | .alternation a :: _ => failAt a.span .groupUnclosed
  | .group _ span _ _ :: _ => failAt span .groupUnclosed

------------------------------------------------------------
-- Repetitions
------------------------------------------------------------

/- Take the item a repetition applies to: the last of the sequence,
    which may be neither missing, nor empty, nor a flag setting. -/
def repeatedItem (concat : ConcatBuild) : ParseM (Syntax × ConcatBuild) := do
  match concat.items.back? with
  | none => failAt (← spanHere) .repetitionMissing
  | some (.empty _) => failAt (← spanHere) .repetitionMissing
  | some (.flags _ _) => failAt (← spanHere) .repetitionMissing
  | some x => return (x, { concat with items := concat.items.pop })

/- Read `?`, `*` or `+`, and a `?` that makes it lazy. -/
def parseUncounted (concat : ConcatBuild) (kind : RepeatKind) : ParseM ConcatBuild := do
  let (item, concat) ← repeatedItem concat
  let mut greedy := true
  if ← bump then
    if ← onChar '?' then
      greedy := false
      discard bump
  return concat.push (.repetition (item.span.withStop (← position)) kind greedy item)

def skipBlanks (moveSpace : Bool) : Nat → ParseM Unit
  | 0 => return
  | fuel + 1 => do
      match ← current with
      | some c =>
          if isBlank c then
            if moveSpace then discard bumpAndBumpSpace else discard bump
            skipBlanks moveSpace fuel
          else return
      | none => return

def readDigits : Nat → Array Char → ParseM (Array Char)
  | 0, acc => return acc
  | fuel + 1, acc => do
      match ← current with
      | some c =>
          if '0' ≤ c && c ≤ '9' then
            discard bumpAndBumpSpace
            readDigits fuel (acc.push c)
          else return acc
      | none => return acc

/- Read a count of a repetition, with blanks around it. -/
def parseDecimal : ParseM Nat := do
  skipBlanks false (← rounds)
  let start ← position
  let digits ← readDigits (← rounds) #[]
  let span : Span := ⟨start, ← position⟩
  skipBlanks true (← rounds)
  if digits.isEmpty then failAt span .repetitionCountDecimalEmpty
  let n := digits.foldl (fun n c => 10 * n + (c.toNat - '0'.toNat)) 0
  if n ≥ Nat.pow 2 32 then failAt span .decimalInvalid
  return n

/- Read a counted repetition such as `{2,5}`; the reader is on `{`. -/
def parseCounted (concat : ConcatBuild) : ParseM ConcatBuild := do
  let start ← position
  let (item, concat) ← repeatedItem concat
  if !(← bumpAndBumpSpace) then failAt ⟨start, ← position⟩ .repetitionCountUnclosed
  let lo ← parseDecimal
  let mut kind := RepeatKind.exactly lo
  if ← atEnd then failAt ⟨start, ← position⟩ .repetitionCountUnclosed
  if ← onChar ',' then
    if !(← bumpAndBumpSpace) then failAt ⟨start, ← position⟩ .repetitionCountUnclosed
    if ← onChar '}' then
      kind := .atLeast lo
    else
      let hi ← parseDecimal
      kind := .between lo hi
  if (← atEnd) || !(← onChar '}') then failAt ⟨start, ← position⟩ .repetitionCountUnclosed
  let mut greedy := true
  if ← bumpAndBumpSpace then
    if ← onChar '?' then
      greedy := false
      discard bump
  let opSpan : Span := ⟨start, ← position⟩
  if let .between m n := kind then
    if n < m then failAt opSpan .repetitionCountInvalid
  return concat.push (.repetition (item.span.withStop (← position)) kind greedy item)

------------------------------------------------------------
-- Bracket expressions
------------------------------------------------------------

/- The error for a bracket expression left open: it points at the
    opening of the innermost open bracket. -/
def unclosedClass {α : Type} : ParseM α := do
  let st ← get
  let open? := st.classes.findSome? fun
    | .opened _ span _ => some span
    | .op _ _ => none
  failAt (open?.getD (Span.at st.pos)) .classUnclosed

/- Move up to the next `:`, or to the last character. -/
def skipToColon : Nat → ParseM Unit
  | 0 => return
  | fuel + 1 => do
      if ← onChar ':' then return
      if !(← bump) then return
      skipToColon fuel

/- Read a named ASCII class such as `[:alpha:]`; gives nothing,
    with the reader back on `[`, when the text is no such class. -/
def maybeAsciiClass : ParseM (Option ClassTree) := do
  let start ← position
  let back : ParseM (Option ClassTree) := do moveTo start; return none
  if !(← bump) then return ← back
  if !(← onChar ':') then return ← back
  if !(← bump) then return ← back
  let mut negated := false
  if ← onChar '^' then
    negated := true
    if !(← bump) then return ← back
  let nameStart := (← position).offset
  skipToColon (← rounds)
  if ← atEnd then return ← back
  let name ← textBetween nameStart (← position).offset
  if !(← bumpIf ":]") then return ← back
  match AsciiClass.ofName? name with
  | some cls => return some (.ascii ⟨start, ← position⟩ cls negated)
  | none => back

/- Read the `-` characters that open a bracket expression, which
    stand for themselves; `start` is where the bracket opened. -/
def leadingDashes (start : Position) : Nat → UnionBuild → ParseM UnionBuild
  | 0, union => return union
  | fuel + 1, union => do
      if !(← onChar '-') then return union
      let union := union.push (.literal ⟨← spanChar, .verbatim, '-'⟩)
      if !(← bumpAndBumpSpace) then failAt ⟨start, start⟩ .classUnclosed
      leadingDashes start fuel union

/- Read the opening of a bracket expression: `[`, a `^`, and any
    leading `-` or `]`, which stand for themselves. -/
def parseClassOpen : ParseM (Span × Bool × UnionBuild) := do
  let start ← position
  if !(← bumpAndBumpSpace) then failAt ⟨start, ← position⟩ .classUnclosed
  let mut negated := false
  if ← onChar '^' then
    negated := true
    if !(← bumpAndBumpSpace) then failAt ⟨start, ← position⟩ .classUnclosed
  let mut union ← leadingDashes start (← rounds) ⟨← spanHere, #[]⟩
  if union.items.isEmpty && (← onChar ']') then
    union := union.push (.literal ⟨← spanChar, .verbatim, ']'⟩)
    if !(← bumpAndBumpSpace) then failAt ⟨start, ← position⟩ .classUnclosed
  return (⟨start, ← position⟩, negated, union)

def pushClassOpen (parent : UnionBuild) : ParseM UnionBuild := do
  let (span, negated, union) ← parseClassOpen
  modify fun st => { st with classes := .opened parent span negated :: st.classes }
  return union

/- Join the right side of a pending operation, if one waits. -/
def popClassOp (rhs : ClassTree) : ParseM ClassTree := do
  let st ← get
  match st.classes with
  | .op kind lhs :: rest =>
      set { st with classes := rest }
      return .binOp ⟨lhs.span.start, rhs.span.stop⟩ kind lhs rhs
  | _ => return rhs

/- Start the right side of an operation such as `&&`. -/
def pushClassOp (kind : ClassOp) (union : UnionBuild) : ParseM UnionBuild := do
  let lhs ← popClassOp union.toTree
  modify fun st => { st with classes := .op kind lhs :: st.classes }
  return ⟨← spanHere, #[]⟩

/- Close a bracket expression at `]`: gives the union it stands in,
    or the whole expression when it is the outermost. -/
def popClass (union : UnionBuild) : ParseM (Sum UnionBuild (Span × Bool × ClassTree)) := do
  let inner ← popClassOp union.toTree
  let st ← get
  match st.classes with
  | .opened parent span negated :: rest =>
      set { st with classes := rest }
      discard bump
      let full := span.withStop (← position)
      if rest.isEmpty then return .inr (full, negated, inner)
      else return .inl (parent.push (.bracketed full negated inner))
  | _ => unclosedClass

/- Read one item of a bracket expression. -/
def parseClassItem : ParseM Primitive := do
  if ← onChar '\\' then parseEscape
  else
    let lit : Literal := ⟨← spanChar, .verbatim, ← currentD⟩
    discard bump
    return .literal lit

/- An item as part of a bracket expression. -/
def Primitive.toClassTree : Primitive → ParseM ClassTree
  | .literal l => return .literal l
  | .perl s c n => return .perl s c n
  | .property s n q => return .property s n q
  | p => failAt p.span .classEscapeInvalid

/- An item as the end of a range. -/
def Primitive.toRangeEnd : Primitive → ParseM Literal
  | .literal l => return l
  | p => failAt p.span .classRangeLiteral

/- Read an item, or a range such as `a-z`. -/
def parseClassRange : ParseM ClassTree := do
  let first ← parseClassItem
  bumpSpace
  if ← atEnd then unclosedClass
  let next ← peekSpace
  if !(← onChar '-') || next == some ']' || next == some '-' then
    return ← first.toClassTree
  if !(← bumpAndBumpSpace) then unclosedClass
  let second ← parseClassItem
  let span : Span := ⟨first.span.start, second.span.stop⟩
  let lo ← first.toRangeEnd
  let hi ← second.toRangeEnd
  if hi.c < lo.c then failAt span .classRangeInvalid
  return .range span lo hi

/- Read a bracket expression; the reader is on `[`. -/
def parseClassLoop : Nat → UnionBuild → ParseM (Span × Bool × ClassTree)
  | 0, _ => unclosedClass
  | fuel + 1, union => do
      bumpSpace
      if ← atEnd then unclosedClass
      let c ← currentD
      let next ← peek
      if c == '[' then
        if !(← get).classes.isEmpty then
          if let some cls ← maybeAsciiClass then
            return ← parseClassLoop fuel (union.push cls)
        parseClassLoop fuel (← pushClassOpen union)
      else if c == ']' then
        match ← popClass union with
        | .inl outer => parseClassLoop fuel outer
        | .inr whole => return whole
      else if c == '&' && next == some '&' then
        discard (bumpIf "&&")
        parseClassLoop fuel (← pushClassOp .intersection union)
      else if c == '-' && next == some '-' then
        discard (bumpIf "--")
        parseClassLoop fuel (← pushClassOp .difference union)
      else if c == '~' && next == some '~' then
        discard (bumpIf "~~")
        parseClassLoop fuel (← pushClassOp .symmetricDifference union)
      else
        parseClassLoop fuel (union.push (← parseClassRange))

def parseClass : ParseM Syntax := do
  let (span, negated, inner) ← parseClassLoop (← rounds) ⟨← spanHere, #[]⟩
  return .bracketed span negated inner

------------------------------------------------------------
-- The whole pattern
------------------------------------------------------------

/- Read items until the end of the pattern. -/
def parseLoop : Nat → ConcatBuild → ParseM ConcatBuild
  | 0, concat => return concat
  | fuel + 1, concat => do
      bumpSpace
      match ← current with
      | none => return concat
      | some '(' => parseLoop fuel (← pushGroup concat)
      | some ')' => parseLoop fuel (← popGroup concat)
      | some '|' => parseLoop fuel (← pushAlternate concat)
      | some '[' => parseLoop fuel (concat.push (← parseClass))
      | some '?' => parseLoop fuel (← parseUncounted concat .zeroOrOne)
      | some '*' => parseLoop fuel (← parseUncounted concat .zeroOrMore)
      | some '+' => parseLoop fuel (← parseUncounted concat .oneOrMore)
      | some '{' => parseLoop fuel (← parseCounted concat)
      | some _ => parseLoop fuel (concat.push (← parsePrimitive).toSyntax)

/- The deepest nesting a pattern may have. -/
def nestLimit : Nat := 250

/- One more level of nesting, at a node with the given span. -/
def deeper (depth : Nat) (span : Span) : Except PatternError Nat :=
  if depth + 1 > nestLimit then .error ⟨.nestLimitExceeded nestLimit, span⟩ else .ok (depth + 1)

/- Check the nesting inside a bracket expression. -/
def checkClassNesting (depth : Nat) : ClassTree → Except PatternError Unit
  | .bracketed span _ inner => do checkClassNesting (← deeper depth span) inner
  | .union span items => do
      let d ← deeper depth span
      for x in items do
        checkClassNesting d x
  | .binOp span _ lhs rhs => do
      let d ← deeper depth span
      checkClassNesting d lhs
      checkClassNesting d rhs
  | _ => .ok ()

/- Check that no node lies deeper than the limit: groups,
    repetitions, alternations, sequences and bracket expressions
    each add a level. -/
def checkNesting (depth : Nat) : Syntax → Except PatternError Unit
  | .bracketed span _ inner => do checkClassNesting (← deeper depth span) inner
  | .repetition span _ _ sub => do checkNesting (← deeper depth span) sub
  | .group span _ sub => do checkNesting (← deeper depth span) sub
  | .alternation span alts => do
      let d ← deeper depth span
      for x in alts do
        checkNesting d x
  | .concat span items => do
      let d ← deeper depth span
      for x in items do
        checkNesting d x
  | _ => .ok ()

/- Read a pattern into its syntax tree. -/
def parseSyntax (pattern : String) : Except PatternError Syntax := do
  let st : ParserState := ⟨pattern.toList.toArray, Position.origin, false, 0, [], [], []⟩
  let run : ParseM Syntax := do
    let concat ← parseLoop (← rounds) ⟨Span.at Position.origin, #[]⟩
    popGroupEnd concat
  let (tree, _) ← run.run st
  checkNesting 0 tree
  return tree

end OptionGrammar.Regex
