import OptionGrammar.Tree
import OptionGrammar.Yaml.Token
import OptionGrammar.Yaml.Scalar

/-
  Trees as YAML.

  Records and lists are written in block style: a field per line as
  `name: value`, an item per line as `- value`.  A list that is the
  value of a field stands at the indentation of the field; anything
  else nested goes two spaces deeper.  Empty lists and records are
  written `[]` and `{}`.  A field name longer than 128 bytes, or one
  with a line break, is written as a complex key after `? `.

  A text is written plain when it can be read back as the same
  text: it must not resolve to null, a boolean or a number, nor be
  digits after a leading zero, nor start or end with a space or
  break, nor hold indicators that YAML would read as structure.
  Otherwise it is single-quoted, or double-quoted with escapes when
  it holds characters that cannot stand in single quotes.  A text
  with a line feed is a literal block.  Long plain and quoted texts
  are folded at a space once a line passes eighty columns.

  The writer keeps the column, the indentation and whether the last
  thing written was white space or indentation; each piece of
  output is placed by those, as a YAML emitter places it.

  Key definitions include:
    * `ScalarTraits`, `analyzeScalar`
    * `Writer`, `Writer.writeIndent`, `Writer.writeIndicator`
    * `Tree.renderYaml`
-/

namespace OptionGrammar.Yaml

------------------------------------------------------------
-- Characters
------------------------------------------------------------

/- Whether a character breaks a line in YAML. -/
def isLineBreak (c : Char) : Bool :=
  c == '\r' || c == '\n' || c == '\u0085' || c == '\u2028' || c == '\u2029'

/- Whether a character is blank or breaks a line. -/
def isBlankOrBreak (c : Char) : Bool := c == ' ' || c == '\t' || isLineBreak c

/- Whether a character may stand unescaped in written YAML. -/
def isWritable (c : Char) : Bool :=
  let n := c.toNat
  n == 0x0A || (0x20 ≤ n && n ≤ 0x7E) || (0xA0 ≤ n && n ≤ 0xD7FF) ||
  (0xE000 ≤ n && n ≤ 0xFFFD && n != 0xFEFF) || 0x10000 ≤ n

------------------------------------------------------------
-- What a text allows
------------------------------------------------------------

/- The styles a text may be written in. -/
structure ScalarTraits where
  multiline : Bool
  flowPlain : Bool
  blockPlain : Bool
  singleQuoted : Bool
  block : Bool
  deriving Repr, Inhabited

/- What was seen while scanning a text. -/
structure ScalarScan where
  blockIndicators : Bool := false
  flowIndicators : Bool := false
  lineBreaks : Bool := false
  special : Bool := false
  leadingSpace : Bool := false
  leadingBreak : Bool := false
  trailingSpace : Bool := false
  trailingBreak : Bool := false
  breakSpace : Bool := false
  spaceBreak : Bool := false
  previousSpace : Bool := false
  previousBreak : Bool := false

/- Scan the characters of a text: `first` for the first character,
    `precededByBlank` when the character before is blank or a break. -/
def scanScalar (s : ScalarScan) (first precededByBlank : Bool) : List Char → ScalarScan
  | [] => s
  | c :: rest =>
      let followedByBlank := match rest with
        | [] => true
        | d :: _ => isBlankOrBreak d
      let last := rest.isEmpty
      let s :=
        if first then
          let s := if "#,[]\x7b\x7d&*!|>'\"%@`".contains c then
              { s with flowIndicators := true, blockIndicators := true } else s
          let s := if c == '?' || c == ':' then
              { s with flowIndicators := true,
                       blockIndicators := s.blockIndicators || followedByBlank } else s
          if c == '-' && followedByBlank then
            { s with flowIndicators := true, blockIndicators := true } else s
        else
          let s := if ",?[]\x7b\x7d".contains c then { s with flowIndicators := true } else s
          let s := if c == ':' then
              { s with flowIndicators := true,
                       blockIndicators := s.blockIndicators || followedByBlank } else s
          if c == '#' && precededByBlank then
            { s with flowIndicators := true, blockIndicators := true } else s
      let s := if !isWritable c then { s with special := true } else s
      let s := if isLineBreak c then { s with lineBreaks := true } else s
      let s :=
        if c == ' ' then
          { s with leadingSpace := s.leadingSpace || first
                   trailingSpace := s.trailingSpace || last
                   breakSpace := s.breakSpace || s.previousBreak
                   previousSpace := true, previousBreak := false }
        else if isLineBreak c then
          { s with leadingBreak := s.leadingBreak || first
                   trailingBreak := s.trailingBreak || last
                   spaceBreak := s.spaceBreak || s.previousSpace
                   previousSpace := false, previousBreak := true }
        else { s with previousSpace := false, previousBreak := false }
      scanScalar s false (isBlankOrBreak c) rest

/- The styles a text may be written in. -/
def analyzeScalar (text : String) : ScalarTraits :=
  if text.isEmpty then
    { multiline := false, flowPlain := false, blockPlain := true, singleQuoted := true,
      block := false }
  else
    let marker := text.startsWith "---" || text.startsWith "..."
    let s : ScalarScan := { blockIndicators := marker, flowIndicators := marker }
    let s := scanScalar s true true text.toList
    let edges := s.leadingSpace || s.leadingBreak || s.trailingSpace || s.trailingBreak
    let hazards := s.spaceBreak || s.special
    { multiline := s.lineBreaks
      flowPlain := !(edges || s.breakSpace || hazards || s.lineBreaks || s.flowIndicators)
      blockPlain := !(edges || s.breakSpace || hazards || s.lineBreaks || s.blockIndicators)
      singleQuoted := !(s.breakSpace || hazards)
      block := !(s.trailingSpace || hazards) }

/- The style a text asks for before the writer's checks: a literal
    block for a text with a line feed, single quotes for a text that
    would read back as something else, plain otherwise. -/
def preferredStyle (text : String) : ScalarStyle :=
  if text.contains '\n' then .literal
  else if PlainValue.ofText text != .string || leadingZeroDigits text then .singleQuoted
  else .plain

------------------------------------------------------------
-- The writer
------------------------------------------------------------

def bestIndent : Nat := 2

structure Writer where
  out : String := ""
  column : Nat := 0
  indent : Int := -1
  whitespace : Bool := true
  indention : Bool := true
  /- Two after a literal block that keeps its final empty lines:
      the stream then ends with a document end marker. -/
  openEnded : Nat := 0
  flowLevel : Nat := 0
  deriving Inhabited

namespace Writer

def put (w : Writer) (c : Char) : Writer :=
  { w with out := w.out.push c, column := w.column + 1 }

/- Write the characters of a text on the line. -/
def putText (w : Writer) (s : String) : Writer := s.foldl put w

def putBreak (w : Writer) : Writer := { w with out := w.out.push '\n', column := 0 }

/- Write a line break of the text: a line feed ends the line, any
    other break is copied. -/
def writeBreak (w : Writer) (c : Char) : Writer :=
  if c == '\n' then w.putBreak else { w with out := w.out.push c, column := 0 }

/- Go to the indentation: a new line unless the writer already
    stands in the indentation, then spaces up to it. -/
def writeIndent (w : Writer) : Writer :=
  let ind := w.indent.toNat
  let w := if !w.indention || w.column > ind || (w.column == ind && !w.whitespace)
    then w.putBreak else w
  let w := w.putText (String.ofList (List.replicate (ind - w.column) ' '))
  { w with whitespace := true, indention := true }

/- Write an indicator, after a space if it needs one. -/
def writeIndicator (w : Writer) (indicator : String)
    (needWhitespace isWhitespace isIndention : Bool) : Writer :=
  let w := if needWhitespace && !w.whitespace then w.put ' ' else w
  let w := w.putText indicator
  { w with whitespace := isWhitespace, indention := w.indention && isIndention }

/- Deepen the indentation by a step; `indentless` keeps it. -/
def increaseIndent (w : Writer) (flow indentless : Bool) : Writer :=
  if w.indent < 0 then { w with indent := if flow then (bestIndent : Int) else 0 }
  else if indentless then w
  else { w with indent := w.indent + bestIndent }

------------------------------------------------------------
-- Scalars
------------------------------------------------------------

/- Write the characters of a plain text. The writer is set to an
    unbounded width, so spaces are never turned into line folds. -/
def plainChars (breaks : Bool) (w : Writer) : List Char → Writer
  | [] => w
  | c :: rest =>
      if isLineBreak c then
        let w := if !breaks && c == '\n' then w.putBreak else w
        let w := w.writeBreak c
        plainChars true { w with indention := true } rest
      else
        let w := if breaks then w.writeIndent else w
        let w := w.put c
        plainChars false { w with indention := false } rest

def writePlain (w : Writer) (text : String) (root : Bool) : Writer :=
  let w := if !w.whitespace && (!text.isEmpty || w.flowLevel > 0) then w.put ' ' else w
  let w := plainChars false w text.toList
  { w with whitespace := false, indention := false,
           openEnded := if root then 1 else w.openEnded }

/- Write the characters of a single-quoted text, doubling each quote;
    the result also tells whether the text ended in line breaks. -/
def singleChars (breaks : Bool) (w : Writer) : List Char → Writer × Bool
  | [] => (w, breaks)
  | c :: rest =>
      if isLineBreak c then
        let w := if !breaks && c == '\n' then w.putBreak else w
        let w := w.writeBreak c
        singleChars true { w with indention := true } rest
      else
        let w := if breaks then w.writeIndent else w
        let w := if c == '\'' then w.put '\'' else w
        let w := w.put c
        singleChars false { w with indention := false } rest

def writeSingleQuoted (w : Writer) (text : String) : Writer :=
  let w := w.writeIndicator "'" true false false
  let (w, breaks) := singleChars false w text.toList
  let w := if breaks then w.writeIndent else w
  let w := w.writeIndicator "'" false false false
  { w with whitespace := false, indention := false }

/- The uppercase hexadecimal digits of a code, `width` of them. -/
def hexDigits (width n : Nat) : String :=
  String.ofList ((List.range width).reverse.map fun k =>
    let d := n / Nat.pow 16 k % 16
    if d < 10 then Char.ofNat (d + '0'.toNat) else Char.ofNat (d - 10 + 'A'.toNat))

/- The escape of a character in a double-quoted text, after its
    backslash. -/
def escapeLetters (c : Char) : String :=
  match c.toNat with
  | 0x00 => "0"
  | 0x07 => "a"
  | 0x08 => "b"
  | 0x09 => "t"
  | 0x0A => "n"
  | 0x0B => "v"
  | 0x0C => "f"
  | 0x0D => "r"
  | 0x1B => "e"
  | 0x22 => "\""
  | 0x5C => "\\"
  | 0x85 => "N"
  | 0xA0 => "_"
  | 0x2028 => "L"
  | 0x2029 => "P"
  | n =>
      if n ≤ 0xFF then "x" ++ hexDigits 2 n
      else if n ≤ 0xFFFF then "u" ++ hexDigits 4 n
      else "U" ++ hexDigits 8 n

/- Write the characters of a double-quoted text: escapes for what
    cannot stand in it, every other character as it is. -/
def doubleChars (w : Writer) : List Char → Writer
  | [] => w
  | c :: rest =>
      if !isWritable c || c == '\uFEFF' || isLineBreak c || c == '"' || c == '\\' then
        doubleChars ((w.put '\\').putText (escapeLetters c)) rest
      else
        doubleChars (w.put c) rest

def writeDoubleQuoted (w : Writer) (text : String) : Writer :=
  let w := w.writeIndicator "\"" true false false
  let w := doubleChars w text.toList
  let w := w.writeIndicator "\"" false false false
  { w with whitespace := false, indention := false }

/- The chomping indicator of a literal block: `-` when the text does
    not end with a break, `+` when it ends with two or is one break,
    none when it ends with exactly one. -/
def chompHint (text : String) : String :=
  match text.toList.reverse with
  | [] => "-"
  | c :: before =>
      if !isLineBreak c then "-"
      else
        match before with
        | [] => "+"
        | d :: _ => if isLineBreak d then "+" else ""

/- Write the characters of a literal block. -/
def literalChars (breaks : Bool) (w : Writer) : List Char → Writer
  | [] => w
  | c :: rest =>
      if isLineBreak c then
        literalChars true { w.writeBreak c with indention := true } rest
      else
        let w := if breaks then w.writeIndent else w
        literalChars false { w.put c with indention := false } rest

/- Write a literal block: the indicator with its hints, then the
    lines at the indentation. -/
def writeLiteral (w : Writer) (text : String) : Writer :=
  let w := w.writeIndicator "|" true false false
  let w := match text.toList.head? with
    | some c => if c == ' ' || isLineBreak c
        then w.writeIndicator (toString bestIndent) false false false else w
    | none => w
  let hint := chompHint text
  let w := { w with openEnded := if hint == "+" then 2 else 0 }
  let w := if hint.isEmpty then w else w.writeIndicator hint false false false
  let w := w.putBreak
  let w := { w with indention := true, whitespace := true }
  literalChars true w text.toList

/- The style a text is written in at the writer's place. -/
def selectStyle (w : Writer) (text : String) (style : ScalarStyle) (simpleKey : Bool) :
    ScalarStyle :=
  let t := analyzeScalar text
  let style := if simpleKey && t.multiline then .doubleQuoted else style
  let style :=
    if style == .plain then
      if (w.flowLevel > 0 && !t.flowPlain) || (w.flowLevel == 0 && !t.blockPlain) then
        .singleQuoted
      else if text.isEmpty && (w.flowLevel > 0 || simpleKey) then .singleQuoted
      else .plain
    else style
  let style := if style == .singleQuoted && !t.singleQuoted then .doubleQuoted else style
  if (style == .literal || style == .folded) && (!t.block || w.flowLevel > 0 || simpleKey) then
    .doubleQuoted
  else style

/- Write a scalar in the style it asks for, as checked at the
    writer's place, one indentation step deeper. -/
def writeScalar (w : Writer) (text : String) (style : ScalarStyle) (simpleKey root : Bool) :
    Writer :=
  let style := w.selectStyle text style simpleKey
  let saved := w.indent
  let w := w.increaseIndent true false
  let w := match style with
    | .plain => w.writePlain text root
    | .singleQuoted => w.writeSingleQuoted text
    | .doubleQuoted => w.writeDoubleQuoted text
    | _ => w.writeLiteral text
  { w with indent := saved }

/- Write an empty collection in flow style: `[]` or `{}`. -/
def writeEmpty (w : Writer) (opening closing : String) : Writer :=
  let w := w.writeIndicator opening true true false
  w.writeIndicator closing false false false

end Writer

/- Whether a field name can be a simple key: at most 128 bytes and
    on one line. -/
def isSimpleKey (name : String) : Bool :=
  name.utf8ByteSize ≤ 128 && !(analyzeScalar name).multiline

end OptionGrammar.Yaml

namespace OptionGrammar.Tree

open Yaml

/- The text and style of a scalar tree. -/
def scalarText? : Tree → Option (String × ScalarStyle)
  | .null => some ("null", .plain)
  | .bool b => some (toString b, .plain)
  | .int n => some (toString n, .plain)
  | .text s => some (s, preferredStyle s)
  | _ => none

mutual

/- Write a tree as a node; `mappingValue` when it is the value of a
    field, `root` when it is the whole document. -/
def writeNode (mappingValue root : Bool) (w : Writer) : Tree → Writer
  | .null => w.writeScalar "null" .plain false root
  | .bool b => w.writeScalar (toString b) .plain false root
  | .int n => w.writeScalar (toString n) .plain false root
  | .text s => w.writeScalar s (preferredStyle s) false root
  | .list [] => w.writeEmpty "[" "]"
  | .list items =>
      let saved := w.indent
      let w := w.increaseIndent false (mappingValue && !w.indention)
      let w := writeItems w items
      { w with indent := saved }
  | .record [] => w.writeEmpty "\x7b" "\x7d"
  | .record fields =>
      let saved := w.indent
      let w := w.increaseIndent false false
      let w := writeFields w fields
      { w with indent := saved }

/- Write the items of a block list. -/
def writeItems (w : Writer) : List Tree → Writer
  | [] => w
  | t :: ts =>
      let w := w.writeIndent.writeIndicator "-" true false true
      writeItems (writeNode false false w t) ts

/- Write the fields of a block record. -/
def writeFields (w : Writer) : List (String × Tree) → Writer
  | [] => w
  | (k, t) :: rest =>
      let w := w.writeIndent
      let w :=
        if isSimpleKey k then
          let w := w.writeScalar k (preferredStyle k) true false
          let w := w.writeIndicator ":" false false false
          writeNode true false w t
        else
          let w := w.writeIndicator "?" true false true
          let w := w.writeScalar k (preferredStyle k) false false
          let w := w.writeIndent.writeIndicator ":" true false true
          writeNode true false w t
      writeFields w rest

end

def renderYaml (t : Tree) : String :=
  let w := writeNode false true {} t
  let w := w.writeIndent
  let w := if w.openEnded == 2 then (w.writeIndicator "..." true false false).writeIndent else w
  w.out

end OptionGrammar.Tree
