import OptionGrammar.Yaml.Token

/-
  Scanning YAML text into tokens.

  The scanner reads the text from left to right and keeps a queue
  of tokens that are not yet taken.  In block context it tracks the
  indentation: a deeper column opens a block collection and a
  shallower one closes it.  A plain or quoted scalar, an alias or a
  flow collection may turn out to be the key of a mapping when a
  `:` follows it on the same line; its place is remembered as a
  possible simple key, and the key token is inserted there when the
  `:` comes.  While a possible key may still become a key, the token
  before it cannot be handed on, so the queue is filled until no
  possible key waits at its head.

  Where the text breaks the rules, the scanner stops with an error
  that names the problem, the place where it was found, and the
  construct being read.

  Key definitions include:
    * `Scanner`, `ScanM`
    * `fetchNextToken`, `fetchMoreTokens`
-/

namespace OptionGrammar.Yaml

------------------------------------------------------------
-- Characters
------------------------------------------------------------

def isBreakChar (c : Char) : Bool :=
  c == '\n' || c == '\r' || c == '\x85' || c == '\u2028' || c == '\u2029'

/- Whether a character is a space or a tab. -/
def isBlankChar (c : Char) : Bool := c == ' ' || c == '\t'

/- Whether a character breaks a line or stands for the end of the text. -/
def isBreakOrEnd (c : Char) : Bool := isBreakChar c || c == '\x00'

/- Whether a character is blank, breaks a line or stands for the end. -/
def isBlankOrEnd (c : Char) : Bool := isBlankChar c || isBreakOrEnd c

/- Whether a character may stand in an anchor or a tag handle. -/
def isWordChar (c : Char) : Bool :=
  ('0' ≤ c && c ≤ '9') || ('A' ≤ c && c ≤ 'Z') || ('a' ≤ c && c ≤ 'z') || c == '_' || c == '-'

def hexDigitValue? (c : Char) : Option Nat :=
  if '0' ≤ c && c ≤ '9' then some (c.toNat - '0'.toNat)
  else if 'a' ≤ c && c ≤ 'f' then some (c.toNat - 'a'.toNat + 10)
  else if 'A' ≤ c && c ≤ 'F' then some (c.toNat - 'A'.toNat + 10)
  else none

/- Insert an element before position `n` of a list. -/
def insertAt {α : Type} (n : Nat) (a : α) : List α → List α
  | [] => [a]
  | x :: xs => match n with
    | 0 => a :: x :: xs
    | k + 1 => x :: insertAt k a xs

------------------------------------------------------------
-- The state
------------------------------------------------------------

/- A place where a simple key may start. -/
structure SimpleKey where
  possible : Bool := false
  required : Bool := false
  tokenNumber : Nat := 0
  mark : Mark := {}
  index : Nat := 0
  deriving Repr, Inhabited

structure Scanner where
  text : Array Char
  pos : Nat := 0
  /- The place in bytes. -/
  index : Nat := 0
  line : Nat := 0
  column : Nat := 0
  /- The tokens scanned and not yet taken, first first. -/
  queue : List Token := []
  /- How many tokens were taken. -/
  taken : Nat := 0
  /- Whether the head of the queue may be taken. -/
  available : Bool := false
  indent : Int := -1
  indents : List Int := []
  keyAllowed : Bool := false
  /- The possible simple keys, one per flow level, innermost first. -/
  keys : List SimpleKey := []
  flowLevel : Nat := 0
  started : Bool := false
  deriving Inhabited

namespace Scanner

/- The character `k` places ahead; NUL past the end. -/
def ahead (s : Scanner) (k : Nat) : Char := s.text.getD (s.pos + k) '\x00'

def mark (s : Scanner) : Mark := ⟨s.line, s.column⟩

/- A bound on the steps of any loop over the rest of the text. -/
def remaining (s : Scanner) : Nat := s.text.size - s.pos + 2

end Scanner

/- Scanning: a state over the scanner that may stop with an error. -/
abbrev ScanM := StateT Scanner (Except YamlError)

def peekAt (k : Nat) : ScanM Char := do return (← get).ahead k

/- Stop with an error at the current place. -/
def scanError {α : Type} (context : Option String) (contextMark : Mark) (problem : String) :
    ScanM α := do
  throw (.malformed problem (← get).mark (context.map (·, contextMark)))

/- Move past one character of a line. -/
def skipChar : ScanM Unit := modify fun s =>
  { s with pos := s.pos + 1, index := s.index + (s.ahead 0).utf8Size, column := s.column + 1 }

def skipLine : ScanM Unit := modify fun s =>
  if s.ahead 0 == '\r' && s.ahead 1 == '\n' then
    { s with pos := s.pos + 2, index := s.index + 2, column := 0, line := s.line + 1 }
  else if isBreakChar (s.ahead 0) then
    { s with pos := s.pos + 1, index := s.index + (s.ahead 0).utf8Size, column := 0, line := s.line + 1 }
  else s

/- Move past one character and add it to a text. -/
def readChar (acc : String) : ScanM String := do
  let c ← peekAt 0
  skipChar
  return acc.push c

/- Move past a line break and add it to a text: carriage returns
    and next-line characters become line feeds. -/
def readLine (acc : String) : ScanM String := do
  let s ← get
  let c := s.ahead 0
  if c == '\r' || c == '\n' || c == '\x85' then
    skipLine
    return acc.push '\n'
  else if c == '\u2028' || c == '\u2029' then
    skipLine
    return acc.push c
  else return acc

/- Move past characters while they pass a test. -/
def skipWhile (p : Scanner → Bool) : ScanM Unit := do
  for _ in [0:(← get).remaining] do
    if p (← get) then skipChar else break

/- Move past characters while they pass a test, adding them to a text. -/
def readWhile (p : Char → Bool) (acc : String) : ScanM String := do
  let mut acc := acc
  for _ in [0:(← get).remaining] do
    if p (← peekAt 0) then acc ← readChar acc else break
  return acc

/- Add a token at the end of the queue. -/
def enqueue (t : Token) : ScanM Unit := modify fun s => { s with queue := s.queue ++ [t] }

------------------------------------------------------------
-- Simple keys and indentation
------------------------------------------------------------

/- The error of a required simple key without its `:`. -/
def missingColon {α : Type} (k : SimpleKey) : ScanM α :=
  scanError (some "while scanning a simple key") k.mark "could not find expected ':'"

/- Forget possible keys that can no longer be keys: those on an
    earlier line or more than 1024 bytes back. -/
def staleSimpleKeys : ScanM Unit := do
  let s ← get
  let stale := fun (k : SimpleKey) => k.possible && (k.mark.line < s.line || k.index + 1024 < s.index)
  match s.keys.reverse.find? fun k => stale k && k.required with
  | some k => missingColon k
  | none => set { s with keys := s.keys.map fun k => if stale k then { k with possible := false } else k }

/- Forget the possible key of the current flow level. -/
def removeSimpleKey : ScanM Unit := do
  let s ← get
  match s.keys with
  | k :: rest =>
      if k.possible && k.required then missingColon k
      set { s with keys := { k with possible := false } :: rest }
  | [] => pure ()

/- Remember the current place as a possible key, if a key may start here. -/
def saveSimpleKey : ScanM Unit := do
  let s ← get
  if s.keyAllowed then
    let key : SimpleKey :=
      { possible := true
        required := s.flowLevel == 0 && s.indent == (s.column : Int)
        tokenNumber := s.taken + s.queue.length
        mark := s.mark
        index := s.index }
    removeSimpleKey
    modify fun s => { s with keys := key :: s.keys.tail }

def increaseFlowLevel : ScanM Unit :=
  modify fun s => { s with keys := {} :: s.keys, flowLevel := s.flowLevel + 1 }

def decreaseFlowLevel : ScanM Unit :=
  modify fun s => if s.flowLevel > 0 then { s with flowLevel := s.flowLevel - 1, keys := s.keys.tail } else s

/- Open a block collection at a deeper column: its start token goes at
    the end of the queue, or at the place of a simple key. -/
def rollIndent (column : Int) (number : Option Nat) (kind : TokenKind) (mark : Mark) : ScanM Unit := do
  let s ← get
  if s.flowLevel == 0 && s.indent < column then
    set { s with indents := s.indent :: s.indents, indent := column }
    let t : Token := ⟨kind, mark, mark⟩
    match number with
    | none => enqueue t
    | some n => modify fun s => { s with queue := insertAt (n - s.taken) t s.queue }

/- Close the block collections deeper than a column. -/
def unrollIndent (column : Int) : ScanM Unit := do
  if (← get).flowLevel == 0 then
    for _ in [0:(← get).indents.length + 1] do
      let s ← get
      if s.indent > column then
        enqueue ⟨.blockEnd, s.mark, s.mark⟩
        modify fun s => match s.indents with
          | i :: rest => { s with indent := i, indents := rest }
          | [] => { s with indent := -1 }
      else break

------------------------------------------------------------
-- Scalars
------------------------------------------------------------

/- Whether the text at the current place is a document marker
    `---` or `...` at the start of a line. -/
def atDocumentMarker (s : Scanner) : Bool :=
  s.column == 0 &&
  ((s.ahead 0 == '-' && s.ahead 1 == '-' && s.ahead 2 == '-') ||
   (s.ahead 0 == '.' && s.ahead 1 == '.' && s.ahead 2 == '.')) &&
  isBlankOrEnd (s.ahead 3)

/- Join the text between two runs of a scalar: a single line break
    folds into a space, further breaks stay, blanks stay. -/
def joinGap (text leadingBreak trailingBreaks whitespaces : String) (leadingBlanks : Bool) : String :=
  if leadingBlanks then
    if leadingBreak.startsWith "\n" then
      if trailingBreaks.isEmpty then text.push ' ' else text ++ trailingBreaks
    else text ++ leadingBreak ++ trailingBreaks
  else text ++ whitespaces

def scanPlainScalar : ScanM Token := do
  let s0 ← get
  let start := s0.mark
  let indent : Int := s0.indent + 1
  let mut text := ""
  let mut leadingBreak := ""
  let mut trailingBreaks := ""
  let mut whitespaces := ""
  let mut leadingBlanks := false
  let mut stop := start
  for _ in [0:s0.remaining] do
    let s ← get
    if atDocumentMarker s || s.ahead 0 == '#' then break
    for _ in [0:s.remaining] do
      let s ← get
      let c := s.ahead 0
      if isBlankOrEnd c then break
      if s.flowLevel > 0 && c == ':' &&
          [',', '?', '[', ']', '{', '}'].contains (s.ahead 1) then
        scanError (some "while scanning a plain scalar") start "found unexpected ':'"
      if (c == ':' && isBlankOrEnd (s.ahead 1)) ||
          (s.flowLevel > 0 && [',', '[', ']', '{', '}'].contains c) then break
      if leadingBlanks || !whitespaces.isEmpty then
        text := joinGap text leadingBreak trailingBreaks whitespaces leadingBlanks
        leadingBreak := ""
        trailingBreaks := ""
        whitespaces := ""
        leadingBlanks := false
      text ← readChar text
      stop := (← get).mark
    let s ← get
    if !(isBlankChar (s.ahead 0) || isBreakChar (s.ahead 0)) then break
    for _ in [0:s.remaining] do
      let s ← get
      let c := s.ahead 0
      if !(isBlankChar c || isBreakChar c) then break
      if isBlankChar c then
        if leadingBlanks && (s.column : Int) < indent && c == '\t' then
          scanError (some "while scanning a plain scalar") start
            "found a tab character that violates indentation"
        else if !leadingBlanks then whitespaces ← readChar whitespaces
        else skipChar
      else if !leadingBlanks then
        whitespaces := ""
        leadingBreak ← readLine leadingBreak
        leadingBlanks := true
      else
        trailingBreaks ← readLine trailingBreaks
    let s ← get
    if s.flowLevel == 0 && (s.column : Int) < indent then break
  if leadingBlanks then modify fun s => { s with keyAllowed := true }
  return ⟨.scalar text .plain, start, stop⟩

/- The character of a one-letter escape in a double-quoted scalar. -/
def simpleEscape? : Char → Option Char
  | '0' => some '\x00'
  | 'a' => some '\x07'
  | 'b' => some '\x08'
  | 't' => some '\t'
  | '\t' => some '\t'
  | 'n' => some '\n'
  | 'v' => some '\x0b'
  | 'f' => some '\x0c'
  | 'r' => some '\r'
  | 'e' => some '\x1b'
  | ' ' => some ' '
  | '"' => some '"'
  | '/' => some '/'
  | '\'' => some '\''
  | '\\' => some '\\'
  | 'N' => some '\x85'
  | '_' => some '\xa0'
  | 'L' => some '\u2028'
  | 'P' => some '\u2029'
  | _ => none

/- The number of hexadecimal digits of a code escape. -/
def codeEscapeLength? : Char → Option Nat
  | 'x' => some 2
  | 'u' => some 4
  | 'U' => some 8
  | _ => none

def scanFlowScalar (single : Bool) : ScanM Token := do
  let s0 ← get
  let start := s0.mark
  let quote := if single then '\'' else '"'
  skipChar
  let mut text := ""
  for _ in [0:s0.remaining] do
    let s ← get
    if atDocumentMarker s then
      scanError (some "while scanning a quoted scalar") start "found unexpected document indicator"
    if s.ahead 0 == '\x00' then
      scanError (some "while scanning a quoted scalar") start "found unexpected end of stream"
    let mut leadingBlanks := false
    for _ in [0:s.remaining] do
      let s ← get
      let c := s.ahead 0
      if isBlankOrEnd c then break
      if single && c == '\'' && s.ahead 1 == '\'' then
        text := text.push '\''
        skipChar
        skipChar
      else if c == quote then break
      else if !single && c == '\\' && isBreakChar (s.ahead 1) then
        skipChar
        skipLine
        leadingBlanks := true
        break
      else if !single && c == '\\' then
        let e := s.ahead 1
        match simpleEscape? e with
        | some ch =>
            text := text.push ch
            skipChar
            skipChar
        | none =>
            match codeEscapeLength? e with
            | none => scanError (some "while parsing a quoted scalar") start "found unknown escape character"
            | some len =>
                skipChar
                skipChar
                let s ← get
                let mut value := 0
                for k in [0:len] do
                  match hexDigitValue? (s.ahead k) with
                  | some d => value := value * 16 + d
                  | none =>
                      scanError (some "while parsing a quoted scalar") start
                        "did not find expected hexdecimal number"
                if (0xD800 ≤ value && value ≤ 0xDFFF) || value > 0x10FFFF then
                  scanError (some "while parsing a quoted scalar") start
                    "found invalid Unicode character escape code"
                text := text.push (Char.ofNat value)
                for _ in [0:len] do skipChar
      else
        text ← readChar text
    let s ← get
    if s.ahead 0 == quote then break
    let mut leadingBreak := ""
    let mut trailingBreaks := ""
    let mut whitespaces := ""
    for _ in [0:s.remaining] do
      let s ← get
      let c := s.ahead 0
      if !(isBlankChar c || isBreakChar c) then break
      if isBlankChar c then
        if !leadingBlanks then whitespaces ← readChar whitespaces else skipChar
      else if !leadingBlanks then
        whitespaces := ""
        leadingBreak ← readLine leadingBreak
        leadingBlanks := true
      else
        trailingBreaks ← readLine trailingBreaks
    text := joinGap text leadingBreak trailingBreaks whitespaces leadingBlanks
  skipChar
  let stop := (← get).mark
  return ⟨.scalar text (if single then .singleQuoted else .doubleQuoted), start, stop⟩

/- Move past the indentation and empty lines before the next line of
    a block scalar, fixing the indentation if it is not yet known. -/
def scanBlockBreaks (indent : Nat) (start : Mark) (breaks : String) : ScanM (Nat × String) := do
  let mut breaks := breaks
  let mut maxIndent := 0
  for _ in [0:(← get).remaining] do
    skipWhile fun s => (indent == 0 || s.column < indent) && s.ahead 0 == ' '
    let s ← get
    if s.column > maxIndent then maxIndent := s.column
    if (indent == 0 || s.column < indent) && s.ahead 0 == '\t' then
      scanError (some "while scanning a block scalar") start
        "found a tab character where an indentation space is expected"
    if !isBreakChar (s.ahead 0) then break
    breaks ← readLine breaks
  if indent == 0 then
    let s ← get
    let least := max (s.indent + 1) 1
    return (max maxIndent least.toNat, breaks)
  return (indent, breaks)

/- Scan a literal (`|`) or folded (`>`) block scalar. -/
def scanBlockScalar (literal : Bool) : ScanM Token := do
  let s0 ← get
  let start := s0.mark
  skipChar
  let mut chomping : Int := 0
  let mut increment := 0
  let c ← peekAt 0
  if c == '+' || c == '-' then
    chomping := if c == '+' then 1 else -1
    skipChar
    let d ← peekAt 0
    if '0' ≤ d && d ≤ '9' then
      if d == '0' then
        scanError (some "while scanning a block scalar") start "found an indentation indicator equal to 0"
      increment := d.toNat - '0'.toNat
      skipChar
  else if '0' ≤ c && c ≤ '9' then
    if c == '0' then
      scanError (some "while scanning a block scalar") start "found an indentation indicator equal to 0"
    increment := c.toNat - '0'.toNat
    skipChar
    let d ← peekAt 0
    if d == '+' || d == '-' then
      chomping := if d == '+' then 1 else -1
      skipChar
  skipWhile fun s => isBlankChar (s.ahead 0)
  if (← peekAt 0) == '#' then skipWhile fun s => !isBreakOrEnd (s.ahead 0)
  if !isBreakOrEnd (← peekAt 0) then
    scanError (some "while scanning a block scalar") start "did not find expected comment or line break"
  if isBreakChar (← peekAt 0) then skipLine
  let s1 ← get
  let indent0 : Nat :=
    if increment > 0 then (if s1.indent ≥ 0 then (s1.indent + increment).toNat else increment) else 0
  let (indent, breaks) ← scanBlockBreaks indent0 start ""
  let mut trailingBreaks := breaks
  let mut text := ""
  let mut leadingBreak := ""
  let mut leadingBlank := false
  for _ in [0:s1.remaining] do
    let s ← get
    if !(s.column == indent && s.ahead 0 != '\x00') then break
    let trailingBlank := isBlankChar (s.ahead 0)
    if !literal && leadingBreak.startsWith "\n" && !leadingBlank && !trailingBlank then
      if trailingBreaks.isEmpty then text := text.push ' '
      leadingBreak := ""
    else
      text := text ++ leadingBreak
      leadingBreak := ""
    text := text ++ trailingBreaks
    trailingBreaks := ""
    leadingBlank := isBlankChar (s.ahead 0)
    text ← readWhile (fun c => !isBreakOrEnd c) text
    leadingBreak ← readLine leadingBreak
    let (_, more) ← scanBlockBreaks indent start ""
    trailingBreaks := more
  if chomping != -1 then text := text ++ leadingBreak
  if chomping == 1 then text := text ++ trailingBreaks
  let stop := (← get).mark
  return ⟨.scalar text (if literal then .literal else .folded), start, stop⟩

------------------------------------------------------------
-- Anchors, tags and directives
------------------------------------------------------------

/- Scan an anchor (`&name`) or an alias (`*name`). -/
def scanAnchor (isAlias : Bool) : ScanM Token := do
  let start := (← get).mark
  skipChar
  let name ← readWhile isWordChar ""
  let stop := (← get).mark
  let c ← peekAt 0
  if name.isEmpty || !(isBlankOrEnd c || ['?', ':', ',', ']', '}', '%', '@', '`'].contains c) then
    scanError (some (if isAlias then "while scanning an alias" else "while scanning an anchor")) start
      "did not find expected alphabetic or numeric character"
  return ⟨if isAlias then .alias name else .anchor name, start, stop⟩

/- Whether a character may stand in a tag URI. -/
def isUriChar (inVerbatim : Bool) (c : Char) : Bool :=
  isWordChar c || [';', '/', '?', ':', '@', '&', '=', '+', '$', '.', '%', '!', '~', '*', '\'', '(', ')'].contains c ||
  (inVerbatim && [',', '[', ']'].contains c)

/- Scan the characters of a tag URI, decoding `%` escapes. -/
def scanTagUri (inVerbatim directive : Bool) (head : String) (start : Mark) : ScanM String := do
  let mut text := String.ofList (head.toList.drop 1)
  let mut length := head.length
  let ctx := if directive then "while parsing a %TAG directive" else "while parsing a tag"
  for _ in [0:(← get).remaining] do
    let s ← get
    let c := s.ahead 0
    if !isUriChar inVerbatim c then break
    if c == '%' then
      match hexDigitValue? (s.ahead 1), hexDigitValue? (s.ahead 2) with
      | some a, some b =>
          let octet := a * 16 + b
          if octet ≥ 0x80 then
            scanError (some ctx) start "found an incorrect leading UTF-8 octet"
          text := text.push (Char.ofNat octet)
          skipChar
          skipChar
          skipChar
      | _, _ => scanError (some ctx) start "did not find URI escaped octet"
    else
      text ← readChar text
    length := length + 1
  if length == 0 then scanError (some ctx) start "did not find expected tag URI"
  return text

/- Scan a tag handle: `!`, `!!` or `!word!`. -/
def scanTagHandle (directive : Bool) (start : Mark) : ScanM String := do
  if (← peekAt 0) != '!' then
    scanError (some (if directive then "while scanning a tag directive" else "while scanning a tag")) start
      "did not find expected '!'"
  let mut handle ← readChar ""
  handle ← readWhile isWordChar handle
  if (← peekAt 0) == '!' then handle ← readChar handle
  else if directive && handle != "!" then
    scanError (some "while parsing a tag directive") start "did not find expected '!'"
  return handle

/- Scan a tag: `!<uri>`, `!handle!suffix` or `!suffix`. -/
def scanTag : ScanM Token := do
  let start := (← get).mark
  let mut handle := ""
  let mut suffix := ""
  if (← peekAt 1) == '<' then
    skipChar
    skipChar
    suffix ← scanTagUri true false "" start
    if (← peekAt 0) != '>' then
      scanError (some "while scanning a tag") start "did not find the expected '>'"
    skipChar
  else
    let h ← scanTagHandle false start
    if h.length > 1 && h.startsWith "!" && h.endsWith "!" then
      handle := h
      suffix ← scanTagUri false false "" start
    else
      suffix ← scanTagUri false false h start
      handle := "!"
      if suffix.isEmpty then
        handle := ""
        suffix := "!"
  let s ← get
  if !isBlankOrEnd (s.ahead 0) && !(s.flowLevel > 0 && s.ahead 0 == ',') then
    scanError (some "while scanning a tag") start "did not find expected whitespace or line break"
  return ⟨.tag handle suffix, start, (← get).mark⟩

/- Scan one number of a `%YAML` directive. -/
def scanVersionNumber (start : Mark) : ScanM Nat := do
  let mut value := 0
  let mut length := 0
  for _ in [0:(← get).remaining] do
    let c ← peekAt 0
    if !('0' ≤ c && c ≤ '9') then break
    length := length + 1
    if length > 9 then
      scanError (some "while scanning a %YAML directive") start "found extremely long version number"
    value := value * 10 + (c.toNat - '0'.toNat)
    skipChar
  if length == 0 then
    scanError (some "while scanning a %YAML directive") start "did not find expected version number"
  return value

/- Scan a directive line: `%YAML` or `%TAG`. -/
def scanDirective : ScanM Token := do
  let start := (← get).mark
  skipChar
  let name ← readWhile isWordChar ""
  if name.isEmpty then
    scanError (some "while scanning a directive") start "could not find expected directive name"
  if !isBlankOrEnd (← peekAt 0) then
    scanError (some "while scanning a directive") start "found unexpected non-alphabetical character"
  let kind ← if name == "YAML" then do
      skipWhile fun s => isBlankChar (s.ahead 0)
      let major ← scanVersionNumber start
      if (← peekAt 0) != '.' then
        scanError (some "while scanning a %YAML directive") start
          "did not find expected digit or '.' character"
      skipChar
      let minor ← scanVersionNumber start
      pure (TokenKind.versionDirective major minor)
    else if name == "TAG" then do
      skipWhile fun s => isBlankChar (s.ahead 0)
      let handle ← scanTagHandle true start
      if !isBlankChar (← peekAt 0) then
        scanError (some "while scanning a %TAG directive") start "did not find expected whitespace"
      skipWhile fun s => isBlankChar (s.ahead 0)
      let pfx ← scanTagUri true true "" start
      if !isBlankOrEnd (← peekAt 0) then
        scanError (some "while scanning a %TAG directive") start
          "did not find expected whitespace or line break"
      pure (TokenKind.tagDirective handle pfx)
    else scanError (some "while scanning a directive") start "found unknown directive name"
  let stop := (← get).mark
  skipWhile fun s => isBlankChar (s.ahead 0)
  if (← peekAt 0) == '#' then skipWhile fun s => !isBreakOrEnd (s.ahead 0)
  if !isBreakOrEnd (← peekAt 0) then
    scanError (some "while scanning a directive") start "did not find expected comment or line break"
  if isBreakChar (← peekAt 0) then skipLine
  return ⟨kind, start, stop⟩

------------------------------------------------------------
-- Fetching tokens
------------------------------------------------------------

/- Consume one indicator character and queue its token. -/
def takeIndicatorOf (kind : TokenKind) (width : Nat) : ScanM Unit := do
  let start := (← get).mark
  for _ in [0:width] do skipChar
  enqueue ⟨kind, start, (← get).mark⟩

def fetchStreamStart : ScanM Unit := do
  modify fun s => { s with indent := -1, keys := [{}], keyAllowed := true, started := true }
  let m := (← get).mark
  enqueue ⟨.streamStart, m, m⟩

/- End the stream, closing every open block collection. -/
def fetchStreamEnd : ScanM Unit := do
  modify fun s => if s.column != 0 then { s with column := 0, line := s.line + 1 } else s
  unrollIndent (-1)
  removeSimpleKey
  modify fun s => { s with keyAllowed := false }
  let m := (← get).mark
  enqueue ⟨.streamEnd, m, m⟩

def fetchDirective : ScanM Unit := do
  unrollIndent (-1)
  removeSimpleKey
  modify fun s => { s with keyAllowed := false }
  enqueue (← scanDirective)

def fetchDocumentIndicator (kind : TokenKind) : ScanM Unit := do
  unrollIndent (-1)
  removeSimpleKey
  modify fun s => { s with keyAllowed := false }
  takeIndicatorOf kind 3

/- The start of a flow collection, `[` or `{`. -/
def fetchFlowCollectionStart (kind : TokenKind) : ScanM Unit := do
  saveSimpleKey
  increaseFlowLevel
  modify fun s => { s with keyAllowed := true }
  takeIndicatorOf kind 1

/- The end of a flow collection, `]` or `}`. -/
def fetchFlowCollectionEnd (kind : TokenKind) : ScanM Unit := do
  removeSimpleKey
  decreaseFlowLevel
  modify fun s => { s with keyAllowed := false }
  takeIndicatorOf kind 1

def fetchFlowEntry : ScanM Unit := do
  removeSimpleKey
  modify fun s => { s with keyAllowed := true }
  takeIndicatorOf .flowEntry 1

def fetchBlockEntry : ScanM Unit := do
  let s ← get
  if s.flowLevel == 0 then
    if !s.keyAllowed then
      scanError none s.mark "block sequence entries are not allowed in this context"
    rollIndent s.column none .blockSequenceStart s.mark
  removeSimpleKey
  modify fun s => { s with keyAllowed := true }
  takeIndicatorOf .blockEntry 1

def fetchKey : ScanM Unit := do
  let s ← get
  if s.flowLevel == 0 then
    if !s.keyAllowed then
      scanError none s.mark "mapping keys are not allowed in this context"
    rollIndent s.column none .blockMappingStart s.mark
  removeSimpleKey
  modify fun s => { s with keyAllowed := s.flowLevel == 0 }
  takeIndicatorOf .key 1

/- A value indicator `:`; a possible simple key before it becomes a key. -/
def fetchValue : ScanM Unit := do
  let s ← get
  match s.keys with
  | k :: rest =>
      if k.possible then
        let keyToken : Token := ⟨.key, k.mark, k.mark⟩
        set { s with queue := insertAt (k.tokenNumber - s.taken) keyToken s.queue }
        rollIndent k.mark.column (some k.tokenNumber) .blockMappingStart k.mark
        modify fun s => { s with keys := { k with possible := false } :: rest, keyAllowed := false }
      else
        if s.flowLevel == 0 then
          if !s.keyAllowed then
            scanError none s.mark "mapping values are not allowed in this context"
          rollIndent s.column none .blockMappingStart s.mark
        modify fun s => { s with keyAllowed := s.flowLevel == 0 }
  | [] => pure ()
  takeIndicatorOf .value 1

def fetchAnchor (isAlias : Bool) : ScanM Unit := do
  saveSimpleKey
  modify fun s => { s with keyAllowed := false }
  enqueue (← scanAnchor isAlias)

def fetchTag : ScanM Unit := do
  saveSimpleKey
  modify fun s => { s with keyAllowed := false }
  enqueue (← scanTag)

def fetchBlockScalar (literal : Bool) : ScanM Unit := do
  removeSimpleKey
  modify fun s => { s with keyAllowed := true }
  enqueue (← scanBlockScalar literal)

def fetchFlowScalar (single : Bool) : ScanM Unit := do
  saveSimpleKey
  modify fun s => { s with keyAllowed := false }
  enqueue (← scanFlowScalar single)

def fetchPlainScalar : ScanM Unit := do
  saveSimpleKey
  modify fun s => { s with keyAllowed := false }
  enqueue (← scanPlainScalar)

/- Move past blanks, comments and line breaks up to the next token. -/
def scanToNextToken : ScanM Unit := do
  for _ in [0:(← get).remaining] do
    let s ← get
    if s.column == 0 && s.ahead 0 == '\uFEFF' then skipChar
    skipWhile fun s => s.ahead 0 == ' ' || ((s.flowLevel > 0 || !s.keyAllowed) && s.ahead 0 == '\t')
    if (← peekAt 0) == '#' then skipWhile fun s => !isBreakOrEnd (s.ahead 0)
    if isBreakChar (← peekAt 0) then
      skipLine
      if (← get).flowLevel == 0 then modify fun s => { s with keyAllowed := true }
    else break

/- Whether a character can start a plain scalar here. -/
def startsPlain (s : Scanner) : Bool :=
  let c := s.ahead 0
  !(isBlankOrEnd c || "-?:,[]\x7b\x7d#&*!|>'\"%@`".toList.contains c) ||
  (c == '-' && !isBlankChar (s.ahead 1)) ||
  (s.flowLevel == 0 && (c == '?' || c == ':') && !isBlankOrEnd (s.ahead 1))

/- Scan the next token into the queue. -/
def fetchNextToken : ScanM Unit := do
  if !(← get).started then fetchStreamStart
  else
    scanToNextToken
    staleSimpleKeys
    unrollIndent (← get).column
    let s ← get
    let c := s.ahead 0
    if c == '\x00' then fetchStreamEnd
    else if s.column == 0 && c == '%' then fetchDirective
    else if atDocumentMarker s && c == '-' then fetchDocumentIndicator .documentStart
    else if atDocumentMarker s && c == '.' then fetchDocumentIndicator .documentEnd
    else if c == '[' then fetchFlowCollectionStart .flowSequenceStart
    else if c == '{' then fetchFlowCollectionStart .flowMappingStart
    else if c == ']' then fetchFlowCollectionEnd .flowSequenceEnd
    else if c == '}' then fetchFlowCollectionEnd .flowMappingEnd
    else if c == ',' then fetchFlowEntry
    else if c == '-' && isBlankOrEnd (s.ahead 1) then fetchBlockEntry
    else if c == '?' && (s.flowLevel > 0 || isBlankOrEnd (s.ahead 1)) then fetchKey
    else if c == ':' && (s.flowLevel > 0 || isBlankOrEnd (s.ahead 1)) then fetchValue
    else if c == '*' then fetchAnchor true
    else if c == '&' then fetchAnchor false
    else if c == '!' then fetchTag
    else if c == '|' && s.flowLevel == 0 then fetchBlockScalar true
    else if c == '>' && s.flowLevel == 0 then fetchBlockScalar false
    else if c == '\'' then fetchFlowScalar true
    else if c == '"' then fetchFlowScalar false
    else if startsPlain s then fetchPlainScalar
    else
      scanError (some "while scanning for the next token") s.mark
        "found character that cannot start any token"

/- Whether the head of the queue cannot be handed on yet: the queue
    is empty, or a possible simple key waits at its head. -/
def needMoreTokens : ScanM Bool := do
  if (← get).queue.isEmpty then return true
  staleSimpleKeys
  let s ← get
  return s.keys.any fun k => k.possible && k.tokenNumber == s.taken

/- Scan until the head of the queue can be handed on. -/
def fetchMoreTokens : ScanM Unit := do
  for _ in [0:4 * (← get).remaining + 8] do
    if ← needMoreTokens then fetchNextToken else break
  modify fun s => { s with available := true }

/- The next token, scanning more text if needed. -/
def peekToken : ScanM Token := do
  if !(← get).available then fetchMoreTokens
  match (← get).queue with
  | t :: _ => return t
  | [] => return ⟨.streamEnd, (← get).mark, (← get).mark⟩

def skipToken : ScanM Unit :=
  modify fun s => { s with queue := s.queue.drop 1, taken := s.taken + 1, available := false }

end OptionGrammar.Yaml
