import OptionGrammar.Yaml.Scanner

/-
  Parsing YAML tokens into events.

  The parser turns the token stream into events: the start and end
  of the stream, of each document, of each sequence and mapping, and
  the scalars and aliases between them.  It is a machine whose state
  says what may come next; a stack keeps the states to return to
  when a nested node ends, and a second stack the places where the
  open collections began, for error messages.

  Tags written with a handle are resolved against the `%TAG`
  directives of the document and the two standard handles `!` and
  `!!`.  A key or value that is left out reads as an empty plain
  scalar.

  Key definitions include:
    * `EventKind`, `Event`
    * `ParseState`, `Parser`, `Parser.nextEvent`
-/

namespace OptionGrammar.Yaml

/- The kinds of events, with their contents. -/
inductive EventKind where
  | streamStart
  | streamEnd
  | documentStart (implicit : Bool)
  | documentEnd (implicit : Bool)
  | alias (name : String)
  | scalar (anchor tag : Option String) (value : String) (plainImplicit quotedImplicit : Bool)
      (style : ScalarStyle)
  | sequenceStart (anchor tag : Option String) (implicit flow : Bool)
  | sequenceEnd
  | mappingStart (anchor tag : Option String) (implicit flow : Bool)
  | mappingEnd
  deriving BEq, Repr, Inhabited

/- An event with the places where it starts and ends. -/
structure Event where
  kind : EventKind
  start : Mark
  stop : Mark
  deriving BEq, Repr, Inhabited

inductive ParseState where
  | streamStart
  | implicitDocumentStart
  | documentStart
  | documentContent
  | documentEnd
  | blockNode
  | blockSequenceFirstEntry
  | blockSequenceEntry
  | indentlessSequenceEntry
  | blockMappingFirstKey
  | blockMappingKey
  | blockMappingValue
  | flowSequenceFirstEntry
  | flowSequenceEntry
  | flowSequenceEntryMappingKey
  | flowSequenceEntryMappingValue
  | flowSequenceEntryMappingEnd
  | flowMappingFirstKey
  | flowMappingKey
  | flowMappingValue
  | flowMappingEmptyValue
  | finished
  deriving BEq, DecidableEq, Repr, Inhabited

structure Parser where
  scanner : Scanner
  state : ParseState := .streamStart
  states : List ParseState := []
  marks : List Mark := []
  tagDirectives : List (String × String) := []
  streamEnded : Bool := false
  deriving Inhabited

/- Parsing: a state over the parser that may stop with an error. -/
abbrev ParseM := StateT Parser (Except YamlError)

namespace Parser

/- A parser at the start of a text. -/
def ofText (text : String) : Parser := { scanner := { text := text.toList.toArray } }

end Parser

/- Run a scanning step on the parser's scanner. -/
def liftScan {α : Type} (m : ScanM α) : ParseM α := do
  let p ← get
  match m.run p.scanner with
  | .ok (a, sc) =>
      set { p with scanner := sc }
      return a
  | .error e => throw e

def peekTok : ParseM Token := liftScan peekToken

def skipTok : ParseM Unit := do
  let t ← peekTok
  liftScan skipToken
  if t.kind == .streamEnd then modify fun p => { p with streamEnded := true }

/- Stop with an error at a place. -/
def parseError {α : Type} (problem : String) (mark : Mark) : ParseM α :=
  throw (.malformed problem mark none)

/- Stop with an error at a place, naming the construct being read. -/
def parseErrorIn {α : Type} (context : String) (contextMark : Mark) (problem : String) (mark : Mark) :
    ParseM α :=
  throw (.malformed problem mark (some (context, contextMark)))

def goTo (st : ParseState) : ParseM Unit := modify fun p => { p with state := st }

def pushState (st : ParseState) : ParseM Unit := modify fun p => { p with states := st :: p.states }

def popState : ParseM Unit := modify fun p =>
  match p.states with
  | st :: rest => { p with state := st, states := rest }
  | [] => { p with state := .finished }

def pushMark (m : Mark) : ParseM Unit := modify fun p => { p with marks := m :: p.marks }

/- Forget where the innermost collection began; gives that place. -/
def popMark : ParseM Mark := do
  let p ← get
  match p.marks with
  | m :: rest =>
      set { p with marks := rest }
      return m
  | [] => return {}

/- An empty plain scalar at a place. -/
def emptyScalar (m : Mark) : Event := ⟨.scalar none none "" true false .plain, m, m⟩

/- The tag a handle and suffix stand for. -/
def resolveTag (start : Mark) (tagMark : Mark) (handle suffix : String) : ParseM (Option String) := do
  if handle.isEmpty then return some suffix
  match (← get).tagDirectives.find? (·.1 == handle) with
  | some (_, pfx) => return some (pfx ++ suffix)
  | none => parseErrorIn "while parsing a node" start "found undefined tag handle" tagMark

def defaultTagDirectives : List (String × String) := [("!", "!"), ("!!", "tag:yaml.org,2002:")]

def processDirectives : ParseM Unit := do
  let mut version := false
  let mut directives : List (String × String) := []
  for _ in [0:(← get).scanner.remaining] do
    let t ← peekTok
    match t.kind with
    | .versionDirective major minor =>
        if version then parseError "found duplicate %YAML directive" t.start
        if major != 1 || (minor != 1 && minor != 2) then
          parseError "found incompatible YAML document" t.start
        version := true
        skipTok
    | .tagDirective handle pfx =>
        if directives.any (·.1 == handle) then parseError "found duplicate %TAG directive" t.start
        directives := directives ++ [(handle, pfx)]
        skipTok
    | _ => break
  let extra := defaultTagDirectives.filter fun (h, _) => !directives.any (·.1 == h)
  modify fun p => { p with tagDirectives := directives ++ extra }

------------------------------------------------------------
-- Nodes
------------------------------------------------------------

/- Parse a node: an alias, a scalar, or the start of a collection,
    after an optional anchor and tag. -/
def parseNode (block indentless : Bool) : ParseM Event := do
  let t ← peekTok
  if let .alias name := t.kind then
    popState
    skipTok
    return ⟨.alias name, t.start, t.stop⟩
  let start := t.start
  let mut stop := t.start
  let mut anchor : Option String := none
  let mut tagParts : Option (String × String × Mark) := none
  let mut t := t
  match t.kind with
  | .anchor a =>
      anchor := some a
      stop := t.stop
      skipTok
      t ← peekTok
      if let .tag h sfx := t.kind then
        tagParts := some (h, sfx, t.start)
        stop := t.stop
        skipTok
        t ← peekTok
  | .tag h sfx =>
      tagParts := some (h, sfx, t.start)
      stop := t.stop
      skipTok
      t ← peekTok
      if let .anchor a := t.kind then
        anchor := some a
        stop := t.stop
        skipTok
        t ← peekTok
  | _ => pure ()
  let tag ← match tagParts with
    | some (h, sfx, m) => resolveTag start m h sfx
    | none => pure none
  let implicit := match tag with
    | none => true
    | some tg => tg.isEmpty
  if indentless && t.kind == .blockEntry then
    goTo .indentlessSequenceEntry
    return ⟨.sequenceStart anchor tag implicit false, start, t.stop⟩
  match t.kind with
  | .scalar value style =>
      let plainImplicit := (style == .plain && tag.isNone) || tag == some "!"
      let quotedImplicit := !plainImplicit && tag.isNone
      popState
      skipTok
      return ⟨.scalar anchor tag value plainImplicit quotedImplicit style, start, t.stop⟩
  | .flowSequenceStart =>
      goTo .flowSequenceFirstEntry
      return ⟨.sequenceStart anchor tag implicit true, start, t.stop⟩
  | .flowMappingStart =>
      goTo .flowMappingFirstKey
      return ⟨.mappingStart anchor tag implicit true, start, t.stop⟩
  | .blockSequenceStart =>
      if block then
        goTo .blockSequenceFirstEntry
        return ⟨.sequenceStart anchor tag implicit false, start, t.stop⟩
  | .blockMappingStart =>
      if block then
        goTo .blockMappingFirstKey
        return ⟨.mappingStart anchor tag implicit false, start, t.stop⟩
  | _ => pure ()
  if anchor.isSome || tag.isSome then
    popState
    return ⟨.scalar anchor tag "" implicit false .plain, start, stop⟩
  parseErrorIn (if block then "while parsing a block node" else "while parsing a flow node") start
    "did not find expected node content" t.start

------------------------------------------------------------
-- Documents
------------------------------------------------------------

def parseStreamStart : ParseM Event := do
  let t ← peekTok
  if t.kind != .streamStart then parseError "did not find expected <stream-start>" t.start
  goTo .implicitDocumentStart
  skipTok
  return ⟨.streamStart, t.start, t.start⟩

/- The start of a document, or the end of the stream. -/
def parseDocumentStart (implicit : Bool) : ParseM Event := do
  let mut t ← peekTok
  if !implicit then
    for _ in [0:(← get).scanner.remaining] do
      if t.kind == .documentEnd then
        skipTok
        t ← peekTok
      else break
  if implicit && !t.kind.isDirective && t.kind != .documentStart && t.kind != .streamEnd then
    processDirectives
    pushState .documentEnd
    goTo .blockNode
    return ⟨.documentStart true, t.start, t.start⟩
  else if t.kind != .streamEnd then
    let start := t.start
    processDirectives
    let t2 ← peekTok
    if t2.kind != .documentStart then parseError "did not find expected <document start>" t2.start
    pushState .documentEnd
    goTo .documentContent
    skipTok
    return ⟨.documentStart false, start, t2.stop⟩
  else
    goTo .finished
    skipTok
    return ⟨.streamEnd, t.start, t.stop⟩

def parseDocumentContent : ParseM Event := do
  let t ← peekTok
  if t.kind.isDirective || t.kind == .documentStart || t.kind == .documentEnd || t.kind == .streamEnd then
    popState
    return emptyScalar t.start
  parseNode true false

def parseDocumentEnd : ParseM Event := do
  let t ← peekTok
  let start := t.start
  let mut stop := t.start
  let mut implicit := true
  if t.kind == .documentEnd then
    stop := t.stop
    skipTok
    implicit := false
  modify fun p => { p with tagDirectives := [] }
  goTo .documentStart
  return ⟨.documentEnd implicit, start, stop⟩

------------------------------------------------------------
-- Block collections
------------------------------------------------------------

/- An entry of a block sequence, or its end. -/
def parseBlockSequenceEntry (first : Bool) : ParseM Event := do
  if first then
    pushMark (← peekTok).start
    skipTok
  let t ← peekTok
  match t.kind with
  | .blockEntry =>
      let m := t.stop
      skipTok
      let t ← peekTok
      if t.kind != .blockEntry && t.kind != .blockEnd then
        pushState .blockSequenceEntry
        parseNode true false
      else
        goTo .blockSequenceEntry
        return emptyScalar m
  | .blockEnd =>
      popState
      let _ ← popMark
      skipTok
      return ⟨.sequenceEnd, t.start, t.stop⟩
  | _ =>
      parseErrorIn "while parsing a block collection" (← popMark)
        "did not find expected '-' indicator" t.start

/- An entry of a sequence written at the indentation of its mapping. -/
def parseIndentlessSequenceEntry : ParseM Event := do
  let t ← peekTok
  if t.kind == .blockEntry then
    let m := t.stop
    skipTok
    let t ← peekTok
    if t.kind != .blockEntry && t.kind != .key && t.kind != .value && t.kind != .blockEnd then
      pushState .indentlessSequenceEntry
      parseNode true false
    else
      goTo .indentlessSequenceEntry
      return emptyScalar m
  else
    popState
    return ⟨.sequenceEnd, t.start, t.start⟩

/- A key of a block mapping, or its end. -/
def parseBlockMappingKey (first : Bool) : ParseM Event := do
  if first then
    pushMark (← peekTok).start
    skipTok
  let t ← peekTok
  match t.kind with
  | .key =>
      let m := t.stop
      skipTok
      let t ← peekTok
      if t.kind != .key && t.kind != .value && t.kind != .blockEnd then
        pushState .blockMappingValue
        parseNode true true
      else
        goTo .blockMappingValue
        return emptyScalar m
  | .blockEnd =>
      popState
      let _ ← popMark
      skipTok
      return ⟨.mappingEnd, t.start, t.stop⟩
  | _ =>
      parseErrorIn "while parsing a block mapping" (← popMark) "did not find expected key" t.start

def parseBlockMappingValue : ParseM Event := do
  let t ← peekTok
  if t.kind == .value then
    let m := t.stop
    skipTok
    let t ← peekTok
    if t.kind != .key && t.kind != .value && t.kind != .blockEnd then
      pushState .blockMappingKey
      parseNode true true
    else
      goTo .blockMappingKey
      return emptyScalar m
  else
    goTo .blockMappingKey
    return emptyScalar t.start

------------------------------------------------------------
-- Flow collections
------------------------------------------------------------

/- An entry of a flow sequence, or its end. -/
def parseFlowSequenceEntry (first : Bool) : ParseM Event := do
  if first then
    pushMark (← peekTok).start
    skipTok
  let mut t ← peekTok
  if t.kind != .flowSequenceEnd then
    if !first then
      if t.kind == .flowEntry then
        skipTok
        t ← peekTok
      else
        parseErrorIn "while parsing a flow sequence" (← popMark)
          "did not find expected ',' or ']'" t.start
    if t.kind == .key then
      goTo .flowSequenceEntryMappingKey
      skipTok
      return ⟨.mappingStart none none true true, t.start, t.stop⟩
    else if t.kind != .flowSequenceEnd then
      pushState .flowSequenceEntry
      return ← parseNode false false
  popState
  let _ ← popMark
  skipTok
  return ⟨.sequenceEnd, t.start, t.stop⟩

/- The key of a one-pair mapping inside a flow sequence. -/
def parseFlowSequenceEntryMappingKey : ParseM Event := do
  let t ← peekTok
  if t.kind != .value && t.kind != .flowEntry && t.kind != .flowSequenceEnd then
    pushState .flowSequenceEntryMappingValue
    parseNode false false
  else
    goTo .flowSequenceEntryMappingValue
    return emptyScalar t.start

/- The value of a one-pair mapping inside a flow sequence. -/
def parseFlowSequenceEntryMappingValue : ParseM Event := do
  let t ← peekTok
  if t.kind == .value then
    skipTok
    let t ← peekTok
    if t.kind != .flowEntry && t.kind != .flowSequenceEnd then
      pushState .flowSequenceEntryMappingEnd
      return ← parseNode false false
    goTo .flowSequenceEntryMappingEnd
    return emptyScalar t.start
  goTo .flowSequenceEntryMappingEnd
  return emptyScalar t.start

/- The end of a one-pair mapping inside a flow sequence. -/
def parseFlowSequenceEntryMappingEnd : ParseM Event := do
  let t ← peekTok
  goTo .flowSequenceEntry
  return ⟨.mappingEnd, t.start, t.start⟩

/- A key of a flow mapping, or its end. -/
def parseFlowMappingKey (first : Bool) : ParseM Event := do
  if first then
    pushMark (← peekTok).start
    skipTok
  let mut t ← peekTok
  if t.kind != .flowMappingEnd then
    if !first then
      if t.kind == .flowEntry then
        skipTok
        t ← peekTok
      else
        parseErrorIn "while parsing a flow mapping" (← popMark)
          "did not find expected ',' or '\x7d'" t.start
    if t.kind == .key then
      skipTok
      let t2 ← peekTok
      if t2.kind != .value && t2.kind != .flowEntry && t2.kind != .flowMappingEnd then
        pushState .flowMappingValue
        return ← parseNode false false
      goTo .flowMappingValue
      return emptyScalar t2.start
    else if t.kind != .flowMappingEnd then
      pushState .flowMappingEmptyValue
      return ← parseNode false false
  popState
  let _ ← popMark
  skipTok
  return ⟨.mappingEnd, t.start, t.stop⟩

/- A value of a flow mapping; an entry without `:` has an empty value. -/
def parseFlowMappingValue (empty : Bool) : ParseM Event := do
  let t ← peekTok
  if empty then
    goTo .flowMappingKey
    return emptyScalar t.start
  if t.kind == .value then
    skipTok
    let t ← peekTok
    if t.kind != .flowEntry && t.kind != .flowMappingEnd then
      pushState .flowMappingKey
      return ← parseNode false false
    goTo .flowMappingKey
    return emptyScalar t.start
  goTo .flowMappingKey
  return emptyScalar t.start

------------------------------------------------------------
-- The machine
------------------------------------------------------------

/- The next event, or nothing once the stream has ended. -/
def nextEvent : ParseM (Option Event) := do
  let p ← get
  if p.streamEnded || p.state == .finished then return none
  let e ← match p.state with
    | .streamStart => parseStreamStart
    | .implicitDocumentStart => parseDocumentStart true
    | .documentStart => parseDocumentStart false
    | .documentContent => parseDocumentContent
    | .documentEnd => parseDocumentEnd
    | .blockNode => parseNode true false
    | .blockSequenceFirstEntry => parseBlockSequenceEntry true
    | .blockSequenceEntry => parseBlockSequenceEntry false
    | .indentlessSequenceEntry => parseIndentlessSequenceEntry
    | .blockMappingFirstKey => parseBlockMappingKey true
    | .blockMappingKey => parseBlockMappingKey false
    | .blockMappingValue => parseBlockMappingValue
    | .flowSequenceFirstEntry => parseFlowSequenceEntry true
    | .flowSequenceEntry => parseFlowSequenceEntry false
    | .flowSequenceEntryMappingKey => parseFlowSequenceEntryMappingKey
    | .flowSequenceEntryMappingValue => parseFlowSequenceEntryMappingValue
    | .flowSequenceEntryMappingEnd => parseFlowSequenceEntryMappingEnd
    | .flowMappingFirstKey => parseFlowMappingKey true
    | .flowMappingKey => parseFlowMappingKey false
    | .flowMappingValue => parseFlowMappingValue false
    | .flowMappingEmptyValue => parseFlowMappingValue true
    | .finished => parseStreamStart
  return some e

end OptionGrammar.Yaml
