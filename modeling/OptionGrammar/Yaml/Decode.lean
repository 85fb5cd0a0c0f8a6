import OptionGrammar.Yaml.Document
import OptionGrammar.Yaml.Scalar

/-
  Reading values from the node events of a YAML document.

  A reader walks the events of a document from the first one.  An
  alias is read as the node it refers to, by going to that node's
  event and coming back after it.  When the events run out, the
  reading fails with the error that cut the document short, or with
  the end of the stream.

  A problem with the data is first raised without a place; the
  innermost node being read then gives it its path and the place of
  its event, so a problem is reported where it was found.  The
  ways of reading follow what each kind of value accepts:
    * a text: any scalar, whatever its tag or style;
    * an optional text: nothing for a plain null word without a tag
      or with the null tag, else a text;
    * a list: a sequence, or an empty plain scalar for no items;
    * a unit variant: a scalar naming it, or a local tag naming it on
      a null scalar; a sequence or mapping must carry such a tag;
    * anything else is skipped whole.

  What was found where something else was expected is described by
  the tag and style of a scalar: a plain scalar without a tag or
  with a local one as it resolves, a scalar with a core tag as that
  tag reads it, and any other scalar as a string.

  Key definitions include:
    * `NodePath`, `Fault`, `Cursor`, `DecodeM`
    * `readText`, `readOptionalText`, `readTexts`, `readVariant`, `skipNode`
-/

namespace OptionGrammar.Yaml

------------------------------------------------------------
-- Paths and failures
------------------------------------------------------------

/- The place of a node in the value being read. -/
inductive NodePath where
  | root
  | key (parent : NodePath) (name : String)
  | index (parent : NodePath) (i : Nat)
  /- The value of an entry whose key is not a scalar. -/
  | unknown (parent : NodePath)
  deriving BEq, Repr, Inhabited

/- A path as written in errors: `.` for the root, keys joined by
    dots, indexes in brackets, `?` for an entry without a scalar key. -/
def NodePath.render : NodePath → String
  | .root => "."
  | .key .root k => k
  | .key p k => p.render ++ "." ++ k
  | .index p i => p.render ++ "[" ++ toString i ++ "]"
  | .unknown .root => "?"
  | .unknown p => p.render ++ ".?"

/- A failure while reading: a problem with the data that has no
    place yet, or a finished error. -/
inductive Fault where
  | problem (p : DataProblem)
  | fatal (e : YamlError)
  deriving Inhabited

/- A reader's position in a document, with the count of aliases
    followed so far. -/
structure Cursor where
  doc : Document
  pos : Nat := 0
  jumps : Nat := 0

abbrev DecodeM := StateT Cursor (Except Fault)

/- The error of reading past the end of the stream. -/
def endOfStream : YamlError := .other "EOF while parsing a value"

/- The error of reading past the events of a document. -/
def Document.exhausted (d : Document) : YamlError := d.error.getD endOfStream

------------------------------------------------------------
-- Moving through events
------------------------------------------------------------

def peekItem : DecodeM (Item × Mark) := do
  let c ← get
  match c.doc.items[c.pos]? with
  | some im => pure im
  | none => throw (.fatal c.doc.exhausted)

/- Step past the event at the reader's position. -/
def advance : DecodeM Unit := modify fun c => { c with pos := c.pos + 1 }

/- The event at the reader's position, stepping past it. -/
def nextItem : DecodeM (Item × Mark) := do
  let im ← peekItem
  advance
  pure im

/- Give a problem raised by `act` the path and place of a node. -/
def placed {α : Type} (path : NodePath) (mark : Mark) (act : DecodeM α) : DecodeM α :=
  tryCatch act fun
    | .problem p => throw (.fatal (.data path.render p mark))
    | f => throw f

/- Run `act` at the event an anchor number leads to, then come back.
    Following more aliases than a hundred times the events fails. -/
def atAnchor {α : Type} (anchor : Nat) (act : DecodeM α) : DecodeM α := do
  let c ← get
  let jumps := c.jumps + 1
  if jumps > c.doc.items.size * 100 then throw (.fatal (.other "repetition limit exceeded"))
  match c.doc.target? anchor with
  | none => throw (.fatal (.other "unresolved alias"))
  | some target =>
      set { c with pos := target, jumps := jumps }
      let r ← act
      modify fun after => { after with pos := c.pos }
      pure r

/- Take the next node, following an alias to its node, and read it
    with `k`. -/
def withNextNode {α : Type} (k : Item → Mark → DecodeM α) : DecodeM α := do
  let (item, mark) ← nextItem
  match item with
  | .alias n => atAnchor n do
      let (target, targetMark) ← nextItem
      k target targetMark
  | _ => k item mark

/- Run `k` on the next node without taking it; an alias is taken and
    `k` runs at its node. -/
def withPeekedNode {α : Type} (k : DecodeM α) : DecodeM α := do
  let (item, _) ← peekItem
  match item with
  | .alias n => advance; atAnchor n k
  | _ => k

------------------------------------------------------------
-- Describing what was found
------------------------------------------------------------

def coreTag (name : String) : String := "tag:yaml.org,2002:" ++ name

/- The problem of a scalar found where something else was expected:
    read by its core tag, resolved when plain without a tag or with a
    local one, else a string. -/
def scalarMismatch (v : String) (style : ScalarStyle) (tag : Option String)
    (expected : String) : DataProblem :=
  let resolved := DataProblem.invalidType (PlainValue.unexpected v) expected
  let asString := DataProblem.invalidType (.string v) expected
  match tag with
  | some t =>
      if t == coreTag "bool" then
        match boolWord? v with
        | some b => .invalidType (.bool b) expected
        | none => .invalidValue (.string v) "a boolean"
      else if t == coreTag "int" then
        match integerText? v with
        | some f => .invalidType f expected
        | none => .invalidValue (.string v) "an integer"
      else if t == coreTag "float" then
        match floatBits? v with
        | some b => .invalidType (.float (floatText b)) expected
        | none => .invalidValue (.string v) "a float"
      else if t == coreTag "null" then
        if isNullWord v then .invalidType .unit expected else .invalidValue (.string v) "null"
      else if t.startsWith "!" && style == .plain then resolved
      else asString
  | none => if style == .plain then resolved else asString

/- The failure of a node found where something else was expected. -/
def mismatch (item : Item) (expected : String) : Fault :=
  match item with
  | .scalar v style tag => .problem (scalarMismatch v style tag expected)
  | .sequenceStart _ => .problem (.invalidType .sequence expected)
  | .mappingStart _ => .problem (.invalidType .map expected)
  | .void => .fatal endOfStream
  | _ => .fatal (.other "unexpected end of a collection")

------------------------------------------------------------
-- Reading values
------------------------------------------------------------

/- Read a text: any scalar gives its value. -/
def readText (path : NodePath) (expected : String) : DecodeM String :=
  withNextNode fun item mark => placed path mark do
    match item with
    | .scalar v _ _ => pure v
    | other => throw (mismatch other expected)

/- Whether the next node stands for something rather than null. -/
def presentAt : DecodeM Bool := do
  let (item, _) ← peekItem
  match item with
  | .scalar v style tag =>
      if style != .plain then pure true
      else
        match tag with
        | some t =>
            if t == coreTag "null" then
              if isNullWord v then pure false
              else throw (.problem (.invalidValue (.string v) "null"))
            else pure true
        | none => pure !(isNullWord v)
  | .void => pure false
  | _ => pure true

/- Read an optional text: nothing for a null node. -/
def readOptionalText (path : NodePath) : DecodeM (Option String) :=
  withPeekedNode do
    if ← presentAt then some <$> readText path "a string"
    else advance; pure none

/- Read a list of texts from a sequence, or none from an empty plain
    scalar. -/
def readTexts (path : NodePath) : DecodeM (List String) :=
  withNextNode fun item mark => placed path mark do
    match item with
    | .sequenceStart _ =>
        let mut out : Array String := #[]
        for _ in [0:(← get).doc.items.size] do
          let (next, _) ← peekItem
          match next with
          | .sequenceEnd => break
          | .void => break
          | _ => out := out.push (← readText (.index path out.size) "a string")
        let _ ← nextItem
        pure out.toList
    | .void => pure []
    | .scalar v style _ =>
        if v.isEmpty && style == .plain then pure [] else throw (mismatch item "a sequence")
    | other => throw (mismatch other "a sequence")

/- Skip one node with everything inside it. -/
def skipNode : DecodeM Unit := do
  let mut depth : Nat := 0
  for _ in [0:(← get).doc.items.size + 1] do
    let (item, _) ← nextItem
    match item with
    | .sequenceStart _ => depth := depth + 1
    | .mappingStart _ => depth := depth + 1
    | .sequenceEnd => depth := depth - 1
    | .mappingEnd => depth := depth - 1
    | _ => pure ()
    if depth == 0 then return

/- The variant a local tag names: the tag without its `!`, or `!`
    itself. -/
def variantTag? (tag : Option String) : Option String :=
  tag.bind fun t =>
    if t.startsWith "!" then some (if t.length > 1 then (t.drop 1).toString else t) else none

/- Check that a name is one of the variants. -/
def checkVariant (variants : List String) (name : String) : DecodeM Unit :=
  unless variants.contains name do throw (.problem (.unknownVariant name variants))

/- Read the name of a unit variant at a node that is not an alias. -/
def readVariantAt (path : NodePath) (variants : List String) : DecodeM String := do
  let (item, mark) ← peekItem
  placed path mark do
    match item with
    | .scalar v style tag =>
        match variantTag? tag with
        | some t =>
            checkVariant variants t
            advance
            if style == .plain && isNullWord v then pure t
            else throw (.problem (.invalidValue (.string v) "null"))
        | none =>
            let name ← readText path "variant identifier"
            checkVariant variants name
            pure name
    | .mappingStart tag =>
        match variantTag? tag with
        | some t =>
            checkVariant variants t
            advance
            throw (.problem (.invalidType .map "unit"))
        | none => throw (.problem (.invalidType .map "a YAML tag starting with '!'"))
    | .sequenceStart tag =>
        match variantTag? tag with
        | some t =>
            checkVariant variants t
            advance
            throw (.problem (.invalidType .sequence "unit"))
        | none => throw (.problem (.invalidType .sequence "a YAML tag starting with '!'"))
    | .void => throw (.fatal endOfStream)
    | _ => throw (.fatal (.other "unexpected end of a collection"))

/- Read the name of a unit variant. -/
def readVariant (path : NodePath) (variants : List String) : DecodeM String :=
  withPeekedNode (readVariantAt path variants)

/- Run a reader over the first document of a text.  A problem with
    the data comes first; then the error that cut the document short;
    then a second document, which is not allowed. -/
def decodeText {α : Type} (text : String) (reader : DecodeM α) : Except YamlError α :=
  let (doc, more) := loadDocuments text
  match reader.run { doc } with
  | .error (.problem p) => .error (.data "." p {})
  | .error (.fatal e) => .error e
  | .ok (v, _) =>
      match doc.error with
      | some e => .error e
      | none =>
          if more then
            .error (.other "deserializing from YAML containing more than one document is not supported")
          else .ok v

end OptionGrammar.Yaml
