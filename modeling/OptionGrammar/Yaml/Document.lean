import OptionGrammar.Yaml.Event

/-
  YAML documents as lists of node events.

  Before anything is scanned, the text is checked for characters
  that YAML does not allow (control characters other than tab and
  line breaks, and the non-characters); the first one stops the
  reading.

  A document is the list of its node events, each with the place
  where it starts: scalars, aliases, and the starts and ends of
  sequences and mappings.  Each anchor name gets a number, the count
  of names known when it is defined, and the number leads to the
  event of the node last defined with it; an alias holds the number
  of its name.  Events are gathered until the
  document ends or the text breaks the syntax; the error, if any,
  is kept with the events read before it, since a reader of the
  document may fail on those first.  An empty stream gives one
  document holding nothing.

  Key definitions include:
    * `firstDisallowed?`
    * `Item`, `Document`
    * `loadDocuments`
-/

namespace OptionGrammar.Yaml

/- Whether YAML allows a character in a text. -/
def isAllowedChar (c : Char) : Bool :=
  let n := c.toNat
  n == 0x09 || n == 0x0A || n == 0x0D || (0x20 ≤ n && n ≤ 0x7E) || n == 0x85 ||
  (0xA0 ≤ n && n ≤ 0xD7FF) || (0xE000 ≤ n && n ≤ 0xFFFD) || (0x10000 ≤ n && n ≤ 0x10FFFF)

/- The byte offset of the first character YAML does not allow. -/
def firstDisallowed? (text : String) : Option Nat :=
  let rec go (offset : Nat) : List Char → Option Nat
    | [] => none
    | c :: cs => if isAllowedChar c then go (offset + c.utf8Size) cs else some offset
  go 0 text.toList

inductive Item where
  | scalar (value : String) (style : ScalarStyle) (tag : Option String)
  /- An alias, with the number of its anchor. -/
  | alias (anchor : Nat)
  | sequenceStart (tag : Option String)
  | sequenceEnd
  | mappingStart (tag : Option String)
  | mappingEnd
  /- The content of an empty stream. -/
  | void
  deriving BEq, Repr, Inhabited

/- The node events of a document, the positions of the anchored
    events by anchor number, and the error that cut the document short. -/
structure Document where
  items : Array (Item × Mark) := #[]
  anchors : List (Nat × Nat) := []
  error : Option YamlError := none
  deriving Inhabited

/- The position of the event an anchor number leads to. -/
def Document.target? (d : Document) (anchor : Nat) : Option Nat :=
  (d.anchors.find? (·.1 == anchor)).map (·.2)

/- The anchor of an event that may carry one. -/
def EventKind.anchor? : EventKind → Option String
  | .scalar a .. => a
  | .sequenceStart a .. => a
  | .mappingStart a .. => a
  | _ => none

/- Gather the events of one document.  Gives the document and
    whether a document was found at all (the stream may end instead). -/
def gatherDocument (first : Bool) : ParseM (Document × Bool) := do
  let mut doc : Document := {}
  let mut names : List (String × Nat) := []
  for _ in [0:4 * (← get).scanner.remaining + 8] do
    let e ← try nextEvent catch err => return ({ doc with error := some err }, true)
    match e with
    | none => return (doc, false)
    | some e =>
      match e.kind with
      | .streamStart => continue
      | .documentStart _ => continue
      | .streamEnd =>
          if first && doc.items.isEmpty then
            return ({ doc with items := doc.items.push (.void, e.start) }, true)
          return (doc, first)
      | .documentEnd _ => return (doc, true)
      | .alias name =>
          match names.find? (·.1 == name) with
          | some (_, n) => doc := { doc with items := doc.items.push (.alias n, e.start) }
          | none =>
              return ({ doc with error := some (.data "." (.custom "unknown anchor") e.start) }, true)
      | kind =>
          if let some a := kind.anchor? then
            let n := names.length
            names := (a, n) :: names.filter (·.1 != a)
            doc := { doc with anchors := (n, doc.items.size) :: doc.anchors.filter (·.1 != n) }
          let item := match kind with
            | .scalar _ tag value _ _ style => Item.scalar value style tag
            | .sequenceStart _ tag _ _ => .sequenceStart tag
            | .sequenceEnd => .sequenceEnd
            | .mappingStart _ tag _ _ => .mappingStart tag
            | _ => .mappingEnd
          doc := { doc with items := doc.items.push (item, e.start) }
  return (doc, true)

/- The first document of a text, and whether another document follows. -/
def loadDocuments (text : String) : Document × Bool :=
  match firstDisallowed? text with
  | some offset => ({ error := some (.unreadable "control characters are not allowed" offset) }, false)
  | none =>
      let run : ParseM (Document × Bool) := do
        let (doc, _) ← gatherDocument true
        if doc.error.isSome then return (doc, false)
        let (_, more) ← gatherDocument false
        return (doc, more)
      match run.run (Parser.ofText text) with
      | .ok ((doc, more), _) => (doc, more)
      | .error e => ({ error := some e }, false)

end OptionGrammar.Yaml
