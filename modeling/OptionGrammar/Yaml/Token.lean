import OptionGrammar.Yaml.Error

/-
  YAML tokens.

  The scanner cuts a YAML text into tokens: the markers of the
  stream, of documents and of directives, the indicators of block
  and flow collections, keys and values, anchors, aliases, tags and
  scalars.  Each token carries the places where it starts and ends.

  Key definitions include:
    * `ScalarStyle`, `TokenKind`, `Token`
-/

namespace OptionGrammar.Yaml

inductive ScalarStyle where
  | plain
  | singleQuoted
  | doubleQuoted
  | literal
  | folded
  deriving BEq, DecidableEq, Repr, Inhabited

/- The kinds of tokens, with their contents. -/
inductive TokenKind where
  | streamStart
  | streamEnd
  | versionDirective (major minor : Nat)
  | tagDirective (handle pfx : String)
  | documentStart
  | documentEnd
  | blockSequenceStart
  | blockMappingStart
  | blockEnd
  | flowSequenceStart
  | flowSequenceEnd
  | flowMappingStart
  | flowMappingEnd
  | blockEntry
  | flowEntry
  | key
  | value
  | alias (name : String)
  | anchor (name : String)
  | tag (handle suffix : String)
  | scalar (text : String) (style : ScalarStyle)
  deriving BEq, Repr, Inhabited

/- A token with the places where it starts and ends. -/
structure Token where
  kind : TokenKind
  start : Mark
  stop : Mark
  deriving BEq, Repr, Inhabited

namespace TokenKind

def isDirective : TokenKind → Bool
  | .versionDirective .. => true
  | .tagDirective .. => true
  | _ => false

end TokenKind

end OptionGrammar.Yaml
