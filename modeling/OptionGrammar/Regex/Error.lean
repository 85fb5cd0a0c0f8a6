import OptionGrammar.Regex.Syntax

/-
  Errors of regular expressions and their text.

  An error in a pattern names what is wrong and the span it is
  about; two kinds also name a second span, the place of the
  earlier flag or group name that the error repeats.  The text
  of an error shows the pattern with carets under the spans:
  a one-line pattern is indented by four spaces, and a pattern
  of several lines gets numbered lines between two rules.

  Key definitions include:
    * `ErrorKind`, `ErrorKind.message`
    * `PatternError`
    * `RegexError`, `RegexError.message`
    * `annotate`
-/

namespace OptionGrammar.Regex

------------------------------------------------------------
-- Kinds of errors
------------------------------------------------------------

inductive ErrorKind where
  | captureLimitExceeded
  | classEscapeInvalid
  | classRangeInvalid
  | classRangeLiteral
  | classUnclosed
  | decimalEmpty
  | decimalInvalid
  | escapeHexEmpty
  | escapeHexInvalid
  | escapeHexInvalidDigit
  | escapeUnexpectedEof
  | escapeUnrecognized
  | flagDanglingNegation
  | flagDuplicate (original : Span)
  | flagRepeatedNegation (original : Span)
  | flagUnexpectedEof
  | flagUnrecognized
  | groupNameDuplicate (original : Span)
  | groupNameEmpty
  | groupNameInvalid
  | groupNameUnexpectedEof
  | groupUnclosed
  | groupUnopened
  | nestLimitExceeded (limit : Nat)
  | repetitionCountInvalid
  | repetitionCountDecimalEmpty
  | repetitionCountUnclosed
  | repetitionMissing
  | specialWordBoundaryUnclosed
  | specialWordBoundaryUnrecognized
  | specialWordOrRepetitionUnexpectedEof
  | unicodeClassInvalid
  | unsupportedBackreference
  | unsupportedLookAround
  | unicodeNotAllowed
  | invalidUtf8
  | unicodePropertyNotFound
  | unicodePropertyValueNotFound
  deriving BEq, Repr

def ErrorKind.message : ErrorKind → String
  | .captureLimitExceeded => "exceeded the maximum number of capturing groups (4294967295)"
  | .classEscapeInvalid => "invalid escape sequence found in character class"
  | .classRangeInvalid => "invalid character class range, the start must be <= the end"
  | .classRangeLiteral => "invalid range boundary, must be a literal"
  | .classUnclosed => "unclosed character class"
  | .decimalEmpty => "decimal literal empty"
  | .decimalInvalid => "decimal literal invalid"
  | .escapeHexEmpty => "hexadecimal literal empty"
  | .escapeHexInvalid => "hexadecimal literal is not a Unicode scalar value"
  | .escapeHexInvalidDigit => "invalid hexadecimal digit"
  | .escapeUnexpectedEof => "incomplete escape sequence, reached end of pattern prematurely"
  | .escapeUnrecognized => "unrecognized escape sequence"
  | .flagDanglingNegation => "dangling flag negation operator"
  | .flagDuplicate _ => "duplicate flag"
  | .flagRepeatedNegation _ => "flag negation operator repeated"
  | .flagUnexpectedEof => "expected flag but got end of regex"
  | .flagUnrecognized => "unrecognized flag"
  | .groupNameDuplicate _ => "duplicate capture group name"
  | .groupNameEmpty => "empty capture group name"
  | .groupNameInvalid => "invalid capture group character"
  | .groupNameUnexpectedEof => "unclosed capture group name"
  | .groupUnclosed => "unclosed group"
  | .groupUnopened => "unopened group"
  | .nestLimitExceeded limit =>
      "exceed the maximum number of nested parentheses/brackets (" ++ toString limit ++ ")"
  | .repetitionCountInvalid => "invalid repetition count range, the start must be <= the end"
  | .repetitionCountDecimalEmpty => "repetition quantifier expects a valid decimal"
  | .repetitionCountUnclosed => "unclosed counted repetition"
  | .repetitionMissing => "repetition operator missing expression"
  | .specialWordBoundaryUnclosed =>
      "special word boundary assertion is either unclosed or contains an invalid character"
  | .specialWordBoundaryUnrecognized =>
      "unrecognized special word boundary assertion, valid choices are: start, end, start-half or end-half"
  | .specialWordOrRepetitionUnexpectedEof =>
      "found either the beginning of a special word boundary or a bounded repetition on a \\b with an opening brace, but no closing brace"
  | .unicodeClassInvalid => "invalid Unicode character class"
  | .unsupportedBackreference => "backreferences are not supported"
  | .unsupportedLookAround => "look-around, including look-ahead and look-behind, is not supported"
  | .unicodeNotAllowed => "Unicode not allowed here"
  | .invalidUtf8 => "pattern can match invalid UTF-8"
  | .unicodePropertyNotFound => "Unicode property not found"
  | .unicodePropertyValueNotFound => "Unicode property value not found"

/- The second span an error points at, if it has one. -/
def ErrorKind.auxiliary? : ErrorKind → Option Span
  | .flagDuplicate s => some s
  | .flagRepeatedNegation s => some s
  | .groupNameDuplicate s => some s
  | _ => none

/- An error found in a pattern, with the span it is about. -/
structure PatternError where
  kind : ErrorKind
  span : Span
  deriving BEq, Repr

/- Why a pattern does not give a regular expression. -/
inductive RegexError where
  /- The pattern is malformed, or asks for what cannot be given. -/
  | pattern (text : String) (err : PatternError)
  /- The automaton of the pattern needs more memory than the limit,
      in bytes. -/
  | tooBig (limit : Nat)
  deriving BEq, Repr

------------------------------------------------------------
-- Showing an error in its pattern
------------------------------------------------------------

/- The lines of a text: split at each line feed, a carriage
    return before a line feed dropped, and no line after a final
    line feed. -/
def textLines (s : String) : List String :=
  if s.isEmpty then [] else
  let pieces := s.splitOn "\n"
  let body := if s.endsWith "\n" then pieces.dropLast else pieces
  let n := body.length
  (body.zipIdx).map fun (line, i) =>
    if i + 1 < n || s.endsWith "\n" then
      if line.endsWith "\r" then String.ofList line.toList.dropLast else line
    else line

/- A line of carets under the spans of one line, after `pad`
    spaces: each span gets as many carets as it has characters,
    and at least one. -/
def caretLine (pad : Nat) (spans : List Span) : String :=
  let step := fun (acc : String × Nat) (s : Span) =>
    let (text, at_) := acc
    let gap := s.start.column - 1 - at_
    let width := max 1 (s.stop.column - s.start.column)
    (text ++ String.ofList (List.replicate gap ' ') ++ String.ofList (List.replicate width '^'),
      max at_ (s.start.column - 1) + width)
  (spans.foldl step (String.ofList (List.replicate pad ' '), 0)).1

/- Sort spans by where they start, then end. -/
def sortSpans (spans : List Span) : List Span :=
  spans.mergeSort fun a b => a.le b

def padLeft (width : Nat) (s : String) : String :=
  String.ofList (List.replicate (width - s.length) ' ') ++ s

/- The pattern, line by line, with carets under the spans. -/
def annotate (pattern : String) (spans : List Span) : String :=
  let lines := textLines pattern
  let count := lines.length + (if pattern.endsWith "\n" then 1 else 0)
  let width := if count ≤ 1 then 0 else (toString count).length
  let pad := if width == 0 then 4 else 2 + width
  let oneLine := sortSpans (spans.filter Span.isOneLine)
  (lines.zipIdx).foldl (fun acc (line, i) =>
    let lead := if width > 0 then padLeft width (toString (i + 1)) ++ ": " else "    "
    let mine := oneLine.filter fun s => s.start.line == i + 1
    let notes := if mine.isEmpty then "" else caretLine pad mine ++ "\n"
    acc ++ lead ++ line ++ "\n" ++ notes) ""

/- The text of an error found in a pattern. -/
def PatternError.render (pattern : String) (e : PatternError) : String :=
  let spans := e.span :: e.kind.auxiliary?.toList
  let notated := annotate pattern spans
  if pattern.contains '\n' then
    let rule := String.ofList (List.replicate 79 '~')
    let multi := sortSpans (spans.filter fun s => !s.isOneLine)
    let notes := multi.map fun s =>
      "on line " ++ toString s.start.line ++ " (column " ++ toString s.start.column ++
      ") through line " ++ toString s.stop.line ++ " (column " ++ toString (s.stop.column - 1) ++ ")"
    let noteText := if notes.isEmpty then "" else "\n".intercalate notes ++ "\n"
    "regex parse error:\n" ++ rule ++ "\n" ++ notated ++ rule ++ "\n" ++ noteText ++
      "error: " ++ e.kind.message
  else
    "regex parse error:\n" ++ notated ++ "error: " ++ e.kind.message

/- The text of a regular expression error. -/
def RegexError.message : RegexError → String
  | .pattern text e => e.render text
  | .tooBig limit => "Compiled regex exceeds size limit of " ++ toString limit ++ " bytes."

end OptionGrammar.Regex
