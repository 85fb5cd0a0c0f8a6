import OptionGrammar.Table
import OptionGrammar.Text.Blank

/-
  Declaration lines.

  A grammar declares one option per line:

    `[?!][|&^]?[1-9]?[-+]?` then blanks, a spelling, an optional
    second spelling, an optional value pattern in angle brackets,
    and optional help after a bar.

  `?` marks an optional option and `!` a mandatory one; `|`, `&`
  and `^` give the group kind (IOR by default); a digit from 1 to 9
  gives the group number (0, no group, by default); `-` marks a
  unique option (the default) and `+` a repeatable one.  A spelling
  starts with `-` and runs up to a blank, `<` or `|`.

  The value pattern is the shortest text after `<` that is followed
  by `>` and then by nothing but blanks up to the end of the line or
  a bar; so `<a>b> | x` declares `a>b`.  The pattern text and the
  help text are trimmed.

  Before this, a line is cut at its first `//` and trimmed; a line
  that is then empty declares nothing.

  Key definitions include:
    * `DeclarationLine`, `DeclarationLine.read?`, `DeclarationLine.toSpec`
    * `cutComment`, `OptionSpec.ofLine`
-/

namespace OptionGrammar

open OptionGrammar.Text

------------------------------------------------------------
-- The parts of a line
------------------------------------------------------------

/- The parts of a declaration line, as written. -/
structure DeclarationLine where
  optional : Bool
  kind : Option GroupKind
  number : Option Nat
  unique : Option Bool
  first : String
  second : Option String
  param : Option String
  help : Option String
  deriving Repr, Inhabited

/- Whether a character may stand in a spelling after its dash. -/
def isSpellingChar (c : Char) : Bool := !isBlank c && c != '<' && c != '|'

/- A spelling at the front: a dash and the spelling characters after it. -/
def takeSpelling : List Char → Option (String × List Char)
  | '-' :: cs => some (String.ofList ('-' :: cs.takeWhile isSpellingChar), cs.dropWhile isSpellingChar)
  | _ => none

/- Whether what follows a value pattern may end the line: blanks,
    then the end or a bar. -/
def endsDeclaration (cs : List Char) : Bool :=
  match cs.dropWhile isBlank with
  | [] => true
  | '|' :: _ => true
  | _ => false

/- The shortest non-empty pattern text at the front that is closed
    by `>` where the rest may end the line; gives the text and the rest. -/
def closePattern (acc : List Char) : List Char → Option (List Char × List Char)
  | [] => none
  | c :: cs =>
      let text := acc ++ [c]
      match cs with
      | '>' :: rest => if endsDeclaration rest then some (text, rest) else closePattern text cs
      | _ => closePattern text cs

/- A value pattern at the front: blanks, `<`, the pattern and `>`. -/
def takePattern (cs : List Char) : Option (String × List Char) :=
  match cs with
  | c :: _ =>
      if isBlank c then
        match cs.dropWhile isBlank with
        | '<' :: rest => (closePattern [] rest).map fun (p, r) => (String.ofList p, r)
        | _ => none
      else none
  | [] => none

/- A second spelling at the front, after blanks. -/
def takeSecond (cs : List Char) : Option (String × List Char) :=
  match cs with
  | c :: _ => if isBlank c then takeSpelling (cs.dropWhile isBlank) else none
  | [] => none

/- The help at the end of a line: blanks, then nothing or a bar and
    the help. -/
def takeHelp (cs : List Char) : Option (Option String) :=
  match cs.dropWhile isBlank with
  | [] => some none
  | '|' :: rest => some (some (String.ofList rest))
  | _ => none

/- Take the character at the front if it passes the test. -/
def takeIf (p : Char → Bool) : List Char → Option Char × List Char
  | c :: cs => if p c then (some c, cs) else (none, c :: cs)
  | [] => (none, [])

namespace DeclarationLine

/- The markers at the front of a line: whether the option is
    optional, and the kind, digit and uniqueness characters given. -/
structure Markers where
  optional : Bool
  kind : Option Char
  digit : Option Char
  uniq : Option Char
  deriving Repr, Inhabited

/- Read the markers at the front of a line and the blanks that must
    follow them. -/
def readMarkers (cs : List Char) : Option (Markers × List Char) := do
  let (req, cs) ← match cs with
    | '?' :: rest => some (true, rest)
    | '!' :: rest => some (false, rest)
    | _ => none
  let (kind, cs) := takeIf (fun c => c == '|' || c == '&' || c == '^') cs
  let (num, cs) := takeIf (fun c => '1' ≤ c && c ≤ '9') cs
  let (uniq, cs) := takeIf (fun c => c == '-' || c == '+') cs
  match cs with
  | c :: _ => if isBlank c then some (⟨req, kind, num, uniq⟩, cs.dropWhile isBlank) else none
  | [] => none

/- Read the first spelling and, after blanks, a second one. -/
def readSpellings (cs : List Char) : Option ((String × Option String) × List Char) := do
  let (first, cs) ← takeSpelling cs
  match takeSecond cs with
  | some (second, rest) => some ((first, some second), rest)
  | none => some ((first, none), cs)

/- Read what follows the spellings: an optional value pattern, then
    the end of the line or a bar and the help. -/
def readTail (cs : List Char) : Option (Option String × Option String) := do
  let (param, cs) := match takePattern cs with
    | some (p, rest) => (some p, rest)
    | none => (none, cs)
  let help ← takeHelp cs
  return (param, help)

/- Read the parts of a trimmed, non-empty line, if it follows the
    declaration syntax. -/
def read? (cs : List Char) : Option DeclarationLine := do
  let (m, cs) ← readMarkers cs
  let ((first, second), cs) ← readSpellings cs
  let (param, help) ← readTail cs
  return { optional := m.optional
           kind := m.kind.bind GroupKind.ofMarker?
           number := m.digit.map fun c => c.toNat - '0'.toNat
           unique := m.uniq.map (· == '-')
           first, second, param, help }

/- The declaration a line's parts make, as declared on line
    `lineNo`; fails when the pattern does not compile. -/
def toSpec (d : DeclarationLine) (lineNo : Nat) : Except ArgError OptionSpec := do
  let param ← match d.param with
    | none => pure none
    | some p =>
        let declared := trimBlank p
        match ValuePattern.compile declared with
        | .ok v => pure (some v)
        | .error e => throw (.invalidPattern lineNo declared e)
  return {
    spellings := d.first :: d.second.toList
    optional := d.optional
    group := { kind := d.kind.getD .ior, number := (d.number.getD 0).toUInt8 }
    unique := d.unique.getD true
    param
    help := (d.help.map trimBlank).getD "" }

end DeclarationLine

------------------------------------------------------------
-- From a line to a declaration
------------------------------------------------------------

def cutComment : List Char → List Char
  | '/' :: '/' :: _ => []
  | c :: cs => c :: cutComment cs
  | [] => []

/- The declaration of a grammar line numbered `lineNo`: nothing for
    a blank or comment line, or an error for a line that breaks the
    syntax or declares a pattern that does not compile. -/
def OptionSpec.ofLine (lineNo : Nat) (raw : String) : Except ArgError (Option OptionSpec) :=
  let cs := trimBlankList (cutComment raw.toList)
  if cs.isEmpty then .ok none
  else
    match DeclarationLine.read? cs with
    | none => .error (.grammar lineNo raw)
    | some d => (d.toSpec lineNo).map some

end OptionGrammar
