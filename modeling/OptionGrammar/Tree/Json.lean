import OptionGrammar.Tree

/-
  Trees as indented JSON.

  Lists and records open a line for each item, indented two spaces
  deeper than the bracket, with a comma after all items but the last;
  an empty list is `[]` and an empty record `{}`.  A field is its
  quoted name, `: ` and its value.  Texts escape the quote, the
  backslash, and the control characters below space: backspace, form
  feed, line feed, carriage return and tab by their short escapes,
  the others as `\u00` and two lowercase hexadecimal digits.  All
  other characters are written as they are.

  Key definitions include:
    * `jsonEscapeChar`, `jsonQuote`
    * `Tree.renderJson`
-/

namespace OptionGrammar

/- The two lowercase hexadecimal digits of a byte. -/
def hexByte (n : Nat) : String :=
  let digit := fun (d : Nat) => Nat.digitChar d
  String.ofList [digit (n / 16 % 16), digit (n % 16)]

def jsonEscapeChar (c : Char) : String :=
  match c with
  | '"' => "\\\""
  | '\\' => "\\\\"
  | '\x08' => "\\b"
  | '\x0c' => "\\f"
  | '\n' => "\\n"
  | '\r' => "\\r"
  | '\t' => "\\t"
  | c => if c.toNat < 0x20 then "\\u00" ++ hexByte c.toNat else String.singleton c

def jsonQuote (s : String) : String :=
  "\"" ++ String.join (s.toList.map jsonEscapeChar) ++ "\""

namespace Tree

def pad (depth : Nat) : String := String.ofList (List.replicate (2 * depth) ' ')

mutual

/- A tree as indented JSON, its inner lines at `depth + 1`. -/
def renderJsonAt (depth : Nat) : Tree → String
  | .null => "null"
  | .bool b => toString b
  | .int n => toString n
  | .text s => jsonQuote s
  | .list [] => "[]"
  | .list items => "[\n" ++ renderJsonItems (depth + 1) items ++ "\n" ++ pad depth ++ "]"
  | .record [] => "\x7b\x7d"
  | .record fields =>
      "\x7b\n" ++ renderJsonFields (depth + 1) fields ++ "\n" ++ pad depth ++ "\x7d"

/- The items of a list, one a line. -/
def renderJsonItems (depth : Nat) : List Tree → String
  | [] => ""
  | [t] => pad depth ++ renderJsonAt depth t
  | t :: ts => pad depth ++ renderJsonAt depth t ++ ",\n" ++ renderJsonItems depth ts

/- The fields of a record, one a line. -/
def renderJsonFields (depth : Nat) : List (String × Tree) → String
  | [] => ""
  | [(k, t)] => pad depth ++ jsonQuote k ++ ": " ++ renderJsonAt depth t
  | (k, t) :: rest =>
      pad depth ++ jsonQuote k ++ ": " ++ renderJsonAt depth t ++ ",\n" ++
        renderJsonFields depth rest

end

def renderJson (t : Tree) : String := renderJsonAt 0 t

end Tree

end OptionGrammar
