import OptionGrammar.Unicode.CharClass

/-
  Texts written between double quotes for diagnostics.

  A quoted text keeps every printable character as it is and writes
  the others as escapes: the null character, tab, carriage return
  and line feed by their short escapes, the backslash and the double
  quote behind a backslash, and every other character that is not
  printable, or that extends the grapheme before it, as `\u` with
  its code in lowercase hexadecimal between braces.  A character is
  printable unless its general category is a control, format,
  surrogate, private-use, unassigned or separator one; the space is
  printable.  The character predicates are those of the standard
  library (see `Unicode.isPrintable`).

  Key definitions include:
    * `escapeChar`, `quoteDebug`
-/

namespace OptionGrammar.Text

/- The escape of a character by its code. -/
def codeEscape (c : Char) : String :=
  "\\u" ++ "\x7b" ++ String.ofList (Nat.toDigits 16 c.toNat) ++ "\x7d"

/- A character as a quoted text writes it. -/
def escapeChar (c : Char) : String :=
  match c with
  | '\x00' => "\\0"
  | '\t' => "\\t"
  | '\r' => "\\r"
  | '\n' => "\\n"
  | '\\' => "\\\\"
  | '"' => "\\\""
  | c =>
      if c.toNat < 0x7F && c.toNat ≥ 0x20 then String.singleton c
      else if Unicode.isGraphemeExtend c || !Unicode.isPrintable c then codeEscape c
      else String.singleton c

/- A text between double quotes, escaped for a diagnostic. -/
def quoteDebug (s : String) : String :=
  "\"" ++ String.join (s.toList.map escapeChar) ++ "\""

theorem escapeChar_quote : escapeChar '"' = "\\\"" := by decide

end OptionGrammar.Text
