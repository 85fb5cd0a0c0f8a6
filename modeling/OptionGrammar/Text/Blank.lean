/-
  Blank characters.

  The blank characters are those of the Unicode property
  `White_Space`: the ASCII tab, line feed, vertical tab, form
  feed, carriage return and space, the next line control, the
  no-break space and the spaces of the general punctuation and
  ideographic blocks.  Trimming removes them from both ends.

  Key definitions include:
    * `isBlank`
    * `trimBlank`, `trimBlankList`
-/

namespace OptionGrammar.Text

/- Whether a character has the Unicode property `White_Space`. -/
def isBlank (c : Char) : Bool :=
  let n := c.toNat
  (0x09 ≤ n && n ≤ 0x0D) || n == 0x20 || n == 0x85 || n == 0xA0 || n == 0x1680 ||
  (0x2000 ≤ n && n ≤ 0x200A) || n == 0x2028 || n == 0x2029 || n == 0x202F ||
  n == 0x205F || n == 0x3000

/- The characters without blanks at either end. -/
def trimBlankList (cs : List Char) : List Char :=
  ((cs.dropWhile isBlank).reverse.dropWhile isBlank).reverse

/- The text without blanks at either end. -/
def trimBlank (s : String) : String :=
  String.ofList (trimBlankList s.toList)

theorem isBlank_space : isBlank ' ' = true := by decide

theorem isBlank_ideographic_space : isBlank '　' = true := by decide

end OptionGrammar.Text
