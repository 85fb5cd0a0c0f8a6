import OptionGrammar.Unicode.CharSet
import OptionGrammar.Unicode.Data.CharClass

/-
  Character predicates.

  The standard library answers a few questions about single
  characters from its own copy of the character database, a newer
  one than the property tables of regular expressions: whether a
  character is alphabetic, numeric (a number of any general
  category), printable, or extends the grapheme before it.  Names
  of capture groups and quoted texts in diagnostics are decided by
  these predicates, so a character new in that version counts here
  even where a property escape does not know it yet.

  Key definitions include:
    * `isAlphabetic`, `isNumeric`, `isAlphanumeric`
    * `isPrintable`, `isGraphemeExtend`
-/

namespace OptionGrammar.Unicode

def alphabeticClass : CharSet := CharSet.decode Data.alphabeticChars

def numericClass : CharSet := CharSet.decode Data.numericChars

def unprintableClass : CharSet := CharSet.decode Data.unprintableChars

/- The characters that extend the grapheme before them. -/
def graphemeExtendClass : CharSet := CharSet.decode Data.graphemeExtendChars

def isAlphabetic (c : Char) : Bool := alphabeticClass.mem c

/- Whether a character is a number: `Nd`, `Nl` or `No`. -/
def isNumeric (c : Char) : Bool := numericClass.mem c

/- Whether a character is alphabetic or a number. -/
def isAlphanumeric (c : Char) : Bool := isAlphabetic c || isNumeric c

/- Whether a character is printable: not a control, format,
    surrogate, private-use, unassigned or separator character,
    the space excepted. -/
def isPrintable (c : Char) : Bool := !unprintableClass.mem c

/- Whether a character extends the grapheme before it. -/
def isGraphemeExtend (c : Char) : Bool := graphemeExtendClass.mem c

end OptionGrammar.Unicode
