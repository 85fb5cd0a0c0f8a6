import OptionGrammar.Unicode.CharSet
import OptionGrammar.Unicode.Data.Category
import OptionGrammar.Unicode.Data.Script
import OptionGrammar.Unicode.Data.Binary
import OptionGrammar.Unicode.Data.Age
import OptionGrammar.Unicode.Data.Break
import OptionGrammar.Unicode.Data.PropertyName

/-
  Character properties by name.

  A property is asked for by one letter (`\pL`), by one name
  (`\p{Greek}`, `\p{Lu}`, `\p{Alphabetic}`) or by a name and a
  value (`\p{sc=Greek}`).  Names match loosely: case, spaces,
  `_`, `-` and a leading `is` do not count.  A single name is
  tried as a binary property, then as a general category, then
  as a script.

  Key definitions include:
    * `looseName`
    * `PropertyQuery`, `PropertyError`
    * `PropertyQuery.resolve`
    * `decimalDigits`, `whiteSpace`, `wordChars`
-/

namespace OptionGrammar.Unicode

------------------------------------------------------------
-- Loose names
------------------------------------------------------------

/- Whether two characters start a name with `is`, in any case. -/
def startsWithIs : List Char → Bool
  | a :: b :: _ => (a == 'i' || a == 'I') && (b == 's' || b == 'S')
  | _ => false

/- The loose form of a name: a leading `is` dropped, spaces, `_`,
    `-` and non-ASCII characters dropped, ASCII letters in lower
    case.  A name `isc` keeps its form, since dropping `is` would
    make it the category `c`. -/
def looseName (name : String) : String :=
  let cs := name.toList
  let isPrefix := startsWithIs cs
  let body := if isPrefix then cs.drop 2 else cs
  let kept := body.filterMap fun c =>
    if c == ' ' || c == '_' || c == '-' then none
    else if 'A' ≤ c ∧ c ≤ 'Z' then some (Char.ofNat (c.toNat + 32))
    else if c.toNat ≤ 0x7F then some c
    else none
  if isPrefix && kept == ['c'] then "isc" else String.ofList kept

/- The entry of a table one of whose names has the given loose form. -/
def findLoose {α : Type} (entries : List (List String × α)) (loose : String) :
    Option (List String × α) :=
  entries.find? fun e => e.1.any fun n => looseName n == loose

------------------------------------------------------------
-- Decoded tables
------------------------------------------------------------

def categorySets : List (List String × CharSet) :=
  Data.generalCategories.map fun (names, enc) => (names, CharSet.decode enc)

/- The set of a general category given by abbreviation. -/
def categoryByAbbrev (short : String) : CharSet :=
  match categorySets.find? fun e => e.1.head? == some short with
  | some e => e.2
  | none => CharSet.empty

/- The groups of general categories, with their members. -/
def categoryGroups : List (List String × List String) :=
  [(["L", "Letter"], ["Lu", "Ll", "Lt", "Lm", "Lo"]),
   (["LC", "Cased_Letter"], ["Lu", "Ll", "Lt"]),
   (["M", "Mark", "Combining_Mark"], ["Mn", "Mc", "Me"]),
   (["N", "Number"], ["Nd", "Nl", "No"]),
   (["P", "Punctuation", "punct"], ["Pc", "Pd", "Ps", "Pe", "Pi", "Pf", "Po"]),
   (["S", "Symbol"], ["Sm", "Sc", "Sk", "So"]),
   (["Z", "Separator"], ["Zs", "Zl", "Zp"]),
   (["C", "Other"], ["Cc", "Cf", "Cs", "Co", "Cn"])]

/- Every general category and group of them, with its set. -/
def allCategorySets : List (List String × CharSet) :=
  categorySets ++ categoryGroups.map fun (names, members) =>
    (names, CharSet.unionAll (members.map categoryByAbbrev))

/- The scripts with the sets of their code points. -/
def scriptSets : List (List String × CharSet) :=
  Data.scripts.map fun (names, enc, _) => (names, CharSet.decode enc)

/- The scripts with the sets of code points whose script
    extensions include them. -/
def scriptExtensionSets : List (List String × CharSet) :=
  Data.scripts.map fun (names, _, enc) => (names, CharSet.decode enc)

def binarySets : List (String × CharSet) :=
  Data.binaryProperties.map fun (name, enc) => (name, CharSet.decode enc)

/- The set of a binary property given by long name. -/
def binaryByName (name : String) : CharSet :=
  match binarySets.find? fun e => e.1 == name with
  | some e => e.2
  | none => CharSet.empty

def decimalDigits : CharSet := categoryByAbbrev "Nd"

def whiteSpace : CharSet := binaryByName "White_Space"

/- Word characters: alphabetic characters, marks, decimal digits,
    connector punctuation and the joining controls. -/
def wordChars : CharSet :=
  CharSet.unionAll [binaryByName "Alphabetic", categoryByAbbrev "Mn",
    categoryByAbbrev "Mc", categoryByAbbrev "Me", decimalDigits,
    categoryByAbbrev "Pc", binaryByName "Join_Control"]

------------------------------------------------------------
-- Queries
------------------------------------------------------------

inductive PropertyQuery where
  /- A one-letter name, as in `\pL`. -/
  | letter (c : Char)
  /- A single name, as in `\p{Greek}`. -/
  | named (name : String)
  /- A property and its value, as in `\p{sc=Greek}`. -/
  | valued (property value : String)
  deriving Repr, BEq

/- Why a property escape names no set. -/
inductive PropertyError where
  /- No property has this name. -/
  | notFound
  /- The property has no value of this name. -/
  | valueNotFound
  deriving Repr, BEq, DecidableEq

/- The long name of the property with the given loose name. -/
def propertyByLoose (loose : String) : Option String :=
  (Data.propertyNames.find? fun (_, names) => names.any fun n => looseName n == loose).map
    (·.1)

/- A general category, or `Any`, `ASCII` or `Assigned`, by loose
    name. -/
def categoryByLoose (loose : String) : Option CharSet :=
  if loose == "any" then some CharSet.univ
  else if loose == "ascii" then some (CharSet.range 0 0x7F)
  else if loose == "assigned" then some (categoryByAbbrev "Cn").complement
  else (findLoose allCategorySets loose).map (·.2)

/- The set of the script with the given loose name: `none` when
    no script has the name, `some none` when it has no code point. -/
def scriptByLoose (table : List (List String × CharSet)) (loose : String) :
    Option (Option CharSet) :=
  (findLoose table loose).map fun e => if e.2.isEmpty then none else some e.2

/- A single name: a binary property, then a general category,
    then a script.  The names `cf`, `sc` and `lc` are categories
    even though properties have them as short names. -/
def resolveName (name : String) : Except PropertyError CharSet :=
  let loose := looseName name
  let asProperty :=
    if loose == "cf" || loose == "sc" || loose == "lc" then none
    else propertyByLoose loose
  match asProperty with
  | some prop =>
      match binarySets.find? fun e => e.1 == prop with
      | some e => .ok e.2
      | none => .error .notFound
  | none =>
      match categoryByLoose loose with
      | some s => .ok s
      | none =>
          match scriptByLoose scriptSets loose with
          | some (some s) => .ok s
          | some none => .error .valueNotFound
          | none => .error .notFound

/- The versions of the standard up to and including the one with
    the given loose name, joined. -/
def ageByLoose (loose : String) : Except PropertyError CharSet :=
  let decoded := Data.ages.map fun (names, enc) => (names, CharSet.decode enc)
  match decoded.findIdx? (fun e => e.1.any fun n => looseName n == loose) with
  | some i => .ok (CharSet.unionAll ((decoded.take (i + 1)).map (·.2)))
  | none => .error .valueNotFound

/- A value of a segmentation property by loose name. -/
def breakByLoose (table : List (List String × String)) (loose : String) :
    Except PropertyError CharSet :=
  match findLoose table loose with
  | some e => .ok (CharSet.decode e.2)
  | none => .error .valueNotFound

/- A property and one of its values. -/
def resolveValued (property value : String) : Except PropertyError CharSet :=
  let looseValue := looseName value
  match propertyByLoose (looseName property) with
  | none => .error .notFound
  | some "General_Category" =>
      match categoryByLoose looseValue with
      | some s => .ok s
      | none => .error .valueNotFound
  | some "Script" =>
      match scriptByLoose scriptSets looseValue with
      | some (some s) => .ok s
      | _ => .error .valueNotFound
  | some "Script_Extensions" =>
      match scriptByLoose scriptExtensionSets looseValue with
      | some (some s) => .ok s
      | _ => .error .valueNotFound
  | some "Age" => ageByLoose looseValue
  | some "Grapheme_Cluster_Break" => breakByLoose Data.graphemeClusterBreaks looseValue
  | some "Word_Break" => breakByLoose Data.wordBreaks looseValue
  | some "Sentence_Break" => breakByLoose Data.sentenceBreaks looseValue
  | some _ => .error .valueNotFound

def PropertyQuery.resolve : PropertyQuery → Except PropertyError CharSet
  | .letter c => resolveName (String.singleton c)
  | .named name => resolveName name
  | .valued property value => resolveValued property value

end OptionGrammar.Unicode
