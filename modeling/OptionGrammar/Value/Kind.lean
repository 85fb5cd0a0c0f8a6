/-
  Value types and conversion failures.

  A value captured for an option is text; an accessor reads it as a
  value of a chosen type: text, a truth value, a character, a signed
  or unsigned integer of a width, or a binary floating-point number
  of single or double precision.  A reading fails for a reason with
  a fixed wording.

  Key definitions include:
    * `IntWidth`, `ValueType`, `ValueType.typeName`
    * `ConversionFailure`, `ConversionFailure.message`
    * `Value`
-/

namespace OptionGrammar

/- The width of an integer type.  The pointer-sized width is 64 bits. -/
inductive IntWidth where
  | w8 | w16 | w32 | w64 | w128 | pointer
  deriving BEq, DecidableEq, Repr, Inhabited

namespace IntWidth

def bits : IntWidth → Nat
  | .w8 => 8
  | .w16 => 16
  | .w32 => 32
  | .w64 => 64
  | .w128 => 128
  | .pointer => 64

/- The suffix of the type name: the bits, or `size`. -/
def suffix : IntWidth → String
  | .pointer => "size"
  | w => toString w.bits

end IntWidth

/- The types a captured value can be read as. -/
inductive ValueType where
  | text
  | bool
  | char
  | signed (w : IntWidth)
  | unsigned (w : IntWidth)
  | float32
  | float64
  deriving BEq, DecidableEq, Repr, Inhabited

namespace ValueType

/- The full name of a type, as it appears in conversion errors. -/
def typeName : ValueType → String
  | .text => "alloc::string::String"
  | .bool => "bool"
  | .char => "char"
  | .signed w => "i" ++ w.suffix
  | .unsigned w => "u" ++ w.suffix
  | .float32 => "f32"
  | .float64 => "f64"

/- All types, in the order of their short names. -/
def all : List ValueType :=
  [.text, .bool, .char,
   .signed .w8, .signed .w16, .signed .w32, .signed .w64, .signed .w128, .signed .pointer,
   .unsigned .w8, .unsigned .w16, .unsigned .w32, .unsigned .w64, .unsigned .w128,
   .unsigned .pointer, .float32, .float64]

/- The short name of a type: `String`, `bool`, `i32`, `f64` and so on. -/
def shortName : ValueType → String
  | .text => "String"
  | t => t.typeName

def ofShortName? (name : String) : Option ValueType :=
  all.find? (·.shortName == name)

end ValueType

/- Why a text does not read as a value of a type. -/
inductive ConversionFailure where
  | emptyInteger
  | invalidDigit
  | tooLarge
  | tooSmall
  | emptyFloat
  | invalidFloat
  | notBool
  | emptyChar
  | tooManyChars
  deriving BEq, DecidableEq, Repr, Inhabited

def ConversionFailure.message : ConversionFailure → String
  | .emptyInteger => "cannot parse integer from empty string"
  | .invalidDigit => "invalid digit found in string"
  | .tooLarge => "number too large to fit in target type"
  | .tooSmall => "number too small to fit in target type"
  | .emptyFloat => "cannot parse float from empty string"
  | .invalidFloat => "invalid float literal"
  | .notBool => "provided string was not `true` or `false`"
  | .emptyChar => "cannot parse char from empty string"
  | .tooManyChars => "too many characters in string"

/- A value read from text.  A float is kept as its bit pattern. -/
inductive Value where
  | text (s : String)
  | bool (b : Bool)
  | char (c : Char)
  | int (n : Int)
  | float32 (bits : UInt32)
  | float64 (bits : UInt64)
  deriving BEq, DecidableEq, Repr, Inhabited

end OptionGrammar
