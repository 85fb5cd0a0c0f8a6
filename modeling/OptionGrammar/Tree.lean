/-
  Data trees.

  A data tree is what the library writes out as JSON or YAML: null,
  booleans, integers, texts, lists and records whose fields keep
  their order.  Tables, reports and configurations each have a tree
  view, and the writers of the two formats work on trees alone.

  Key definitions include:
    * `Tree`
    * `Tree.ofTexts`, `Tree.ofOptionText`
-/

namespace OptionGrammar

/- A data tree: scalars, lists and records with ordered fields. -/
inductive Tree where
  | null
  | bool (b : Bool)
  | int (n : Int)
  | text (s : String)
  | list (items : List Tree)
  | record (fields : List (String × Tree))
  deriving Repr, Inhabited

namespace Tree

def ofTexts (xs : List String) : Tree := .list (xs.map Tree.text)

def ofOptionText : Option String → Tree
  | some s => .text s
  | none => .null

end Tree

end OptionGrammar
