import OptionGrammar.Group

/-
  Constraint violations.

  After the arguments are matched, the declarations are checked
  against what was given.  A violation names the rule that failed
  and the options involved, by their canonical names.

  Key definitions include:
    * `Violation`, `Violation.message`
-/

namespace OptionGrammar

/- A rule of the declarations that the given arguments break. -/
inductive Violation where
  /- A mandatory option was not given. -/
  | missingMandatory (option : String)
  /- A unique option was given `count` times, more than once. -/
  | repeated (option : String) (count : Nat)
  /- A member of an AND group was given without a mandatory member. -/
  | andIncomplete (group : UInt8) (option missing : String)
  /- Two members of an XOR group were both given. -/
  | xorConflict (group : UInt8) (option other : String)
  /- No member of an IOR group was given, and the policy asks for one. -/
  | iorEmpty (group : UInt8) (members : List String)
  deriving BEq, DecidableEq, Repr, Inhabited

namespace Violation

/- The name of the rule that failed. -/
def kindName : Violation → String
  | .missingMandatory .. => "MissingMandatory"
  | .repeated .. => "Repeated"
  | .andIncomplete .. => "AndGroupIncomplete"
  | .xorConflict .. => "XorGroupViolation"
  | .iorEmpty .. => "IorGroupEmpty"

def message : Violation → String
  | .missingMandatory o => "missing mandatory option '" ++ o ++ "'"
  | .repeated o n => "option '" ++ o ++ "' may only be given once (got " ++ toString n ++ ")"
  | .andIncomplete g o m =>
      "AND group " ++ toString g.toNat ++ ": '" ++ o ++ "' requires '" ++ m ++ "'"
  | .xorConflict g o other =>
      "XOR group " ++ toString g.toNat ++ ": '" ++ o ++ "' and '" ++ other ++
        "' are mutually exclusive"
  | .iorEmpty g ms =>
      "IOR group " ++ toString g.toNat ++ ": at least one of " ++ ", ".intercalate ms ++
        " is required"

end Violation

end OptionGrammar
