import OptionGrammar.Scan
import OptionGrammar.Config

/-
  Checking the declarations against captured arguments.

  The options are walked in declaration order.  For each option:
  a mandatory option that was not given is reported; a unique
  option given more than once is reported with its count; and if
  the option was given and belongs to a numbered group, then for an
  AND group every other mandatory member that was not given is
  reported (each missing member once per group number and check),
  and for an XOR group every later member that was given.

  Under the at-least-one policy a last pass reports every numbered
  IOR group with no member given, in order of first appearance,
  listing its members' canonical names.

  Key definitions include:
    * `ownViolations`, `andStep`, `xorViolations`
    * `OptionTable.optionViolations`, `OptionTable.checkStep`
    * `OptionTable.emptyIorGroups`
    * `OptionTable.check`
-/

namespace OptionGrammar

/- The violations of an option's own rules, at identity `id`: a
    mandatory option that was not given, and a unique option given
    more than once. -/
def ownViolations (c : Captured) (id : Nat) (s : OptionSpec) : List Violation :=
  let n := c.count id
  (if !s.optional && n == 0 then [Violation.missingMandatory s.canonical] else []) ++
    (if s.unique && n > 1 then [Violation.repeated s.canonical n] else [])

/- One member `e` of the AND group of the option `s` at identity
    `id`, given the violations and AND pairs so far: a mandatory
    member other than `s` that was not given is reported, unless its
    pair was reported before. -/
def andStep (c : Captured) (id : Nat) (s : OptionSpec)
    (acc : List Violation × List (UInt8 × String)) (e : Nat × OptionSpec) :
    List Violation × List (UInt8 × String) :=
  if e.1 == id || e.2.optional || c.contains e.1 then acc
  else
    let key := (s.group.number, e.2.canonical)
    if acc.2.contains key then acc
    else (acc.1 ++ [.andIncomplete s.group.number s.canonical e.2.canonical], acc.2 ++ [key])

/- The conflicts of the option `s` at identity `id` with the later
    members of its XOR group that were given. -/
def xorViolations (c : Captured) (id : Nat) (s : OptionSpec)
    (mates : List (Nat × OptionSpec)) : List Violation :=
  (mates.filter fun (j, _) => j > id && c.contains j).map fun (_, o) =>
    Violation.xorConflict s.group.number s.canonical o.canonical

namespace OptionTable

/- The members of a group with their identities, in declaration order. -/
def groupEntries (t : OptionTable) (g : Group) : List (Nat × OptionSpec) :=
  t.entries.filter fun (_, o) => o.group == g

/- The violations of one option at identity `id`, given the AND
    pairs reported so far; gives the violations and the new pairs. -/
def optionViolations (t : OptionTable) (c : Captured) (reported : List (UInt8 × String))
    (id : Nat) (s : OptionSpec) : List Violation × List (UInt8 × String) :=
  let own := ownViolations c id s
  if c.count id == 0 || !s.group.isNumbered then (own, reported)
  else
    let mates := t.groupEntries s.group
    match s.group.kind with
    | .and =>
        let found := mates.foldl (andStep c id s) ([], reported)
        (own ++ found.1, found.2)
    | .xor => (own ++ xorViolations c id s mates, reported)
    | .ior => (own, reported)

/- The numbered IOR groups seen so far, with the group of one more
    option added if it is a numbered IOR group not seen before. -/
def addIorGroup (acc : List Group) (s : OptionSpec) : List Group :=
  if s.group.kind == .ior && s.group.isNumbered && !acc.contains s.group then acc ++ [s.group]
  else acc

/- The numbered IOR groups in order of first appearance. -/
def iorGroups (t : OptionTable) : List Group :=
  t.specs.foldl addIorGroup []

/- The numbered IOR groups with no member given. -/
def emptyIorGroups (t : OptionTable) (c : Captured) : List Violation :=
  (t.iorGroups.filter fun g => !(t.members g).any c.contains).map fun g =>
    .iorEmpty g.number ((t.members g).filterMap fun j => (t.get? j).map (·.canonical))

/- One option of the walk: its violations are added to those so
    far, and the reported AND pairs are carried on. -/
def checkStep (t : OptionTable) (c : Captured) (acc : List Violation × List (UInt8 × String))
    (e : Nat × OptionSpec) : List Violation × List (UInt8 × String) :=
  let found := t.optionViolations c acc.2 e.1 e.2
  (acc.1 ++ found.1, found.2)

/- All violations of the captured arguments, in order. -/
def check (t : OptionTable) (c : Captured) (policy : IorPolicy) : List Violation :=
  let vs := (t.entries.foldl (t.checkStep c) ([], [])).1
  match policy with
  | .permissive => vs
  | .atLeastOne => vs ++ t.emptyIorGroups c

end OptionTable

end OptionGrammar
