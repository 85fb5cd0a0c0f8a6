import OptionGrammar.Regex.Expr
import Std.Data.HashMap

/-
  The memory an automaton for an expression needs.

  A pattern is refused when the Thompson automaton built for it,
  in either direction, needs more than a limit of memory.  The
  automaton is built state by state over the bytes of the UTF-8
  encoding: every state costs 32 bytes, every transition of a
  sparse state 8 more and every branch of a union state 4 more.

  The forward automaton records the groups; the backward one does
  not.  A class of characters beyond ASCII becomes an automaton of
  its byte sequences: forward, with equal states shared through a
  table of 10000 slots addressed by a hash of their transitions;
  backward, with equal suffixes shared through a table of 1000
  slots.  A table slot holds one entry, so two states whose hashes
  meet in a slot are not shared; the count below follows the same
  slots.  A choice whose branches are all literals becomes a trie of
  them, where a literal that runs through the end of an earlier one
  is left out, the earlier one always matching first.

  Before it is built, an expression is put in a normal form:
  neighbouring characters join into one literal, nested sequences
  and choices are flattened, a choice of single characters or of
  classes becomes one class, a common start of the branches of a
  choice is taken out in front, and a repetition of what can only
  match the empty text repeats at most once.

  Key definitions include:
    * `Shape`, `Shape.ofExpr`
    * `utf8Sequences`
    * `automatonFits`
-/

namespace OptionGrammar.Regex

open OptionGrammar.Unicode

------------------------------------------------------------
-- Normal form
------------------------------------------------------------

/- An expression in the normal form its automaton is built from. -/
inductive Shape where
  | empty
  /- A literal, as the bytes of its UTF-8 encoding. -/
  | lit (bytes : List Nat)
  /- A class of two or more characters, or of none. -/
  | cls (set : CharSet)
  | look (l : Look)
  | concat (items : List Shape)
  | alt (branches : List Shape)
  | rep (min : Nat) (max : Option Nat) (sub : Shape)
  | cap (sub : Shape)
  deriving Repr, Inhabited

mutual

/- Whether two shapes are the same, part by part. -/
def Shape.beq : Shape → Shape → Bool
  | .empty, .empty => true
  | .lit a, .lit b => a == b
  | .cls s, .cls t => s == t
  | .look l, .look m => l == m
  | .concat xs, .concat ys => Shape.beqList xs ys
  | .alt xs, .alt ys => Shape.beqList xs ys
  | .rep m n sub, .rep m' n' sub' => m == m' && n == n' && Shape.beq sub sub'
  | .cap sub, .cap sub' => Shape.beq sub sub'
  | _, _ => false

/- Whether two lists of shapes are the same, item by item. -/
def Shape.beqList : List Shape → List Shape → Bool
  | [], [] => true
  | x :: xs, y :: ys => Shape.beq x y && Shape.beqList xs ys
  | _, _ => false

end

instance : BEq Shape := ⟨Shape.beq⟩

/- The UTF-8 encoding of a code point. -/
def utf8Bytes (n : Nat) : List Nat :=
  if n < 0x80 then [n]
  else if n < 0x800 then [0xC0 + n / 64, 0x80 + n % 64]
  else if n < 0x10000 then [0xE0 + n / 4096, 0x80 + (n / 64) % 64, 0x80 + n % 64]
  else [0xF0 + n / 262144, 0x80 + (n / 4096) % 64, 0x80 + (n / 64) % 64, 0x80 + n % 64]

namespace Shape

/- The number of bytes of the UTF-8 encoding of a code point. -/
def utf8Length (n : Nat) : Nat :=
  if n < 0x80 then 1 else if n < 0x800 then 2 else if n < 0x10000 then 3 else 4

/- The least number of bytes of a match; `none` when the shape
    matches nothing. -/
def minLen : Shape → Option Nat
  | .empty => some 0
  | .lit bs => some bs.length
  | .cls s => (s.ranges.head?).map fun r => utf8Length r.1
  | .look _ => some 0
  | .concat items => items.attach.foldl (fun acc ⟨e, _⟩ => do
      let a ← acc
      let b ← minLen e
      pure (a + b)) (some 0)
  | .alt branches =>
      let lens := branches.attach.map fun ⟨e, _⟩ => minLen e
      if lens.any Option.isNone then none
      else (lens.filterMap id).min?
  | .rep m _ sub => if m = 0 then some 0 else (minLen sub).map (· * m)
  | .cap sub => minLen sub

/- The greatest number of bytes of a match; `none` when there is no
    bound or the shape matches nothing. -/
def maxLen : Shape → Option Nat
  | .empty => some 0
  | .lit bs => some bs.length
  | .cls s => (s.ranges.getLast?).map fun r => utf8Length r.2
  | .look _ => some 0
  | .concat items => items.attach.foldl (fun acc ⟨e, _⟩ => do
      let a ← acc
      let b ← maxLen e
      pure (a + b)) (some 0)
  | .alt branches =>
      let lens := branches.attach.map fun ⟨e, _⟩ => maxLen e
      if lens.any Option.isNone then none
      else (lens.filterMap id).max?
  | .rep _ n sub => do
      let k ← n
      let b ← maxLen sub
      pure (b * k)
  | .cap sub => maxLen sub

/- Whether the shape can only match the empty text. -/
def onlyEmpty (s : Shape) : Bool := s.maxLen == some 0

/- Whether the shape matches nothing at all. -/
def neverMatches (s : Shape) : Bool := s.minLen.isNone

/- A class as a shape: nothing, one character, or a class. -/
def ofSet (s : CharSet) : Shape :=
  match s.singleton? with
  | some n => .lit (utf8Bytes n)
  | none => .cls s

/- Join a list of items into a sequence: literals next to each
    other merge, nested sequences flatten, empty items drop. -/
def mkConcat (items : List Shape) : Shape :=
  let flat := items.flatMap fun
    | .concat xs => xs
    | .empty => []
    | x => [x]
  let merged := flat.foldr (fun x acc =>
    match x, acc with
    | .lit a, .lit b :: rest => .lit (a ++ b) :: rest
    | x, acc => x :: acc) []
  match merged with
  | [] => .empty
  | [x] => x
  | xs => .concat xs

/- The one character of a literal of one character. -/
def singleChar? : Shape → Option Nat
  | .lit bs =>
      match bs with
      | [a] => some a
      | [a, b] => if a ≥ 0xC0 then some ((a - 0xC0) * 64 + (b - 0x80)) else none
      | [a, b, c] => if a ≥ 0xE0 then some ((a - 0xE0) * 4096 + (b - 0x80) * 64 + (c - 0x80)) else none
      | [a, b, c, d] =>
          if a ≥ 0xF0 then some ((a - 0xF0) * 262144 + (b - 0x80) * 4096 + (c - 0x80) * 64 + (d - 0x80))
          else none
      | _ => none
  | _ => none

/- The longest common start of two lists. -/
def commonPrefix : List Shape → List Shape → List Shape
  | x :: xs, y :: ys => if x == y then x :: commonPrefix xs ys else []
  | _, _ => []

/- Join branches into a choice, in normal form. -/
def mkAlt (fuel : Nat) (branches : List Shape) : Shape :=
  let flat := branches.flatMap fun
    | .alt xs => xs
    | x => [x]
  match flat with
  | [] => .cls CharSet.empty
  | [x] => x
  | _ =>
    let singles := flat.filterMap singleChar?
    if singles.length == flat.length then ofSet (CharSet.ofRanges (singles.map fun n => (n, n)))
    else
      let sets := flat.filterMap fun | .cls s => some s | _ => none
      if sets.length == flat.length then ofSet (CharSet.unionAll sets)
      else
        let concats := flat.filterMap fun | .concat xs => some xs | _ => none
        if concats.length != flat.length then .alt flat
        else
          match concats with
          | [] => .alt flat
          | first :: rest =>
              let pre := rest.foldl commonPrefix first
              if pre.isEmpty then .alt flat
              else
                match fuel with
                | 0 => .alt flat
                | fuel + 1 =>
                    let suffixes := concats.map fun xs => mkConcat (xs.drop pre.length)
                    mkConcat (pre ++ [mkAlt fuel suffixes])

def mkRep (m : Nat) (n : Option Nat) (sub : Shape) : Shape :=
  let (m, n) := if sub.onlyEmpty then (min m 1, some (match n with | some k => min k 1 | none => 1))
    else (m, n)
  if m == 0 && n == some 0 then .empty
  else if m == 1 && n == some 1 then sub
  else .rep m n sub

def ofExpr : Expr → Shape
  | .empty => .empty
  | .chars s => ofSet s
  | .look l => .look l
  | .concat items => mkConcat (items.attach.map fun ⟨e, _⟩ => ofExpr e)
  | .alt branches => mkAlt 64 (branches.attach.map fun ⟨e, _⟩ => ofExpr e)
  | .rep m n _ body => mkRep m n (ofExpr body)
  | .capture _ body => .cap (ofExpr body)

end Shape

------------------------------------------------------------
-- Byte sequences of a range of code points
------------------------------------------------------------

/- The largest code point of an encoding of `k` bytes. -/
def maxScalar : Nat → Nat
  | 1 => 0x7F
  | 2 => 0x7FF
  | 3 => 0xFFFF
  | _ => 0x10FFFF

/- Split a range of code points into ranges whose UTF-8 encodings
    differ in one place at most per byte: each yields a sequence of
    byte ranges, one per byte.  `stack` holds the ranges still to
    split, the next on top. -/
def utf8SeqLoop : Nat → List (Nat × Nat) → List (List (Nat × Nat)) → List (List (Nat × Nat))
  | 0, _, out => out.reverse
  | _, [], out => out.reverse
  | fuel + 1, (s, e) :: stack, out =>
      if s < 0xE000 && e > 0xD7FF then
        utf8SeqLoop fuel ((s, 0xD7FF) :: (0xE000, e) :: stack) out
      else if s > e then utf8SeqLoop fuel stack out
      else
        match [1, 2, 3].find? (fun i => s ≤ maxScalar i && maxScalar i < e) with
        | some i => utf8SeqLoop fuel ((s, maxScalar i) :: (maxScalar i + 1, e) :: stack) out
        | none =>
            if e ≤ 0x7F then utf8SeqLoop fuel stack ([(s, e)] :: out)
            else
              let split := [1, 2, 3].findSome? fun i =>
                let m := Nat.pow 2 (6 * i) - 1
                if s / (m + 1) != e / (m + 1) then
                  if s % (m + 1) != 0 then some ((s, s ||| m), ((s ||| m) + 1, e))
                  else if e % (m + 1) != m then some ((s, e - e % (m + 1) - 1), (e - e % (m + 1), e))
                  else none
                else none
              match split with
              | some (r1, r2) => utf8SeqLoop fuel (r1 :: r2 :: stack) out
              | none =>
                  let seq := (utf8Bytes s).zip (utf8Bytes e)
                  utf8SeqLoop fuel stack (seq :: out)

/- The byte-range sequences of a range of code points, in order. -/
def utf8Sequences (lo hi : Nat) : List (List (Nat × Nat)) :=
  utf8SeqLoop 256 [(lo, hi)] []

------------------------------------------------------------
-- Building
------------------------------------------------------------

/- The memory limit of an automaton, in bytes. -/
def sizeLimit : Nat := 10 * 1024 * 1024

/- The count of states built so far and the memory their
    transitions and branches take. -/
structure Tally where
  states : Nat := 0
  heap : Nat := 0

/- The memory of a tally, in bytes. -/
def Tally.usage (t : Tally) : Nat := 32 * t.states + t.heap

/- A building step; it stops once the memory passes the limit. -/
abbrev BuildM := StateT Tally (Except Unit)

/- Add a state with the given extra memory; gives its number. -/
def addState (heap : Nat) : BuildM Nat := do
  let t ← get
  let t' : Tally := { states := t.states + 1, heap := t.heap + heap }
  if t'.usage > sizeLimit then throw ()
  set t'
  return t.states

/- Add a branch to a union state. -/
def addBranch : BuildM Unit := do
  let t ← get
  let t' : Tally := { t with heap := t.heap + 4 }
  if t'.usage > sizeLimit then throw ()
  set t'

/- The result of building a piece: whether its exit is a union
    state, which a later link then grows by a branch. -/
structure Piece where
  start : Nat
  exitIsUnion : Bool

/- Link the exit of a piece to another state. -/
def linkFrom (p : Piece) : BuildM Unit :=
  if p.exitIsUnion then addBranch else pure ()

/- The hash of a list of numbers, as the slot tables compute it. -/
def fnvHash (xs : List Nat) : UInt64 :=
  xs.foldl (fun h x => (h ^^^ x.toUInt64) * 1099511628211) 14695981039346656037

/- A table of `size` slots, each holding the last entry put there. -/
abbrev SlotTable := Std.HashMap Nat (List Nat × Nat)

/- The forward automaton of a class beyond ASCII: byte sequences
    are added in order to a trie whose finished states are shared
    when equal.  `pending` holds the unfinished states from the
    root: their finished transitions and their last open one. -/
structure Utf8Build where
  target : Nat
  table : SlotTable := {}
  pending : Array (List (Nat × Nat × Nat) × Option (Nat × Nat))

/- Finish a state: share an equal one from the table, or add it. -/
def finishNode (u : Utf8Build) (trans : List (Nat × Nat × Nat)) : BuildM (Utf8Build × Nat) := do
  let key := trans.flatMap fun (a, b, n) => [a, b, n]
  let slot := (fnvHash key % 10000).toNat
  match u.table.get? slot with
  | some (k, id) => if k == key then return (u, id) else pure ()
  | none => pure ()
  let id ← addState (8 * trans.length)
  return ({ u with table := u.table.insert slot (key, id) }, id)

/- Close the open transition of a pending state toward `next`. -/
def closeLast (node : List (Nat × Nat × Nat) × Option (Nat × Nat)) (next : Nat) :
    List (Nat × Nat × Nat) × Option (Nat × Nat) :=
  match node.2 with
  | some (a, b) => (node.1 ++ [(a, b, next)], none)
  | none => node

/- Finish every pending state deeper than `keep`, from the deepest up. -/
def finishFrom (keep : Nat) : Nat → Utf8Build → Nat → BuildM Utf8Build
  | 0, u, _ => return u
  | fuel + 1, u, next =>
      if keep + 1 < u.pending.size then
        let node := closeLast u.pending.back! next
        let u := { u with pending := u.pending.pop }
        do
          let (u, id) ← finishNode u node.1
          finishFrom keep fuel u id
      else
        let last := u.pending.size - 1
        return { u with pending := u.pending.modify last fun n => closeLast n next }

/- Add one byte sequence to the trie. -/
def addSequence (u : Utf8Build) (seq : List (Nat × Nat)) : BuildM Utf8Build := do
  let shared := ((seq.zip u.pending.toList).takeWhile fun (r, node) => node.2 == some r).length
  let u ← finishFrom shared (u.pending.size + 1) u u.target
  let rest := seq.drop shared
  match rest with
  | [] => return u
  | first :: more =>
      let last := u.pending.size - 1
      let pending := u.pending.modify last fun (t, _) => (t, some first)
      return { u with pending := pending ++ (more.map fun r => ([], some r)).toArray }

/- Build the forward automaton of a class beyond ASCII. -/
def buildUtf8Forward (s : CharSet) : BuildM Piece := do
  let target ← addState 0
  let mut u : Utf8Build := { target := target, pending := #[([], none)] }
  for (lo, hi) in s.ranges do
    for seq in utf8Sequences lo hi do
      u ← addSequence u seq
  u ← finishFrom 0 (u.pending.size + 1) u target
  let root := (u.pending[0]?.map (·.1)).getD []
  let (_, start) ← finishNode u root
  return ⟨start, false⟩

/- Build the backward automaton of a class beyond ASCII: one union
    whose branches read each byte sequence from its end, with equal
    suffixes shared. -/
def buildUtf8Backward (s : CharSet) : BuildM Piece := do
  let union ← addState 0
  let altEnd ← addState 0
  let mut table : SlotTable := {}
  for (lo, hi) in s.ranges do
    for seq in utf8Sequences lo hi do
      let mut stop := altEnd
      for (a, b) in seq do
        let key := [stop, a, b]
        let slot := (fnvHash key % 1000).toNat
        match table.get? slot with
        | some (k, id) =>
            if k == key then
              stop := id
              continue
        | none => pure ()
        let id ← addState 0
        table := table.insert slot (key, id)
        stop := id
      addBranch
  return ⟨union, false⟩

/- A node of a trie of literals: its transitions by byte, in order,
    and the places among them where a literal ends.  The transitions
    after the last such place form the active chunk. -/
structure TrieNode where
  trans : Array (Nat × Nat)
  chunks : Array (Nat × Nat)
  deriving Inhabited

namespace TrieNode

/- Where the active chunk of transitions starts. -/
def activeStart (node : TrieNode) : Nat := (node.chunks.back?.map (·.2)).getD 0

/- Whether a literal ends here with nothing added after it: a longer
    literal through this node could never be the first to match. -/
def isMatch (node : TrieNode) : Bool :=
  !node.chunks.isEmpty && node.activeStart == node.trans.size

/- Record that a literal ends here; a leaf records it once. -/
def addMatch (node : TrieNode) : TrieNode :=
  if !node.trans.isEmpty || node.chunks.isEmpty then
    { node with chunks := node.chunks.push (node.activeStart, node.trans.size) }
  else node

end TrieNode

/- Follow the transition on a byte out of the active chunk of a node,
    adding a node when there is none. -/
def trieStep (nodes : Array TrieNode) (cur b : Nat) : Array TrieNode × Nat :=
  let node := nodes[cur]!
  let start := node.activeStart
  let active := node.trans.extract start node.trans.size
  match active.find? (fun t => t.1 == b) with
  | some t => (nodes, t.2)
  | none =>
      let next := nodes.size
      let pos := start + (active.filter (fun t => t.1 < b)).size
      let trans := (node.trans.extract 0 pos).push (b, next) ++ node.trans.extract pos node.trans.size
      ((nodes.set! cur { node with trans := trans }).push { trans := #[], chunks := #[] }, next)

/- Add one literal to a trie: it is dropped when it passes through a
    node where an earlier literal ends. -/
def trieAdd (nodes : Array TrieNode) : Nat → List Nat → Array TrieNode
  | cur, [] => nodes.set! cur nodes[cur]!.addMatch
  | cur, b :: rest =>
      if nodes[cur]!.isMatch then nodes
      else
        let (nodes, next) := trieStep nodes cur b
        trieAdd nodes next rest

/- The trie of a list of literals, added in order. -/
def buildTrie (lits : List (List Nat)) : Array TrieNode :=
  lits.foldl (fun nodes bytes => trieAdd nodes 0 bytes) #[{ trans := #[], chunks := #[] }]

/- Build the states of one node of a trie of literals: for each chunk
    of transitions a range state (one transition) or a sparse state,
    the final state between chunks, and a union of them all. -/
def buildTrieNode (nodes : Array TrieNode) (final : Nat) : Nat → Nat → BuildM Nat
  | 0, _ => addState 0
  | fuel + 1, i => do
      let node := nodes[i]!
      let chunks := node.chunks.toList.map (fun (a, b) => node.trans.extract a b) ++
        [node.trans.extract node.activeStart node.trans.size]
      let mut union : Array Nat := #[]
      let mut first := true
      for chunk in chunks do
        if !first then union := union.push final
        first := false
        if !chunk.isEmpty then
          let mut sparse : Array Nat := #[]
          for (_, next) in chunk do
            if nodes[next]!.trans.isEmpty then sparse := sparse.push final
            else sparse := sparse.push (← buildTrieNode nodes final fuel next)
          let heap := if sparse.size == 1 then 0 else 8 * sparse.size
          union := union.push (← addState heap)
      addState (4 * union.size)

/- Build a choice of literals as one trie. -/
def buildLiteralTrie (lits : List (List Nat)) : BuildM Piece := do
  let _final ← addState 0
  let start ← buildTrieNode (buildTrie lits) _final (lits.foldl (fun n l => n + l.length) 1) 0
  return ⟨start, false⟩

/- Build the automaton of a shape, forward or backward, with or
    without the states of groups. -/
def build (backward : Bool) : Shape → BuildM Piece
  | .empty => do return ⟨← addState 0, false⟩
  | .lit bytes => do
      let mut first := 0
      for k in [0:bytes.length] do
        let id ← addState 0
        if k == 0 then first := id
      return ⟨first, false⟩
  | .cls s =>
      if s.isAscii then do
        let _ ← addState 0
        return ⟨← addState (8 * s.ranges.length), false⟩
      else if backward then buildUtf8Backward s
      else buildUtf8Forward s
  | .look _ => do return ⟨← addState 0, false⟩
  | .cap sub =>
      if backward then build backward sub
      else do
        let start ← addState 0
        let inner ← build backward sub
        let _ ← addState 0
        linkFrom inner
        return ⟨start, false⟩
  | .concat items => do
      let ordered := if backward then items.attach.reverse else items.attach
      let mut prev : Option Piece := none
      let mut first : Option Piece := none
      for ⟨x, _⟩ in ordered do
        let p ← build backward x
        if let some q := prev then linkFrom q
        if first.isNone then first := some p
        prev := some p
      match first, prev with
      | some f, some l => return ⟨f.start, l.exitIsUnion⟩
      | _, _ => return ⟨← addState 0, false⟩
  | .alt branches => do
      let lits := branches.filterMap fun | .lit bs => some bs | _ => none
      if lits.length > 1 && lits.length == branches.length then
        buildLiteralTrie (if backward then lits.map List.reverse else lits)
      else
        match branches.attach with
        | [] => return ⟨← addState 0, false⟩
        | [⟨x, _⟩] => build backward x
        | ⟨x, _⟩ :: ⟨y, _⟩ :: rest => do
            let p1 ← build backward x
            let p2 ← build backward y
            let union ← addState 0
            let _ ← addState 0
            addBranch
            linkFrom p1
            addBranch
            linkFrom p2
            for ⟨z, _⟩ in rest do
              let p ← build backward z
              addBranch
              linkFrom p
            return ⟨union, false⟩
  | .rep m n sub => do
      let copies := fun (k : Nat) => do
        let mut prev : Option Piece := none
        let mut first : Option Piece := none
        for _ in [0:k] do
          let p ← build backward sub
          if let some q := prev then linkFrom q
          if first.isNone then first := some p
          prev := some p
        match first, prev with
        | some f, some l => return (⟨f.start, l.exitIsUnion⟩ : Piece)
        | _, _ => return ⟨← addState 0, false⟩
      match n with
      | some 1 =>
          if m == 0 then do
            let union ← addState 0
            let p ← build backward sub
            let _ ← addState 0
            addBranch
            addBranch
            linkFrom p
            return ⟨union, false⟩
          else copies m
      | none =>
          if m == 0 then
            if (sub.minLen.map fun k => decide (k > 0)).getD false then do
              let union ← addState 0
              let p ← build backward sub
              addBranch
              linkFrom p
              return ⟨union, true⟩
            else do
              let p ← build backward sub
              let _ ← addState 0
              linkFrom p
              addBranch
              let question ← addState 0
              let _ ← addState 0
              addBranch
              addBranch
              addBranch
              return ⟨question, false⟩
          else if m == 1 then do
            let p ← build backward sub
            let _ ← addState 0
            linkFrom p
            addBranch
            return ⟨p.start, true⟩
          else do
            let pre ← copies (m - 1)
            let last ← build backward sub
            let _ ← addState 0
            linkFrom pre
            linkFrom last
            addBranch
            return ⟨pre.start, true⟩
      | some k =>
          if m == k then copies m
          else do
            let pre ← copies m
            let _ ← addState 0
            let mut prev := pre
            for _ in [m:k] do
              let _ ← addState 0
              let p ← build backward sub
              linkFrom prev
              addBranch
              addBranch
              prev := p
            linkFrom prev
            return ⟨pre.start, false⟩

/- The whole automaton of a shape: a start that searches from any
    place unless the shape is anchored at the start, the shape, and
    a final state. -/
def buildAll (backward anchored : Bool) (s : Shape) : BuildM Unit := do
  let pre ← if anchored then do pure (⟨← addState 0, false⟩ : Piece)
    else do
      let union ← addState 0
      let _ ← addState 0
      let _ ← addState 8
      addBranch
      pure (⟨union, true⟩ : Piece)
  let body ← build backward (if backward then s else .cap s)
  let _ ← addState 0
  linkFrom body
  linkFrom pre

mutual

/- Whether every match of the shape starts where an assertion of the
    start of the text holds: the assertion leads it, possibly after
    other zero-width items. -/
def Shape.anchoredStart : Shape → Bool
  | .look l => l == .start
  | .concat items => Shape.leadAnchored items
  | .alt branches => !branches.isEmpty && branches.attach.all fun ⟨b, _⟩ => b.anchoredStart
  | .rep m _ sub => m > 0 && sub.anchoredStart
  | .cap sub => sub.anchoredStart
  | _ => false

/- Whether the start assertion leads a list of items. -/
def Shape.leadAnchored : List Shape → Bool
  | [] => false
  | x :: rest => x.anchoredStart || (x.maxLen == some 0 && Shape.leadAnchored rest)

end

mutual

/- Whether every match of the shape ends where an assertion of the
    end of the text holds. -/
def Shape.anchoredEnd : Shape → Bool
  | .look l => l == .finish
  | .concat items => Shape.trailAnchored items
  | .alt branches => !branches.isEmpty && branches.attach.all fun ⟨b, _⟩ => b.anchoredEnd
  | .rep m _ sub => m > 0 && sub.anchoredEnd
  | .cap sub => sub.anchoredEnd
  | _ => false

/- Whether the end assertion closes a list of items: some item ends
    with it and only zero-width items follow. -/
def Shape.trailAnchored : List Shape → Bool
  | [] => false
  | x :: rest => Shape.trailAnchored rest || (x.anchoredEnd && rest.all fun r => r.maxLen == some 0)

end

/- Whether both automata of an expression stay within the limit. -/
def automatonFits (e : Expr) : Bool :=
  let s := Shape.ofExpr e
  let forward := (buildAll false s.anchoredStart s).run {}
  let backward := (buildAll true s.anchoredEnd s).run {}
  match forward, backward with
  | .ok _, .ok _ => true
  | _, _ => false

end OptionGrammar.Regex
