import LiteralMark.Ruby.Parse.Attempt
/-!
# The reader

All attempts to read a text, with the stack that they share and the best
tree that has been found. An attempt shifts a token, or it reduces a rule:
the subtrees of the rule are taken from the stack on all ways, and the
rule is put in their place.
-/

namespace LiteralMark.Ruby

/-- The last lexeme that was looked for, with its place and what was open
there. -/
structure Recent where
  lexeme : Lexeme
  offset : Nat
  scan : Option Scan

/-- All attempts to read a text. The best come first. -/
structure Reader where
  stack : Stack
  attempts : List Attempt
  /-- The best tree so far. -/
  finished : Option Subtree := none
  /-- How many trees have been found. -/
  accepted : Nat := 0
  recent : Option Recent := none

namespace Reader

/-- The most attempts that go on at once. -/
def maxAttempts : Nat := 6

/-- The most attempts that one reduction may add besides. -/
def maxOverflow : Nat := 4

/-- The reader at the start of a text. -/
def start (text : Text) : Reader :=
  { stack := ⟨#[{ state := .start, place := { rest := text } }]⟩, attempts := [{ node := 0 }] }

variable (m : Reader)

/-- The attempt with a number. -/
def attempt (v : Nat) : Attempt := m.attempts.getD v default

/-- The top level of an attempt. -/
def top (v : Nat) : Level := m.stack.top (m.attempt v)

/-- The state of an attempt. -/
def state (v : Nat) : State := (m.top v).state

/-- Changes an attempt. -/
def modify (v : Nat) (f : Attempt → Attempt) : Reader :=
  { m with attempts := m.attempts.modify v f }

/-- Ends an attempt. -/
def halt (v : Nat) : Reader := m.modify v fun a => { a with status := .halted }

/-- Forgets an attempt. -/
def remove (v : Nat) : Reader := { m with attempts := m.attempts.eraseIdx v }

/-- Puts an attempt in the place of another. What was known of the states
in front of the last fault is kept. -/
def replace (v by_ : Nat) : Reader :=
  let old := m.attempt v
  let a := m.attempt by_
  let a := { a with earlier := a.earlier.or old.earlier }
  if v = by_ then m else { m with attempts := (m.attempts.set v a).eraseIdx by_ }

/-- Puts a state on the stack of an attempt. A state without a subtree is
that after a fault. -/
def push (v : Nat) (tree : Option Subtree) (state : State) : Reader :=
  let level := m.stack.above (m.attempt v).node tree state
  match m with
  | { stack := ⟨levels⟩, attempts, finished, accepted, recent } =>
    let node := levels.size
    let attempts := attempts.modify v fun a =>
      { a with
        node := node
        countAtFault := if tree.isNone then level.count else a.countAtFault }
    { stack := ⟨levels.push level⟩, attempts, finished, accepted, recent }

/-- Puts subtrees on the stack of an attempt that do not change its
state. -/
def pushExtras (v : Nat) (trees : List Subtree) (state : State) : Reader :=
  trees.foldl (fun m t => m.push v (some t) state) m

/-- Joins an attempt with another, which is forgotten. -/
def join? (v w : Nat) : Option Reader :=
  (m.stack.join? (m.attempt v) (m.attempt w)).map fun (stack, a) =>
    { m with stack := stack, attempts := (m.attempts.set v a).eraseIdx w }

/-- Joins an attempt with the first of some others that it can be joined
with. -/
def joinFirst? (others : List Nat) (w : Nat) : Option Reader :=
  others.findSome? fun v => m.join? v w

/-! ## Shifting -/

/-- Puts a lexeme on the stack of an attempt. -/
def shift (v : Nat) (l : Lexeme) (extra : Bool) (target : State) : Reader :=
  (m.push v (some (l.subtree extra)) target).modify v fun a => { a with scan := l.scan.getD a.scan }

/-! ## Reducing -/

/-- The best of the subtrees that the ways down give for a rule, with the
subtrees behind it that belong to no rule. -/
def bestParent (i : Item) : List (List Subtree) → Option (Subtree × List Subtree) :=
  List.foldl
    (fun best trees =>
      let (parts, extras) := Subtree.splitExtras trees
      let parent := Subtree.node (.rule i.rule) i.choice parts
      match best with
      | some (t, _) => if t.prefersSecond parent then some (parent, extras) else best
      | none => some (parent, extras))
    none

/-- Reduces a rule for one of the levels below it, as a new attempt. -/
def reduceTo (v : Nat) (i : Item) (silent : Bool) (limit : Nat)
    (below : Nat × List (List Subtree)) : Reader :=
  let w := m.attempts.length
  match bestParent i below.2 with
  | none => m
  | some (parent, extras) =>
    if w > limit then m
    else
      let state := (m.stack.level below.1).state
      let target := state.behindRule i.rule
      let parent := if silent && target = state then parent.asExtra else parent
      let a := m.attempt v
      let new : Attempt := { node := below.1, scan := a.scan, countAtFault := a.countAtFault }
      let m := { m with attempts := m.attempts ++ [new] }
      let m := (m.push w (some parent) target).pushExtras w extras target
      (m.joinFirst? ((List.range w).filter (· ≠ v)) w).getD m

/-- Reduces a rule. The new attempts come behind all others, and the first
of them is given, if there is one. -/
def reduce (v : Nat) (i : Item) (silent : Bool) : Reader × Option Nat :=
  let w := m.attempts.length
  let halted := m.attempts.countP (·.status.isHalted)
  let limit := maxAttempts + maxOverflow + halted
  let m := (m.stack.pop (m.attempt v).node i.dot).foldl
    (fun m below => m.reduceTo v i silent limit below) m
  (m, if m.attempts.length > w then some w else none)

/-! ## Accepting -/

/-- The whole tree, from the subtrees on a way to the bottom: what belongs
to no rule goes into the last subtree that does. -/
def root? (trees : List Subtree) : Option Subtree :=
  let (parts, extras) := Subtree.splitExtras trees
  parts.getLast?.map fun t =>
    Subtree.node t.sign t.stem.choice (parts.dropLast ++ t.children ++ extras)

/-- The whole text has been read: the best tree is kept, and the attempt is
over. -/
def accept (v : Nat) (l : Lexeme) : Reader :=
  let m := m.push v (some (l.subtree true)) .start
  let best := (m.stack.all (m.attempt v).node).foldl
    (fun best trees =>
      match best, root? trees with
      | some t, some root => if t.prefersSecond root then some root else best
      | none, found => found
      | best, none => best)
    m.finished
  { m with finished := best, accepted := m.accepted + 1 }.halt v

end Reader

end LiteralMark.Ruby
