import LiteralMark.Ruby.Parse.Lexeme
import LiteralMark.Ruby.Parse.Stack
/-!
# Attempts

An attempt to read a text. Behind a fault there are several of them, which
read on differently. They are compared by what their faults cost and by
how far they have come since; a worse one is given up, and two that have
come to the same state are joined.
-/

namespace LiteralMark.Ruby

/-- What an attempt is doing. -/
inductive Status
  | active
  /-- It has found a fault, in front of a lexeme. -/
  | paused (ahead : Lexeme)
  | halted
deriving Inhabited

namespace Status

/-- Whether an attempt goes on. -/
def isActive : Status → Bool
  | active => true
  | _ => false

/-- Whether an attempt has found a fault. -/
def isPaused : Status → Bool
  | paused _ => true
  | _ => false

/-- Whether an attempt is over. -/
def isHalted : Status → Bool
  | halted => true
  | _ => false

end Status

/-- A state that was gone through in front of a fault. -/
structure Earlier where
  place : Cursor
  /-- How many subtrees are above it. -/
  depth : Nat
  state : State
deriving Inhabited

/-- An attempt to read a text. -/
structure Attempt where
  /-- The top of its stack. -/
  node : Nat
  /-- What is open. -/
  scan : Option Scan := none
  status : Status := .active
  /-- The states in front of its last fault. -/
  earlier : Option (List Earlier) := none
  /-- How many nodes had been made at its last fault. -/
  countAtFault : Nat := 0
deriving Inhabited

namespace Stack

variable (s : Stack) (a b : Attempt)

/-- The top level of an attempt. -/
def top : Level := s.level a.node

/-! ## What an attempt has done since its last fault -/

/-- An attempt whose count at the last fault is at most its count now. -/
def settle : Attempt := { a with countAtFault := min a.countAtFault (s.top a).count }

/-- How many nodes have been made since the last fault. -/
def countSince : Nat := (s.top a).count - a.countAtFault

/-- Whether some text has been read above a level since the last fault,
looking at most `n` levels down. -/
def movedAbove (countAtFault : Nat) : (n node : Nat) → Bool
  | 0, _ => false
  | n + 1, node =>
    let l := s.level node
    match l.links with
    | ⟨below, some t⟩ :: _ =>
      if t.total.bytes > 0 then true
      else if l.count > countAtFault && t.cost = 0 then movedAbove countAtFault n below
      else false
    | _ => false

/-- Whether some text has been read since the last fault, if there was
one. -/
def moved : Bool := (s.top a).cost = 0 || s.movedAbove a.countAtFault (s.levels.size + 1) a.node

/-! ## Costs -/

/-- The cost of an attempt. A fault that nothing has been done about
costs as much as the start of unexpected text. -/
def cost : Nat :=
  let l := s.top a
  let untreated :=
    match l.links with
    | ⟨_, none⟩ :: _ => l.state == .fault
    | _ => false
  l.cost + if a.status.isPaused || untreated then Cost.stretch else 0

/-- How good an attempt is. -/
structure Standing where
  cost : Nat
  count : Nat
  /-- Whether it is in a fault. -/
  faulty : Bool

/-- How good an attempt is now. -/
def standing : Standing :=
  { cost := s.cost a + if a.status.isPaused then Cost.skipped else 0
    count := s.countSince a
    faulty := a.status.isPaused || (s.top a).state == .fault }

/-- How two attempts compare. -/
inductive Comparison
  | takeLeft
  | preferLeft
  | equal
  | preferRight
  | takeRight
deriving DecidableEq, Repr

/-- The difference of costs, times the nodes made since, from which on
the worse attempt is given up. -/
def maxDifference : Nat := 18 * Cost.skipped

/-- Compares two attempts. -/
def Standing.compare (x y : Standing) : Comparison :=
  if !x.faulty && y.faulty then if x.cost < y.cost then .takeLeft else .preferLeft
  else if x.faulty && !y.faulty then if y.cost < x.cost then .takeRight else .preferRight
  else if x.cost < y.cost then
    if (y.cost - x.cost) * (1 + x.count) > maxDifference then .takeLeft else .preferLeft
  else if y.cost < x.cost then
    if (x.cost - y.cost) * (1 + y.count) > maxDifference then .takeRight else .preferRight
  else .equal

/-! ## Joining attempts -/

/-- Whether two attempts have come to the same state. -/
def canJoin : Bool :=
  a.status.isActive && b.status.isActive && s.sameLevel a.node b.node && a.scan == b.scan

/-- Joins two attempts that have come to the same state. -/
def join? : Option (Stack × Attempt) :=
  if s.canJoin a b then
    let s' := s.join a.node b.node
    let l := s'.top a
    some (s', if l.state = .fault then { a with countAtFault := l.count } else a)
  else none

end Stack

end LiteralMark.Ruby
