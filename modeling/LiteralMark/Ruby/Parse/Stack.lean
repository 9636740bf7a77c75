import LiteralMark.Ruby.Parse.Subtree
import LiteralMark.Ruby.Table.Row
/-!
# The stack

The states that have been gone through, each above the states that it was
reached from, with the subtree in between. Attempts to read the text that
have come to the same state share it, and go back from it on all the ways
that lead there. So the stack is a graph; its nodes are numbered, and each
links to nodes below.
-/

namespace LiteralMark.Ruby

/-- A way down from a state. -/
structure Link where
  /-- The node below. -/
  node : Nat
  /-- The subtree in between; none where a fault was found. -/
  tree : Option Subtree
deriving Inhabited

/-- A state on the stack. -/
structure Level where
  state : State
  place : Cursor
  /-- The cost of the faults up to here. -/
  cost : Nat := 0
  /-- How many nodes have been made up to here. -/
  count : Nat := 0
  links : List Link := []
deriving Inhabited

/-- The levels by number. -/
structure Stack where
  levels : Array Level

namespace Stack

/-- The level with a number. -/
def level (s : Stack) (n : Nat) : Level := s.levels.getD n default

/-- The most links that a level has. -/
def maxLinks : Nat := 8

/-- The most ways that are followed at once. -/
def maxPaths : Nat := 64

/-! ## Going up -/

/-- A level on top of another. -/
def above (s : Stack) (base : Nat) (tree : Option Subtree) (state : State) : Level :=
  let b := s.level base
  match tree with
  | some t =>
    { state, place := t.stem.stop.getD b.place, cost := b.cost + t.cost,
      count := b.count + t.count, links := [⟨base, tree⟩] }
  | none => { state, place := b.place, cost := b.cost, count := b.count, links := [⟨base, none⟩] }

/-! ## Joining levels -/

/-- Whether two links have the same text in the same way. -/
def alike (a b : Link) : Bool :=
  match a.tree, b.tree with
  | some t, some u => t.alike u
  | none, none => true
  | _, _ => false

/-- Whether two levels stand for the same place in the same state. -/
def sameLevel (s : Stack) (a b : Nat) : Bool :=
  let x := s.level a
  let y := s.level b
  x.state == y.state && x.place.offset == y.place.offset && x.cost == y.cost

/-- Adds a link to a level. Where there is one like it, the levels below
are joined instead, at most `n` levels down. -/
def addLink : (n : Nat) → Stack → (self : Nat) → Link → Stack
  | 0, s, _, _ => s
  | n + 1, s, self, l =>
    let own := s.level self
    if l.node = self then s
    else
      match own.links.find? fun e => alike e l && (e.node = l.node || s.sameLevel e.node l.node) with
      | some e =>
        if e.node = l.node then s
        else (s.level l.node).links.foldl (fun s m => addLink n s e.node m) s
      | none =>
        if own.links.length ≥ maxLinks then s
        else
          let count := (s.level l.node).count + (l.tree.map (·.count)).getD 0
          let joined := { own with links := own.links ++ [l], count := max own.count count }
          ⟨s.levels.setIfInBounds self joined⟩

/-- Adds the links of one level to another. -/
def join (s : Stack) (a b : Nat) : Stack :=
  (s.level b).links.foldl (fun s l => addLink (s.levels.size + 1) s a l) s

/-! ## Going down -/

/-- A way down through the stack. -/
structure Path where
  /-- The level that has been reached. -/
  node : Nat
  /-- The subtrees on the way, in the order of the text. -/
  trees : List Subtree := []
  /-- How many of them belong to a rule. -/
  count : Nat := 0
deriving Inhabited

/-- Follows a link. -/
def Path.follow (p : Path) (l : Link) : Path :=
  match l.tree with
  | some t => ⟨l.node, t :: p.trees, if t.extra then p.count else p.count + 1⟩
  | none => ⟨l.node, p.trees, p.count + 1⟩

variable {σ : Type}

/-- Takes every path one level down. The first link goes on with its path,
and the others start new ones behind all paths. There are `size` paths. -/
def walkRound (s : Stack) (visit : σ → Path → σ × Bool) :
    List Path → (kept new : List Path) → (size : Nat) → σ → σ × List Path
  | [], kept, new, _, seen => (seen, kept.reverse ++ new.reverse)
  | p :: todo, kept, new, size, seen =>
    match visit seen p, (s.level p.node).links with
    | (seen, true), _ | (seen, false), [] => walkRound s visit todo kept new (size - 1) seen
    | (seen, false), l :: more =>
      let others := (more.take (maxPaths - size)).map p.follow
      walkRound s visit todo (p.follow l :: kept) (others.reverse ++ new)
        (size + others.length) seen

/-- Takes some paths down, at most `n` levels. -/
def walk (s : Stack) (visit : σ → Path → σ × Bool) : (n : Nat) → List Path → σ → σ
  | 0, _, seen => seen
  | _, [], seen => seen
  | n + 1, p :: ps, seen =>
    let (seen, paths) := s.walkRound visit (p :: ps) [] [] (p :: ps).length seen
    walk s visit n paths seen

/-- Visits the levels below a level, itself first. A visit says whether
its path ends there. -/
def descend (s : Stack) (top : Nat) (visit : σ → Path → σ × Bool) (seen : σ) : σ :=
  s.walk visit (s.levels.size + 1) [⟨top, [], 0⟩] seen

/-- Puts a path to the others that have led to the same level. -/
def gather (p : Path) : List (Nat × List (List Subtree)) → List (Nat × List (List Subtree))
  | [] => [(p.node, [p.trees])]
  | (n, found) :: rest =>
    if n = p.node then (n, found ++ [p.trees]) :: rest else (n, found) :: gather p rest

/-- Takes a number of subtrees from the stack. The result is the levels
below them, each with the subtrees on all ways to it. -/
def pop (s : Stack) (top count : Nat) : List (Nat × List (List Subtree)) :=
  s.descend top
    (fun found p => if p.count = count then (gather p found, true) else (found, false)) []

/-- The subtrees on all ways to the bottom of the stack. -/
def all (s : Stack) (top : Nat) : List (List Subtree) :=
  s.descend top
    (fun found p =>
      if (s.level p.node).links.isEmpty then (found ++ [p.trees], true) else (found, false)) []

end Stack

end LiteralMark.Ruby
