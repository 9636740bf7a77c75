import LiteralMark.Ruby.Grammar.Sequence
import LiteralMark.Ruby.Scan.State
/-!
# Subtrees

What has been read so far is held in subtrees: tokens, rules with their
parts, and text that was unexpected. A subtree carries its length and the
cost of the faults below it, so that two readings of one text can be
compared without looking into them.
-/

namespace LiteralMark.Ruby

/-! ## Costs -/

namespace Cost

/-- The cost of a token that is missing. -/
def missing : Nat := 610

/-- The cost of a stretch of unexpected text. -/
def stretch : Nat := 500

/-- The cost of each token or node in unexpected text. -/
def skipped : Nat := 100

/-- The cost of some length of unexpected text: one for each byte, and
more for each line. -/
def length (e : Extent) : Nat := e.bytes + 30 * e.rows

end Cost

/-! ## Signs -/

/-- What a subtree stands for. -/
inductive Sign
  | token (t : Token)
  | rule (r : Rule)
  /-- A stretch of unexpected text. -/
  | unexpected
  /-- The first part of a stretch of unexpected text. -/
  | skipped
deriving DecidableEq, Repr, Inhabited

/-- Whether a token makes a node. -/
def Token.isShown : Token → Bool
  | .lineBreak | .noLineBreak | .heredocBodyStart | .identifierBang | .constantBang
  | .identifierQuery | .constantQuery | .blanks | .endOfText | .endOfExtra => false
  | _ => true

namespace Sign

/-- Whether a sign makes a node. -/
def isShown : Sign → Bool
  | token t => t.isShown
  | rule r => r.isShown
  | unexpected => true
  | skipped => false

/-- Whether a sign stands for unexpected text. -/
def isFault : Sign → Bool
  | unexpected | skipped => true
  | _ => false

/-- The place of a sign in the order by which two readings are compared:
tokens, then rules, then faults. -/
def rank : Sign → Nat × Nat
  | token t => (0, t.ctorIdx)
  | rule r => (1, r.ctorIdx)
  | skipped => (2, 0)
  | unexpected => (2, 1)

/-- The steps that the children of a subtree have taken. -/
def steps (choice : Nat) : Sign → List Step
  | rule r => r.sequence choice
  | _ => []

end Sign

/-! ## Subtrees -/

/-- What is known of a subtree apart from its children. -/
structure Stem where
  sign : Sign
  /-- Which sequence of its rule it is. -/
  choice : Nat := 0
  /-- The blanks in front of it. -/
  padding : Extent := {}
  size : Extent := {}
  /-- Where it ends, if it has any text. -/
  stop : Option Cursor := none
  /-- Whether it belongs to no rule. -/
  extra : Bool := false
  /-- Whether it is a token that is not in the text. -/
  missing : Bool := false
  /-- The cost of the faults in it. -/
  cost : Nat := 0
  /-- How many children its node has. -/
  shownParts : Nat := 0
  /-- How many nodes are below it. -/
  shownBelow : Nat := 0
  /-- What is open behind a token that depends on its surroundings. -/
  scan : Option Scan := none
deriving Repr, Inhabited

/-- A part of a reading. -/
inductive Subtree
  | mk (stem : Stem) (children : List Subtree)
deriving Repr, Inhabited

namespace Subtree

/-- What is known of a subtree apart from its children. -/
def stem : Subtree → Stem
  | mk s _ => s

/-- The children of a subtree. -/
def children : Subtree → List Subtree
  | mk _ cs => cs

/-- What a subtree stands for. -/
def sign (t : Subtree) : Sign := t.stem.sign

/-- Whether a subtree belongs to no rule. -/
def extra (t : Subtree) : Bool := t.stem.extra

/-- The cost of the faults in a subtree. -/
def cost (t : Subtree) : Nat := t.stem.cost

/-- The length of a subtree with the blanks in front of it. -/
def total (t : Subtree) : Extent := t.stem.padding.add t.stem.size

/-- The same subtree, but belonging to no rule. -/
def asExtra : Subtree → Subtree
  | mk s cs => mk { s with extra := true } cs

/-- How many nodes a subtree makes. A stretch of unexpected text that is
under way counts too. -/
def count (t : Subtree) : Nat :=
  t.stem.shownBelow + (if t.sign.isShown then 1 else 0) + (if t.sign = .skipped then 1 else 0)

/-- A token that is not in the text. -/
def missing (t : Token) : Subtree :=
  mk { sign := .token t, missing := true, cost := Cost.missing } []

/-- The children of a subtree with what is said of them. Those that belong
to no rule take no step. -/
def settings : List Step → List Subtree → List (Subtree × Setting)
  | _, [] => []
  | steps, c :: cs =>
    if c.extra then (c, {}) :: settings steps cs
    else (c, (steps.head?.map (·.setting)).getD {}) :: settings steps.tail cs

/-- What a child adds to the cost of unexpected text. -/
def skippedCost (t : Subtree) : Nat :=
  if t.extra || (t.sign = .unexpected && t.children.isEmpty) then 0
  else if t.sign.isShown then Cost.skipped
  else Cost.skipped * t.stem.shownParts

/-- The length of some subtrees one behind another, without the blanks in
front of the first. -/
def extentOf : List Subtree → Extent
  | [] => {}
  | c :: cs => cs.foldl (fun e d => e.add d.total) c.stem.size

/-- The cost of a subtree with some children. The parts of a stretch of
unexpected text are counted anew whenever it grows. -/
def costOf (sign : Sign) (children : List Subtree) : Nat :=
  let below := children.foldl (fun n c => if c.sign = .skipped then n else n + c.cost) 0
  if sign.isFault then
    children.foldl (fun n c => n + c.skippedCost) below + Cost.stretch +
      Cost.length (extentOf children)
  else below

/-- The subtree with some children. -/
def node (sign : Sign) (choice : Nat) (children : List Subtree) : Subtree :=
  let parts := (settings (sign.steps choice) children).map fun (c, s) =>
    (c, s.label.isSome || c.sign.isShown)
  mk
    { sign, choice
      padding := (children.head?.map (·.stem.padding)).getD {}
      size := extentOf children
      stop := children.foldl (fun p c => c.stem.stop.or p) none
      cost := costOf sign children
      shownParts := parts.foldl
        (fun n (c, shown) => n + if shown then 1 else c.stem.shownParts) 0
      shownBelow := parts.foldl
        (fun n (c, shown) => n + c.stem.shownBelow + if shown then 1 else 0) 0 }
    children

/-! ## Comparing subtrees -/

/-- Whether two subtrees stand for the same text in the same way. Among
faulty ones only what they stand for counts. -/
def alike (a b : Subtree) : Bool :=
  a.sign == b.sign &&
    ((a.cost > 0 && b.cost > 0) ||
      (a.stem.padding.bytes == b.stem.padding.bytes && a.stem.size.bytes == b.stem.size.bytes &&
        a.children.length == b.children.length && a.extra == b.extra &&
        a.stem.scan == b.stem.scan))

mutual

/-- The signs of a subtree from the root on, each with the number of its
children. -/
def outline : Subtree → List ((Nat × Nat) × Nat)
  | mk s cs => (s.sign.rank, cs.length) :: outlines cs

/-- The signs of some subtrees. -/
def outlines : List Subtree → List ((Nat × Nat) × Nat)
  | [] => []
  | t :: ts => t.outline ++ outlines ts

end

/-- Whether the first of two outlines that differ comes later in the
order. -/
def outlineAfter : List ((Nat × Nat) × Nat) → List ((Nat × Nat) × Nat) → Bool
  | ((a, b), n) :: xs, ((a', b'), n') :: ys =>
    if a ≠ a' then a > a'
    else if b ≠ b' then b > b'
    else if n ≠ n' then n > n'
    else outlineAfter xs ys
  | _, _ => false

/-- Whether the second of two subtrees for one text is the better one:
the cheaper, or among sound ones the one that comes first in the order. -/
def prefersSecond (a b : Subtree) : Bool :=
  if b.cost < a.cost then true
  else if a.cost < b.cost then false
  else if a.cost > 0 then true
  else outlineAfter a.outline b.outline

/-- Takes the subtrees at the end that belong to no rule apart. -/
def splitExtras (trees : List Subtree) : List Subtree × List Subtree :=
  let back := trees.reverse
  ((back.dropWhile extra).reverse, (back.takeWhile extra).reverse)

end Subtree

end LiteralMark.Ruby
