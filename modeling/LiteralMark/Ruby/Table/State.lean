import LiteralMark.Ruby.Table.Contexts
import LiteralMark.Ruby.Table.Opening
/-!
# States

A state says what has been read of the rules under way: the items that
are possible, in one of their contexts. One further state is that after a
fault, in which nothing is known.
-/

namespace LiteralMark.Ruby

/-- A state. -/
inductive State
  /-- After a fault. -/
  | fault
  /-- In a context of a group of items. -/
  | ready (rule : Rule) (core context : Nat)
deriving DecidableEq, Repr, Inhabited

/-- A group of items and its contexts. An item has the number of its set
in the contexts. -/
structure Core where
  items : List (Item × Nat)
  contexts : List (List TokenSet)
deriving Repr, Inhabited

namespace Core

/-- The item and the number of its set that a number stands for. -/
def item (n : Nat) : Item × Nat :=
  (⟨Rule.ofNat (n / 0x1000 % 0x100), n / 0x10 % 0x100, n % 0x10⟩, n / 0x100000)

/-- The sets of tokens by number. -/
def aheadArray : Array TokenSet := ((0 :: aheadSets).map BitSet.mk).toArray

/-- The lists of contexts by number. -/
def contextArray : Array (List (List TokenSet)) :=
  (([] :: contextTable).map fun l => l.map fun c =>
    c.map fun n => aheadArray.getD n .empty).toArray

/-- A group of items from its numbers. -/
def ofNumbers (contexts : Nat) (items : List Nat) : Core :=
  ⟨items.map item, contextArray.getD contexts []⟩

/-- All groups of items, by the rule of the first item. -/
def table : Array (Array Core) :=
  (Rule.all.map fun r => (r.cores.map fun (c, items) => ofNumbers c items).toArray).toArray

/-- Whether a group has the items of a kernel. -/
def hasItems (c : Core) (k : Kernel) : Bool := c.items.map (·.1) == k.map (·.1)

/-- The kernel in a context. -/
def kernel (c : Core) (context : List TokenSet) : Kernel :=
  c.items.map fun (i, n) => (i, context.getD n .empty)

/-- Whether a context lists all tokens of a kernel with the same items. -/
def covers (c : Core) (context : List TokenSet) (k : Kernel) : Bool :=
  ((c.kernel context).zip k).all fun ((_, s), (_, s')) => s'.subset s

end Core

namespace State

/-- The kernel of a state. -/
def kernel : State → Kernel
  | fault => []
  | ready r n context =>
    match (Core.table.getD r.ctorIdx #[])[n]? with
    | some c => c.kernel (c.contexts.getD context [])
    | none => []

/-- The state with the items of a kernel: its context is the first that
covers the kernel. -/
def of? (k : Kernel) : Option State := do
  let (i, _) ← k.head?
  let cores := Core.table.getD i.rule.ctorIdx #[]
  let n ← cores.findIdx? (·.hasItems k)
  let c ← cores[n]?
  let context ← c.contexts.findIdx? (c.covers · k)
  return ready i.rule n context

/-- The state at the start of a source. -/
def start : State := ready .source 0 0

/-- The state at the start of the body of a here document, which can
stand behind any token. -/
def heredocBody : State :=
  let k : Kernel := (List.range (Rule.sequences .heredocBody).size).foldl
    (fun k n => k.insert (Item.least ⟨.heredocBody, n, 1⟩) (.single .endOfExtra)) []
  (of? k).getD fault

end State

end LiteralMark.Ruby
