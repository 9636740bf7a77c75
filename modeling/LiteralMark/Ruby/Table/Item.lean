import LiteralMark.Ruby.Grammar.Sequence
/-!
# Items

An item is a place in a sequence of a rule: what stands in front of it
has been read. Two sequences of a rule that differ only in what has been
read lead to the same rest of the work, and then the first of them stands
for both; `Item.least` gives it.
-/

namespace LiteralMark.Ruby

/-- A place in a sequence of a rule. -/
structure Item where
  rule : Rule
  choice : Nat
  dot : Nat
deriving DecidableEq, Repr, Inhabited

/-- Whether what follows a place, and what the node needs to know of what
is in front of it, is the same in two sequences. Which symbols have been
read matters only if an inner rule among them names parts. -/
def samePlace (dot : Nat) (xs ys : List Step) : Bool :=
  let inner := fun (x : Step) =>
    match x.symbol with
    | .rule r => namingRules.contains r
    | .token _ => false
  let read := xs.take dot
  let read' := ys.take dot
  xs.length == ys.length &&
    xs.drop dot == ys.drop dot &&
    read.map (·.setting.part) == read'.map (·.setting.part) &&
    read.map (·.setting.label) == read'.map (·.setting.label) &&
    read.getLast?.map (·.setting.strength) == read'.getLast?.map (·.setting.strength) &&
    read.getLast?.map (·.setting.side) == read'.getLast?.map (·.setting.side) &&
    read.any inner == read'.any inner &&
    (!read.any inner || read.map (·.symbol) == read'.map (·.symbol))

/-- For each sequence of a rule and each place in it, the first sequence
with the same place. -/
def leastChoices (r : Rule) : Array (Array Nat) :=
  let all := r.sequences.toList
  (all.zipIdx.map fun (xs, n) =>
    ((List.range (xs.length + 1)).map fun dot =>
      (all.findIdx? (samePlace dot xs)).getD n).toArray).toArray

/-- The first sequences with the same places, for all rules. -/
def leastTable : Array (Thunk (Array (Array Nat))) :=
  (Rule.all.map fun r => Thunk.mk fun _ => leastChoices r).toArray

namespace Item

/-- The symbols from the place on. -/
def rest (i : Item) : List Step := (i.rule.sequence i.choice).drop i.dot

/-- The symbol behind the place. -/
def next? (i : Item) : Option Symbol := i.rest.head?.map (·.symbol)

/-- The step in front of the place. -/
def last? (i : Item) : Option Step :=
  match i.dot with
  | 0 => none
  | n + 1 => (i.rule.sequence i.choice)[n]?

/-- The strength with which the item holds together. -/
def strength (i : Item) : Int := ((i.last?.bind (·.setting.strength)).getD 0)

/-- The item that stands for all items with the same place. -/
def least (i : Item) : Item :=
  match leastTable[i.rule.ctorIdx]? with
  | some table => { i with choice := (table.get.getD i.choice #[]).getD i.dot i.choice }
  | none => i

/-- The item behind the next symbol. -/
def advance (i : Item) : Item := { i with dot := i.dot + 1 }.least

/-- Whether an item comes before another one. -/
def before (i j : Item) : Bool :=
  i.rule.ctorIdx < j.rule.ctorIdx ||
    (i.rule == j.rule && (i.choice < j.choice || (i.choice == j.choice && i.dot < j.dot)))

end Item

/-- Items with the tokens that may follow their rules, in order. -/
abbrev Kernel := List (Item × TokenSet)

/-- Adds an item to a kernel. -/
def Kernel.insert (i : Item) (ahead : TokenSet) : Kernel → Kernel
  | [] => [(i, ahead)]
  | (j, tokens) :: k =>
    if i = j then (j, tokens.union ahead) :: k
    else if i.before j then (i, ahead) :: (j, tokens) :: k
    else (j, tokens) :: insert i ahead k

end LiteralMark.Ruby
