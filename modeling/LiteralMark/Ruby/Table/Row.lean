import LiteralMark.Ruby.Table.Lexical
import LiteralMark.Ruby.Table.State
/-!
# Rows

What each token leads to in a state, and each rule. The items of the
state and the rules that can open there tell which symbols are possible
and which rules are complete. Where a token could both go on with a rule
and follow a complete one, the strengths decide, and between equal
strengths the side: the rule on the left is complete, or the one on the
right goes on.
-/

namespace LiteralMark.Ruby

/-- What a token leads to in a state. -/
inductive Action
  /-- The token is read. -/
  | shift (target : State)
  /-- The token is read and belongs to no rule. -/
  | pass
  /-- The rule of a complete item has been read. -/
  | reduce (item : Item)
  /-- A repetition has been read, although it could have gone on. -/
  | reduceOver (item : Item) (target : State)
  /-- The whole source has been read. -/
  | accept
  /-- After a fault: the token is looked at again from an earlier state. -/
  | recover
deriving DecidableEq, Repr

/-- What is possible in a state. -/
structure Row where
  actions : Array (Option Action)
  gotos : Array (Option State)
  /-- The tokens that are looked for. -/
  lexical : TokenSet
  /-- The tokens that are expected, among those that depend on their
  surroundings. -/
  contextual : TokenSet
deriving Inhabited

/-- The items of a state, opened. -/
structure Opened where
  kernel : Kernel
  /-- The symbols behind the items of the kernel. -/
  nexts : List (Option Symbol × Item × TokenSet)
  /-- The rules that can open here, with the tokens that can follow them. -/
  ahead : Array (Option TokenSet)

namespace Opened

/-- The tokens that can follow a rule that opens here, if it can. The
rules expected here are given with the tokens that can follow them. -/
def aheadOf (expected : List (Rule × TokenSet)) (s : Rule) : Option TokenSet :=
  expected.foldl
    (fun found (r, follow) =>
      match r.opening? s with
      | none => found
      | some o =>
        let tokens := if o.passes then o.ahead.union follow else o.ahead
        some ((found.getD .empty).union tokens))
    none

/-- Opens the items of a kernel. -/
def ofKernel (k : Kernel) : Opened :=
  let expected := k.filterMap fun (i, tokens) =>
    match i.rest with
    | [⟨.rule r, _⟩] => some (r, tokens)
    | ⟨.rule r, _⟩ :: x :: _ => some (r, x.symbol.first)
    | _ => none
  { kernel := k
    nexts := k.map fun (i, tokens) => (i.next?, i, tokens)
    ahead := (Rule.all.map (aheadOf expected)).toArray }

/-- The kernel behind a symbol. -/
def behind (o : Opened) (s : Symbol) : Kernel :=
  let opened := s.opened.foldl
    (fun k (r, n) =>
      match o.ahead.getD r.ctorIdx none with
      | some tokens => Kernel.insert (Item.least ⟨r, n, 1⟩) tokens k
      | none => k)
    ([] : Kernel)
  o.nexts.foldl
    (fun k (next, i, tokens) =>
      if next = some s then Kernel.insert i.advance tokens k else k)
    opened

/-- The state behind a symbol. -/
def goto? (o : Opened) (s : Symbol) : Option State := State.of? (o.behind s)

/-- The items that are complete, with the tokens that can follow them. -/
def complete (o : Opened) : Kernel :=
  let own := o.nexts.filterMap fun
    | (none, i, tokens) => some (i, tokens)
    | (some _, _) => none
  let empties := (Rule.sequences .program).toList.zipIdx.filterMap fun (xs, n) =>
    match xs, o.ahead.getD (Rule.ctorIdx .program) none with
    | [], some tokens => some (⟨.program, n, 0⟩, tokens)
    | _, _ => none
  own ++ empties

/-- The tokens that go on with an item or follow a complete one. -/
def expected (o : Opened) (complete : Kernel) : TokenSet :=
  let goingOn := o.nexts.foldl
    (fun tokens (next, _) =>
      match next with
      | some s => tokens.union s.first
      | none => tokens)
    BitSet.empty
  complete.foldl (fun tokens (_, ahead) => tokens.union ahead) goingOn

/-- The items under way that a token can go on with. -/
def goingOn (o : Opened) (t : Token) : List Item :=
  o.nexts.filterMap fun
    | (some s, i, _) => if i.dot ≠ 0 && s.first.contains t then some i else none
    | (none, _) => none

/-- What a complete item leads to. -/
def reduction (i : Item) : Action := if i.rule = .source then .accept else .reduce i

/-- Decides between a complete item and reading on. The complete items
are the strongest ones, and `i` is the first of them. -/
def decide (i : Item) (strongest complete goingOn : List Item) (target : State) : Action :=
  let n := i.strength
  if i.rule.isRepetition && (complete ++ goingOn).all (·.rule == i.rule) then .reduceOver i target
  else if goingOn.any (n < ·.strength) then .shift target
  else if goingOn.any (·.strength < n) then reduction i
  else if strongest.all fun j => j.last?.bind (·.setting.side) == some .left then reduction i
  else .shift target

/-- What a token leads to by the rules. -/
def action? (o : Opened) (complete : Kernel) (t : Token) : Option Action :=
  let ending := (complete.filter (·.2.contains t)).map (·.1)
  let strongest := ending.filter fun i => ending.all (·.strength ≤ i.strength)
  match strongest, o.goto? (.token t) with
  | [], none => none
  | [], some target => some (.shift target)
  | i :: _, none => some (reduction i)
  | i :: _, some target => some (decide i strongest ending (o.goingOn t) target)

end Opened

namespace Row

/-- The row with an action for each expected token. -/
def ofActions (expected : TokenSet) (action : Token → Option Action)
    (gotos : Array (Option State)) : Row :=
  { actions := (Token.all.map fun t => if expected.contains t then action t else none).toArray
    gotos := gotos
    lexical := lookedFor expected
    contextual := expected.inter (.ofList Token.contextual) }

/-- The tokens that are not looked for after a fault. -/
def unsought : List Token := [
  .data, .fatArrow, .minusAssign, .starStarAssign, .brackets, .bracketsAssign,
  .identifierQuery, .blanks, .escapeSequence, .thinArrow, .endOfExtra]

/-- The row after a fault. -/
def afterFault : Row :=
  ofActions (.ofList (Token.all.filter fun t => !unsought.contains t)) (fun _ => some .recover) #[]

/-- The row of a state with a kernel. Comments and the bodies of here
documents can stand behind every token, but not inside the body of a here
document that is complete. -/
def ofKernel (self : State) (k : Kernel) : Row :=
  let o := Opened.ofKernel k
  let complete := o.complete
  let ending := complete.any (·.2.contains .endOfExtra)
  let byRules := o.expected complete
  let extras : TokenSet := if ending then .empty else .ofList [.comment, .heredocBodyStart]
  let action := fun (t : Token) =>
    if byRules.contains t then o.action? complete t
    else if t = .comment then some .pass
    else some (.shift .heredocBody)
  let goto := fun (r : Rule) =>
    if r = .heredocBody && !ending then some self else o.goto? (.rule r)
  ofActions (byRules.union extras) action (Rule.all.map goto).toArray

/-- The row of a state. -/
def ofState : State → Row
  | .fault => afterFault
  | s => ofKernel s s.kernel

/-- The rows of all states that have a kernel. -/
def table : Array (Array (Array (Thunk Row))) :=
  (Rule.all.map fun r =>
    ((Core.table.getD r.ctorIdx #[]).toList.zipIdx.map fun (c, n) =>
      ((List.range c.contexts.length).map fun context =>
        Thunk.mk fun _ => ofState (.ready r n context)).toArray).toArray).toArray

end Row

namespace State

/-- The row of a state. -/
def row : State → Row
  | fault => Row.afterFault
  | ready r n context =>
    match ((Row.table.getD r.ctorIdx #[]).getD n #[])[context]? with
    | some row => row.get
    | none => Row.ofState (ready r n context)

/-- What a token leads to. -/
def action? (s : State) (t : Token) : Option Action := s.row.actions.getD t.ctorIdx none

/-- The state behind a rule. -/
def behindRule (s : State) (r : Rule) : State := (s.row.gotos.getD r.ctorIdx none).getD fault

/-- The state behind a token, if it is read at all. -/
def behindToken (s : State) (t : Token) : State :=
  match s.action? t with
  | some (.shift target) | some (.reduceOver _ target) => target
  | some .pass => s
  | _ => fault

/-- Whether nothing is read in a state: a here document's body is over. -/
def isSilent (s : State) : Bool := (s.action? .endOfExtra).isSome

/-- Whether the same tokens are looked for in two states. -/
def readsLike (s s' : State) : Bool :=
  s.row.lexical == s'.row.lexical && s.row.contextual == s'.row.contextual

end State

end LiteralMark.Ruby
