import LiteralMark.Ruby.Table.Item
/-!
# Openings

Where a rule is expected, the text may open with any of the rules that
its sequences start with. `Rule.opening?` tells which these are and what
may follow each of them there.
-/

namespace LiteralMark.Ruby

/-- The symbols that the sequences of a rule start with. -/
def Rule.starts (r : Rule) : List Symbol :=
  r.sequences.toList.filterMap fun xs => xs.head?.map (·.symbol)

/-- The rules that the sequences of a rule start with. -/
def Rule.startRules (r : Rule) : List Rule :=
  r.starts.filterMap fun
    | .rule s => some s
    | .token _ => none

/-- The rules that a rule can consist of alone. -/
def Rule.onlyRules (r : Rule) : List Rule :=
  r.sequences.toList.filterMap fun
    | [⟨.rule s, _⟩] => some s
    | _ => none

/-- For each rule the rules that can stand at its start. -/
def startTable : Array RuleSet := (Rule.all.map (Rule.met Rule.startRules)).toArray

/-- For each rule the rules that it can consist of. -/
def onlyTable : Array RuleSet := (Rule.all.map (Rule.met Rule.onlyRules)).toArray

/-- The rules that can stand at the start of a rule, itself included. -/
def Rule.openers (r : Rule) : RuleSet := startTable.getD r.ctorIdx .empty

/-- Whether a rule can consist of another one. -/
def Rule.canBe (r s : Rule) : Bool := (onlyTable.getD r.ctorIdx .empty).contains s

/-- The tokens that the sequences of a rule start with. -/
def Rule.startTokens (r : Rule) : TokenSet :=
  .ofList <| r.starts.filterMap fun
    | .token t => some t
    | .rule _ => none

/-- For each rule the tokens that can stand at its start. -/
def firstTable : Array TokenSet :=
  let own := Rule.all.map fun r => (r, r.startTokens)
  (Rule.all.map fun r =>
    own.foldl (fun s (q, tokens) => if r.openers.contains q then s.union tokens else s)
      .empty).toArray

/-- The tokens that can stand at the start of a symbol. -/
def Symbol.first : Symbol → TokenSet
  | .token t => .single t
  | .rule r => firstTable.getD r.ctorIdx .empty

/-- The rules at the start of a rule's own sequences, each with the tokens
that can follow it in its sequence. -/
def Rule.followedStarts (r : Rule) : List (Rule × TokenSet) :=
  r.sequences.toList.filterMap fun
    | ⟨.rule s, _⟩ :: x :: _ => some (s, x.symbol.first)
    | _ => none

/-- The starts with what follows them, for all rules. -/
def followedTable : Array (List (Rule × TokenSet)) :=
  (Rule.all.map Rule.followedStarts).toArray

/-- How a rule can open another one. -/
structure Opening where
  /-- The tokens that can follow it inside the other rule. -/
  ahead : TokenSet
  /-- Whether what follows the other rule can follow it, too. -/
  passes : Bool
deriving Repr

/-- How each rule can open a rule, if it can. -/
def Rule.openingsOf (r : Rule) : Array (Option Opening) :=
  let followed := (Rule.all.filter r.openers.contains).flatMap fun q =>
    followedTable.getD q.ctorIdx []
  let ahead := fun (s : Rule) =>
    followed.foldl (fun tokens (q, f) => if q.canBe s then tokens.union f else tokens) .empty
  (Rule.all.map fun s =>
    if r.openers.contains s then some ⟨ahead s, r.canBe s⟩ else none).toArray

/-- The openings of all rules. -/
def openingTable : Array (Thunk (Array (Option Opening))) :=
  (Rule.all.map fun r => Thunk.mk fun _ => r.openingsOf).toArray

/-- How rule `s` can open rule `r`, if it can. -/
def Rule.opening? (r s : Rule) : Option Opening :=
  match openingTable[r.ctorIdx]? with
  | some os => os.get.getD s.ctorIdx none
  | none => none

/-- The sequences among some rules that start with a symbol. -/
def sequencesFrom (s : Symbol) (rules : List Rule) : List (Rule × Nat) :=
  rules.flatMap fun r => r.sequences.toList.zipIdx.filterMap fun (xs, n) =>
    if xs.head?.map (·.symbol) = some s then some (r, n) else none

/-- The sequences that start with a token, for all tokens. -/
def tokenSequences : Array (List (Rule × Nat)) :=
  let own := Rule.all.map fun r => (r, r.startTokens)
  (Token.all.map fun t =>
    sequencesFrom (.token t) ((own.filter (·.2.contains t)).map (·.1))).toArray

/-- The sequences that start with a rule, for all rules. -/
def ruleSequences : Array (List (Rule × Nat)) :=
  let own := Rule.all.map fun r => (r, (BitSet.ofList r.startRules : RuleSet))
  (Rule.all.map fun s =>
    sequencesFrom (.rule s) ((own.filter (·.2.contains s)).map (·.1))).toArray

/-- The sequences that start with a symbol. -/
def Symbol.opened : Symbol → List (Rule × Nat)
  | .token t => tokenSequences.getD t.ctorIdx []
  | .rule r => ruleSequences.getD r.ctorIdx []

end LiteralMark.Ruby
