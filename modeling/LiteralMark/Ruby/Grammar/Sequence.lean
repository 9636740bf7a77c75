import LiteralMark.Ruby.Grammar.Rules
/-!
# Sequences

Every rule as the list of the sequences that its form stands for, and
what can be said of rules by following sequences from rule to rule.
-/

namespace LiteralMark.Ruby

/-- The sequences of all rules. -/
def sequenceTable : Array (Array (List Step)) :=
  (Rule.all.map fun r => r.form.sequences.toArray).toArray

namespace Rule

/-- The sequences of a rule. -/
def sequences (r : Rule) : Array (List Step) := sequenceTable.getD r.ctorIdx #[]

/-- The sequence of a rule with a number. -/
def sequence (r : Rule) (choice : Nat) : List Step := r.sequences.getD choice []

/-- The rules that are met from the rules `todo` on, in at most `n`
steps. -/
def metFrom (next : Rule → List Rule) : Nat → List Rule → RuleSet → RuleSet
  | 0, _, seen => seen
  | _ + 1, [], seen => seen
  | n + 1, r :: todo, seen =>
    if seen.contains r then metFrom next n todo seen
    else metFrom next n (next r ++ todo) (seen.insert r)

/-- The rules that are met from a rule on, the rule itself included. A
rule has fewer than `40` sequences. -/
def met (next : Rule → List Rule) (r : Rule) : RuleSet :=
  metFrom next (40 * all.length) [r] .empty

/-- The inner rules among the parts of a rule that are not shown as nodes. -/
def innerParts (r : Rule) : List Rule :=
  r.sequences.toList.flatMap fun xs => xs.filterMap fun x =>
    match x.symbol with
    | .rule s => if s.isInner && x.setting.label.isNone then some s else none
    | .token _ => none

/-- Whether a part is named in the sequences of a rule itself. -/
def namesPart (r : Rule) : Bool :=
  r.sequences.any fun xs => xs.any fun x => x.setting.part.isSome

end Rule

/-- The inner rules in which, or below which, a part is named. -/
def namingRules : RuleSet :=
  let naming := Rule.all.filter Rule.namesPart
  .ofList <| Rule.all.filter fun r =>
    r.isInner && naming.any (r.met Rule.innerParts).contains

end LiteralMark.Ruby
