import LiteralMark.Ruby.Parse.Subtree
/-!
# Nodes

The syntax tree of a subtree. Inner rules make no nodes: their children
belong to the node around them, and play the part in it that the rule
plays, unless they have one of their own.
-/

namespace LiteralMark.Ruby

/-- The field of the children that play a part. -/
def Part.field : Part → Field
  | .object => .object
  | .receiver => .receiver
  | .method => .method
  | _ => .other "part"

/-- The kind of the nodes with a label. -/
def Label.kind : Label → Kind
  | .call => .call
  | _ => .other "construct"

/-- The kind of the node of a token. -/
def Token.kind : Token → Kind
  | .comment => .comment
  | .heredocBeginning => .heredocBeginning
  | _ => .other "token"

/-- The kind of the node of a sign. -/
def Sign.kind : Sign → Kind
  | token t => t.kind
  | rule r => r.kind
  | _ => .other "ERROR"

namespace Stem

/-- What is wrong at a subtree. -/
def fault? (s : Stem) : Option Fault :=
  if s.sign = .unexpected then some .unexpected
  else if s.missing then some .missing
  else none

/-- The node of a subtree whose padding starts at some byte. -/
def node (s : Stem) (kind : Kind) (field : Option Field) (start : Nat) (children : List Node) :
    Node :=
  let first := start + s.padding.bytes
  .mk kind field ⟨first, first + s.size.bytes⟩ s.fault? (s.cost > 0) children

end Stem

namespace Subtree

mutual

/-- The nodes of a subtree whose padding starts at some byte, in a setting
and a field. -/
def nodes (setting : Setting) (field : Option Field) (start : Nat) : Subtree → List Node
  | mk s cs =>
    let kind := (setting.label.map Label.kind).getD s.sign.kind
    if setting.label.isSome || s.sign.isShown then
      [s.node kind field start (childNodes (s.sign.steps s.choice) none start cs)]
    else childNodes (s.sign.steps s.choice) field start cs

/-- The nodes of the children of a subtree, which have taken some steps. -/
def childNodes (steps : List Step) (field : Option Field) (start : Nat) :
    List Subtree → List Node
  | [] => []
  | c :: cs =>
    let next := start + c.total.bytes
    if c.extra then c.nodes {} none start ++ childNodes steps field next cs
    else
      let setting := (steps.head?.map (·.setting)).getD {}
      c.nodes setting ((setting.part.map Part.field).or field) start ++
        childNodes steps.tail field next cs

end

end Subtree

end LiteralMark.Ruby
