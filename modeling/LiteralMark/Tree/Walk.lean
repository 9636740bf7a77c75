import LiteralMark.Convention
import LiteralMark.Edit
import LiteralMark.Tree.Basic
/-!
# The marking walk

The walk goes through a tree in the order of the text and collects the
literals to be wrapped. It does not enter what is never a text for
readers (symbols, patterns, commands, word lists, comments), the
arguments of an index, an import, or a call of the marker function; nor
does it enter a literal, so a text inside an interpolation stays as it
is.
-/

namespace LiteralMark

/-- What the walk does at a node. -/
inductive Visit
  | wrap
  | skip
  | only (part : Field)
  | descend
deriving DecidableEq, Repr

namespace Convention

/-- What the walk does at a call whose method has a given name. -/
def visitCall (c : Convention) (method : Text) (hasReceiver : Bool) : Visit :=
  if String.ofList method = c.function then .skip
  else if method.head? = some '[' then .only .receiver
  else if !hasReceiver && c.isImport (String.ofList method) then .skip
  else .descend

/-- What the walk does at a node. -/
def visit (c : Convention) (source : Text) (n : Node) : Visit :=
  match n.kind with
  | .string | .chainedString | .heredocBeginning => .wrap
  | .elementReference => .only .object
  | .call =>
    match (n.child? .method).bind (Node.text? source) with
    | none => .descend
    | some method => c.visitCall method (n.child? .receiver).isSome
  | .delimitedSymbol | .regex | .subshell | .stringArray | .symbolArray | .heredocBody
  | .comment => .skip
  | .other _ => .descend

end Convention

namespace Node

mutual

/-- The literals to be wrapped at or below a node. -/
def literals (c : Convention) (source : Text) : Node → List Node
  | mk k f s fault faulty children =>
    match c.visit source (mk k f s fault faulty children) with
    | .wrap => [mk k f s fault faulty children]
    | .skip => []
    | .only part => literalsIn c source part children
    | .descend => literalsAll c source children

/-- The literals to be wrapped at or below each of the nodes. -/
def literalsAll (c : Convention) (source : Text) : List Node → List Node
  | [] => []
  | n :: rest => literals c source n ++ literalsAll c source rest

/-- The literals to be wrapped at or below the first of the nodes that
plays a part. -/
def literalsIn (c : Convention) (source : Text) (part : Field) : List Node → List Node
  | [] => []
  | n :: rest =>
    if n.field = some part then literals c source n else literalsIn c source part rest

end

/-- The insertions that wrap the literals of a tree. -/
def plan (c : Convention) (source : Text) (root : Node) : Edit :=
  (literals c source root).flatMap fun n =>
    Edit.around n.span.start n.span.stop c.opening Convention.closing

end Node

end LiteralMark
