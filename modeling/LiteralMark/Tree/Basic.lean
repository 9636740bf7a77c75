import LiteralMark.Text.Position
import LiteralMark.Text.Utf8
/-!
# Syntax trees

A tree of nodes over a text. A node has a kind, the range of bytes it
covers, perhaps a field that names its part in its parent, and its
children in the order of the text. Where the text breaks the grammar
the tree says so: a node can stand for unexpected text, or for a token
that is missing. Every node also carries the flag whether a fault lies
in it or below, so that sound subtrees need not be searched.

Trees are plain data. Nothing here assumes that ranges nest, that
children are ordered, or that the flag is right.
-/

namespace LiteralMark

/-- A range of bytes, the end excluded. -/
structure Span where
  start : Nat
  stop : Nat
deriving DecidableEq, Repr, Inhabited

/-- The kinds of node that marking tells apart. -/
inductive Kind
  | string
  | chainedString
  | heredocBeginning
  | elementReference
  | call
  | delimitedSymbol
  | regex
  | subshell
  | stringArray
  | symbolArray
  | heredocBody
  | comment
  | other (name : String)
deriving DecidableEq, Repr, Inhabited

/-- The part that a node plays in its parent. -/
inductive Field
  | object
  | receiver
  | method
  | other (name : String)
deriving DecidableEq, Repr

/-- What can be wrong at a node. -/
inductive Fault
  | unexpected
  | missing
deriving DecidableEq, Repr

/-- A node of a syntax tree, with everything below it. -/
inductive Node
  | mk (kind : Kind) (field : Option Field) (span : Span) (fault : Option Fault)
      (faulty : Bool) (children : List Node)
deriving Repr, Inhabited

namespace Node

/-- The kind of a node. -/
def kind : Node → Kind
  | mk k _ _ _ _ _ => k

/-- The part that a node plays in its parent. -/
def field : Node → Option Field
  | mk _ f _ _ _ _ => f

/-- The bytes that a node covers. -/
def span : Node → Span
  | mk _ _ s _ _ _ => s

/-- What is wrong at the node itself. -/
def fault : Node → Option Fault
  | mk _ _ _ f _ _ => f

/-- Whether the node says that a fault lies in it or below. -/
def faulty : Node → Bool
  | mk _ _ _ _ b _ => b

/-- The children of a node. -/
def children : Node → List Node
  | mk _ _ _ _ _ cs => cs

/-- The first child that plays a part. -/
def child? (n : Node) (part : Field) : Option Node :=
  n.children.find? (·.field == some part)

/-- The same node in another part. -/
def withField (part : Option Field) : Node → Node
  | mk k _ s f b cs => mk k part s f b cs

/-- The text that a node covers, if its range fits the text. -/
def text? (source : Text) (n : Node) : Option Text :=
  Utf8.slice? source n.span.start n.span.stop

end Node

end LiteralMark
