import LiteralMark.Tree.Basic
/-!
# Faults of a tree

The faults of a tree are its outermost nodes that stand for unexpected
text or a missing token, in the order of the text. A fault is shown by
its position and the first line of its text.
-/

namespace LiteralMark

namespace Node

mutual

/-- The outermost faults at or below a node. A node without the flag is
not searched. -/
def faults : Node → List Node
  | mk k f s fault faulty children =>
    if fault.isSome then [mk k f s fault faulty children]
    else if faulty then faultsAll children
    else []

/-- The outermost faults at or below each of the nodes. -/
def faultsAll : List Node → List Node
  | [] => []
  | n :: rest => faults n ++ faultsAll rest

end

end Node

/-- A fault as it is shown: its bytes, where it starts, and its text. -/
structure FaultReport where
  span : Span
  position : Position
  context : Text
deriving DecidableEq, Repr

namespace FaultReport

/-- The longest text that is shown whole. -/
def contextLimit : Nat := 40

/-- The first line of a text, without its line feed and a carriage return
in front of it. -/
def firstLine (cs : Text) : Text :=
  match cs.span (· ≠ '\n') with
  | (line, []) => line
  | (line, _) => if line.getLast? = some '\r' then line.dropLast else line

/-- A line cut to the limit, with dots for what is left out. -/
def shorten (line : Text) : Text :=
  if line.length > contextLimit then line.take contextLimit ++ ['.', '.', '.'] else line

/-- The number of line feeds in a text and the bytes behind the last. -/
def endPoint (cs : Text) : Nat × Nat :=
  cs.foldl
    (fun (row, column) c => if c = '\n' then (row + 1, 0) else (row, column + c.utf8Size)) (0, 0)

/-- The position of a byte offset in a text. -/
def positionAt (source : Text) (offset : Nat) : Position :=
  match Utf8.splitAt? offset source with
  | none => Position.ofZeroBased 0 0
  | some (before, _) =>
    let (row, column) := endPoint before
    Position.ofZeroBased row column

/-- The report of a faulty node. -/
def ofNode (source : Text) (n : Node) : FaultReport where
  span := n.span
  position := positionAt source n.span.start
  context :=
    match n.text? source with
    | none => []
    | some cs => shorten (firstLine cs)

/-- The report as a message. -/
def message (r : FaultReport) : String :=
  s!"{r.position.line}:{r.position.column}: syntax error" ++
    if r.context.isEmpty then "" else " near `" ++ String.ofList r.context ++ "`"

end FaultReport

/-- The reports of all faults of a tree. -/
def Node.faultReports (source : Text) (root : Node) : List FaultReport :=
  root.faults.map (FaultReport.ofNode source)

end LiteralMark
