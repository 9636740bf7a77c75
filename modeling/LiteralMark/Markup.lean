import LiteralMark.Tree.Fault
import LiteralMark.Tree.Walk
/-!
# Marking a text

A text is read to a syntax tree, the walk finds the literals, and the
marker text is inserted around them. A text whose tree has a fault is
refused: wrapping a misread literal could spoil the file. How a text is
read is a parameter.
-/

namespace LiteralMark

/-- A reader of texts: it always gives a tree, with the faults in it. -/
abbrev TreeReader := Text → Node

/-- Why a text or a pattern was refused. -/
inductive SyntaxFailure
  | reader (message : String)
  | parse (message : String)
  | pattern (message : String)
  | insertion (offset : Nat) (message : String)
deriving DecidableEq, Repr

namespace SyntaxFailure

/-- The message of a failure. -/
def message : SyntaxFailure → String
  | reader m => "failed to initialise ruby parser: " ++ m
  | parse m => "failed to parse ruby source: " ++ m
  | pattern m => "invalid literal pattern: " ++ m
  | insertion offset m => s!"splice failed at byte {offset}: {m}"

/-- An insertion past the end of the text or inside a character. -/
def outside (offset : Nat) : SyntaxFailure :=
  insertion offset "offset is outside the source text"

/-- The first fault of a tree. -/
def ofFaults : List FaultReport → SyntaxFailure
  | [] => parse "unrecognised syntax"
  | first :: _ => parse first.message

end SyntaxFailure

/-- A marked text and the number of literals that were wrapped. -/
structure Markup where
  output : Text
  wrapped : Nat
deriving DecidableEq, Repr

namespace Markup

/-- Marks a text along a tree that was read from it. -/
def ofTree (c : Convention) (source : Text) (root : Node) : Except SyntaxFailure Markup :=
  if root.faulty then .error (.ofFaults (root.faultReports source))
  else
    match (root.plan c source).apply source with
    | .error offset => .error (.outside offset)
    | .ok output => .ok ⟨output, (root.literals c source).length⟩

/-- Marks a text. -/
def ofText (read : TreeReader) (c : Convention) (source : Text) : Except SyntaxFailure Markup :=
  ofTree c source (read source)

end Markup

end LiteralMark
