import LiteralMark.Ruby.Parse.Advance
import LiteralMark.Ruby.Parse.Outline
/-!
# The tree of a source

A source is read to a tree in any case; where it is no Ruby, the tree
has faults.
-/

namespace LiteralMark.Ruby

/-- A tree that holds nothing but unexpected text. -/
def unreadable (source : Text) : Node :=
  .mk (.other "ERROR") none ⟨0, Utf8.size source⟩ (some .unexpected) true []

/-- Reads a source to a tree. -/
def read (source : Text) : Node :=
  match parse? source with
  | some t => ((t.nodes {} none 0).head?).getD (unreadable source)
  | none => unreadable source

end LiteralMark.Ruby
