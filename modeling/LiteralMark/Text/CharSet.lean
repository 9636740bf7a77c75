import LiteralMark.Text.Bytes
/-!
# Sets of characters

A set of characters as the ascending list of the code points at which
membership changes. Outside the set at first, a character is in it if an
odd number of changes are at or before it.
-/

namespace LiteralMark

/-- A set of characters, by the code points at which membership changes. -/
structure CharSet where
  changes : List Nat

namespace CharSet

/-- Whether a number of changes is odd, given by their list. -/
def oddLength : List Nat → Bool
  | [] => false
  | _ :: rest => !oddLength rest

/-- Whether a character is in a set. -/
def contains (s : CharSet) (c : Char) : Bool := oddLength (s.changes.takeWhile (· ≤ c.toNat))

end CharSet

end LiteralMark
