/-!
# Sets of numbered things

A set of things that are numbered, as a number with one bit for each
member. Such sets are small, and they are compared and united at once.
-/

namespace LiteralMark

/-- A type whose members are numbered from zero on. -/
class Numbered (α : Type) where
  number : α → Nat

/-- A set of numbered things: bit `n` stands for the thing with number
`n`. -/
structure BitSet (α : Type) where
  bits : Nat
deriving DecidableEq, Repr, Inhabited

namespace BitSet

variable {α : Type}

/-- The set without members. -/
def empty : BitSet α := ⟨0⟩

/-- The members of either set. -/
def union (s t : BitSet α) : BitSet α := ⟨s.bits ||| t.bits⟩

/-- The members of both sets. -/
def inter (s t : BitSet α) : BitSet α := ⟨s.bits &&& t.bits⟩

/-- Whether all members of one set are members of the other. -/
def subset (s t : BitSet α) : Bool := s.bits &&& t.bits == s.bits

/-- Whether the set has no members. -/
def isEmpty (s : BitSet α) : Bool := s.bits == 0

variable [Numbered α]

/-- The set with one member. -/
def single (a : α) : BitSet α := ⟨1 <<< Numbered.number a⟩

/-- Whether a thing is a member. -/
def contains (s : BitSet α) (a : α) : Bool := s.bits.testBit (Numbered.number a)

/-- The set with one more member. -/
def insert (s : BitSet α) (a : α) : BitSet α := s.union (single a)

/-- The set of the members of a list. -/
def ofList (as : List α) : BitSet α := as.foldl insert empty

end BitSet

end LiteralMark
