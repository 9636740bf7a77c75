/-!
# Positions

Diagnostics count lines and columns from one, in words of 32 bits: what
does not fit is the largest word.
-/

namespace LiteralMark

/-- A line and a column, both counted from one. -/
structure Position where
  line : UInt32
  column : UInt32
deriving DecidableEq, Repr

namespace Position

/-- The largest number that a line or a column can show. -/
def limit : Nat := 4294967295

/-- The number after `n`, or the largest one that can be shown. -/
def countFromOne (n : Nat) : UInt32 := UInt32.ofNat (min (n + 1) limit)

/-- The position of a row and a column that are counted from zero. -/
def ofZeroBased (row column : Nat) : Position := ⟨countFromOne row, countFromOne column⟩

end Position

end LiteralMark
