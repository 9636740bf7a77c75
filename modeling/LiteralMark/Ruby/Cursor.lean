import LiteralMark.Text.Bytes
/-!
# Places in a text

A cursor is a place in a text, with the text behind it. An extent is the
distance between two places. Both count bytes and line breaks.
-/

namespace LiteralMark.Ruby

/-- A length of text. -/
structure Extent where
  bytes : Nat := 0
  rows : Nat := 0
deriving DecidableEq, Repr, Inhabited

namespace Extent

/-- Two lengths of text, one behind the other. -/
def add (a b : Extent) : Extent := ⟨a.bytes + b.bytes, a.rows + b.rows⟩

end Extent

/-- A place in a text. -/
structure Cursor where
  offset : Nat := 0
  row : Nat := 0
  rest : Text
deriving Repr, Inhabited

namespace Cursor

/-- The character behind a place; the null character at the end of the
text. -/
def peek (p : Cursor) : Char := p.rest.headD '\x00'

/-- Whether a place is at the end of the text. -/
def atEnd (p : Cursor) : Bool := p.rest.isEmpty

/-- The place behind the next character. -/
def advance (p : Cursor) : Cursor :=
  match p.rest with
  | [] => p
  | c :: rest => ⟨p.offset + c.utf8Size, if c = '\n' then p.row + 1 else p.row, rest⟩

/-- The place behind the characters with a property. -/
def skipWhile (test : Char → Bool) (p : Cursor) : Cursor :=
  (p.rest.takeWhile test).foldl (fun p _ => p.advance) p

/-- The length of the text between two places. -/
def distance (p q : Cursor) : Extent := ⟨q.offset - p.offset, q.row - p.row⟩

/-- The place behind a byte order mark at the start of the text. -/
def skipOrderMark (p : Cursor) : Cursor :=
  if p.offset = 0 && p.peek = '\ufeff' then p.advance else p

end Cursor

end LiteralMark.Ruby
