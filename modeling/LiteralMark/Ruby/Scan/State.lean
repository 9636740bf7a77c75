import LiteralMark.Ruby.Character
import LiteralMark.Ruby.Cursor
import LiteralMark.Ruby.Token
/-!
# Open literals

The literals that have been opened and not yet closed, and the here
documents whose bodies have not yet been read. They tell what the text
inside a literal ends with.

What is kept of them from token to token has a bounded size. Where more
than that is open, everything is forgotten.
-/

namespace LiteralMark.Ruby

/-- A literal that has been opened. -/
structure OpenLiteral where
  /-- The token that opened it. -/
  start : Token
  opening : Char
  closing : Char
  /-- How many delimiters have to be closed. -/
  depth : Int := 1
  /-- Whether code may stand in it. -/
  interpolates : Bool
deriving DecidableEq, Repr

/-- A here document whose body is still to come or under way. -/
structure Heredoc where
  /-- The line that ends it. Only the low byte of each character counts. -/
  word : List Nat
  /-- Whether blanks may stand in front of the line that ends it. -/
  indented : Bool
  interpolates : Bool
  /-- Whether its body has begun. -/
  started : Bool := false
deriving DecidableEq, Repr

/-- The open literals, the innermost first, and the here documents in the
order of their bodies. -/
structure Scan where
  literals : List OpenLiteral := []
  heredocs : List Heredoc := []
deriving DecidableEq, Repr, Inhabited

namespace Scan

/-- The number of bytes that the here documents take, when `n` bytes are
taken already, if there is room for them. -/
def roomFor : Nat → List Heredoc → Option Nat
  | n, [] => some n
  | n, h :: hs => if n + 2 + h.word.length ≥ 1024 then none else roomFor (n + 4 + h.word.length) hs

/-- What is kept for the next token: nothing if it is too much. -/
def kept (s : Scan) : Option Scan :=
  let n := 5 * s.literals.length + 2
  if n ≥ 1024 || (roomFor n s.heredocs).isNone then none
  else some { s with literals := s.literals.map fun l => { l with depth := l.depth % 256 } }

end Scan

/-- A token that has been found, and what is open behind it. -/
structure Scanned where
  token : Token
  start : Cursor
  stop : Cursor
  scan : Scan

end LiteralMark.Ruby
