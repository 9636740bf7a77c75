import LiteralMark.Text.Bytes
/-!
# Patterns

A pattern describes the texts of a token. Read from left to right, each
character leaves some patterns, which describe what may still follow;
the text is complete when one of them admits the empty text.
-/

namespace LiteralMark.Ruby

/-- A pattern of texts. -/
inductive Pattern
  | empty
  | char (test : Char → Bool)
  | text (cs : Text)
  | seq (first second : Pattern)
  | alt (first second : Pattern)
  | many (p : Pattern)

namespace Pattern

/-- Whether a pattern admits the empty text. -/
def admitsEmpty : Pattern → Bool
  | empty => true
  | char _ => false
  | text cs => cs.isEmpty
  | seq p q => p.admitsEmpty && q.admitsEmpty
  | alt p q => p.admitsEmpty || q.admitsEmpty
  | many _ => true

/-- What follows a pattern that may be done. -/
def andThen : Pattern → Pattern → Pattern
  | empty, q => q
  | text [], q => q
  | p, q => seq p q

/-- The patterns of what may follow a character. -/
def after (c : Char) : Pattern → List Pattern
  | empty => []
  | char test => if test c then [empty] else []
  | text [] => []
  | text (d :: cs) => if c = d then [text cs] else []
  | seq p q =>
    let rest := (p.after c).map (·.andThen q)
    if p.admitsEmpty then rest ++ q.after c else rest
  | alt p q => p.after c ++ q.after c
  | many p => (p.after c).map (·.andThen (many p))

/-! ## Writing patterns -/

/-- Patterns one after another. -/
def sequence : List Pattern → Pattern
  | [] => empty
  | [p] => p
  | p :: ps => seq p (sequence ps)

/-- One of some patterns. -/
def choice : List Pattern → Pattern
  | [] => empty
  | [p] => p
  | p :: ps => alt p (choice ps)

/-- A fixed text. -/
def word (s : String) : Pattern := text s.toList

/-- One of some characters. -/
def oneOf (s : String) : Pattern := char s.toList.contains

/-- A pattern or nothing. -/
def optional (p : Pattern) : Pattern := alt p empty

/-- A pattern at least once. -/
def repeated (p : Pattern) : Pattern := seq p (many p)

/-- Digits, between any two of which an underscore may stand. -/
def digits (test : Char → Bool) : Pattern :=
  seq (char test) (many (seq (optional (word "_")) (char test)))

end Pattern

end LiteralMark.Ruby
