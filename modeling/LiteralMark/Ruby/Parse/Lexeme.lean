import LiteralMark.Ruby.Lexeme.Longest
import LiteralMark.Ruby.Parse.Subtree
import LiteralMark.Ruby.Scan.Contextual
import LiteralMark.Ruby.Table.Row
/-!
# Lexemes

The next token of a text in a state. The tokens that depend on their
surroundings are looked for first. Where nothing that the state looks for
is found, anything is looked for; and where there is still nothing, the
text up to the next token is unexpected.
-/

namespace LiteralMark.Ruby

/-- A token of a text, or unexpected text. -/
structure Lexeme where
  /-- The token, if the text is one. -/
  token : Option Token
  padding : Extent
  size : Extent
  stop : Cursor
  /-- The state in which it was looked for. -/
  state : State
  /-- Whether it starts like a keyword. -/
  keyword : Bool := false
  /-- What is open behind it, if it depends on its surroundings. -/
  scan : Option (Option Scan) := none
  /-- Whether that differs from what is open in front of it. -/
  changed : Bool := false
deriving Inhabited

namespace Lexeme

/-- The length of a lexeme with the blanks in front of it. -/
def total (l : Lexeme) : Extent := l.padding.add l.size

/-- The subtree of a lexeme. -/
def subtree (l : Lexeme) (extra : Bool) : Subtree :=
  .mk
    { sign := match l.token with
        | some t => .token t
        | none => .unexpected
      padding := l.padding
      size := l.size
      stop := some l.stop
      extra := extra
      scan := l.scan.join }
    []

end Lexeme

/-- A token that has been found. -/
structure Found where
  token : Token
  start : Cursor
  stop : Cursor
  scan : Option (Option Scan) := none
  changed : Bool := false

/-- How tokens are looked for. -/
structure Looking where
  /-- The state in which they are looked for. -/
  state : State
  /-- What is open. -/
  scan : Option Scan
  /-- Whether some text has been read since the last fault. -/
  moved : Bool
  /-- Whether anything is looked for. -/
  anything : Bool

namespace Looking

/-- The row that says what is looked for. -/
def row (k : Looking) : Row := if k.anything then State.fault.row else k.state.row

/-- A token at a place that depends on its surroundings. One without text
counts only if something is opened or closed by it, or if it leads on. -/
def contextual? (k : Looking) (here : Cursor) : Option Found := do
  let s ← scan? (k.scan.getD {}) k.row.contextual here
  let kept := s.scan.kept
  let changed := kept != k.scan
  if s.stop.offset ≤ here.offset && !changed &&
      (k.anything || !k.moved || k.state.behindToken s.token = k.state) then none
  else some { token := s.token, start := s.start, stop := s.stop, scan := some kept, changed }

/-- The token at a place, or how far the text could have been one. -/
def at_ (k : Looking) (here : Cursor) : Except Search Found :=
  match k.contextual? here with
  | some f => .ok f
  | none =>
    let s := here.search k.row.lexical
    match s.found with
    | some (t, stop) => .ok { token := t, start := s.start, stop := stop }
    | none => .error s

/-- The end of the unexpected text, of which everything up to `stop` has
been searched. -/
def skipUnexpected (k : Looking) : (n : Nat) → (stop : Cursor) → Search → Cursor
  | 0, stop, _ => stop
  | n + 1, stop, s =>
    if s.stop.offset = stop.offset && s.stop.atEnd then stop
    else
      let next := if s.stop.offset = stop.offset then s.stop.advance else s.stop
      match k.at_ next with
      | .ok _ => next
      | .error s => k.skipUnexpected n next s

/-- The lexeme of a token. A word is a keyword if that leads on. -/
def lexeme (k : Looking) (here : Cursor) (f : Found) : Lexeme :=
  let plain : Lexeme :=
    { token := some f.token, padding := here.distance f.start, size := f.start.distance f.stop,
      stop := f.stop, state := k.state, scan := f.scan, changed := f.changed }
  if f.scan.isSome || f.token ≠ .identifier then plain
  else
    match keyword? f.start.rest with
    | none => plain
    | some w =>
      let whole := w.letters.length = plain.size.bytes && (k.state.action? w).isSome
      { plain with keyword := true, token := some (if whole then w else f.token) }

/-- The lexeme of unexpected text. -/
def unexpected (k : Looking) (here : Cursor) (s : Search) : Lexeme :=
  let stop := k.skipUnexpected (here.rest.length + 2) s.start s
  { token := none, padding := here.distance s.start, size := s.start.distance stop,
    stop := stop, state := k.state }

end Looking

/-- The lexeme at a place. -/
def Cursor.lexeme (here : Cursor) (state : State) (scan : Option Scan) (moved : Bool) : Lexeme :=
  let k : Looking := { state, scan, moved, anything := state = .fault }
  match k.at_ here with
  | .ok f => k.lexeme here f
  | .error s =>
    if k.anything then k.unexpected here s
    else
      let k := { k with anything := true }
      match k.at_ here with
      | .ok f => k.lexeme here f
      | .error s => k.unexpected here s

end LiteralMark.Ruby
