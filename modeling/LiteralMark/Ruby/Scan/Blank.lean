import LiteralMark.Ruby.Scan.State
/-!
# Blanks and line breaks

Blanks in front of a token are skipped. A line break among them is a
token of its own where a statement may end, unless the next line goes on
with the call of a method. The body of a here document starts at the end
of the line.
-/

namespace LiteralMark.Ruby

/-- A place in front of a token. -/
structure Skipping where
  here : Cursor
  /-- Where the token starts. -/
  start : Cursor
  /-- The place that ends the token, if that is fixed. -/
  mark : Option Cursor := none
  /-- Whether a blank has been skipped. -/
  blanks : Bool := false

namespace Skipping

/-- Skips a character. -/
def skip (s : Skipping) : Skipping :=
  let next := s.here.advance
  { s with here := next, start := next, blanks := true }

/-- Reads a character. -/
def read (s : Skipping) : Skipping := { s with here := s.here.advance }

/-- The token that ends here, or at the mark if there is one. -/
def token (s : Skipping) (t : Token) (scan : Scan) : Scanned :=
  let stop := s.mark.getD s.here
  ⟨t, if stop.offset < s.start.offset then stop else s.start, stop, scan⟩

end Skipping

/-- What has been found in front of a token. -/
inductive Skipped
  /-- No token can be found here. -/
  | nothing
  | found (token : Scanned)
  | ready (place : Skipping)

/-- The here documents when the body of the first one begins. -/
def Scan.beginBody (scan : Scan) : Scan :=
  match scan.heredocs with
  | h :: hs => { scan with heredocs := { h with started := true } :: hs }
  | [] => scan

/-- Whether the body of a here document begins with the next line. -/
def Scan.awaitsBody (scan : Scan) (expected : TokenSet) : Bool :=
  match scan.heredocs with
  | h :: _ => !h.started && expected.contains .heredocBodyStart
  | [] => false

/-- What follows a line break that may be a token. In front of a call's
dot, of an ampersand and of a comment it is none. -/
def afterBreak (s : Skipping) (scan : Scan) : Skipped :=
  let c := s.here.peek
  if c ≠ '.' && c ≠ '&' && c ≠ '#' then .found (s.token .lineBreak scan)
  else if c ≠ '.' then .ready s
  else if s.read.here.peek = '.' then .found (s.read.token .lineBreak scan)
  else .nothing

/-- Skips the blanks of a text. Here `breaks` says whether a line break is
expected, and `crossed` whether one has been found. -/
def skipText (scan : Scan) (body breaks : Bool) : Text → (crossed : Bool) → Skipping → Skipped
  | text, crossed, s =>
    if breaks && s.here.offset = 0 then
      .found ({ s with mark := some s.here }.token .lineBreak scan)
    else
      match text with
      | [] => if crossed then afterBreak s scan else .ready s
      | c :: text =>
        if c = ' ' || c = '\t' then skipText scan body breaks text crossed s.skip
        else if (c = '\r' || c = '\n') && body then
          .found (s.token .heredocBodyStart scan.beginBody)
        else if c = '\r' then skipText scan body breaks text crossed s.skip
        else if c = '\n' then
          if breaks && !crossed then
            skipText scan body breaks text true { s with mark := some s.here }.read
          else skipText scan body breaks text crossed s.skip
        else if c = '\\' then
          match text with
          | [] => .nothing
          | d :: text =>
            if isBlank d then skipText scan body breaks text crossed s.skip.skip else .nothing
        else if crossed then afterBreak s scan
        else .ready s

/-- Skips the blanks in front of a token. -/
def skipBlanks (scan : Scan) (expected : TokenSet) (here : Cursor) : Skipped :=
  let breaks := expected.contains .lineBreak && !expected.contains .noLineBreak
  skipText scan (scan.awaitsBody expected) breaks here.rest false { here := here, start := here }

end LiteralMark.Ruby
