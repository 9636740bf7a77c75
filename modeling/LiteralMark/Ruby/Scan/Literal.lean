import LiteralMark.Ruby.Scan.Blank
/-!
# Literals with delimiters

The delimiters that open a literal, and the text inside it up to code, to
an escaped character or to its end.
-/

namespace LiteralMark.Ruby

/-- The low byte of a character. -/
def lowByte (c : Char) : Nat := c.toNat % 256

/-! ## Opening a literal -/

/-- The delimiters that close themselves. -/
def plainDelimiters : Text := "|!#/\\@$%^&*)]>+-~`,.?:;_\"'\x7d".toList

/-- The delimiters that a percent literal can open with, if they are some.
A blank is one only where no operator is expected, and it opens nothing
that it could close. -/
def delimiters? (c : Char) (operator : Bool) : Option (Char × Char) :=
  if c = '(' then some ('(', ')')
  else if c = '[' then some ('[', ']')
  else if c = '\x7b' then some ('\x7b', '\x7d')
  else if c = '<' then some ('<', '>')
  else if c = '\r' || c = '\n' || c = ' ' || c = '\t' then
    if operator then none else some ('\x00', '\x00')
  else if plainDelimiters.contains c then some (c, c)
  else none

/-- What the letter behind a percent sign opens, whether code may stand in
it, and the token that has to be expected. -/
def percentLetter? : Char → Option (Token × Bool × Token)
  | 's' => some (.symbolStart, false, .simpleSymbol)
  | 'r' => some (.regexStart, true, .regexStart)
  | 'x' => some (.subshellStart, true, .subshellStart)
  | 'q' => some (.stringStart, false, .stringStart)
  | 'Q' => some (.stringStart, true, .stringStart)
  | 'w' => some (.stringArrayStart, false, .stringArrayStart)
  | 'W' => some (.stringArrayStart, true, .stringArrayStart)
  | 'i' => some (.symbolArrayStart, false, .symbolArrayStart)
  | 'I' => some (.symbolArrayStart, true, .symbolArrayStart)
  | _ => none

/-- Reads a percent sign, a letter that may follow it, and a delimiter. -/
def openPercent? (expected : TokenSet) (here : Cursor) : Option (OpenLiteral × Cursor) := do
  let afterSign := here.advance
  let (start, interpolates, delimiter) ←
    match percentLetter? afterSign.peek with
    | some (start, interpolates, needed) =>
      if expected.contains needed then some (start, interpolates, afterSign.advance) else none
    | none =>
      if expected.contains .stringStart then some (.stringStart, true, afterSign) else none
  let (opening, closing) ← delimiters? delimiter.peek (expected.contains .slash)
  return ({ start, opening, closing, interpolates }, delimiter.advance)

/-- Reads the delimiter that opens a literal. Where a division is
expected, a slash opens a regular expression only behind a blank and in
front of something else. -/
def openLiteral? (expected : TokenSet) (blanks : Bool) (here : Cursor) :
    Option (OpenLiteral × Cursor) :=
  let c := here.peek
  let next := here.advance
  let literal := fun (start : Token) (interpolates : Bool) =>
    some (({ start, opening := c, closing := c, interpolates } : OpenLiteral), next)
  if c = '"' then literal .stringStart true
  else if c = '\'' then literal .stringStart false
  else if c = '\x60' then
    if expected.contains .subshellStart then literal .subshellStart true else none
  else if c = '/' then
    let d := next.peek
    if !expected.contains .regexStart then none
    else if expected.contains .slash &&
        (!blanks || d = ' ' || d = '\t' || d = '\n' || d = '\r' || d = '=') then none
    else literal .regexStart true
  else if c = '%' then openPercent? expected here
  else none

/-! ## The text inside a literal -/

/-- Whether a variable stands behind a number sign. Of its sigil, and of
the sign that names a special variable, only the low byte counts. -/
def variableAhead (here : Cursor) : Bool :=
  let sigil := lowByte here.peek
  let next := here.advance
  let c := next.peek
  if sigil = '$'.toNat then
    if lowByte c = 0 || (specialVariables.map Char.toNat).contains (lowByte c) then true
    else if c = '-' then isWordStart next.advance.peek
    else isWordChar c
  else if sigil = '@'.toNat then isWordStart (if c = '@' then next.advance else next).peek
  else false

/-- What stands behind a number sign. -/
inductive Behind
  | code
  | variable
  | text
deriving DecidableEq

/-- What stands behind a number sign: code in braces, a variable, or more
text. Behind other text a sigil alone ends it. -/
def behindNumberSign (content : Bool) (here : Cursor) : Behind :=
  let c := lowByte here.peek
  if here.peek = '\x7b' then .code
  else if c ≠ '$'.toNat && c ≠ '@'.toNat then .text
  else if content || variableAhead here then .variable
  else .text

/-- The place that a look at what follows a number sign leads to, if that
is text. -/
def behindSigil (here : Cursor) : Cursor :=
  let c := lowByte here.peek
  let next := here.advance
  if c = '$'.toNat then if next.peek = '-' then next.advance else next
  else if c = '@'.toNat then if next.peek = '@' then next.advance else next
  else here

/-- A place inside a literal. -/
structure Inside where
  literal : OpenLiteral
  here : Cursor
  /-- Whether some text has been read. -/
  content : Bool := false

namespace Inside

/-- The literals when the innermost is as it is now. -/
def scan (s : Inside) (outer : List OpenLiteral) (scan : Scan) : Scan :=
  { scan with literals := s.literal :: outer }

/-- Goes on reading at a place. -/
def goOn (s : Inside) (here : Cursor) : Inside := { s with here := here, content := true }

end Inside

/-- The end of a literal at a closing delimiter. The letters behind a
regular expression belong to it. -/
def closeLiteral (start : Cursor) (outer : List OpenLiteral) (scan : Scan) (s : Inside) :
    Scanned :=
  let next := s.here.advance
  let stop := if s.literal.start = .regexStart then next.skipWhile isLower else next
  ⟨.stringEnd, start, stop, { scan with literals := outer }⟩

/-- Reads the text inside a literal, at most `n` characters. -/
def readInside (start : Cursor) (outer : List OpenLiteral) (scan : Scan) :
    (n : Nat) → Inside → Option Scanned
  | 0, _ => none
  | n + 1, s =>
    let c := s.here.peek
    let l := s.literal
    let text := fun (stop : Cursor) =>
      some (⟨.stringContent, start, stop, s.scan outer scan⟩ : Scanned)
    let words := l.start = .symbolArrayStart || l.start = .stringArrayStart
    if words && isBlank c then if s.content then text s.here else none
    else if c = l.closing then
      if l.depth = 1 then
        if s.content then text s.here else some (closeLiteral start outer scan s)
      else
        readInside start outer scan n
          ({ s with literal := { l with depth := l.depth - 1 } }.goOn s.here.advance)
    else if c = l.opening then
      readInside start outer scan n
        ({ s with literal := { l with depth := l.depth + 1 } }.goOn s.here.advance)
    else if l.interpolates && c = '#' then
      let next := s.here.advance
      match behindNumberSign s.content next with
      | .code => if s.content then text s.here else none
      | .variable =>
        if s.content then text s.here
        else some ⟨.shortInterpolation, start, next, s.scan outer scan⟩
      | .text =>
        readInside start outer scan n (s.goOn (behindSigil next))
    else if c = '\\' then
      if l.interpolates then if s.content then text s.here else none
      else readInside start outer scan n (s.goOn s.here.advance.advance)
    else if s.here.atEnd then none
    else readInside start outer scan n (s.goOn s.here.advance)

/-- Reads what stands inside the innermost literal. -/
def scanInside? (scan : Scan) (here : Cursor) : Option Scanned :=
  match scan.literals with
  | [] => none
  | l :: outer => readInside here outer scan (here.rest.length + 1) { literal := l, here := here }

end LiteralMark.Ruby
