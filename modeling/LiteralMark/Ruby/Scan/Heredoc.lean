import LiteralMark.Ruby.Scan.Literal
/-!
# Here documents

The start of a here document names the line that ends it. Its body is
read line by line up to code, to an escaped character or to that line.
-/

namespace LiteralMark.Ruby

/-! ## The start -/

/-- Reads the word that ends a here document: in quotes, or a plain word.
In single quotes it says that no code stands in the body. -/
def heredocWord (here : Cursor) : List Nat × Bool × Cursor :=
  let q := here.peek
  if q = '\'' || q = '"' || q = '\x60' then
    let first := here.advance
    let stop := first.skipWhile (· ≠ q)
    ((first.rest.takeWhile (· ≠ q)).map lowByte, q ≠ '\'', stop.advance)
  else
    ((here.rest.takeWhile isWordChar).map lowByte, true, here.skipWhile isWordChar)

/-- Reads the start of a here document. -/
def openHeredoc? (here : Cursor) : Option (Heredoc × Cursor) :=
  let second := here.advance
  if second.peek ≠ '<' then none
  else
    let next := second.advance
    let indented := next.peek = '-' || next.peek = '~'
    let (word, interpolates, stop) := heredocWord (if indented then next.advance else next)
    if word.isEmpty then none else some ({ word, indented, interpolates }, stop)

/-! ## The body -/

/-- A place in the body of a here document. -/
structure InBody where
  here : Cursor
  /-- Where the text ends, if that is fixed. -/
  mark : Option Cursor := none
  /-- What is still to come of the line that may end the body. -/
  word : List Nat
  /-- Whether the line may still end the body. -/
  looking : Bool := true
  /-- Whether some text has been read. -/
  content : Bool := false

namespace InBody

/-- The text that ends here, or at the mark if there is one; the end of
the body if there is no text. -/
def finish (s : InBody) (start : Cursor) (more : List Heredoc) (scan : Scan) : Scanned :=
  let stop := s.mark.getD s.here
  let start := if stop.offset < start.offset then stop else start
  if s.content then ⟨.heredocContent, start, stop, scan⟩
  else ⟨.heredocEnd, start, stop, { scan with heredocs := more }⟩

/-- Reads a line break and the blanks behind it. -/
def nextLine (s : InBody) (h : Heredoc) : InBody :=
  let next := s.here.advance
  let line := if s.here.peek = '\r' && next.peek = '\n' then next.advance else next
  let first := line.skipWhile fun c => c = ' ' || c = '\t'
  { here := first, mark := some first, word := h.word, content := true,
    looking := h.indented || first.offset = line.offset }

end InBody

/-- Reads the body of a here document, at most `n` steps. -/
def readBody (start : Cursor) (h : Heredoc) (more : List Heredoc) (scan : Scan) :
    (n : Nat) → InBody → Option Scanned
  | 0, _ => none
  | n + 1, s =>
    let text := fun (s : InBody) (token : Token) =>
      let stop := s.mark.getD s.here
      some (⟨token, if stop.offset < start.offset then stop else start, stop, scan⟩ : Scanned)
    let ended := s.word.isEmpty
    let marked := if ended && !s.content then { s with mark := some s.here } else s
    let blank := fun c => c = ' ' || c = '\t'
    let s := if ended then { marked with here := s.here.skipWhile blank } else marked
    if ended && (s.here.peek = '\n' || s.here.peek = '\r') then some (s.finish start more scan)
    else
      let s := if ended then { s with content := true, word := h.word } else s
      let c := s.here.peek
      if s.here.atEnd then some ({ s with mark := some s.here }.finish start more scan)
      else if s.looking && s.word.head? = some c.toNat && c.toNat < 128 then
        readBody start h more scan n { s with here := s.here.advance, word := s.word.tail }
      else
        let s := { s with word := h.word, looking := false }
        if h.interpolates && c = '\\' then
          if s.content then text s .heredocContent else none
        else if h.interpolates && c = '#' then
          let s := { s with mark := some s.here }
          let next := s.here.advance
          match behindNumberSign s.content next with
          | .code => if s.content then text s .heredocContent else none
          | .variable =>
            if s.content then text s .heredocContent
            else text { s with mark := some next } .shortInterpolation
          | .text =>
            let mark := if (behindSigil next).offset = next.offset then s.here else next
            readBody start h more scan n { s with here := behindSigil next, mark := some mark }
        else if c = '\r' || c = '\n' then readBody start h more scan n (s.nextLine h)
        else
          let next := s.here.advance
          readBody start h more scan n { s with here := next, mark := some next, content := true }

/-- Reads what stands in the body of the first here document. -/
def scanBody? (scan : Scan) (here : Cursor) : Option Scanned :=
  match scan.heredocs with
  | [] => none
  | h :: more =>
    readBody here h more scan (2 * here.rest.length + 2) { here := here, word := h.word }

end LiteralMark.Ruby
