import LiteralMark.Text.Utf8
/-!
# The report of changed lines

Every changed line is reported as soon as it is marked: its number, its
new content and a line feed. The report goes to a sink, which may have
room for a limited number of bytes, or refuse to be flushed.
-/

namespace LiteralMark

/-- A changed line: its number, from one, and its new content. -/
structure LineReport where
  number : Nat
  content : Bytes
deriving DecidableEq, Repr

namespace LineReport

/-- The bytes of a report. -/
def render (r : LineReport) : Bytes :=
  Utf8.ofString s!"{r.number}: " ++ r.content ++ [Bytes.lineFeed]

end LineReport

/-- Why a report was not taken. -/
inductive SinkError
  | closed
  | flushRefused
deriving DecidableEq, Repr

namespace SinkError

/-- The text of the error. -/
def message : SinkError → String
  | closed => "closed"
  | flushRefused => "flush refused"

end SinkError

/-- Where reports go: the bytes taken so far, the number of bytes for
which there is room if it is limited, and whether flushing fails. -/
structure Sink where
  taken : Bytes := []
  room : Option Nat := none
  flushFails : Bool := false
deriving DecidableEq, Repr

namespace Sink

/-- Hands bytes to a sink. It takes as many as it has room for, and fails
if some are left. -/
def write (s : Sink) (bytes : Bytes) : Except SinkError Unit × Sink :=
  match s.room with
  | none => (.ok (), { s with taken := s.taken ++ bytes })
  | some n =>
    let t := { s with taken := s.taken ++ bytes.take n, room := some (n - bytes.length) }
    if bytes.length ≤ n then (.ok (), t) else (.error .closed, t)

/-- Writes a report and flushes it. -/
def report (s : Sink) (r : LineReport) : Except SinkError Unit × Sink :=
  match s.write r.render with
  | (.error e, t) => (.error e, t)
  | (.ok _, t) => if t.flushFails then (.error .flushRefused, t) else (.ok (), t)

end Sink

end LiteralMark
