import LiteralMark.Line
import LiteralMark.Log.Journal
import LiteralMark.Report
import LiteralMark.Scratch
/-!
# Marking a file

A session reads a file, marks its lines, reports every changed line and,
if there is one, replaces the file. The file changes in the last step
only, so a session that fails leaves everything as it was. Nearly every
step can fail: what the volume does not allow, the device does not do or
the sink does not take ends the run.
-/

namespace LiteralMark

/-- How files are marked. -/
structure Session where
  strategy : Strategy := .line
  dryRun : Bool := false
  convention : Convention := .standard
deriving DecidableEq, Repr

/-- A line of a file and what it becomes. -/
structure MarkedLine where
  before : Bytes
  after : Bytes
deriving DecidableEq, Repr

/-- What has been done so far: the buffer with the new content, the
counts, and the sink of the reports. -/
structure Progress where
  scratch : Scratch
  lines : Nat := 0
  changed : Nat := 0
  sink : Sink
deriving DecidableEq, Repr

namespace Progress

/-- Writes a line, and reports it if it has changed. -/
def emit (p : Progress) (l : MarkedLine) (device : Device := {}) : Except Failure Unit × Progress :=
  match p.scratch.tryWrite l.after device with
  | .error f => (.error f, p)
  | .ok scratch =>
    let q := { p with scratch := scratch, lines := p.lines + 1 }
    if l.after = l.before then (.ok (), q)
    else
      match q.sink.report ⟨q.lines, l.after⟩ with
      | (.ok _, sink) => (.ok (), { q with changed := q.changed + 1, sink := sink })
      | (.error e, sink) =>
        (.error (.report e.message), { q with changed := q.changed + 1, sink := sink })

/-- Writes lines until one cannot be written or reported. -/
def emitAll (p : Progress) (lines : List MarkedLine) (device : Device := {}) :
    Except Failure Unit × Progress :=
  match lines with
  | [] => (.ok (), p)
  | l :: rest =>
    match p.emit l device with
    | (.ok _, q) => q.emitAll rest device
    | (.error f, q) => (.error f, q)

end Progress

/-- What a session did with a file. -/
structure Run where
  result : Except Failure Summary
  volume : Volume
  sink : Sink
  journal : Log.Journal := {}

namespace Session

/-- The marked lines of a file whose lines are marked one by one. -/
def markLines (c : Convention) (content : Bytes) : List MarkedLine :=
  (Bytes.lines content).map fun line => ⟨line, Line.mark c line⟩

/-- The lines of two texts side by side, if there are equally many. -/
def pairLines (before after : Text) : Except Failure (List MarkedLine) :=
  let old := Text.lines before
  let new := Text.lines after
  if old.length = new.length then
    .ok (List.zipWith (fun b a => ⟨Utf8.encode b, Utf8.encode a⟩) old new)
  else .error (.lineCount old.length new.length)

/-- The marked lines of a file that is marked as a whole, and the number
of literals that were wrapped, if marking came that far. -/
def markTree (read : TreeReader) (c : Convention) (path content : Bytes) :
    Except Failure (List MarkedLine) × Option Nat :=
  match Utf8.decode? content with
  | none => (.error (.notUtf8 path), none)
  | some source =>
    match Markup.ofText read c source with
    | .error f => (.error (.unreadable f), none)
    | .ok m => (pairLines source m.output, some m.wrapped)

/-- The marked lines of a file. -/
def mark (s : Session) (read : TreeReader) (path content : Bytes) :
    Except Failure (List MarkedLine) × Option Nat :=
  match s.strategy with
  | .line => (.ok (markLines s.convention content), none)
  | .tree => markTree read s.convention path content

/-- The lines that are marked before reading breaks off: those that have
ended by then, if lines are marked one by one. -/
def markPart (s : Session) (part : Bytes) : List MarkedLine :=
  match s.strategy with
  | .line =>
    (markLines s.convention part).filter fun l => l.before.getLast? = some Bytes.lineFeed
  | .tree => []

/-- Ends a run: the file is replaced if a line has changed and the run is
no dry run. -/
def finish (s : Session) (path : Bytes) (mode : Nat) (v : Volume) (p : Progress)
    (device : Device := {}) (journal : Log.Journal := {}) : Run :=
  if s.dryRun || p.changed == 0 then
    { result := .ok ⟨p.lines, p.changed, false⟩
      volume := p.scratch.discard v
      sink := p.sink
      journal := journal.note (.leftUntouched path s.dryRun) }
  else
    match p.scratch.promote v path mode device with
    | (.ok _, w) =>
      { result := .ok ⟨p.lines, p.changed, true⟩
        volume := w
        sink := p.sink
        journal := (journal.note (.promotedScratch path)).note
          (.rewroteFile path s.strategy p.lines p.changed) }
    | (.error f, w) => { result := .error f, volume := w, sink := p.sink, journal := journal }

/-- Marks the content of a file that was opened and could be read to its
end. -/
def process (s : Session) (read : TreeReader) (path : Bytes) (f : File) (v : Volume)
    (p : Progress) (device : Device := {}) (journal : Log.Journal := {}) : Run :=
  match s.mark read path f.content with
  | (.error failure, wrapped) =>
    { result := .error failure
      volume := p.scratch.discard v
      sink := p.sink
      journal := journal.noteAll (wrapped.toList.map .markedSource) }
  | (.ok lines, wrapped) =>
    let journal := journal.noteAll (wrapped.toList.map .markedSource)
    match p.emitAll lines device with
    | (.error failure, q) =>
      { result := .error failure
        volume := q.scratch.discard v
        sink := q.sink
        journal := journal }
    | (.ok _, q) => s.finish path (f.mode % 0o10000) v q device journal

/-- Marks what was read of a file before reading broke off. -/
def abandon (s : Session) (path part : Bytes) (cause : String) (v : Volume) (p : Progress)
    (device : Device := {}) (journal : Log.Journal := {}) : Run :=
  let (emitted, q) := p.emitAll (s.markPart part) device
  { result := emitted.bind fun _ => .error (.readSource path cause)
    volume := q.scratch.discard v
    sink := q.sink
    journal := journal }

/-- Marks the file at a path. -/
def run (s : Session) (read : TreeReader) (path : Bytes) (v : Volume) (sink : Sink)
    (device : Device := {}) (journal : Log.Journal := {}) : Run :=
  match device.find v path with
  | .error cause =>
    { result := .error (.openSource path cause), volume := v, sink := sink, journal := journal }
  | .ok e =>
    match Scratch.create v path device with
    | .error failure =>
      { result := .error failure, volume := v, sink := sink, journal := journal }
    | .ok (scratch, w) =>
      let p : Progress := { scratch := scratch, sink := sink }
      let journal := journal.note (.createdScratch scratch.path)
      match e with
      | .file _ f =>
        match device.cut? f.content with
        | none => s.process read path f w p device journal
        | some (part, cause) => s.abandon path part cause w p device journal
      | _ => s.abandon path [] SystemError.isFolder.message w p device journal

end Session

end LiteralMark
