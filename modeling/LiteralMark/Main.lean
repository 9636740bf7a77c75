import LiteralMark.Invocation
import LiteralMark.Log.Time
import LiteralMark.Ruby.Program
/-!
# The command line

The outer layer of the program. What the given path passes by is copied
from the disk into a volume, the invocation runs on the volume, and the
file that has changed is written back: its new content goes to a scratch
file beside it, which is then moved onto it. The clock stands still while
the invocation runs on the volume.
-/

namespace LiteralMark.Disk

/-- The path of a place, from the root. -/
def pathBytes (place : Place) : Bytes :=
  if place.isEmpty then [Path.slash] else place.flatMap (Path.slash :: ·)

/-- The text of the path of a place. -/
def pathOf (place : Place) : String := Utf8.display (pathBytes place)

/-- What lies at a place that is no link. The permission bits of a file
are not known here, so they are those of a new file. -/
def entryAt? (place : Place) (id : Nat) : IO (Option Entry) := do
  try
    match (← (System.mkFilePath [pathOf place]).metadata).type with
    | .dir => return some .folder
    | _ => return some (.file id ⟨0o644, (← IO.FS.readBinFile (pathOf place)).toList⟩)
  catch _ => return none

/-- Copies what lies at a place, with the directories on the way to it. No
link is among them. -/
def copyPlace (v : Volume) (place : Place) : IO Volume := do
  let folders := (List.range place.length).map place.take
  let w := folders.foldl (fun v p => v.insert p .folder) v
  match ← entryAt? place w.freshId with
  | some e => return w.insert place e
  | none => return w

/-- The place that a place leads to through all links, if there is
something. -/
def realPlace? (place : Place) : IO (Option Place) := do
  try
    return some (Path.parts (Utf8.ofString (← IO.FS.realPath (pathOf place)).toString))
  catch _ => return none

/-- Copies everything that a path passes by. -/
def copyPath (v : Volume) (path : Bytes) : IO Volume := do
  let mut w := v
  let mut current := v.startOf path
  for name in Path.steps path do
    if name = Path.up then current := current.dropLast
    else if name ≠ Path.here then
      let place := current ++ [name]
      match ← realPlace? place with
      | none => return w
      | some real =>
        w ← copyPlace w real
        if real ≠ place then w := w.insert place (.link (pathBytes real))
        current := real
  return w

/-- The working directory, with nothing in it. -/
def home : IO Volume := do
  let place := Path.parts (Utf8.ofString (← IO.currentDir).toString)
  copyPlace { home := place } place

/-- Replaces the content of a file in one step. -/
def replace (place : Place) (content : Bytes) : IO Unit := do
  let scratch := pathOf (place.dropLast ++ [Scratch.fileName (pathBytes place) 0])
  IO.FS.withFile scratch .writeNew fun handle => handle.write ⟨content.toArray⟩
  try IO.FS.rename scratch (pathOf place)
  catch e =>
    IO.FS.removeFile scratch
    throw e

/-- Writes the files back that have changed. -/
def writeBack (before after : Volume) : IO Unit := do
  for (place, e) in after.entries do
    match e with
    | .file _ f => if before.entry? place != some e then replace place f.content
    | _ => pure ()

/-- The present time, as a new file is stamped with it. -/
def now : IO Log.Time := do
  let (_, path) ← IO.FS.createTempFile
  let stamp := (← path.metadata).modified
  IO.FS.removeFile path
  return ⟨stamp.sec.toNat, stamp.nsec.toNat⟩

/-- Writes bytes to an output stream. -/
def put (stream : IO.FS.Stream) (bytes : Bytes) : IO Unit := do
  stream.write ⟨bytes.toArray⟩
  stream.flush

end LiteralMark.Disk

open LiteralMark in
/-- Marks the file that the arguments name. -/
def main (arguments : List String) : IO UInt32 := do
  let given := arguments.map Utf8.ofString
  let before ← match Command.parse given with
    | .ok settings => Disk.copyPath (← Disk.home) settings.path
    | .error _ => pure {}
  let done := Invocation.run Ruby.read (← Disk.now).render before given
  Disk.put (← IO.getStdout) done.stdout
  Disk.put (← IO.getStderr) done.stderr
  try
    Disk.writeBack before done.volume
    return done.code.toUInt32
  catch e =>
    Disk.put (← IO.getStderr) (Utf8.ofString (Invocation.failureLine (toString e)))
    return 1
