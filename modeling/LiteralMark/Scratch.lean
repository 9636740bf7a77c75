import LiteralMark.Directory.Device
import LiteralMark.Failure
import LiteralMark.Text.Quoted
/-!
# Scratch buffers

New content is collected in a scratch file beside the target, which is
then moved onto the target in one step. Until then the target keeps its
content; a buffer that is not promoted leaves nothing behind. Bytes are
held back until there are many, so a device that has run full is noticed
when they go to the file, at the latest when the buffer is promoted.
-/

namespace LiteralMark

/-- A scratch buffer: where its file lies, its path, the bytes written to
it, and how many of them are held back. -/
structure Scratch where
  place : Place
  path : Bytes
  content : Bytes := []
  held : Nat := 0
deriving DecidableEq, Repr

namespace Scratch

/-- The ending of the names of scratch files. -/
def ending : Bytes := Utf8.ofString ".strmark"

/-- The permission bits of a scratch file before it is promoted. -/
def initialMode : Nat := 0o600

/-- The letters that make names of scratch files unique. -/
def letters : List Char := "abcdefghijklmnopqrstuvwxyz0123456789".toList

/-- The letters for a number, `k` of them. -/
def tag : Nat → Nat → Text
  | 0, _ => []
  | k + 1, n => tag k (n / letters.length) ++ [letters.getD (n % letters.length) 'a']

/-- The name of the scratch file for a target, with a number that makes it
unique. A target without a readable name gets the name `source`. -/
def fileName (target : Bytes) (n : Nat) : Name :=
  let name := match Path.fileName? target with
    | some name => if (Utf8.decode? name).isSome then name else Utf8.ofString "source"
    | none => Utf8.ofString "source"
  Utf8.ofString "." ++ name ++ Utf8.ofString "." ++ Utf8.encode (tag 6 n) ++ ending

/-- Makes the file of a scratch buffer under the first name of a list that
is not taken. -/
def createFirst (v : Volume) (target : Bytes) (numbers : List Nat) (device : Device := {}) :
    Except Failure (Scratch × Volume) :=
  match numbers with
  | [] => .error (.createScratch (Path.directory target) "too many temporary files exist")
  | n :: rest =>
    let directory := Path.directory target
    let name := fileName target n
    let path := v.fullPath directory name
    match device.carry .create (v.create directory name ⟨initialMode, []⟩) with
    | .error cause =>
      .error (.createScratch directory (cause ++ " at path " ++ Quoted.showBytes path))
    | .ok none => createFirst v target rest device
    | .ok (some (place, w)) => .ok ({ place := place, path := path }, w)

/-- Makes a scratch buffer beside a target. Among more numbers than there
are entries, one is not taken. -/
def create (v : Volume) (target : Bytes) (device : Device := {}) :
    Except Failure (Scratch × Volume) :=
  createFirst v target (List.range (v.entries.length + 1)) device

/-- How many bytes are held back at most. -/
def capacity : Nat := 8192

/-- Appends bytes to a buffer. They are held back, unless they alone are
too many; what was held before goes to the file if there are too many
then. -/
def write (s : Scratch) (bytes : Bytes) : Scratch :=
  { s with
    content := s.content ++ bytes
    held :=
      if capacity ≤ bytes.length then 0
      else if s.held + bytes.length ≤ capacity then s.held + bytes.length
      else bytes.length }

/-- How many bytes have gone to the file of a buffer. -/
def stored (s : Scratch) : Nat := s.content.length - s.held

/-- Appends bytes to a buffer, if the device has room for those that go to
the file. -/
def tryWrite (s : Scratch) (bytes : Bytes) (device : Device := {}) : Except Failure Scratch := do
  (device.grow (s.write bytes).stored).mapError .writeScratch
  return s.write bytes

/-- Sends all bytes to the file of a buffer, with other permission bits, and
waits until they are stored. -/
def store (s : Scratch) (device : Device := {}) : Except Failure Unit :=
  Except.mapError .writeScratch do
    device.grow s.content.length
    device.grant .setMode
    device.grant .sync

/-- Removes the file of a buffer, if it is still there. -/
def discard (s : Scratch) (v : Volume) : Volume := v.erase s.place

/-- The volume in which the file of a buffer holds what was written, with
other permission bits. -/
def settle (s : Scratch) (mode : Nat) (v : Volume) : Volume :=
  match v.entry? s.place with
  | some (.file id _) => v.insert s.place (.file id ⟨mode, s.content⟩)
  | _ => v

/-- The volume in which the file of a buffer was moved onto a target. -/
def replace (s : Scratch) (v : Volume) (target : Bytes) (mode : Nat) (device : Device := {}) :
    Except Failure Volume := do
  s.store device
  (device.carry .rename ((s.settle mode v).rename s.place target)).mapError (.promote target)

/-- Moves the file of a buffer onto a target. If that fails, the file is
removed and the target keeps its content. -/
def promote (s : Scratch) (v : Volume) (target : Bytes) (mode : Nat) (device : Device := {}) :
    Except Failure Unit × Volume :=
  match s.replace v target mode device with
  | .ok w => (.ok (), w)
  | .error failure => (.error failure, s.discard v)

end Scratch

end LiteralMark
