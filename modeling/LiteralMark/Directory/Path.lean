import LiteralMark.Text.Utf8
/-!
# Paths

A path is a sequence of bytes with slashes between its components.
Repeated slashes count as one, and a component `.` means nothing behind
the first one. The last component is the name of the file, and what is
in front of it names the directory that holds it.
-/

namespace LiteralMark

/-- A component of a path, or the name of an entry of a directory. -/
abbrev Name := Bytes

namespace Path

/-- The byte between components. -/
def slash : UInt8 := 47

/-- The component that stays in the same directory. -/
def here : Name := [46]

/-- The component that goes up to the parent. -/
def up : Name := [46, 46]

/-- Splits bytes at every slash. -/
def split : Bytes → List Name
  | [] => [[]]
  | b :: rest =>
    if b = slash then [] :: split rest
    else
      match split rest with
      | [] => [[b]]
      | first :: more => (b :: first) :: more

/-- Whether a path starts at the root. -/
def isAbsolute (path : Bytes) : Bool := path.head? == some slash

/-- Whether a path ends in a slash. -/
def hasTrailingSlash (path : Bytes) : Bool := path.getLast? == some slash

/-- The components of a path, without empty ones. -/
def parts (path : Bytes) : List Name := (split path).filter (· ≠ [])

/-- The steps that a path asks for. A slash at the end asks for a
directory, as one more `.` would. -/
def steps (path : Bytes) : List Name :=
  if hasTrailingSlash path then parts path ++ [here] else parts path

/-- Joins a directory and a name. -/
def join (directory : Bytes) (name : Name) : Bytes :=
  if hasTrailingSlash directory then directory ++ name else directory ++ slash :: name

/-! ## Parent and file name -/

/-- The length of the part in front of all components: the root, or a
leading `.`. -/
def anchorLength (path : Bytes) : Nat :=
  match path with
  | [] => 0
  | b :: rest =>
    if b = slash then 1
    else if b = 46 ∧ (rest = [] ∨ rest.head? = some slash) then 1
    else 0

/-- The last component of the bytes behind the anchor, and how many bytes
it takes with the slash in front of it. -/
def lastPart (body : Bytes) : Name × Nat :=
  let name := (body.reverse.takeWhile (· ≠ slash)).reverse
  (name, if name.length < body.length then name.length + 1 else name.length)

/-- Removes components at the end that mean nothing, at most `n` times. -/
def trimAtMost : Nat → Bytes → Bytes
  | 0, path => path
  | n + 1, path =>
    let body := path.drop (anchorLength path)
    if body = [] then path
    else
      let (name, size) := lastPart body
      if name = [] ∨ name = here then trimAtMost n (path.take (path.length - size)) else path

/-- Removes components at the end that mean nothing. -/
def trim (path : Bytes) : Bytes := trimAtMost path.length path

/-- The file name of a path: its last component, unless that is the root,
`.` or `..`. -/
def fileName? (path : Bytes) : Option Name :=
  let trimmed := trim path
  match lastPart (trimmed.drop (anchorLength trimmed)) with
  | ([], _) => none
  | (name, _) => if name = up then none else some name

/-- What stands in front of the last component. The root and the empty
path have none. -/
def parent? (path : Bytes) : Option Bytes :=
  let trimmed := trim path
  let body := trimmed.drop (anchorLength trimmed)
  if body ≠ [] then some (trim (trimmed.take (trimmed.length - (lastPart body).2)))
  else if trimmed = [] ∨ isAbsolute trimmed then none
  else some []

/-- The directory in which the file of a path lies: its parent, or the
working directory. -/
def directory (path : Bytes) : Bytes :=
  match parent? path with
  | some [] | none => here
  | some parent => parent

end Path

end LiteralMark
