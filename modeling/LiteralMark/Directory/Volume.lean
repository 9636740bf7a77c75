import LiteralMark.Directory.Path
/-!
# Directories

A volume is a tree of directories, files and symbolic links, kept as the
list of its entries, each with its place: the names on the way to it
from the root. Two entries with the same file number are two names of
one file. Paths are resolved as the system does it, through links and
`..`, and what the entries and the path do not allow has its error. Who may
do what, and whether the device does it, is not a matter of a volume.
-/

namespace LiteralMark

/-- Why the system refused an operation on files. -/
inductive SystemError
  | notFound
  | busy
  | notFolder
  | isFolder
  | invalid
  | nameTooLong
  | notEmpty
  | tooManyLinks
  | nulByte
deriving DecidableEq, Repr

namespace SystemError

/-- The text of an error. -/
def message : SystemError → String
  | notFound => "No such file or directory (os error 2)"
  | busy => "Device or resource busy (os error 16)"
  | notFolder => "Not a directory (os error 20)"
  | isFolder => "Is a directory (os error 21)"
  | invalid => "Invalid argument (os error 22)"
  | nameTooLong => "File name too long (os error 36)"
  | notEmpty => "Directory not empty (os error 39)"
  | tooManyLinks => "Too many levels of symbolic links (os error 40)"
  | nulByte => "file name contained an unexpected NUL byte"

end SystemError

/-- A regular file: its permission bits and its content. -/
structure File where
  mode : Nat
  content : Bytes
deriving DecidableEq, Repr

/-- What a name in a directory stands for. -/
inductive Entry
  | file (id : Nat) (file : File)
  | folder
  | link (target : Bytes)
deriving DecidableEq, Repr

/-- The way from the root to an entry. -/
abbrev Place := List Name

/-- A tree of directories and the working directory. -/
structure Volume where
  entries : List (Place × Entry) := []
  home : Place := []
deriving DecidableEq, Repr

namespace Volume

/-- The longest name of an entry, in bytes. -/
def nameLimit : Nat := 255

/-- The length from which on a path is refused, in bytes. -/
def pathLimit : Nat := 4096

/-- How many links are followed in one path. -/
def linkLimit : Nat := 40

/-! ## Entries -/

/-- The entry at a place. The root is always a directory. -/
def entry? (v : Volume) : Place → Option Entry
  | [] => some .folder
  | place => v.entries.lookup place

/-- The volume with another entry at a place. -/
def insert (v : Volume) (place : Place) (e : Entry) : Volume :=
  if v.entries.any (·.1 == place) then
    { v with entries := v.entries.map fun (p, old) => if p == place then (p, e) else (p, old) }
  else { v with entries := v.entries ++ [(place, e)] }

/-- The volume without the entry at a place. -/
def erase (v : Volume) (place : Place) : Volume :=
  { v with entries := v.entries.filter fun (p, _) => p != place }

/-- A file number that no file has. -/
def freshId (v : Volume) : Nat :=
  v.entries.foldl (fun n (_, e) =>
    match e with
    | .file id _ => max n (id + 1)
    | _ => n) 0

/-! ## Resolving paths -/

/-- Follows steps from a directory; a link is handed to `expand`, unless
it is the last step and `follow` says that the link itself is meant. -/
def walkWith (v : Volume) (follow : Bool) (expand : Place → List Name → Except SystemError Place) :
    Place → List Name → Except SystemError Place
  | current, [] => .ok current
  | current, name :: rest =>
    match v.entry? current with
    | some .folder =>
      if name = Path.here then walkWith v follow expand current rest
      else if name = Path.up then walkWith v follow expand current.dropLast rest
      else if name.length > nameLimit then .error .nameTooLong
      else
        match v.entry? (current ++ [name]) with
        | none => .error .notFound
        | some (.link target) =>
          if rest = [] ∧ !follow then .ok (current ++ [name])
          else
            expand (if Path.isAbsolute target then [] else current) (Path.steps target ++ rest)
        | some _ => walkWith v follow expand (current ++ [name]) rest
    | some _ => .error .notFolder
    | none => .error .notFound

/-- Follows steps from a directory through at most `n` links. -/
def walk (v : Volume) (follow : Bool) : Nat → Place → List Name → Except SystemError Place
  | 0 => walkWith v follow fun _ _ => .error .tooManyLinks
  | n + 1 => walkWith v follow (walk v follow n)

/-- Where a path starts. -/
def startOf (v : Volume) (path : Bytes) : Place := if Path.isAbsolute path then [] else v.home

/-- The place that a path leads to, through all links. -/
def resolve (v : Volume) (path : Bytes) : Except SystemError Place :=
  if path.contains 0 then .error .nulByte
  else if path.length ≥ pathLimit then .error .nameTooLong
  else if path = [] then .error .notFound
  else walk v true linkLimit (v.startOf path) (Path.steps path)

/-- The entry that a path leads to, through all links. -/
def find (v : Volume) (path : Bytes) : Except SystemError Entry := do
  match v.entry? (← v.resolve path) with
  | some e => .ok e
  | none => .error .notFound

/-- The directory that a path leads to. -/
def resolveFolder (v : Volume) (path : Bytes) : Except SystemError Place := do
  let place ← v.resolve path
  match v.entry? place with
  | some .folder => .ok place
  | _ => .error .notFolder

/-! ## Changing entries -/

/-- The path of the working directory from the root. -/
def homePath (v : Volume) : Bytes := v.home.flatMap (Path.slash :: ·)

/-- The path from the root of a name in a directory. -/
def fullPath (v : Volume) (directory : Bytes) (name : Name) : Bytes :=
  if Path.isAbsolute directory then Path.join directory name
  else Path.join (Path.join v.homePath directory) name

/-- Makes a new file in a directory. There is none if the name is taken. -/
def create (v : Volume) (directory : Bytes) (name : Name) (f : File) :
    Except SystemError (Option (Place × Volume)) := do
  if name.contains 0 then throw .nulByte
  if (v.fullPath directory name).length ≥ pathLimit then throw .nameTooLong
  let folder ← v.resolveFolder directory
  if name.length > nameLimit then throw .nameTooLong
  let place := folder ++ [name]
  match v.entry? place with
  | some _ => return none
  | none => return some (place, v.insert place (.file v.freshId f))

/-- Moves a file onto a path, in one step. The last component of the path
is not followed, so that a link is replaced itself. -/
def rename (v : Volume) (source : Place) (target : Bytes) : Except SystemError Volume := do
  if target.contains 0 then throw .invalid
  if target.length ≥ pathLimit then throw .nameTooLong
  if target = [] then throw .notFound
  let parts := Path.parts target
  match parts.getLast? with
  | none => throw .busy
  | some name =>
    let folder ← walk v true linkLimit (v.startOf target) (parts.dropLast ++ [Path.here])
    if name = Path.here ∨ name = Path.up then throw .busy
    match v.entry? source with
    | none => throw .notFound
    | some e =>
      let place := folder ++ [name]
      if name.length > nameLimit then throw .nameTooLong
      if Path.hasTrailingSlash target then throw .notFolder
      match v.entry? place with
      | some .folder => throw (if place.isPrefixOf source then .notEmpty else .isFolder)
      | _ => return (v.erase source).insert place e

/-! ## Setting up -/

/-- Puts a file at a path. A file that is there keeps its number, so that
its other names see the change. -/
def putFile (v : Volume) (path : Bytes) (f : File) : Volume :=
  match v.find path with
  | .ok (.file id _) =>
    { v with
      entries := v.entries.map fun
        | (p, .file other old) => if other = id then (p, .file id f) else (p, .file other old)
        | other => other }
  | .ok _ => v
  | .error _ => v.insert (v.startOf path ++ Path.parts path) (.file v.freshId f)

/-- Puts an entry other than a file at a path. -/
def putEntry (v : Volume) (path : Bytes) (e : Entry) : Volume :=
  v.insert (v.startOf path ++ Path.parts path) e

/-- Gives the entry at a path another name. -/
def putName (v : Volume) (path target : Bytes) : Volume :=
  match walk v false linkLimit (v.startOf target) (Path.steps target) with
  | .ok place =>
    match v.entry? place with
    | some e => v.putEntry path e
    | none => v
  | .error _ => v

/-! ## Listing -/

/-- Whether a sequence of bytes comes before another one, or is the same. -/
def bytesLe : Bytes → Bytes → Bool
  | [], _ => true
  | _ :: _, [] => false
  | a :: as, b :: bs => a < b || (a == b && bytesLe as bs)

/-- The path of a place that lies below the working directory. -/
def relativePath? (v : Volume) (place : Place) : Option Bytes :=
  if v.home.isPrefixOf place ∧ place ≠ v.home then
    some (([Path.slash] : Bytes).intercalate (place.drop v.home.length))
  else none

/-- Everything below the working directory, by its path. -/
def listing (v : Volume) : List (Bytes × Entry) :=
  let found := v.entries.filterMap fun (place, e) => (v.relativePath? place).map (·, e)
  found.mergeSort fun a b => bytesLe a.1 b.1

end Volume

end LiteralMark
