import LiteralMark.Command.Usage
/-!
# Reading the arguments

Arguments are read from left to right. The value of an option, and the
path, are looked at only when the next argument has been recognised, so
that of two errors the one that is recognised first is told; help and
the version stop the reading at once.
-/

namespace LiteralMark.Command

/-- Why the arguments lead to no run. -/
inductive Stop
  | help (long : Bool)
  | version
  | usage (e : UsageError)
deriving DecidableEq, Repr

/-- An argument that has been recognised and not yet been looked at. -/
inductive Pending
  | nothing
  | option (s : Switch) (value : Option Bytes)
  | path (value : Bytes)
deriving DecidableEq, Repr

/-- What has been read so far. -/
structure Intake where
  strategy : Strategy := .line
  dryRun : Bool := false
  logFilter : String := "warn"
  logFormat : LogFormat := .compact
  path : Option Bytes := none
  /-- The options that were given, in their order. -/
  used : List Switch := []
  pending : Pending := .nothing
  /-- A path was given. -/
  hasPath : Bool := false
  /-- Everything else is a path. -/
  escaped : Bool := false
deriving DecidableEq, Repr

namespace Intake

/-- The text of an option's value. -/
def textOf (value : Bytes) : Except UsageError String :=
  match Utf8.decode? value with
  | some text => .ok (String.ofList text)
  | none => .error .notText

/-- Takes the value of an option. -/
def withValue (i : Intake) (s : Switch) (value : Bytes) : Except UsageError Intake :=
  match s with
  | .strategy =>
    match Strategy.ofName? false (Utf8.display value) with
    | some strategy => .ok { i with strategy := strategy }
    | none => .error (if value = [] then .missingValue s else .unknownStrategy (Utf8.display value))
  | .logFilter => do return { i with logFilter := ← textOf value }
  | .logFormat => do
    let text ← textOf value
    match LogFormat.ofName? text with
    | some format => .ok { i with logFormat := format }
    | none => .error (.unknownFormat text)
  | .dryRun | .help | .version => .ok i

/-- Looks at what was recognised last. With an error comes the intake as
it is then. -/
def resolve (i : Intake) : Except (UsageError × Intake) Intake :=
  let j := { i with pending := .nothing }
  match i.pending with
  | .nothing => .ok j
  | .option s none => .error (.missingValue s, j)
  | .option s (some value) =>
    if i.used.contains s then .error (.repeated s, { j with used := i.used.erase s })
    else
      let k := { j with used := i.used ++ [s] }
      match k.withValue s value with
      | .ok l => .ok l
      | .error e => .error (e, k)
  | .path value =>
    if value = [] then .error (.emptyPath, j) else .ok { j with path := some value }

/-- Looks at what was recognised last; an error stops the reading. -/
def settle (i : Intake) : Except Stop Intake :=
  match i.resolve with
  | .ok j => .ok j
  | .error (e, _) => .error (.usage e)

/-- Looks at what was recognised last, where another error is told in any
case. -/
def settleAnyway (i : Intake) : Intake :=
  match i.resolve with
  | .ok j => j
  | .error (_, j) => j

/-- Takes an option without a value. -/
def takeFlag (i : Intake) (s : Switch) (long : Bool) : Except Stop Intake := do
  let j ← i.settle
  match s with
  | .help => throw (.help long)
  | .version => throw .version
  | s =>
    if j.used.contains s then throw (.usage (.repeated s))
    else return { j with dryRun := true, used := j.used ++ [s] }

/-- The error about an argument that looks like an option and is none. -/
def unknownOption (i : Intake) (name : String) : Stop :=
  let j := i.settleAnyway
  match Switch.similar? name with
  | some s =>
    .usage (.unexpectedArgument ("--" ++ name) (some (.similarOption s)) (j.used ++ [s]))
  | none => .usage (.unexpectedArgument ("--" ++ name) (some (.useDashes ("--" ++ name))) j.used)

/-- Takes an argument that starts with two dashes. -/
def takeLong (i : Intake) (body : Bytes) : Except Stop Intake := do
  let (nameBytes, rest) := body.span (· ≠ 61)
  match Utf8.decode? nameBytes with
  | none => throw (i.unknownOption (Utf8.display nameBytes))
  | some chars =>
    let name := String.ofList chars
    match Switch.ofName? name with
    | none => throw (i.unknownOption name)
    | some s =>
      match s.valueName?, rest with
      | some _, [] => return { ← i.settle with pending := .option s none }
      | some _, _ :: value =>
        let j ← i.settle
        { j with pending := .option s (some value) }.settle
      | none, [] => i.takeFlag s true
      | none, _ :: value =>
        let others := !i.used.isEmpty || i.path.isSome
        throw (.usage (.unexpectedValue (Utf8.display value) s others))

/-- Takes an argument that starts with one dash. -/
def takeShort (i : Intake) (body : Bytes) : Except Stop Intake :=
  let unknown (shown : String) : Except Stop Intake :=
    .error (.usage (.unexpectedArgument shown (some (.useDashes shown)) []))
  match Utf8.pieces body with
  | some 'h' :: _ => i.takeFlag .help false
  | some 'V' :: _ => i.takeFlag .version false
  | some c :: _ => unknown (String.ofList ['-', c])
  | none :: _ => unknown ("-" ++ Utf8.display body)
  | [] => unknown "-"

/-- Takes an argument that is no option. -/
def takePath (i : Intake) (argument : Bytes) : Except Stop Intake := do
  if i.hasPath then
    throw (.usage (.unexpectedArgument (Utf8.display argument) none []))
  return { ← i.settle with pending := .path argument, hasPath := true }

/-- Takes an argument. -/
def take (i : Intake) (argument : Bytes) : Except Stop Intake :=
  if i.escaped then i.takePath argument
  else
    match argument with
    | [45, 45] => .ok { i with escaped := true }
    | 45 :: 45 :: body => i.takeLong body
    | 45 :: b :: body => i.takeShort (b :: body)
    | _ =>
      match i.pending with
      | .option s none => .ok { i with pending := .option s (some argument) }
      | _ => i.takePath argument

end Intake

/-- The settings that arguments ask for. -/
def parse (arguments : List Bytes) : Except Stop Settings := do
  let i ← (← arguments.foldlM Intake.take {}).settle
  match i.path with
  | none => throw (.usage (.missingPath i.used))
  | some path =>
    return { path := path, strategy := i.strategy, dryRun := i.dryRun, logFilter := i.logFilter,
             logFormat := i.logFormat }

end LiteralMark.Command
