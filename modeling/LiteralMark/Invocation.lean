import LiteralMark.Command.Arguments
import LiteralMark.Session
/-!
# An invocation of the program

From the arguments and the directories to the exit code, what is written
to the two output streams, and the directories as they are left.
-/

namespace LiteralMark

/-- What an invocation of the program does. -/
structure Invocation where
  code : Nat
  stdout : Bytes
  stderr : Bytes
  volume : Volume

namespace Invocation

/-- What stops before any file is looked at. -/
def ofStop (v : Volume) : Command.Stop → Invocation
  | .help true => ⟨0, Utf8.ofString Command.longHelp, [], v⟩
  | .help false => ⟨0, Utf8.ofString Command.shortHelp, [], v⟩
  | .version => ⟨0, Utf8.ofString Command.versionText, [], v⟩
  | .usage e => ⟨2, [], Utf8.ofString e.message, v⟩

/-- The line that tells why a run failed. -/
def failureLine (message : String) : String := Command.programName ++ ": " ++ message ++ "\n"

/-- The journal that settings ask for, with nothing in it. -/
def openJournal (settings : Settings) (filter : Log.Filter) (clock : Log.Clock) : Log.Journal :=
  { filter := filter, format := settings.logFormat, clock := clock }

/-- Runs the program with given settings. -/
def ofSettings (read : TreeReader) (clock : Log.Clock) (v : Volume) (settings : Settings)
    (device : Device := {}) : Invocation :=
  match Log.Filter.parse settings.logFilter with
  | .error e =>
    ⟨1, [], Utf8.ofString (failureLine ("invalid log filter: " ++ e.message)), v⟩
  | .ok filter =>
    let session : Session := { strategy := settings.strategy, dryRun := settings.dryRun }
    let run := session.run read settings.path v {} device (openJournal settings filter clock)
    match run.result with
    | .ok summary =>
      let journal := run.journal.note (.runComplete summary)
      ⟨0, run.sink.taken, Utf8.ofString journal.written, run.volume⟩
    | .error f =>
      ⟨1, run.sink.taken, Utf8.ofString (run.journal.written ++ failureLine f.message), run.volume⟩

/-- Runs the program with given arguments. -/
def run (read : TreeReader) (clock : Log.Clock) (v : Volume) (arguments : List Bytes)
    (device : Device := {}) : Invocation :=
  match Command.parse arguments with
  | .error stop => ofStop v stop
  | .ok settings => ofSettings read clock v settings device

end Invocation

end LiteralMark
