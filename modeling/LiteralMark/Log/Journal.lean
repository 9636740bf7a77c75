import LiteralMark.Log.Filter
/-!
# Journals

Events are noted where they happen. The journal asks its filter at once,
and if the event is shown, writes its line with the time of that moment.
-/

namespace LiteralMark.Log

/-- A clock: the text of the time at which the first event is noted, the
second one, and so on. -/
structure Clock where
  time : Nat → String

/-- A clock that stands still. -/
def Clock.still (time : String) : Clock := ⟨fun _ => time⟩

instance : Coe String Clock := ⟨Clock.still⟩

/-- What has happened so far, and what was written of it. -/
structure Journal where
  filter : Filter := ⟨[]⟩
  format : LogFormat := .compact
  clock : Clock := .still ""
  events : List Event := []
  written : String := ""

namespace Journal

/-- Notes an event. -/
def note (j : Journal) (e : Event) : Journal :=
  { j with
    events := j.events ++ [e]
    written := j.written ++
      if j.filter.shows e then e.line j.format (j.clock.time j.events.length) else "" }

/-- Notes events in turn. -/
def noteAll (j : Journal) (events : List Event) : Journal := events.foldl note j

end Journal

end LiteralMark.Log
