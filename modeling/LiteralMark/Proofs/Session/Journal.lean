import LiteralMark.Session
/-!
# Marking a file — two runs with two journals

A run notes its events while it goes: a buffer was made, the text was
marked, the file was left or replaced. What a journal writes of them stands
between the steps that make, fill and promote the buffer and the reports of
lines. No step looks at it. So two runs that differ in their journals go
side by side (`Run.Parallel`), step by step: whatever the first does and
reports, the second does and reports, and both note the same events at the
same points. What a journal has written in the end is the lines of those
events that its filter shows, each with the time of its own moment
(`Journal.written_noteAll`).
-/

namespace LiteralMark

namespace Log

/-- The lines of those among some events that a filter shows, each with the
time at its moment; the first is noted at a given one. -/
def linesFrom (filter : Filter) (format : LogFormat) (clock : Clock) (moment : Nat)
    (events : List Event) : String :=
  String.join ((events.zipIdx moment).map fun (e, n) =>
    if filter.shows e then e.line format (clock.time n) else "")

namespace Journal

theorem noteAll_cons (j : Journal) (e : Event) (es : List Event) :
    j.noteAll (e :: es) = (j.note e).noteAll es := rfl

theorem noteAll_append (j : Journal) (es fs : List Event) :
    j.noteAll (es ++ fs) = (j.noteAll es).noteAll fs := List.foldl_append

theorem events_noteAll (j : Journal) (es : List Event) :
    (j.noteAll es).events = j.events ++ es := by
  induction es generalizing j with
  | nil => exact (List.append_nil _).symm
  | cons e es ih => rw [noteAll_cons, ih, note, List.append_assoc, List.singleton_append]

/-- **What a journal writes of some events.** -/
theorem written_noteAll (j : Journal) (es : List Event) : (j.noteAll es).written =
    j.written ++ linesFrom j.filter j.format j.clock j.events.length es := by
  induction es generalizing j with
  | nil => exact (String.append_empty).symm
  | cons e es ih =>
    rw [noteAll_cons, ih, linesFrom, linesFrom, List.zipIdx_cons, List.map_cons, String.join_cons,
      ← String.append_assoc, note, List.length_append, List.length_singleton]

end Journal

end Log

open Log (Journal Event)

namespace Run

/-- Two runs do the same, and their journals, which were `j` and `j'`, have
noted the same events since. -/
structure Parallel (j j' : Journal) (r r' : Run) : Prop where
  result_eq : r'.result = r.result
  volume_eq : r'.volume = r.volume
  sink_eq : r'.sink = r.sink
  noted : ∃ events, r.journal = j.noteAll events ∧ r'.journal = j'.noteAll events

/-- Events that both note before they go on are among those that both
note. -/
theorem Parallel.after {j j' : Journal} {r r' : Run} (events : List Event)
    (h : Parallel (j.noteAll events) (j'.noteAll events) r r') : Parallel j j' r r' := by
  obtain ⟨later, hr, hr'⟩ := h.noted
  refine ⟨h.result_eq, h.volume_eq, h.sink_eq, events ++ later, ?_, ?_⟩
  · rw [hr, Journal.noteAll_append]
  · rw [hr', Journal.noteAll_append]

end Run

namespace Session

variable (s : Session) (read : TreeReader) (path : Bytes) (f : File) (v : Volume) (p : Progress)
variable (sink : Sink) (device : Device) (j j' : Journal)

/-! ## Step by step -/

theorem finish_parallel (mode : Nat) : Run.Parallel j j' (s.finish path mode v p device j)
    (s.finish path mode v p device j') := by
  rw [finish, finish]
  cases s.dryRun || p.changed == 0 with
  | true => exact ⟨rfl, rfl, rfl, [.leftUntouched path s.dryRun], rfl, rfl⟩
  | false =>
    rcases p.scratch.promote v path mode device with ⟨failure | _, w⟩
    · exact ⟨rfl, rfl, rfl, [], rfl, rfl⟩
    · exact ⟨rfl, rfl, rfl,
        [.promotedScratch path, .rewroteFile path s.strategy p.lines p.changed], rfl, rfl⟩

theorem abandon_parallel (part : Bytes) (cause : String) :
    Run.Parallel j j' (s.abandon path part cause v p device j)
      (s.abandon path part cause v p device j') :=
  ⟨rfl, rfl, rfl, [], rfl, rfl⟩

theorem process_parallel : Run.Parallel j j' (s.process read path f v p device j)
    (s.process read path f v p device j') := by
  rw [process, process]
  rcases s.mark read path f.content with ⟨failure | lines, wrapped⟩
  · exact ⟨rfl, rfl, rfl, wrapped.toList.map .markedSource, rfl, rfl⟩
  · rcases hemit : p.emitAll lines device with ⟨failure | _, q⟩
    · simp only [hemit]
      exact ⟨rfl, rfl, rfl, wrapped.toList.map .markedSource, rfl, rfl⟩
    · simp only [hemit]
      exact (finish_parallel s path v q device _ _ _).after _

/-- **Two runs with two journals go side by side.** -/
theorem run_parallel : Run.Parallel j j' (s.run read path v sink device j)
    (s.run read path v sink device j') := by
  rw [run, run]
  cases device.find v path with
  | error cause => exact ⟨rfl, rfl, rfl, [], rfl, rfl⟩
  | ok e =>
    rcases Scratch.create v path device with failure | ⟨scratch, w⟩
    · exact ⟨rfl, rfl, rfl, [], rfl, rfl⟩
    -- both have noted that there is a buffer
    refine Run.Parallel.after [.createdScratch scratch.path] ?_
    cases e with
    | folder => exact abandon_parallel ..
    | link target => exact abandon_parallel ..
    | file id f =>
      cases hcut : device.cut? f.content with
      | none =>
        simp only [hcut]
        exact process_parallel ..
      | some cut =>
        simp only [hcut]
        exact abandon_parallel ..

end Session

end LiteralMark
