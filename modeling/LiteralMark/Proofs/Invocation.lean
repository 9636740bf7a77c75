import LiteralMark.Invocation
import LiteralMark.Proofs.Session.Journal
import LiteralMark.Proofs.Session.Outcome
import LiteralMark.Proofs.Text.Utf8
/-!
# An invocation of the program — what a failure leaves

An invocation is a run and what its journal has written
(`ofSettings_logs`). One that fails has written a message, and that is all,
as long as the device has no faults. Wrong
arguments and a filter that cannot be read are told before any file is
looked at. After that only the run over the file can fail, and it reports
lines while it goes; but the output takes every report, and a run that has
marked its lines comes to an end (`Session.sink_of_error`). So there is no
report to be seen where there is a failure.
-/

namespace LiteralMark

variable {read : TreeReader} {v : Volume}

theorem Utf8.ofString_ne_nil {s : String} (h : s.toList ≠ []) : Utf8.ofString s ≠ [] :=
  mt Utf8.encode_eq_nil_iff.1 h

namespace Session

variable {s : Session} {path : Bytes} {sink : Sink} {failure : Failure}

/-- **A run that fails has reported nothing** and has changed nothing, if
its sink takes everything and the volume is a tree. -/
theorem sink_of_error (hv : v.IsTree) (hopen : sink.IsOpen)
    (h : (s.run read path v sink).result = .error failure) :
    (s.run read path v sink).sink = sink ∧ (s.run read path v sink).volume = v := by
  rcases s.stops_or_reaches read path v sink with
    ⟨failure, sink', hstops, hsink⟩ | ⟨f, p, hreach⟩
  · obtain ⟨-, hvolume, hsink'⟩ := hstops s.dryRun
    exact ⟨hsink'.trans (hsink hopen), hvolume⟩
  · rcases (run_of_reaches hv hreach).2 with ⟨-, hresult, -⟩ | ⟨-, -, hresult, -⟩
    · rw [hresult] at h
      cases h
    · rw [hresult] at h
      cases h

end Session

namespace Run

/-- The exit code after a run. -/
def code (r : Run) : Nat :=
  match r.result with
  | .ok _ => 0
  | .error _ => 1

/-- The events of a run; its end is one of them, if it comes to one. -/
def logged (r : Run) : List Log.Event :=
  match r.result with
  | .ok summary => r.journal.events ++ [.runComplete summary]
  | .error _ => r.journal.events

/-- What is told of a run that failed, whatever the filter. -/
def complaint (r : Run) : String :=
  match r.result with
  | .ok _ => ""
  | .error failure => Invocation.failureLine failure.message

end Run

namespace Invocation

variable {settings : Settings} {filter : Log.Filter}

/-! ## The run and its log -/

/-- The run over the file that the settings name. -/
def runWith (read : TreeReader) (v : Volume) (settings : Settings) (device : Device := {}) : Run :=
  ({ strategy := settings.strategy, dryRun := settings.dryRun } : Session).run read
    settings.path v {} device

/-- An invocation does what a run does, and tells it with a filter, in a
format, and with the times of a clock. -/
structure Logs (i : Invocation) (r : Run) (filter : Log.Filter) (settings : Settings)
    (clock : Log.Clock) : Prop where
  code_eq : i.code = r.code
  stdout_eq : i.stdout = r.sink.taken
  volume_eq : i.volume = r.volume
  stderr_eq : i.stderr =
    Utf8.ofString (Log.linesFrom filter settings.logFormat clock 0 r.logged ++ r.complaint)

/-- **An invocation is a run and its log.** -/
theorem ofSettings_logs (hfilter : Log.Filter.parse settings.logFilter = .ok filter)
    (read : TreeReader) (clock : Log.Clock) (v : Volume) (device : Device) :
    (ofSettings read clock v settings device).Logs (runWith read v settings device) filter settings
      clock := by
  have hparallel : Run.Parallel {} (openJournal settings filter clock)
      (runWith read v settings device)
      (({ strategy := settings.strategy, dryRun := settings.dryRun } : Session).run read
        settings.path v {} device (openJournal settings filter clock)) := Session.run_parallel ..
  obtain ⟨hresult, hvolume, hsink, events, hr, hr'⟩ := hparallel
  have hevents : (runWith read v settings device).journal.events = events := by
    rw [hr, Log.Journal.events_noteAll, List.nil_append]
  have hwritten (es : List Log.Event) : ((openJournal settings filter clock).noteAll es).written =
      Log.linesFrom filter settings.logFormat clock 0 es := by
    rw [Log.Journal.written_noteAll]
    exact String.empty_append
  simp only [ofSettings, hfilter, hresult, hvolume, hsink, hr', hwritten]
  cases hend : (runWith read v settings device).result with
  | ok summary =>
    have hlast : (((openJournal settings filter clock).noteAll events).note
        (.runComplete summary)).written =
        Log.linesFrom filter settings.logFormat clock 0 (events ++ [.runComplete summary]) := by
      rw [← hwritten, Log.Journal.noteAll_append]
      rfl
    refine ⟨by rw [Run.code, hend], rfl, rfl, ?_⟩
    simp only [hlast, Run.logged, Run.complaint, hend, hevents, String.append_empty]
  | error failure =>
    refine ⟨by rw [Run.code, hend], rfl, rfl, ?_⟩
    simp only [Run.logged, Run.complaint, hend, hevents]

/-! ## Failures -/

/-- An invocation that did nothing but tell what is wrong. -/
structure OnlyTells (i : Invocation) (v : Volume) : Prop where
  stdout_eq : i.stdout = []
  stderr_ne : i.stderr ≠ []
  volume_eq : i.volume = v

/-- An invocation that printed the help or the version. -/
structure Informs (i : Invocation) (v : Volume) : Prop where
  stdout_mem : i.stdout ∈
    [Utf8.ofString Command.longHelp, Utf8.ofString Command.shortHelp,
      Utf8.ofString Command.versionText]
  volume_eq : i.volume = v

/-- An invocation that did what a run over a file does. -/
structure Runs (i : Invocation) (read : TreeReader) (v : Volume) (settings : Settings) : Prop where
  succeeds : ∃ summary, ((⟨settings.strategy, settings.dryRun, .standard⟩ : Session).run read
    settings.path v {}).result = .ok summary
  stdout_eq : i.stdout = ((⟨settings.strategy, settings.dryRun, .standard⟩ : Session).run read
    settings.path v {}).sink.taken
  volume_eq : i.volume = ((⟨settings.strategy, settings.dryRun, .standard⟩ : Session).run read
    settings.path v {}).volume

theorem failureLine_ne_nil (before message : String) :
    Utf8.ofString (before ++ failureLine message) ≠ [] := by
  refine Utf8.ofString_ne_nil ?_
  simp [failureLine, Command.programName]

theorem usageMessage_ne_nil (e : Command.UsageError) : Utf8.ofString e.message ≠ [] := by
  refine Utf8.ofString_ne_nil ?_
  simp [Command.UsageError.message]

/-- What is told about arguments that lead to no run. -/
theorem ofStop_cases (v : Volume) (stop : Command.Stop) :
    ((ofStop v stop).code = 0 ∧ (ofStop v stop).Informs v) ∨
      ((ofStop v stop).code = 2 ∧ (ofStop v stop).OnlyTells v) := by
  cases stop with
  | help long =>
    cases long with
    | false => exact Or.inl ⟨rfl, by simp [ofStop], rfl⟩
    | true => exact Or.inl ⟨rfl, by simp [ofStop], rfl⟩
  | version => exact Or.inl ⟨rfl, by simp [ofStop], rfl⟩
  | usage e => exact Or.inr ⟨rfl, rfl, usageMessage_ne_nil e, rfl⟩

/-- A filter that cannot be read is told before anything else. -/
theorem ofSettings_of_filter {e : Log.FilterError}
    (h : Log.Filter.parse settings.logFilter = .error e) (read : TreeReader) (clock : Log.Clock)
    (v : Volume) :
    ofSettings read clock v settings =
      ⟨1, [], Utf8.ofString (failureLine ("invalid log filter: " ++ e.message)), v⟩ := by
  rw [ofSettings, h]

/-- What a run with settings comes to. -/
theorem ofSettings_cases (hv : v.IsTree) (read : TreeReader) (clock : Log.Clock)
    (settings : Settings) :
    ((ofSettings read clock v settings).code = 0 ∧
        (ofSettings read clock v settings).Runs read v settings) ∨
      ((ofSettings read clock v settings).code = 1 ∧
        (ofSettings read clock v settings).OnlyTells v) := by
  cases hfilter : Log.Filter.parse settings.logFilter with
  | error e =>
    rw [ofSettings_of_filter hfilter]
    exact Or.inr ⟨rfl, rfl, failureLine_ne_nil "" _, rfl⟩
  | ok filter =>
    have hlogs := ofSettings_logs hfilter read clock v {}
    cases hresult : (runWith read v settings).result with
    | error failure =>
      obtain ⟨hsink, hvolume⟩ := Session.sink_of_error hv ⟨rfl, rfl⟩ hresult
      refine Or.inr ⟨?_, ?_, ?_, ?_⟩
      · rw [hlogs.code_eq, Run.code, hresult]
      · rw [hlogs.stdout_eq, runWith, hsink]
      · rw [hlogs.stderr_eq, Run.complaint, hresult]
        exact failureLine_ne_nil _ _
      · rw [hlogs.volume_eq, runWith, hvolume]
    | ok summary =>
      exact Or.inl ⟨by rw [hlogs.code_eq, Run.code, hresult], ⟨summary, hresult⟩,
        hlogs.stdout_eq, hlogs.volume_eq⟩

/-- **How an invocation ends**: it informs, it does what a run does, or it
only tells what is wrong. -/
theorem run_ends (hv : v.IsTree) (read : TreeReader) (clock : Log.Clock) (arguments : List Bytes) :
    ((run read clock v arguments).code = 0 ∧
        ((∃ stop, Command.parse arguments = .error stop ∧ (run read clock v arguments).Informs v) ∨
          ∃ settings, Command.parse arguments = .ok settings ∧
            (run read clock v arguments).Runs read v settings)) ∨
      (((run read clock v arguments).code = 1 ∨ (run read clock v arguments).code = 2) ∧
        (run read clock v arguments).OnlyTells v) := by
  cases hparse : Command.parse arguments with
  | error stop =>
    simp only [run, hparse]
    rcases ofStop_cases v stop with ⟨hcode, hinforms⟩ | ⟨hcode, htells⟩
    · exact Or.inl ⟨hcode, Or.inl ⟨stop, rfl, hinforms⟩⟩
    · exact Or.inr ⟨Or.inr hcode, htells⟩
  | ok settings =>
    simp only [run, hparse]
    rcases ofSettings_cases hv read clock settings with ⟨hcode, hruns⟩ | ⟨hcode, htells⟩
    · exact Or.inl ⟨hcode, Or.inr ⟨settings, rfl, hruns⟩⟩
    · exact Or.inr ⟨Or.inl hcode, htells⟩

/-- **An invocation that fails has no effect but its message**, if the
device has no faults. The exit code is 0, 1 or 2. If it is not 0, nothing is on the standard output,
something is on the standard error output, and the volume is as before. If
it is 0, the help or the version was printed, or the invocation did what
the run over the file does. A filter that cannot be read is told without a
look at the volume. And a run that has reported a line cannot fail any
more, since a path that was opened as a file can be renamed onto. -/
theorem run_fails_clean (read : TreeReader) (clock : Log.Clock) (v : Volume) (arguments : List Bytes)
    (hv : v.IsTree) :
    ((run read clock v arguments).code = 0 ∨ (run read clock v arguments).code = 1 ∨
      (run read clock v arguments).code = 2) ∧
    ((run read clock v arguments).code ≠ 0 → (run read clock v arguments).OnlyTells v) ∧
    ((run read clock v arguments).code = 0 →
      (∃ stop, Command.parse arguments = .error stop ∧ (run read clock v arguments).Informs v) ∨
      ∃ settings, Command.parse arguments = .ok settings ∧
        (run read clock v arguments).Runs read v settings) ∧
    (∀ settings e, Command.parse arguments = .ok settings →
      Log.Filter.parse settings.logFilter = .error e →
      ∀ w, run read clock w arguments =
        ⟨1, [], Utf8.ofString (failureLine ("invalid log filter: " ++ e.message)), w⟩) ∧
    (∀ (s : Session) (path : Bytes), (s.run read path v {}).sink.taken ≠ [] →
      ∃ summary, (s.run read path v {}).result = .ok summary) ∧
    ∀ path id f scratch w bytes mode, v.find path = .ok (.file id f) →
      Scratch.create v path = .ok (scratch, w) →
      ∃ u, (scratch.write bytes).promote w path mode = (.ok (), u) := by
  have hends := run_ends hv read clock arguments
  refine ⟨?_, fun hcode => ?_, fun hcode => ?_, fun settings e hparse hfilter w => ?_,
    fun s path htaken => ?_, fun path id f scratch w bytes mode hfound hcreate => ?_⟩
  · rcases hends with ⟨hcode, -⟩ | ⟨hcode, -⟩
    · exact Or.inl hcode
    · exact Or.inr hcode
  · rcases hends with ⟨hzero, -⟩ | ⟨-, htells⟩
    · exact absurd hzero hcode
    · exact htells
  · rcases hends with ⟨-, hdone⟩ | ⟨hfailed, -⟩
    · exact hdone
    · omega
  · rw [run, hparse]
    exact ofSettings_of_filter hfilter read clock w
  · cases hresult : (s.run read path v {}).result with
    | ok summary => exact ⟨summary, rfl⟩
    | error failure =>
      rw [(Session.sink_of_error hv ⟨rfl, rfl⟩ hresult).1] at htaken
      exact absurd rfl htaken
  · obtain ⟨folder, name, hnames⟩ := hv.names_of_find hfound
    exact ⟨_, (Scratch.isNew_of_create hcreate).promote_write_of_names
      (Scratch.content_of_create hcreate) hnames⟩

/-- A volume with a directory and a file. -/
def smallVolume : Volume :=
  { entries := [([Utf8.ofString "d"], .folder),
      ([Utf8.ofString "d", Utf8.ofString "f"], .file 0 ⟨0o644, Utf8.ofString "x = \"a\"\n"⟩)] }

/-- Who asks to mark a directory is told that it is one; who asks to mark
the file in it is shown the new line. -/
theorem run_fails_clean_smallVolume :
    smallVolume.IsTree ∧
    ((run (fun _ => default) "" smallVolume [Utf8.ofString "d"]).code = 1 ∧
      (run (fun _ => default) "" smallVolume [Utf8.ofString "d"]).OnlyTells smallVolume) ∧
    (run (fun _ => default) "" smallVolume [Utf8.ofString "d/f"]).code = 0 ∧
      ∃ settings, Command.parse [Utf8.ofString "d/f"] = .ok settings ∧
        (run (fun _ => default) "" smallVolume [Utf8.ofString "d/f"]).Runs (fun _ => default)
          smallVolume settings := by
  have hv : smallVolume.IsTree := by decide
  have hfolder : (run (fun _ => default) "" smallVolume [Utf8.ofString "d"]).code = 1 := by
    decide +kernel
  have hfile : (run (fun _ => default) "" smallVolume [Utf8.ofString "d/f"]).code = 0 := by
    decide +kernel
  have hparse : Command.parse [Utf8.ofString "d/f"] = .ok { path := Utf8.ofString "d/f" } := by
    decide +kernel
  refine ⟨hv, ⟨hfolder, (run_fails_clean _ _ _ _ hv).2.1 (by rw [hfolder]; decide)⟩, hfile, ?_⟩
  rcases (run_fails_clean _ _ _ _ hv).2.2.1 hfile with ⟨stop, hstop, -⟩ | hruns
  · rw [hparse] at hstop
    cases hstop
  · exact hruns

end Invocation

end LiteralMark
