import LiteralMark.Proofs.Directory.Tree
import LiteralMark.Proofs.Session.Run
import LiteralMark.Proofs.Sink
/-!
# Marking a file — when a run succeeds

Where the device has no faults, the volume, the text and the sink decide
how a run ends. It goes as far as its last step, or it stops before. How
far it comes does not depend on whether it is a dry run
(`stops_or_reaches`), and in a volume that is a tree the last step succeeds
(`run_of_reaches`): the file was opened through the path, so the path names
an entry, and a rename onto it replaces that entry. So a failure is always
one in front of the last step. If every report is taken, it is even one in
front of the first report, for nothing but a report can fail once the lines
are marked.
-/

namespace LiteralMark

namespace Sink

/-- A sink that takes everything. -/
def IsOpen (s : Sink) : Prop := s.room = none ∧ s.flushFails = false

theorem IsOpen.fits {s : Sink} (h : s.IsOpen) (bytes : Bytes) : s.Fits bytes := by
  simp [Fits, h.1]

theorem IsOpen.fill_eq {s : Sink} (h : s.IsOpen) (bytes : Bytes) :
    s.fill bytes = { s with taken := s.taken ++ bytes } := by
  simp [fill, h.1]

end Sink

/-- The reports on the changed lines among some, with a number for the
first line. -/
def MarkedLine.changesFrom (number : Nat) (lines : List MarkedLine) : List LineReport :=
  (lines.zipIdx number).filterMap fun (l, n) => if l.isChanged then some ⟨n, l.after⟩ else none

theorem MarkedLine.changesFrom_cons (n : Nat) (l : MarkedLine) (lines : List MarkedLine) :
    changesFrom n (l :: lines) =
      (if l.isChanged then [⟨n, l.after⟩] else []) ++ changesFrom (n + 1) lines := by
  by_cases hchanged : l.isChanged
  · simp [changesFrom, List.zipIdx_cons, hchanged]
  · simp [changesFrom, List.zipIdx_cons, hchanged]

namespace Progress

variable {p : Progress}

/-- One line: what becomes of its report, if it has changed. -/
theorem emit_sink (p : Progress) (l : MarkedLine) :
    ∃ q, p.emit l = (if l.isChanged then
        (p.sink.report ⟨p.lines + 1, l.after⟩).1.mapError fun e => .report e.message
      else .ok (), q) ∧ q.lines = p.lines + 1 ∧
      q.sink = if l.isChanged then (p.sink.report ⟨p.lines + 1, l.after⟩).2 else p.sink := by
  rw [emit, Scratch.tryWrite_faultless]
  by_cases hsame : l.after = l.before
  · exact ⟨_, by simp [MarkedLine.isChanged, hsame]; rfl, rfl,
      by simp [MarkedLine.isChanged, hsame]⟩
  · simp only [MarkedLine.isChanged, bne_iff_ne, ne_eq, hsame, not_false_eq_true, if_true, if_false]
    rcases p.sink.report ⟨p.lines + 1, l.after⟩ with ⟨e | _, sink⟩
    · exact ⟨_, rfl, rfl, rfl⟩
    · exact ⟨_, rfl, rfl, rfl⟩

/-- **The reports of all lines fill the sink**, if it can be flushed: they
are those on the changed lines, in their order, with the numbers of the
lines. The first that does not fit is the last. -/
theorem emitAll_of_flushes (h : p.sink.flushFails = false) (lines : List MarkedLine) :
    ∃ q, p.emitAll lines =
        (if p.sink.Fits ((MarkedLine.changesFrom (p.lines + 1) lines).flatMap LineReport.render)
          then .ok () else .error (.report SinkError.closed.message), q) ∧
      q.sink =
        p.sink.fill ((MarkedLine.changesFrom (p.lines + 1) lines).flatMap LineReport.render) := by
  induction lines generalizing p with
  | nil => exact ⟨p, by simp [emitAll, MarkedLine.changesFrom], by simp [MarkedLine.changesFrom]⟩
  | cons l lines ih =>
    obtain ⟨q, hemit, hnumber, hsink⟩ := p.emit_sink l
    rw [Sink.report_eq, h] at hemit hsink
    rw [emitAll, hemit, MarkedLine.changesFrom_cons, List.flatMap_append]
    by_cases hchanged : l.isChanged
    · rw [if_pos hchanged] at hsink
      by_cases hfits : p.sink.Fits (LineReport.render ⟨p.lines + 1, l.after⟩)
      · obtain ⟨q', hrest, hsink'⟩ := ih (p := q) (by rw [hsink]; exact h)
        refine ⟨q', ?_, ?_⟩
        · simpa [hchanged, hfits, Sink.fits_append, hsink, hnumber, Except.mapError] using hrest
        · simpa [hchanged, hsink, hnumber, Sink.fill_fill] using hsink'
      · refine ⟨q, ?_, ?_⟩
        · simp [hchanged, hfits, Sink.fits_append, Except.mapError]
        · simp [hchanged, hsink, Sink.fill_append_of_not_fits hfits]
    · rw [if_neg hchanged] at hsink
      obtain ⟨q', hrest, hsink'⟩ := ih (p := q) (by rw [hsink]; exact h)
      refine ⟨q', ?_, ?_⟩
      · simpa [hchanged, hsink, hnumber] using hrest
      · simpa [hchanged, hsink, hnumber] using hsink'

/-- Where every report is taken, nothing fails. -/
theorem emitAll_of_isOpen (h : p.sink.IsOpen) (lines : List MarkedLine) :
    ∃ q, p.emitAll lines = (.ok (), q) ∧
      q.sink = { p.sink with
        taken := p.sink.taken ++
          (MarkedLine.changesFrom (p.lines + 1) lines).flatMap LineReport.render } := by
  obtain ⟨q, hemit, hsink⟩ := emitAll_of_flushes h.2 lines
  exact ⟨q, by rw [hemit, if_pos (h.fits _)], by rw [hsink, h.fill_eq]⟩

end Progress

/-- A run ended with a failure, and left a volume and a sink. -/
def Run.FailedWith (r : Run) (failure : Failure) (v : Volume) (sink : Sink) : Prop :=
  r.result = .error failure ∧ r.volume = v ∧ r.sink = sink

namespace Session

variable {s : Session} {read : TreeReader} {path : Bytes} {v w : Volume} {sink : Sink}
variable {scratch : Scratch} {f : File} {e : Entry} {id : Nat} {p : Progress} {failure : Failure}
variable {lines : List MarkedLine} {wrapped : Option Nat}

/-! ## The ends of a run, where the device has no faults -/

theorem run_of_find_error {err : SystemError} (hfind : v.find path = .error err) :
    (s.run read path v sink).FailedWith (.openSource path err.message) v sink := by
  rw [run, Device.find_faultless, hfind]
  exact ⟨rfl, rfl, rfl⟩

theorem run_of_create_error (hfound : v.find path = .ok e)
    (hroom : Scratch.create v path = .error failure) :
    (s.run read path v sink).FailedWith failure v sink := by
  rw [run, Device.find_faultless, hfound, hroom]
  exact ⟨rfl, rfl, rfl⟩

/-- What is no file can be opened, but not read. -/
theorem run_of_unread (hfound : v.find path = .ok e) (hfile : ∀ id f, e ≠ .file id f)
    (hroom : Scratch.create v path = .ok (scratch, w)) :
    (s.run read path v sink).FailedWith (.readSource path SystemError.isFolder.message) v sink := by
  have hdiscard := (Scratch.isNew_of_create hroom).discard_eq
  have hpart : s.markPart [] = [] := by
    rw [markPart]
    split <;> rfl
  rw [run, Device.find_faultless, hfound, hroom]
  cases e with
  | file id f => exact absurd rfl (hfile id f)
  | folder | link _ =>
    simp only [Except.mapError, abandon, hpart]
    exact ⟨rfl, hdiscard, rfl⟩

theorem run_of_file (hfound : v.find path = .ok (.file id f))
    (hroom : Scratch.create v path = .ok (scratch, w)) : s.run read path v sink =
      s.process read path f w { scratch := scratch, sink := sink } {}
        (({} : Log.Journal).note (.createdScratch scratch.path)) := by
  rw [run, Device.find_faultless, hfound, hroom]
  rfl

theorem run_of_mark_error (hfound : v.find path = .ok (.file id f))
    (hroom : Scratch.create v path = .ok (scratch, w))
    (hmark : s.mark read path f.content = (.error failure, wrapped)) :
    (s.run read path v sink).FailedWith failure v sink := by
  rw [run_of_file hfound hroom, process, hmark]
  exact ⟨rfl, (Scratch.isNew_of_create hroom).discard_eq, rfl⟩

/-- **A report that is not taken ends the run**, and nothing else is left
of it. -/
theorem run_of_emitAll_error (hfound : v.find path = .ok (.file id f))
    (hroom : Scratch.create v path = .ok (scratch, w))
    (hmark : s.mark read path f.content = (.ok lines, wrapped))
    (hemit : ({ scratch := scratch, sink := sink } : Progress).emitAll lines =
      (.error failure, p)) :
    (s.run read path v sink).FailedWith failure v p.sink := by
  have hplace := Progress.place_emitAll { scratch := scratch, sink := sink } lines {}
  rw [hemit] at hplace
  rw [run_of_file hfound hroom, process, hmark]
  simp only [hemit]
  exact ⟨rfl, ((Scratch.isNew_of_create hroom).of_place hplace).discard_eq, rfl⟩

/-- The last step of a run, if nothing has ended it before. -/
theorem run_of_emitAll (hfound : v.find path = .ok (.file id f))
    (hroom : Scratch.create v path = .ok (scratch, w))
    (hmark : s.mark read path f.content = (.ok lines, wrapped))
    (hemit : ({ scratch := scratch, sink := sink } : Progress).emitAll lines = (.ok (), p)) :
    p.scratch.IsNew v w ∧ s.run read path v sink = s.finish path (f.mode % 0o10000) w p {}
      ((({} : Log.Journal).note (.createdScratch scratch.path)).noteAll
        (wrapped.toList.map .markedSource)) := by
  have hplace := Progress.place_emitAll { scratch := scratch, sink := sink } lines {}
  rw [hemit] at hplace
  refine ⟨(Scratch.isNew_of_create hroom).of_place hplace, ?_⟩
  rw [run_of_file hfound hroom, process, hmark]
  simp only [hemit]

/-- **A device that runs full ends the run.** If the new content has more
bytes than there is room for, the run fails for the buffer, be it that a
line is not written or that the last bytes do not go to the file. -/
theorem run_of_full {b : Break} (h : s.Reaches read path v sink f p) (hdry : s.dryRun = false)
    (hchanged : p.changed ≠ 0) (hfull : b.after < p.scratch.content.length) :
    (s.run read path v sink { writing := some b }).result = .error (.writeScratch b.cause) := by
  obtain ⟨id, hfound⟩ := h.found
  obtain ⟨scratch, w, lines, wrapped, hroom, hmark, hemit⟩ := h.marked
  have hopen : ({ writing := some b } : Device).find v path = .ok (.file id f) := by
    have hsame : ({ writing := some b } : Device).find v path = ({} : Device).find v path := rfl
    rw [hsame, Device.find_faultless, hfound]
    rfl
  have hcreate : Scratch.create v path { writing := some b } = .ok (scratch, w) :=
    (Scratch.createFirst_of_grant rfl).trans hroom
  rw [run, hopen, hcreate]
  simp only [Device.cut?, process, hmark]
  rcases Progress.emitAll_cases { scratch := scratch, sink := sink } lines
    { writing := some b } with ⟨size, cause, q, hgrow, hstop⟩ | hsame
  · rw [hstop, ((Device.grow_eq_error_iff rfl).1 hgrow).2]
  · have hgrow : ({ writing := some b } : Device).grow p.scratch.content.length =
        .error b.cause := (Device.grow_eq_error_iff rfl).2 ⟨hfull, rfl⟩
    rw [hsame, hemit]
    simp only [finish, hdry, Scratch.promote_of_full hgrow]
    rw [if_neg (by simpa using hchanged)]

/-- There is room for a buffer of six bytes, and the new line has eleven. -/
example :
    let v : Volume := { entries :=
      [([Utf8.ofString "f"], .file 0 ⟨0o644, Utf8.ofString "x = \"a\"\n"⟩)] }
    (({} : Session).run (fun _ => default) (Utf8.ofString "f") v {}
      { writing := some ⟨6, "No space left on device (os error 28)"⟩ }).result =
        .error (.writeScratch "No space left on device (os error 28)") := by
  decide +kernel

/-! ## How far a run comes -/

/-- The run fails in front of its last step, dry run or not. -/
def Stops (s : Session) (read : TreeReader) (path : Bytes) (v : Volume) (sink : Sink)
    (failure : Failure) (sink' : Sink) : Prop :=
  ∀ dryRun, (({ s with dryRun := dryRun } : Session).run read path v sink).FailedWith failure v sink'

/-- **A run stops or it comes to its last step.** If every report is
taken, it stops in front of the first. -/
theorem stops_or_reaches (s : Session) (read : TreeReader) (path : Bytes) (v : Volume)
    (sink : Sink) :
    (∃ failure sink', s.Stops read path v sink failure sink' ∧ (sink.IsOpen → sink' = sink)) ∨
      ∃ f p, s.Reaches read path v sink f p := by
  cases hfound : v.find path with
  | error err => exact Or.inl ⟨_, sink, fun _ => run_of_find_error hfound, fun _ => rfl⟩
  | ok e =>
    rcases hroom : Scratch.create v path with failure | ⟨scratch, w⟩
    · exact Or.inl ⟨failure, sink, fun _ => run_of_create_error hfound hroom, fun _ => rfl⟩
    cases e with
    | folder =>
      exact Or.inl ⟨_, sink, fun _ => run_of_unread hfound (by simp) hroom, fun _ => rfl⟩
    | link target =>
      exact Or.inl ⟨_, sink, fun _ => run_of_unread hfound (by simp) hroom, fun _ => rfl⟩
    | file id f =>
      rcases hmark : s.mark read path f.content with ⟨failure | lines, wrapped⟩
      · exact Or.inl ⟨failure, sink, fun _ => run_of_mark_error hfound hroom hmark, fun _ => rfl⟩
      rcases hemit : ({ scratch := scratch, sink := sink } : Progress).emitAll lines with
        ⟨failure | _, p⟩
      · refine Or.inl ⟨failure, p.sink, fun _ => run_of_emitAll_error hfound hroom hmark hemit,
          fun hopen => ?_⟩
        -- a report that fails was not taken
        obtain ⟨q, hq, -⟩ := Progress.emitAll_of_isOpen
          (p := { scratch := scratch, sink := sink }) hopen lines
        rw [hq] at hemit
        cases hemit
      · exact Or.inr ⟨f, p, ⟨id, hfound⟩, scratch, w, lines, wrapped, hroom, hmark, hemit⟩

/-- The last step succeeds if the path names an entry. -/
theorem finish_of_names {folder : Place} {name : Name} (mode : Nat) (journal : Log.Journal)
    (hnew : p.scratch.IsNew v w) (hnames : v.Names path folder name) :
    s.Keeps v p (s.finish path mode w p {} journal) ∨
      s.Replaces path v mode p (s.finish path mode w p {} journal) := by
  rw [finish]
  split
  · rename_i hkeep
    rw [Bool.or_eq_true, beq_iff_eq] at hkeep
    exact Or.inl ⟨hkeep, rfl, hnew.discard_eq⟩
  · rename_i hgo
    rw [Bool.or_eq_true, beq_iff_eq, not_or, Bool.not_eq_true] at hgo
    rw [hnew.promote_of_names hnames]
    exact Or.inr ⟨hgo.1, hgo.2, rfl, folder, name, hnames, rfl⟩

/-- **A run that comes to its last step succeeds**, if the volume is a
tree. -/
theorem run_of_reaches (hv : v.IsTree) (h : s.Reaches read path v sink f p) :
    (s.run read path v sink).sink = p.sink ∧
      (s.Keeps v p (s.run read path v sink) ∨
        s.Replaces path v (f.mode % 0o10000) p (s.run read path v sink)) := by
  obtain ⟨id, hfound⟩ := h.found
  obtain ⟨scratch, w, lines, wrapped, hroom, hmark, hemit⟩ := h.marked
  obtain ⟨folder, name, hnames⟩ := hv.names_of_find hfound
  obtain ⟨hnew, hrun⟩ := run_of_emitAll hfound hroom hmark hemit
  rw [hrun]
  exact ⟨finish_sink, finish_of_names _ _ hnew hnames⟩

/-- **What a run tells that comes to its last step.** -/
theorem result_of_reaches (hv : v.IsTree) (h : s.Reaches read path v sink f p) :
    (s.run read path v sink).result =
      .ok ⟨p.lines, p.changed, !s.dryRun && decide (0 < p.changed)⟩ := by
  rcases (run_of_reaches hv h).2 with ⟨hkeep, hresult, -⟩ | ⟨hdry, hchanged, hresult, -⟩
  · rcases hkeep with hdry | hchanged
    · simp [hresult, hdry]
    · simp [hresult, hchanged]
  · simp [hresult, hdry, Nat.pos_of_ne_zero hchanged]

end Session

end LiteralMark
