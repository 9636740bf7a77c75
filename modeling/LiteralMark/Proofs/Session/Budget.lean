import LiteralMark.Proofs.Session.Patch
/-!
# Marking a file — a sink with little room

The report goes out line by line while the new content is collected, and
the file is replaced when the last line is done. So a sink that takes no
more than a part of the report ends the run in front of that step: it
holds the part of the report that fits, to the byte, and the volume is as
before. A sink with room for the whole report makes no difference, for
how a run ends depends on the sink only through the reports being taken
(`run_eq_of_emitAll`). A sink that cannot be flushed ends the run
at the first report, which it has taken by then.
-/

namespace LiteralMark

namespace Progress

variable {p : Progress}

/-- **Where flushing fails, the first report is the last**, and without a
report nothing fails. -/
theorem emitAll_of_flushFails (h : p.sink.flushFails = true) (lines : List MarkedLine) :
    ∃ q, p.emitAll lines =
        (match MarkedLine.changesFrom (p.lines + 1) lines with
          | [] => .ok ()
          | first :: _ => .error (.report
              (if p.sink.Fits first.render then SinkError.flushRefused else .closed).message), q) ∧
      q.sink = match MarkedLine.changesFrom (p.lines + 1) lines with
        | [] => p.sink
        | first :: _ => p.sink.fill first.render := by
  induction lines generalizing p with
  | nil => exact ⟨p, rfl, rfl⟩
  | cons l lines ih =>
    obtain ⟨q, hemit, hnumber, hsink⟩ := p.emit_sink l
    rw [Sink.report_eq, h] at hemit hsink
    rw [emitAll, hemit, MarkedLine.changesFrom_cons]
    by_cases hchanged : l.isChanged
    · rw [if_pos hchanged] at hsink
      rw [if_pos hchanged, if_pos hchanged, List.singleton_append]
      refine ⟨q, ?_, hsink⟩
      by_cases hfits : p.sink.Fits (LineReport.render ⟨p.lines + 1, l.after⟩)
      · simp [hfits, Except.mapError]
      · simp [hfits, Except.mapError]
    · rw [if_neg hchanged] at hsink
      rw [if_neg hchanged, if_neg hchanged, List.nil_append, ← hnumber, ← hsink]
      exact ih (by rw [hsink]; exact h)

end Progress

namespace Session

variable {s : Session} {read : TreeReader} {path : Bytes} {v w : Volume} {sink sink' : Sink}
variable {scratch : Scratch} {f : File} {p q : Progress} {lines : List MarkedLine}
variable {wrapped : Option Nat} {id : Nat} {journal : Log.Journal}

/-! ## How a run depends on its sink -/

/-- The last step passes the sink on. -/
theorem finish_with_sink (mode : Nat) (sink' : Sink) :
    s.finish path mode w { p with sink := sink' } {} journal =
      { s.finish path mode w p {} journal with sink := sink' } := by
  rw [finish, finish]
  split
  · rfl
  · rcases p.scratch.promote w path mode with ⟨_ | _, _⟩ <;> rfl

/-- **Two sinks that take all reports make no difference.** -/
theorem run_eq_of_emitAll (hfound : v.find path = .ok (.file id f))
    (hroom : Scratch.create v path = .ok (scratch, w))
    (hmark : s.mark read path f.content = (.ok lines, wrapped))
    (hemit : ({ scratch := scratch, sink := sink } : Progress).emitAll lines = (.ok (), p))
    (hemit' : ({ scratch := scratch, sink := sink' } : Progress).emitAll lines = (.ok (), q)) :
    s.run read path v sink' = { s.run read path v sink with sink := q.sink } := by
  -- the same lines are written and counted
  have hsame : q = { p with sink := q.sink } := by
    obtain ⟨hscratch, hlines, hchanged⟩ := Progress.emitAll_ok hemit
    obtain ⟨hscratch', hlines', hchanged'⟩ := Progress.emitAll_ok hemit'
    obtain ⟨written, number, changed, taken⟩ := q
    simp only [Progress.mk.injEq, and_true]
    exact ⟨hscratch'.trans hscratch.symm, hlines'.trans hlines.symm,
      hchanged'.trans hchanged.symm⟩
  rw [(run_of_emitAll hfound hroom hmark hemit).2, (run_of_emitAll hfound hroom hmark hemit').2,
    hsame, finish_with_sink]

/-! ## The report of a run, cut -/

/-- **A sink with little room cuts the report, and the run has no other
effect.** A run that succeeds, with a sink that takes everything, leaves
its report in the sink. With room for `budget` bytes the sink gets as many
bytes of that report. If this is all of it, the run ends as the other one
does, with the same counts and the same volume; otherwise it fails for the
report, and the volume is the one before. If the sink cannot be flushed,
then a run without a changed line is not concerned, and any other fails at
the first report, with as much of it in the sink as fits.

A report is written in pieces, each of which may need more than one call;
the first part says that it is cut where it would be in one piece. -/
theorem run_cuts_report (s : Session) (read : TreeReader) (path : Bytes) (v : Volume)
    (summary : Summary) (h : (s.run read path v {}).result = .ok summary) :
    (∀ (sink : Sink) (r : LineReport), sink.reportParts r = sink.report r) ∧
    ∃ id f lines wrapped, v.find path = .ok (.file id f) ∧
      s.mark read path f.content = (.ok lines, wrapped) ∧
      (s.run read path v {}).sink.taken = (changes lines).flatMap LineReport.render ∧
      summary.changed = (changes lines).length ∧
      (∀ taken budget,
        (s.run read path v ⟨taken, some budget, false⟩).sink.taken =
          taken ++ (s.run read path v {}).sink.taken.take budget ∧
        ((s.run read path v {}).sink.taken.length ≤ budget →
          (s.run read path v ⟨taken, some budget, false⟩).result = .ok summary ∧
          (s.run read path v ⟨taken, some budget, false⟩).volume = (s.run read path v {}).volume) ∧
        (budget < (s.run read path v {}).sink.taken.length →
          (s.run read path v ⟨taken, some budget, false⟩).result =
            .error (.report SinkError.closed.message) ∧
          (s.run read path v ⟨taken, some budget, false⟩).volume = v)) ∧
      ∀ taken room,
        match changes lines with
        | [] =>
          (s.run read path v ⟨taken, room, true⟩).sink.taken = taken ∧
          (s.run read path v ⟨taken, room, true⟩).result = .ok summary ∧
          (s.run read path v ⟨taken, room, true⟩).volume = (s.run read path v {}).volume
        | first :: _ =>
          (s.run read path v ⟨taken, room, true⟩).sink.taken =
            taken ++ first.render.take (room.getD first.render.length) ∧
          (s.run read path v ⟨taken, room, true⟩).result = .error (.report
            (if ∀ n ∈ room, first.render.length ≤ n then SinkError.flushRefused
              else .closed).message) ∧
          (s.run read path v ⟨taken, room, true⟩).volume = v := by
  rcases s.run_cases read path v {} {} {} with
    ⟨⟨failure, hfails⟩, -⟩ | ⟨f, p, hreach, hsink, hends⟩
  · rw [h] at hfails
    cases hfails
  obtain ⟨id, hfound⟩ := hreach.found
  obtain ⟨scratch, w, lines, wrapped, hroom, hmark, hemit⟩ := hreach.marked
  have htaken : (s.run read path v {}).sink.taken = (changes lines).flatMap LineReport.render := by
    obtain ⟨q, hq, hfull⟩ := Progress.emitAll_of_isOpen
      (p := { scratch := scratch, sink := {} }) ⟨rfl, rfl⟩ lines
    cases hemit.symm.trans hq
    rw [hsink, hfull]
    rfl
  have hchanged : summary.changed = (changes lines).length := by
    obtain ⟨-, -, hcount⟩ := Progress.emitAll_ok hemit
    have hsummary : summary.changed = p.changed := by
      rcases hends with ⟨-, hresult, -⟩ | ⟨-, -, hresult, -⟩ <;>
      · rw [h] at hresult
        cases hresult
        rfl
    rw [hsummary, hcount, changes, MarkedLine.length_changesFrom, Nat.zero_add]
  refine ⟨Sink.reportParts_eq, id, f, lines, wrapped, hfound, hmark, htaken, hchanged,
    fun taken budget => ?_, fun taken room => ?_⟩
  · obtain ⟨q, hq, hcut⟩ := Progress.emitAll_of_flushes
      (p := { scratch := scratch, sink := ⟨taken, some budget, false⟩ }) rfl lines
    rw [show MarkedLine.changesFrom _ lines = changes lines from rfl] at hq hcut
    rw [htaken]
    by_cases hfits : ((changes lines).flatMap LineReport.render).length ≤ budget
    · rw [if_pos (Sink.fits_some.2 hfits)] at hq
      rw [run_eq_of_emitAll hfound hroom hmark hemit hq]
      exact ⟨by rw [hcut]; rfl, fun _ => ⟨h, rfl⟩, fun hlong => absurd hfits (Nat.not_le.2 hlong)⟩
    · rw [if_neg (mt Sink.fits_some.1 hfits)] at hq
      obtain ⟨hresult, hvolume, hleft⟩ := run_of_emitAll_error hfound hroom hmark hq
      exact ⟨by rw [hleft, hcut]; rfl, fun hle => absurd hle hfits, fun _ => ⟨hresult, hvolume⟩⟩
  · obtain ⟨q, hq, hcut⟩ := Progress.emitAll_of_flushFails
      (p := { scratch := scratch, sink := ⟨taken, room, true⟩ }) rfl lines
    cases hchanges : changes lines with
    | nil =>
      rw [show MarkedLine.changesFrom _ lines = _ from hchanges] at hq hcut
      rw [run_eq_of_emitAll hfound hroom hmark hemit hq]
      exact ⟨by rw [hcut], h, rfl⟩
    | cons first rest =>
      rw [show MarkedLine.changesFrom _ lines = _ from hchanges] at hq hcut
      obtain ⟨hresult, hvolume, hleft⟩ := run_of_emitAll_error hfound hroom hmark hq
      exact ⟨by rw [hleft, hcut]; rfl, hresult, hvolume⟩

/-- With room for eighteen bytes the second report is cut behind its
separator, and the file stays. If nothing can be flushed, the first report
is all that there is. -/
theorem run_cuts_report_unendedVolume :
    ((⟨.line, false, .standard⟩ : Session).run (fun _ => default) (Utf8.ofString "f")
      unendedVolume {}).result = .ok ⟨3, 2, true⟩ ∧
    ((⟨.line, false, .standard⟩ : Session).run (fun _ => default) (Utf8.ofString "f")
      unendedVolume ⟨[], some 18, false⟩).sink.taken = Utf8.ofString "1: x = _(\"a\")\n\n3: " ∧
    ((⟨.line, false, .standard⟩ : Session).run (fun _ => default) (Utf8.ofString "f")
      unendedVolume ⟨[], some 18, false⟩).result = .error (.report "closed") ∧
    ((⟨.line, false, .standard⟩ : Session).run (fun _ => default) (Utf8.ofString "f")
      unendedVolume ⟨[], some 18, false⟩).volume = unendedVolume ∧
    ((⟨.line, false, .standard⟩ : Session).run (fun _ => default) (Utf8.ofString "f")
      unendedVolume ⟨[], none, true⟩).sink.taken = Utf8.ofString "1: x = _(\"a\")\n\n" ∧
    ((⟨.line, false, .standard⟩ : Session).run (fun _ => default) (Utf8.ofString "f")
      unendedVolume ⟨[], none, true⟩).result = .error (.report "flush refused") := by
  have hrun : ((⟨.line, false, .standard⟩ : Session).run (fun _ => default) (Utf8.ofString "f")
      unendedVolume {}).result = .ok ⟨3, 2, true⟩ := by decide +kernel
  obtain ⟨-, id, f, lines, wrapped, hfound, hmark, htaken, -, hcut, hflush⟩ :=
    run_cuts_report _ _ _ _ _ hrun
  cases hfound.symm.trans (by decide +kernel : unendedVolume.find (Utf8.ofString "f") =
    .ok (.file 0 ⟨0o644, Utf8.ofString "x = \"a\"\ny\nz = \"b\""⟩))
  cases hmark
  have hchanges : changes (markLines .standard (Utf8.ofString "x = \"a\"\ny\nz = \"b\"")) =
      unendedChanges := by decide +kernel
  have hreport : ((⟨.line, false, .standard⟩ : Session).run (fun _ => default) (Utf8.ofString "f")
      unendedVolume {}).sink.taken = Utf8.ofString "1: x = _(\"a\")\n\n3: z = _(\"b\")\n" :=
    htaken.trans (by decide +kernel)
  obtain ⟨hbytes, -, hends⟩ := hcut [] 18
  obtain ⟨hresult, hvolume⟩ := hends (by rw [hreport]; decide +kernel)
  have hfirst := hflush [] none
  rw [hchanges] at hfirst
  exact ⟨hrun, hbytes.trans (by rw [hreport]; decide +kernel), hresult, hvolume,
    hfirst.1.trans (by decide +kernel), hfirst.2.1⟩

end Session

end LiteralMark
