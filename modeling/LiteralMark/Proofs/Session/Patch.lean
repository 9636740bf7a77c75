import LiteralMark.Proofs.Report
import LiteralMark.Proofs.Session.Lines
import LiteralMark.Proofs.Session.Outcome
/-!
# Marking a file — the report as a patch

The report of a run tells every changed line with its number and its new
content. Who has the old file and the report can make the new file: read
the report (`LineReport.decode?`) and put each content into the line of
its number (`patch`). That the report can be read rests on the lines being
lines: each but the last is ended, and so is each that is reported in
front of another. A dry run and a real one differ in the last step only,
which reports nothing, so the report of a dry run is the patch that the
real run would apply.
-/

namespace LiteralMark

/-- The reports on the changed lines of a file. -/
def changes (lines : List MarkedLine) : List LineReport := MarkedLine.changesFrom 1 lines

/-- The lines of a file with the reported ones replaced. -/
def patch (old : List Bytes) (reports : List LineReport) : List Bytes :=
  reports.foldl (fun lines r => lines.set (r.number - 1) r.content) old

namespace MarkedLine

theorem length_changesFrom (n : Nat) (lines : List MarkedLine) :
    (changesFrom n lines).length = lines.countP (·.isChanged) := by
  induction lines generalizing n with
  | nil => rfl
  | cons l lines ih =>
    rw [changesFrom_cons, List.length_append, ih, List.countP_cons]
    by_cases hchanged : l.isChanged
    · simp [hchanged, Nat.add_comm]
    · simp [hchanged]

/-- The contents reported are new lines. -/
theorem content_sublist (n : Nat) (lines : List MarkedLine) :
    ((changesFrom n lines).map (·.content)).Sublist (lines.map (·.after)) := by
  induction lines generalizing n with
  | nil => exact .slnil
  | cons l lines ih =>
    rw [changesFrom_cons, List.map_append, List.map_cons]
    by_cases hchanged : l.isChanged
    · rw [if_pos hchanged]
      exact (ih (n + 1)).cons_cons l.after
    · rw [if_neg hchanged]
      exact (ih (n + 1)).cons l.after

/-- **The changes turn the old lines into the new ones.** The induction
moves along the lines, with those that are done in front. -/
theorem patch_changesFrom (done : List Bytes) (lines : List MarkedLine) :
    patch (done ++ lines.map (·.before)) (changesFrom (done.length + 1) lines) =
      done ++ lines.map (·.after) := by
  induction lines generalizing done with
  | nil => rfl
  | cons l lines ih =>
    have hdone := ih (done ++ [l.after])
    rw [List.length_append, List.length_singleton, List.append_assoc, List.append_assoc,
      List.singleton_append, List.singleton_append] at hdone
    rw [changesFrom_cons, List.map_cons, List.map_cons]
    by_cases hchanged : l.isChanged
    · rw [if_pos hchanged, List.singleton_append, patch, List.foldl_cons, Nat.add_sub_cancel,
        List.set_append_right _ _ (Nat.le_refl _), Nat.sub_self, List.set_cons_zero]
      exact hdone
    · have hsame : l.after = l.before := by simpa [isChanged] using hchanged
      rw [if_neg hchanged, List.nil_append, ← hsame]
      exact hdone

end MarkedLine

namespace Session

variable {s : Session} {read : TreeReader} {path : Bytes} {v : Volume} {sink : Sink}
variable {f : File} {p : Progress}

/-- **What a run leaves in the file that comes to its last step and is no
dry run**: the lines that are in its buffer, changed or not. -/
theorem find_of_reaches (hv : v.IsTree) (hfeed : '\n' ∉ s.convention.opening)
    (hdry : s.dryRun = false) (h : s.Reaches read path v sink f p) :
    ∃ id new, (s.run read path v sink).volume.find path = .ok (.file id new) ∧
      new.content = p.scratch.content := by
  rcases (run_of_reaches hv h).2 with ⟨hkeep, -, hvolume⟩ | hreplaces
  · obtain ⟨id, hfound⟩ := h.found
    obtain ⟨lines, wrapped, hmark, hcontent, -, hchanged⟩ := h.exists_lines
    refine ⟨id, f, by rw [hvolume, hfound], ?_⟩
    -- no line has changed, so the new lines are the old ones
    rw [hdry] at hkeep
    have hnone : lines.countP (·.isChanged) = 0 := by
      rw [← hchanged, hkeep.resolve_left Bool.false_ne_true]
    have hsame : lines.map (·.after) = lines.map (·.before) :=
      List.map_congr_left (MarkedLine.unchanged_of_countP hnone)
    rw [hcontent, hsame, (marksLines_of_mark hfeed hmark).before_eq, Bytes.flatten_lines]
  · exact ⟨_, _, hreplaces.find, rfl⟩

/-- **The report of a run is a patch.** It tells, in ascending order, the
lines that marking has changed, with their numbers and new contents; the
counts are those of the lines and of the reports. It can be read back from
its bytes alone, and applied to the old lines it gives what a real run
leaves in the file. A dry run and a real one report the same. -/
theorem run_report_patches (strategy : Strategy) (dryRun : Bool) (read : TreeReader)
    (path : Bytes) (v : Volume) (summary : Summary) (hv : v.IsTree)
    (h : ((⟨strategy, dryRun, .standard⟩ : Session).run read path v {}).result = .ok summary) :
    ∃ id old lines wrapped, v.find path = .ok (.file id old) ∧
      (⟨strategy, dryRun, .standard⟩ : Session).mark read path old.content =
        (.ok lines, wrapped) ∧
      lines.map (·.before) = Bytes.lines old.content ∧
      ((⟨strategy, dryRun, .standard⟩ : Session).run read path v {}).sink.taken =
        (changes lines).flatMap LineReport.render ∧
      summary.lines = (Bytes.lines old.content).length ∧
      summary.changed = (changes lines).length ∧
      (summary.promoted = true ↔ 0 < summary.changed ∧ dryRun = false) ∧
      LineReport.decode?
        ((⟨strategy, dryRun, .standard⟩ : Session).run read path v {}).sink.taken =
          some (changes lines) ∧
      (∃ id' new, ((⟨strategy, false, .standard⟩ : Session).run read path v {}).volume.find path =
          .ok (.file id' new) ∧
        new.content = (patch (Bytes.lines old.content) (changes lines)).flatten) ∧
      ∀ dryRun', ((⟨strategy, dryRun', .standard⟩ : Session).run read path v {}).sink =
          ((⟨strategy, dryRun, .standard⟩ : Session).run read path v {}).sink ∧
        ∃ promoted, ((⟨strategy, dryRun', .standard⟩ : Session).run read path v {}).result =
          .ok ⟨summary.lines, summary.changed, promoted⟩ := by
  have hfeed : '\n' ∉ Convention.standard.opening := by decide
  rcases stops_or_reaches ⟨strategy, dryRun, .standard⟩ read path v {} with
    ⟨failure, sink', hstops, -⟩ | ⟨f, p, hreach⟩
  · rw [(hstops dryRun).1] at h
    cases h
  have hreach' (dryRun' : Bool) :
      Reaches ⟨strategy, dryRun', .standard⟩ read path v {} f p :=
    ⟨hreach.found, hreach.marked⟩
  obtain ⟨id, hfound⟩ := hreach.found
  obtain ⟨scratch, w, lines, wrapped, hroom, hmark, hemit⟩ := hreach.marked
  obtain ⟨lines', wrapped', hmark', hwritten, hnumber, hchanged⟩ := hreach.exists_lines
  cases hmark.symm.trans hmark'
  have hlines := marksLines_of_mark (s := ⟨strategy, dryRun, .standard⟩) hfeed hmark
  have hsink (dryRun' : Bool) := (run_of_reaches hv (hreach' dryRun')).1
  have htaken : p.sink.taken = (changes lines).flatMap LineReport.render := by
    obtain ⟨q, hq, htaken⟩ := Progress.emitAll_of_isOpen 
      (p := { scratch := scratch, sink := {} }) ⟨rfl, rfl⟩ lines
    rw [hemit] at hq
    cases hq
    rw [htaken]
    rfl
  have hsummary := result_of_reaches hv hreach
  rw [h, Except.ok.injEq] at hsummary
  have hcount : p.changed = (changes lines).length := by
    rw [hchanged, changes, MarkedLine.length_changesFrom]
  refine ⟨id, f, lines, wrapped, hfound, hmark, hlines.before_eq, ?_, ?_, ?_, ?_, ?_, ?_,
    fun dryRun' => ⟨?_, ?_⟩⟩
  · rw [hsink, htaken]
  · rw [hsummary, ← hlines.before_eq, List.length_map, hnumber]
  · rw [hsummary, hcount]
  · simp [hsummary, and_comm]
  · -- reported contents are new lines, and so the report can be read
    have hnew : AreLines Bytes.lineFeed (lines.map (·.after)) := by
      rw [← hlines.after_eq]
      exact Bytes.areLines_lines _
    rw [hsink, htaken]
    exact LineReport.decode?_render (hnew.sublist (MarkedLine.content_sublist 1 lines))
  · obtain ⟨id', new, hnew, hcontent⟩ := find_of_reaches hv hfeed rfl (hreach' false)
    refine ⟨id', new, hnew, ?_⟩
    have hpatch := MarkedLine.patch_changesFrom [] lines
    rw [List.nil_append, List.nil_append, List.length_nil, hlines.before_eq] at hpatch
    rw [hcontent, hwritten, changes, hpatch]
  · rw [hsink, hsink]
  · exact ⟨_, by rw [result_of_reaches hv (hreach' dryRun'), hsummary]⟩

/-- A volume with one file, of which the first and the last line change,
and the last has no end. -/
def unendedVolume : Volume :=
  { entries := [([Utf8.ofString "f"], .file 0 ⟨0o644, Utf8.ofString "x = \"a\"\ny\nz = \"b\""⟩)] }

/-- What is reported on it. -/
def unendedChanges : List LineReport :=
  [⟨1, Utf8.ofString "x = _(\"a\")\n"⟩, ⟨3, Utf8.ofString "z = _(\"b\")"⟩]

/-- A dry run over the file reports two lines, from which the new content
can be made. -/
theorem run_report_patches_unendedVolume :
    unendedVolume.IsTree ∧
    ((⟨.line, true, .standard⟩ : Session).run (fun _ => default) (Utf8.ofString "f") unendedVolume
      {}).result = .ok ⟨3, 2, false⟩ ∧
    ((⟨.line, true, .standard⟩ : Session).run (fun _ => default) (Utf8.ofString "f") unendedVolume
      {}).sink.taken = Utf8.ofString "1: x = _(\"a\")\n\n3: z = _(\"b\")\n" ∧
    LineReport.decode? (Utf8.ofString "1: x = _(\"a\")\n\n3: z = _(\"b\")\n") =
      some unendedChanges ∧
    ∃ id new, ((⟨.line, false, .standard⟩ : Session).run (fun _ => default) (Utf8.ofString "f")
        unendedVolume {}).volume.find (Utf8.ofString "f") = .ok (.file id new) ∧
      new.content = Utf8.ofString "x = _(\"a\")\ny\nz = _(\"b\")" := by
  have hv : unendedVolume.IsTree := by decide
  have hrun : ((⟨.line, true, .standard⟩ : Session).run (fun _ => default) (Utf8.ofString "f")
      unendedVolume {}).result = .ok ⟨3, 2, false⟩ := by decide +kernel
  have htaken : ((⟨.line, true, .standard⟩ : Session).run (fun _ => default) (Utf8.ofString "f")
      unendedVolume {}).sink.taken = Utf8.ofString "1: x = _(\"a\")\n\n3: z = _(\"b\")\n" := by
    decide +kernel
  obtain ⟨id, old, lines, wrapped, hfound, hmark, -, -, -, -, -, hdecode,
    ⟨id', new, hnew, hcontent⟩, -⟩ := run_report_patches _ _ _ _ _ _ hv hrun
  cases hfound.symm.trans (by decide +kernel : unendedVolume.find (Utf8.ofString "f") =
    .ok (.file 0 ⟨0o644, Utf8.ofString "x = \"a\"\ny\nz = \"b\""⟩))
  cases hmark
  exact ⟨hv, hrun, htaken, by rw [← htaken, hdecode]; decide +kernel, id', new, hnew,
    hcontent.trans (by decide +kernel)⟩

end Session

end LiteralMark
