import LiteralMark.Proofs.Line.Content
import LiteralMark.Proofs.Session.Outcome
/-!
# Marking a file twice

A run that marks line by line leaves nothing for a second run to do. If
the first run changed no line, the second meets the same file. If it
replaced the file, the path now leads to the new file, be it that the
path named a link before; there is room for a scratch buffer again; and
the new file has the marked lines for its lines, which marking keeps. So
the second run reads as many lines as the first and finds none to change
(`run_of_unchanged`), whatever becomes of its reports.
-/

namespace LiteralMark

namespace Session

variable {s : Session} {read : TreeReader} {path : Bytes} {v w : Volume}
variable {scratch : Scratch} {f : File} {c : Convention}

/-- A run that leaves everything as it was, its sink too, after it has
read some number of lines. -/
def Idles (s : Session) (read : TreeReader) (path : Bytes) (v : Volume) (sink : Sink)
    (lines : Nat) : Prop :=
  (s.run read path v sink).result = .ok ⟨lines, 0, false⟩ ∧
    (s.run read path v sink).volume = v ∧ (s.run read path v sink).sink = sink

/-- **A run over lines that marking keeps does nothing.** -/
theorem run_of_unchanged {id : Nat} {lines : List MarkedLine} {wrapped : Option Nat}
    (hfound : v.find path = .ok (.file id f)) (hroom : Scratch.create v path = .ok (scratch, w))
    (hmark : s.mark read path f.content = (.ok lines, wrapped))
    (hsame : ∀ l ∈ lines, l.after = l.before) (sink : Sink) :
    s.Idles read path v sink lines.length := by
  obtain ⟨p, hemit, hlines, hchanged, hsink⟩ := Progress.emitAll_of_unchanged
    (p := { scratch := scratch, sink := sink }) hsame
  rw [Nat.zero_add] at hlines
  obtain ⟨hnew, hrun⟩ := run_of_emitAll hfound hroom hmark hemit
  rw [Idles, hrun, finish, if_pos (by simp [hchanged])]
  exact ⟨by rw [hlines, hchanged], hnew.discard_eq, hsink⟩

theorem map_after_markLines (c : Convention) (content : Bytes) :
    (markLines c content).map (·.after) = (Bytes.lines content).map (Line.mark c) := by
  simp [markLines]

/-- **The lines of the new content are the marked lines**, and marking
keeps them. -/
theorem markLines_again (hfeed : Bytes.lineFeed ∉ c.openingBytes) (content : Bytes) :
    let again := markLines c ((markLines c content).map (·.after)).flatten
    again.length = (markLines c content).length ∧ ∀ l ∈ again, l.after = l.before := by
  have hagain : markLines c ((markLines c content).map (·.after)).flatten =
      ((Bytes.lines content).map (Line.mark c)).map fun line => ⟨line, Line.mark c line⟩ := by
    rw [map_after_markLines, markLines, Line.lines_flatten_mark hfeed]
  simp only [hagain]
  refine ⟨by simp [markLines], fun l hl => ?_⟩
  obtain ⟨line, hline, rfl⟩ := List.mem_map.1 hl
  exact Line.mark_of_mem_map_mark hline

/-- **A second run changes nothing.** Once a run that marks line by line
has succeeded, on whatever device, another one over the same path and on a
device without faults reads as many lines, reports none of them and leaves
the volume as the first has left it, whatever there was in the beginning: a
file, one of several names of a file, or a link. -/
theorem rerun_idles (read : TreeReader) (path : Bytes) (v : Volume) (sink sink' : Sink)
    (device : Device) (summary : Summary)
    (h : ((⟨.line, false, .standard⟩ : Session).run read path v sink device).result =
      .ok summary) :
    (⟨.line, false, .standard⟩ : Session).Idles read path
      ((⟨.line, false, .standard⟩ : Session).run read path v sink device).volume sink'
      summary.lines := by
  have hfeed : Bytes.lineFeed ∉ Convention.standard.openingBytes := by decide
  rcases run_cases ⟨.line, false, .standard⟩ read path v sink device {} with
    ⟨⟨failure, hresult⟩, -⟩ | ⟨f, p, hreach, -, hend⟩
  · rw [hresult] at h
    cases h
  obtain ⟨id, hfound⟩ := hreach.found
  obtain ⟨scratch, w, -, -, hroom, -, -⟩ := hreach.marked
  obtain ⟨lines, wrapped, hmark, hcontent, hlines, hcount⟩ := hreach.exists_lines
  rcases hend with ⟨hkeep, hresult, hvolume⟩ | ⟨-, -, hresult, folder, name, hnames, hvolume⟩
  · -- the file is the same, and no line of it has changed
    rw [hresult] at h
    cases h
    rw [hvolume, hlines]
    have hnone : lines.countP (·.isChanged) = 0 := by
      rw [← hcount, hkeep.resolve_left Bool.false_ne_true]
    exact run_of_unchanged hfound hroom hmark (MarkedLine.unchanged_of_countP hnone) sink'
  · -- the path leads to the new file, whose lines are the marked ones
    rw [hresult] at h
    cases h
    cases hmark
    obtain ⟨hlength, hsame⟩ := markLines_again hfeed f.content
    have hfound' := hnames.find_replaced Volume.home_insert
      (fun _ hne => Volume.entry?_insert_of_ne hne)
      (Volume.entry?_insert_self (v := v) (e := .file v.freshId ⟨f.mode % 0o10000, p.scratch.content⟩)
        (Volume.append_name_ne_root name))
    obtain ⟨scratch', w', hroom'⟩ := Scratch.exists_create_replaced hnames hroom
    rw [hvolume, hlines, ← hlength]
    exact run_of_unchanged hfound' hroom' (by rw [hcontent]; rfl) hsame sink'

/-- A volume with a file under two names and a link to it. The file has
an import, a line with a literal and a last line without an end. -/
def linkedVolume : Volume :=
  let text := "require \"a\"\np \"b\", _(\"c\")\r\nx = \"d"
  let file := Entry.file 0 ⟨0o644, Utf8.ofString text⟩
  { entries := [([Utf8.ofString "f"], file), ([Utf8.ofString "g"], file),
      ([Utf8.ofString "l"], .link (Utf8.ofString "f"))] }

/-- A run over the link changes one of three lines, and a second run over
what is then a file finds three lines and no change. -/
theorem rerun_idles_linkedVolume :
    ((⟨.line, false, .standard⟩ : Session).run (fun _ => default) (Utf8.ofString "l") linkedVolume
      {}).result = .ok ⟨3, 1, true⟩ ∧
    (⟨.line, false, .standard⟩ : Session).Idles (fun _ => default) (Utf8.ofString "l")
      ((⟨.line, false, .standard⟩ : Session).run (fun _ => default) (Utf8.ofString "l") linkedVolume
        {}).volume { room := some 0 } 3 := by
  have hfirst : ((⟨.line, false, .standard⟩ : Session).run (fun _ => default) (Utf8.ofString "l")
      linkedVolume {}).result = .ok ⟨3, 1, true⟩ := by decide +kernel
  exact ⟨hfirst, rerun_idles _ _ _ _ _ _ _ hfirst⟩

end Session

end LiteralMark
