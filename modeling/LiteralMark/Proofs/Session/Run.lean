import LiteralMark.Proofs.Scratch
import LiteralMark.Session
/-!
# Marking a file — one run, and what it leaves

A run has many ways to end: the file is not found, there is no room for
a scratch file, reading breaks off, the text is refused, a line is not
written or its report not taken, nothing has changed, the run is a dry
run, the file is replaced. `run_cases` sorts them, on a device with any
faults. Whatever fails, the file of the buffer was new and stayed where
it was (`Progress.place_emitAll`), so discarding it gives the old volume
back; a run that succeeds has written every marked line, and it has
replaced the file or discarded the buffer too. `run_atomic` puts the two
together.
-/

namespace LiteralMark

/-- Whether marking has changed the line. -/
def MarkedLine.isChanged (l : MarkedLine) : Bool := l.after != l.before

/-- Where no change is counted, there is none. -/
theorem MarkedLine.unchanged_of_countP {ls : List MarkedLine}
    (h : ls.countP (·.isChanged) = 0) : ∀ l ∈ ls, l.after = l.before := by
  intro l hl
  simpa [isChanged] using List.countP_eq_zero.1 h l hl

namespace Progress

variable {p q : Progress} {l : MarkedLine} {ls : List MarkedLine} {device : Device}

/-! ## Writing and reporting lines -/

/-- A line leaves the file of the buffer where it is. -/
theorem place_emit (p : Progress) (l : MarkedLine) (device : Device) :
    (p.emit l device).2.scratch.place = p.scratch.place := by
  rw [emit]
  rcases p.scratch.tryWrite_cases l.after device with ⟨-, cause, -, hwrite⟩ | hwrite
  · rw [hwrite]
  · rw [hwrite]
    simp only
    split
    · rfl
    · split <;> rfl

theorem place_emitAll (p : Progress) (ls : List MarkedLine) (device : Device) :
    (p.emitAll ls device).2.scratch.place = p.scratch.place := by
  induction ls generalizing p with
  | nil => rfl
  | cons l ls ih =>
    have hplace := p.place_emit l device
    rw [emitAll]
    split
    · rename_i q hemit
      rw [hemit] at hplace
      rw [ih q, hplace]
    · rename_i hemit
      rw [hemit] at hplace
      exact hplace

/-- **A device has no room for a line, or it makes no difference.** -/
theorem emit_cases (p : Progress) (l : MarkedLine) (device : Device) :
    (∃ size cause, device.grow size = .error cause ∧
        p.emit l device = (.error (.writeScratch cause), p)) ∨
      p.emit l device = p.emit l := by
  rcases p.scratch.tryWrite_cases l.after device with ⟨size, cause, hgrow, hwrite⟩ | hwrite
  · exact Or.inl ⟨size, cause, hgrow, by rw [emit, hwrite]⟩
  · exact Or.inr (by rw [emit, emit, hwrite, Scratch.tryWrite_faultless])

theorem emitAll_cases (p : Progress) (ls : List MarkedLine) (device : Device) :
    (∃ size cause q, device.grow size = .error cause ∧
        p.emitAll ls device = (.error (.writeScratch cause), q)) ∨
      p.emitAll ls device = p.emitAll ls := by
  induction ls generalizing p with
  | nil => exact Or.inr rfl
  | cons l ls ih =>
    rw [emitAll, emitAll]
    rcases p.emit_cases l device with ⟨size, cause, hgrow, hemit⟩ | hemit
    · exact Or.inl ⟨size, cause, p, hgrow, by rw [hemit]⟩
    · rw [hemit]
      rcases p.emit l with ⟨failure | _, q⟩
      · exact Or.inr rfl
      · exact ih q

/-- Lines that are all written are written as if there were no faults. -/
theorem emitAll_faultless (h : p.emitAll ls device = (.ok (), q)) :
    p.emitAll ls = (.ok (), q) := by
  rcases p.emitAll_cases ls device with ⟨size, cause, r, -, hfull⟩ | hsame
  · rw [hfull] at h
    cases h
  · rw [← hsame, h]

/-- What a line adds, if its report is taken. -/
theorem emit_ok (h : p.emit l = (.ok (), q)) :
    q.scratch = p.scratch.write l.after ∧ q.lines = p.lines + 1 ∧
      q.changed = p.changed + if l.isChanged then 1 else 0 := by
  rw [emit, Scratch.tryWrite_faultless] at h
  simp only at h
  split at h
  · rename_i hsame
    cases h
    simp [MarkedLine.isChanged, hsame]
  · rename_i hchanged
    split at h
    · cases h
      simp [MarkedLine.isChanged, hchanged]
    · cases h

/-- **What all lines add**: their contents, one after the other, and their
counts. -/
theorem emitAll_ok (h : p.emitAll ls = (.ok (), q)) :
    q.scratch = p.scratch.writeAll (ls.map (·.after)) ∧
      q.lines = p.lines + ls.length ∧ q.changed = p.changed + ls.countP (·.isChanged) := by
  induction ls generalizing p with
  | nil =>
    cases h
    simp [Scratch.writeAll]
  | cons l ls ih =>
    rw [emitAll] at h
    split at h
    · rename_i r hemit
      obtain ⟨hscratch, hlines, hchanged⟩ := emit_ok hemit
      obtain ⟨ihscratch, ihlines, ihchanged⟩ := ih h
      refine ⟨?_, ?_, ?_⟩
      · rw [ihscratch, hscratch]
        rfl
      · rw [ihlines, hlines, List.length_cons]
        omega
      · rw [ihchanged, hchanged, List.countP_cons]
        omega
    · cases h

/-- **Lines that have not changed are not reported.** -/
theorem emitAll_of_unchanged (h : ∀ l ∈ ls, l.after = l.before) :
    ∃ q, p.emitAll ls = (.ok (), q) ∧ q.lines = p.lines + ls.length ∧ q.changed = p.changed ∧
      q.sink = p.sink := by
  induction ls generalizing p with
  | nil => exact ⟨p, rfl, rfl, rfl, rfl⟩
  | cons l ls ih =>
    obtain ⟨hl, hls⟩ := List.forall_mem_cons.1 h
    have hemit : p.emit l = (.ok (),
        { p with scratch := p.scratch.write l.after, lines := p.lines + 1 }) := by
      rw [emit, Scratch.tryWrite_faultless]
      exact if_pos hl
    obtain ⟨q, hrest, hlines, hchanged, hsink⟩ :=
      ih (p := { p with scratch := p.scratch.write l.after, lines := p.lines + 1 }) hls
    refine ⟨q, by rw [emitAll, hemit]; exact hrest, ?_, hchanged, hsink⟩
    rw [hlines, List.length_cons, Nat.add_assoc, Nat.add_comm 1]

end Progress

namespace Session

variable {s : Session} {read : TreeReader} {path : Bytes} {v w : Volume} {sink : Sink}
variable {f : File} {p : Progress} {device : Device} {journal : Log.Journal}

/-! ## How a run ends -/

/-- A run came to its last step: the file was found, a buffer was made,
every line was marked and written, and every report taken. -/
structure Reaches (s : Session) (read : TreeReader) (path : Bytes) (v : Volume) (sink : Sink)
    (f : File) (p : Progress) : Prop where
  found : ∃ id, v.find path = .ok (.file id f)
  marked : ∃ scratch w lines wrapped, Scratch.create v path = .ok (scratch, w) ∧
    s.mark read path f.content = (.ok lines, wrapped) ∧
    ({ scratch := scratch, sink := sink } : Progress).emitAll lines = (.ok (), p)

/-- The buffer of a run at its last step has the marked lines in a row, and
they are counted. -/
theorem Reaches.exists_lines (h : s.Reaches read path v sink f p) :
    ∃ lines wrapped, s.mark read path f.content = (.ok lines, wrapped) ∧
      p.scratch.content = (lines.map (·.after)).flatten ∧ p.lines = lines.length ∧
      p.changed = lines.countP (·.isChanged) := by
  obtain ⟨scratch, w, lines, wrapped, hcreate, hmark, hemit⟩ := h.marked
  obtain ⟨hscratch, hlines, hchanged⟩ := Progress.emitAll_ok hemit
  refine ⟨lines, wrapped, hmark, ?_, ?_, ?_⟩
  · rw [hscratch, Scratch.content_writeAll, Scratch.content_of_create hcreate, List.nil_append]
  · rw [hlines, Nat.zero_add]
  · rw [hchanged, Nat.zero_add]

/-- The file is left as it is: the run is a dry run, or no line has
changed. -/
def Keeps (s : Session) (v : Volume) (p : Progress) (r : Run) : Prop :=
  (s.dryRun = true ∨ p.changed = 0) ∧ r.result = .ok ⟨p.lines, p.changed, false⟩ ∧ r.volume = v

/-- The entry that the path names becomes a file of its own with the
lines of the buffer. -/
def Replaces (s : Session) (path : Bytes) (v : Volume) (mode : Nat) (p : Progress) (r : Run) :
    Prop :=
  s.dryRun = false ∧ p.changed ≠ 0 ∧ r.result = .ok ⟨p.lines, p.changed, true⟩ ∧
    ∃ folder name, v.Names path folder name ∧
      r.volume = v.insert (folder ++ [name]) (.file v.freshId ⟨mode, p.scratch.content⟩)

/-- The run fails, and nothing is left of it. -/
def Fails (v : Volume) (r : Run) : Prop := (∃ failure, r.result = .error failure) ∧ r.volume = v

/-- **The last step fails without a trace, keeps the file or replaces
it.** -/
theorem finish_cases {id : Nat} (mode : Nat) (hnew : p.scratch.IsNew v w)
    (hfound : v.find path = .ok (.file id f)) :
    Fails v (s.finish path mode w p device journal) ∨
      s.Keeps v p (s.finish path mode w p device journal) ∨
      s.Replaces path v mode p (s.finish path mode w p device journal) := by
  rw [finish]
  split
  · rename_i hkeep
    rw [Bool.or_eq_true, beq_iff_eq] at hkeep
    exact Or.inr (Or.inl ⟨hkeep, rfl, hnew.discard_eq⟩)
  · rename_i hgo
    rw [Bool.or_eq_true, beq_iff_eq, not_or, Bool.not_eq_true] at hgo
    split
    · rename_i u hpromote
      have hrename := Scratch.rename_of_promote hpromote
      -- the rename tells that the path does not end in `..`, so it names an entry
      obtain ⟨folder, name, hnames⟩ :=
        Volume.names_of_find hfound (Scratch.getLast?_ne_up_of_rename hrename)
      rw [hnew.rename_of_names hnames] at hrename
      cases hrename
      exact Or.inr (Or.inr ⟨hgo.1, hgo.2, rfl, folder, name, hnames, rfl⟩)
    · rename_i failure u hpromote
      exact Or.inl ⟨⟨failure, rfl⟩, hnew.promote_error hpromote⟩

/-- The last step takes no report. -/
theorem finish_sink {mode : Nat} : (s.finish path mode w p device journal).sink = p.sink := by
  rw [finish]
  split
  · rfl
  · split <;> rfl

/-- **A run whose source cannot be read to its end fails without a
trace**, whatever was written and reported by then. -/
theorem abandon_fails (part : Bytes) (cause : String) (hnew : p.scratch.IsNew v w) :
    Fails v (s.abandon path part cause w p device journal) := by
  refine ⟨?_, (hnew.of_place (p.place_emitAll (s.markPart part) device)).discard_eq⟩
  rw [abandon]
  rcases p.emitAll (s.markPart part) device with ⟨failure | _, q⟩
  · exact ⟨failure, rfl⟩
  · exact ⟨.readSource path cause, rfl⟩

/-- **A run over a file that is read to its end fails without a trace, or
it comes to its last step.** -/
theorem process_cases {id : Nat} (hnew : p.scratch.IsNew v w)
    (hfound : v.find path = .ok (.file id f)) :
    Fails v (s.process read path f w p device journal) ∨
      ∃ lines wrapped q, s.mark read path f.content = (.ok lines, wrapped) ∧
        p.emitAll lines = (.ok (), q) ∧
        (s.process read path f w p device journal).sink = q.sink ∧
        (s.Keeps v q (s.process read path f w p device journal) ∨
          s.Replaces path v (f.mode % 0o10000) q (s.process read path f w p device journal)) := by
  rw [process]
  split
  · exact Or.inl ⟨⟨_, rfl⟩, hnew.discard_eq⟩
  rename_i lines wrapped hmark
  have hplace := p.place_emitAll lines device
  split
  · rename_i q hemit
    rw [hemit] at hplace
    exact Or.inl ⟨⟨_, rfl⟩, (hnew.of_place hplace).discard_eq⟩
  · rename_i q hemit
    rw [hemit] at hplace
    rcases finish_cases (s := s) (f.mode % 0o10000) (hnew.of_place hplace) hfound with h | h
    · exact Or.inl h
    · exact Or.inr ⟨lines, wrapped, q, hmark, Progress.emitAll_faultless hemit, finish_sink, h⟩

/-- **A run fails without a trace, or it comes to its last step**, whatever
goes wrong with the device. -/
theorem run_cases (s : Session) (read : TreeReader) (path : Bytes) (v : Volume) (sink : Sink)
    (device : Device) (journal : Log.Journal) :
    Fails v (s.run read path v sink device journal) ∨
      ∃ f p, s.Reaches read path v sink f p ∧
        (s.run read path v sink device journal).sink = p.sink ∧
        (s.Keeps v p (s.run read path v sink device journal) ∨
          s.Replaces path v (f.mode % 0o10000) p (s.run read path v sink device journal)) := by
  rw [run]
  split
  · exact Or.inl ⟨⟨_, rfl⟩, rfl⟩
  rename_i e hopen
  have hfound := Device.find_ok hopen
  split
  · exact Or.inl ⟨⟨_, rfl⟩, rfl⟩
  rename_i scratch w hcreate
  have hnew := Scratch.isNew_of_create hcreate
  split
  · rename_i id f
    split
    · rcases process_cases (s := s) (p := { scratch := scratch, sink := sink }) hnew hfound with
        h | ⟨lines, wrapped, q, hmark, hemit, hsink, h⟩
      · exact Or.inl h
      · exact Or.inr ⟨f, q, ⟨⟨id, hfound⟩, scratch, w, lines, wrapped, Scratch.create_ok hcreate,
          hmark, hemit⟩, hsink, h⟩
    · exact Or.inl (abandon_fails _ _ hnew)
  · exact Or.inl (abandon_fails _ _ hnew)

/-! ## Atomicity -/

/-- **A run is atomic.** If it fails, or if it succeeds without replacing
the file, the volume is the one before. It may fail for what the volume
does not allow, the text is not, or the sink does not take, and on a device
with any faults: the file is not opened, reading breaks off after some
lines were written and reported, the buffer is not made, bytes do not go to
its file, be it in between or at the end, or the file is not renamed. If
the run has replaced the file, then one entry differs: the one that the
path names, which is the link itself where the path ends in a link. It is
now a file with the permission bits of the file that was opened and the
marked lines in a row, and every other entry, the target of the link and
the other names of the file among them, is what it was. -/
theorem run_atomic (s : Session) (read : TreeReader) (path : Bytes) (v : Volume) (sink : Sink)
    (device : Device) (journal : Log.Journal) :
    match (s.run read path v sink device journal).result with
    | .error _ => (s.run read path v sink device journal).volume = v
    | .ok summary =>
      if summary.promoted then
        ∃ place id old lines wrapped,
          v.walk false Volume.linkLimit (v.startOf path) (Path.steps path) = .ok place ∧
          v.find path = .ok (.file id old) ∧
          s.mark read path old.content = (.ok lines, wrapped) ∧
          v.ReplacedAt (s.run read path v sink device journal).volume place
            ⟨old.mode % 0o10000, (lines.map (·.after)).flatten⟩
      else (s.run read path v sink device journal).volume = v := by
  rcases s.run_cases read path v sink device journal with
    ⟨⟨failure, hresult⟩, hvolume⟩ | ⟨f, p, hreach, -, h⟩
  · rw [hresult]
    exact hvolume
  rcases h with ⟨-, hresult, hvolume⟩ | ⟨-, -, hresult, folder, name, hnames, hvolume⟩
  · rw [hresult]
    exact hvolume
  · obtain ⟨id, hfound⟩ := hreach.found
    obtain ⟨lines, wrapped, hmark, hcontent, -, -⟩ := hreach.exists_lines
    rw [hresult, hvolume, hcontent]
    exact ⟨folder ++ [name], id, f, lines, wrapped, hnames.walk_false, hfound, hmark,
      Volume.replacedAt_insert (Volume.append_name_ne_root name) _⟩

/-- Reading breaks off in the second line: the first was reported, and
nothing else is left of the run. -/
example :
    let v : Volume := { entries :=
      [([Utf8.ofString "f"], .file 0 ⟨0o644, Utf8.ofString "p \"a\"\np \"b\"\n"⟩)] }
    let r := ({} : Session).run (fun _ => default) (Utf8.ofString "f") v {}
      { reading := some ⟨8, "Input/output error (os error 5)"⟩ }
    r.result = .error (.readSource (Utf8.ofString "f") "Input/output error (os error 5)") ∧
      r.sink.taken = Utf8.ofString "1: p _(\"a\")\n\n" ∧ r.volume = v := by
  decide +kernel

end Session

end LiteralMark
