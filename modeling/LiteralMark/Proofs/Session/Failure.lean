import LiteralMark.Proofs.Invocation
import LiteralMark.Proofs.Scratch.Room
import LiteralMark.Proofs.Tree.Fault
import LiteralMark.Proofs.Tree.Nested
/-!
# Marking a file — why a run fails

A run asks in turn: does the path lead to an entry, can a scratch file be
made beside it, is the entry a file, can its content be marked. Where the
volume is a tree with room for a scratch file, the device has no faults and
the sink takes everything, each question has one answer that can be read off the path, the
entry and the content, and the first that goes wrong is told
(`run_outcome`). Nothing else fails. In particular the directory of a path
is found wherever the path leads to an entry, and once a file is open, the
run fails exactly as marking its content does (`result_of_find_file`).
-/

namespace LiteralMark

namespace Markup

variable {c : Convention} {source : Text} {root : Node}

/-- **A tree is refused for its faults, and for nothing else**, if its
ranges nest. -/
theorem exists_ofTree_of_nested (hsound : root.faulty = false) (h : root.Nested source) :
    ∃ m, ofTree c source root = .ok m := by
  have hboundary : ∀ a ∈ root.plan c source, Utf8.IsBoundary source a.offset := by
    intro a ha
    obtain ⟨n, hn, ha⟩ := List.mem_flatMap.1 ha
    obtain ⟨addr, haddr⟩ := Node.exists_at?_of_mem_literals hn
    have hfits := h addr n haddr
    rcases List.mem_pair.1 ha with rfl | rfl
    · exact hfits.start_isBoundary
    · exact hfits.stop_isBoundary
  exact ⟨⟨_, _⟩, ofTree_eq_ok_iff.2 ⟨hsound, Edit.apply_eq_emitFrom hboundary, rfl⟩⟩

end Markup

namespace Session

variable {s : Session} {read : TreeReader} {path content : Bytes} {v w : Volume} {sink : Sink}
variable {scratch : Scratch} {f : File} {e : Entry} {id : Nat} {failure : Failure} {source : Text}
variable {c : Convention}

/-! ## Marking the content -/

theorem pairLines_cases (before after : Text) : (∃ lines, pairLines before after = .ok lines) ∨
    ∃ m n, pairLines before after = .error (.lineCount m n) := by
  rw [pairLines]
  split
  · exact Or.inl ⟨_, rfl⟩
  · exact Or.inr ⟨_, _, rfl⟩

/-- **How marking a text ends.** -/
theorem markTree_of_decode (read : TreeReader) (c : Convention) (path : Bytes)
    (hdecode : Utf8.decode? content = some source) :
    (∃ g, Markup.ofTree c source (read source) = .error g ∧
        (markTree read c path content).1 = .error (.unreadable g)) ∨
      ∃ m, Markup.ofTree c source (read source) = .ok m ∧
        ((∃ lines, (markTree read c path content).1 = .ok lines) ∨
          ∃ before after, (markTree read c path content).1 = .error (.lineCount before after)) := by
  rw [markTree, hdecode]
  simp only [Markup.ofText]
  cases Markup.ofTree c source (read source) with
  | error g => exact Or.inl ⟨g, rfl, rfl⟩
  | ok m => exact Or.inr ⟨m, rfl, pairLines_cases source m.output⟩

theorem markTree_eq_notUtf8_iff :
    (markTree read c path content).1 = .error (.notUtf8 path) ↔ Utf8.decode? content = none := by
  cases hdecode : Utf8.decode? content with
  | none => simp [markTree, hdecode]
  | some source =>
    rcases markTree_of_decode read c path hdecode with
      ⟨g, -, h⟩ | ⟨m, -, ⟨lines, h⟩ | ⟨before, after, h⟩⟩ <;> simp [h]

theorem markTree_eq_parse_iff (hdecode : Utf8.decode? content = some source) :
    (∃ message, (markTree read c path content).1 = .error (.unreadable (.parse message))) ↔
      (read source).faulty = true := by
  rw [← Markup.ofTree_eq_parse_iff c source]
  rcases markTree_of_decode read c path hdecode with
    ⟨g, hg, h⟩ | ⟨m, hm, ⟨lines, h⟩ | ⟨before, after, h⟩⟩
  · simp [hg, h]
  · simp [hm, h]
  · simp [hm, h]

/-- A text whose tree nests is marked, unless the number of lines
changes. -/
theorem markTree_of_nested (hdecode : Utf8.decode? content = some source)
    (hsound : (read source).faulty = false) (h : (read source).Nested source) :
    (∃ lines, (markTree read c path content).1 = .ok lines) ∨
      ∃ before after, (markTree read c path content).1 = .error (.lineCount before after) := by
  obtain ⟨m, hm⟩ := Markup.exists_ofTree_of_nested (c := c) hsound h
  rcases markTree_of_decode read c path hdecode with
    ⟨g, hg, -⟩ | ⟨-, -, hpaired⟩
  · rw [hm] at hg
    cases hg
  · exact hpaired

/-- **Marking fails in three ways.** -/
theorem mark_error_cases (h : (s.mark read path content).1 = .error failure) :
    failure = .notUtf8 path ∨ (∃ g, failure = .unreadable g) ∨
      ∃ before after, failure = .lineCount before after := by
  rw [mark] at h
  split at h
  · cases h
  cases hdecode : Utf8.decode? content with
  | none =>
    rw [markTree_eq_notUtf8_iff.2 hdecode] at h
    cases h
    exact Or.inl rfl
  | some source =>
    rcases markTree_of_decode read s.convention path hdecode with
      ⟨g, -, hmark⟩ | ⟨m, -, ⟨lines, hmark⟩ | ⟨before, after, hmark⟩⟩
    · rw [hmark] at h
      cases h
      exact Or.inr (Or.inl ⟨g, rfl⟩)
    · rw [hmark] at h
      cases h
    · rw [hmark] at h
      cases h
      exact Or.inr (Or.inr ⟨before, after, rfl⟩)

/-! ## The run -/

/-- **A run over a file fails as marking its content does**, if a buffer
can be made and every report is taken. -/
theorem result_of_find_file (s : Session) (read : TreeReader) (hv : v.IsTree) (hopen : sink.IsOpen)
    (hfound : v.find path = .ok (.file id f)) (hcreate : Scratch.create v path = .ok (scratch, w)) :
    ∃ summary, (s.run read path v sink).result =
      (s.mark read path f.content).1.map fun _ => summary := by
  rcases hmark : s.mark read path f.content with ⟨failure | lines, wrapped⟩
  · exact ⟨⟨0, 0, false⟩, (run_of_mark_error hfound hcreate hmark).1⟩
  · obtain ⟨p, hemit, -⟩ := Progress.emitAll_of_isOpen
      (p := { scratch := scratch, sink := sink }) hopen lines
    exact ⟨_, result_of_reaches hv
      ⟨⟨id, hfound⟩, scratch, w, lines, wrapped, hcreate, hmark, hemit⟩⟩

theorem map_eq_error_iff {r : Except Failure (List MarkedLine)} {summary : Summary} :
    (r.map fun _ => summary) = .error failure ↔ r = .error failure := by
  cases r <;> simp [Except.map]

/-- How a run over a file with some content ends, if a buffer can be made.
Line by line it succeeds, whatever the bytes are. As a whole it fails if
the content is no text, if the tree of the text has a fault, or if the
number of lines changes; and if the ranges of the tree nest, in no other
way. -/
def Concludes (s : Session) (read : TreeReader) (path content : Bytes)
    (result : Except Failure Summary) : Prop :=
  match s.strategy with
  | .line => ∃ summary, result = .ok summary
  | .tree =>
    (result = .error (.notUtf8 path) ↔ Utf8.decode? content = none) ∧
      ∀ source, Utf8.decode? content = some source →
        ((∃ message, result = .error (.unreadable (.parse message))) ↔
          (read source).faulty = true) ∧
        ((read source).faulty = false → (read source).Nested source →
          (∃ summary, result = .ok summary) ∨
            ∃ before after, result = .error (.lineCount before after))

theorem concludes_of_mark {summary : Summary} :
    s.Concludes read path content ((s.mark read path content).1.map fun _ => summary) := by
  rw [Concludes, mark]
  cases s.strategy with
  | line => exact ⟨summary, rfl⟩
  | tree =>
    simp only [map_eq_error_iff]
    refine ⟨markTree_eq_notUtf8_iff, fun source hdecode =>
      ⟨markTree_eq_parse_iff hdecode, fun hsound hnested => ?_⟩⟩
    refine (markTree_of_nested hdecode hsound hnested).imp_left ?_
    rintro ⟨lines, h⟩
    exact ⟨summary, by rw [h]; rfl⟩

/-- **What stops a run that has found an entry**, if there is room for a
scratch file: the name of the path, or the entry, or what is in it. -/
theorem result_of_find (s : Session) (read : TreeReader) (hv : v.IsTree)
    (hroom : Scratch.HasRoom v path) (hopen : sink.IsOpen) (hfound : v.find path = .ok e) :
    (Scratch.HasLongName path ∧ ∃ cause, (s.run read path v sink).result =
        .error (.createScratch (Path.directory path) cause)) ∨
      ¬ Scratch.HasLongName path ∧
        ((e = .folder ∧ ∃ cause,
            (s.run read path v sink).result = .error (.readSource path cause)) ∨
          ∃ id f, e = .file id f ∧
            s.Concludes read path f.content (s.run read path v sink).result ∧
            ∀ failure, (s.run read path v sink).result = .error failure →
              (s.mark read path f.content).1 = .error failure) := by
  by_cases hlong : Scratch.HasLongName path
  · obtain ⟨cause, hcreate⟩ := Scratch.create_of_hasLongName v hlong
    exact Or.inl ⟨hlong, cause, (run_of_create_error hfound hcreate).1⟩
  obtain ⟨q, hresolve, hq⟩ := Volume.find_eq_ok_iff.1 hfound
  obtain ⟨scratch, w, hcreate⟩ := Scratch.create_of_hasRoom hroom hlong hresolve
  refine Or.inr ⟨hlong, ?_⟩
  cases e with
  | file id f =>
    obtain ⟨summary, hresult⟩ := result_of_find_file s read hv hopen hfound hcreate
    refine Or.inr ⟨id, f, rfl, ?_⟩
    rw [hresult]
    exact ⟨concludes_of_mark, fun failure => map_eq_error_iff.1⟩
  | folder => exact Or.inl ⟨rfl, _, (run_of_unread hfound (by simp) hcreate).1⟩
  | link target =>
    -- every link on the way is followed, and the way starts in a directory
    obtain ⟨-, -, -, hleads⟩ := Volume.resolve_eq_ok_iff.1 hresolve
    refine absurd hq (hv.ne_link hleads (fun target => ?_) target)
    rw [Volume.startOf]
    split
    · simp
    · simp [hroom.home]

/-- **How every run ends.** Let the volume be a tree with room for a
scratch file beside the target, let the device have no faults, and let the
sink take everything. The run
cannot open its source exactly if the path leads to no entry. Otherwise it
cannot make its scratch file exactly if the name of the path is readable
and longer than 239 bytes. Otherwise it cannot read its source exactly if
the path leads to a directory; and if it leads to a file, the run ends as
its content says. A run that fails has reported nothing. -/
theorem run_outcome (s : Session) (read : TreeReader) (hv : v.IsTree)
    (hroom : Scratch.HasRoom v path) (hopen : sink.IsOpen) :
    ((∃ cause, (s.run read path v sink).result = .error (.openSource path cause)) ↔
      ∀ e, ¬ v.LeadsTo path e) ∧
    (∀ e, v.LeadsTo path e →
      ((∃ cause, (s.run read path v sink).result =
          .error (.createScratch (Path.directory path) cause)) ↔ Scratch.HasLongName path) ∧
      (¬ Scratch.HasLongName path →
        ((∃ cause, (s.run read path v sink).result = .error (.readSource path cause)) ↔
          e = .folder) ∧
        ∀ id f, e = .file id f →
          s.Concludes read path f.content (s.run read path v sink).result)) ∧
    ∀ failure, (s.run read path v sink).result = .error failure →
      (s.run read path v sink).sink = sink := by
  refine ⟨?_, fun e he => ?_, fun failure h => (sink_of_error hv hopen h).1⟩
  · cases hfound : v.find path with
    | error err =>
      refine iff_of_true ⟨_, (run_of_find_error hfound).1⟩ fun e he => ?_
      rw [Volume.find_eq_ok_iff_leadsTo.2 he] at hfound
      cases hfound
    | ok e =>
      refine iff_of_false ?_ fun h => h e (Volume.find_eq_ok_iff_leadsTo.1 hfound)
      rintro ⟨cause, hresult⟩
      rcases result_of_find s read hv hroom hopen hfound with
        ⟨-, cause', h⟩ | ⟨-, ⟨-, cause', h⟩ | ⟨id, f, -, -, hmark⟩⟩
      · simp [h] at hresult
      · simp [h] at hresult
      · simpa using mark_error_cases (hmark _ hresult)
  · rcases result_of_find s read hv hroom hopen
        (Volume.find_eq_ok_iff_leadsTo.2 he) with
      ⟨hlong, cause, h⟩ | ⟨hshort, ⟨rfl, cause, h⟩ | ⟨id, f, rfl, hconcludes, hmark⟩⟩
    · exact ⟨iff_of_true ⟨cause, h⟩ hlong, fun hshort => absurd hlong hshort⟩
    · refine ⟨iff_of_false (by simp [h]) hshort, fun _ => ⟨iff_of_true ⟨cause, h⟩ rfl, ?_⟩⟩
      intro id f heq
      cases heq
    · refine ⟨iff_of_false ?_ hshort, fun _ => ⟨iff_of_false ?_ (by simp), ?_⟩⟩
      · rintro ⟨cause, hresult⟩
        simpa using mark_error_cases (hmark _ hresult)
      · rintro ⟨cause, hresult⟩
        simpa using mark_error_cases (hmark _ hresult)
      · rintro id' f' heq
        cases heq
        exact hconcludes

/-- A volume with a file, a link to its directory, and a directory with a
name of 240 bytes. -/
def longVolume : Volume where
  entries := [
    ([Utf8.ofString "d"], .folder),
    ([Utf8.ofString "d", Utf8.ofString "f"], .file 0 ⟨0o644, Utf8.ofString "a \"b\"\n"⟩),
    ([Utf8.ofString "l"], .link (Utf8.ofString "./d/")),
    ([List.replicate 240 97], .folder)]

/-- A reader that finds the literal in the file. -/
def longReader : TreeReader := fun _ =>
  .mk (.other "program") none ⟨0, 6⟩ none false [.mk .string none ⟨2, 5⟩ none false []]

/-- The path of the file, through the link and back. -/
def crookedPath : Bytes := Utf8.ofString "l/../d//./f"

/-- The directory with the long name is refused for its name, not because
it is no file; and the file is found on the crooked path. -/
theorem run_outcome_longVolume :
    longVolume.IsTree ∧ Sink.IsOpen {} ∧
    (Scratch.HasRoom longVolume (List.replicate 240 97) ∧
      longVolume.LeadsTo (List.replicate 240 97) .folder ∧
      ∃ cause, (({} : Session).run longReader (List.replicate 240 97) longVolume {}).result =
        .error (.createScratch (Path.directory (List.replicate 240 97)) cause)) ∧
    Scratch.HasRoom longVolume crookedPath ∧ ¬ Scratch.HasLongName crookedPath ∧
      ((∃ summary, (({ strategy := .tree } : Session).run longReader crookedPath longVolume
          {}).result = .ok summary) ∨
        ∃ before after, (({ strategy := .tree } : Session).run longReader crookedPath longVolume
          {}).result = .error (.lineCount before after)) := by
  have hv : longVolume.IsTree := by decide +kernel
  have hopen : Sink.IsOpen {} := ⟨rfl, rfl⟩
  have hlongRoom : Scratch.HasRoom longVolume (List.replicate 240 97) :=
    Scratch.hasRoom_of_few rfl (by decide +kernel) (by decide +kernel)
  have hroom : Scratch.HasRoom longVolume crookedPath :=
    Scratch.hasRoom_of_few rfl (by decide +kernel) (by decide +kernel)
  have hfolder : longVolume.LeadsTo (List.replicate 240 97) .folder :=
    Volume.find_eq_ok_iff_leadsTo.1 (by decide +kernel)
  have hfile : longVolume.LeadsTo crookedPath
      (.file 0 ⟨0o644, Utf8.ofString "a \"b\"\n"⟩) :=
    Volume.find_eq_ok_iff_leadsTo.1 (by decide +kernel)
  have hlong : Scratch.HasLongName (List.replicate 240 97) :=
    ⟨List.replicate 240 97, by decide +kernel, by decide +kernel, by decide +kernel⟩
  have hshort : ¬ Scratch.HasLongName crookedPath :=
    mt (Scratch.hasLongName_iff (n := 0)).1 (by decide +kernel)
  obtain ⟨-, hnamed, -⟩ := run_outcome {} longReader hv hlongRoom hopen
  obtain ⟨-, hread, -⟩ := run_outcome { strategy := .tree } longReader hv hroom hopen
  obtain ⟨-, hconcludes⟩ := (hread _ hfile).2 hshort
  have htree := (hconcludes _ _ rfl).2 "a \"b\"\n".toList (by decide +kernel)
  exact ⟨hv, hopen, ⟨hlongRoom, hfolder, (hnamed _ hfolder).1.2 hlong⟩, hroom, hshort,
    htree.2 rfl (by decide +kernel)⟩

end Session

end LiteralMark
