import LiteralMark.Proofs.Insertion
import LiteralMark.Proofs.Line.Content
import LiteralMark.Proofs.Session.Run
import LiteralMark.Proofs.Tree.Walk
/-!
# Marking a file — line for line

Both ways of marking a file give it back line for line. Marked line by
line, each new line is a marked old one. Marked as a whole, the new text
arises from the old one by insertions that end no line, and a text with
another number of lines is refused, so the lines correspond. `MarksLines`
is what both have in common and all that the rest of a run relies on:
the old lines are those of the old content, the new lines are those of
the new content, and each new line arises from its old one by inserting
the texts of the marker call.

Nothing is assumed of the tree that a text is read to. A range that does
not fit the text makes the edit fail; any other is where insertions go.
-/

namespace LiteralMark

/-- The bytes that marking may insert. -/
def Convention.inserted (c : Convention) : List Bytes := [c.openingBytes, closingBytes]

/-- What marking makes of a content, line for line. -/
structure MarksLines (c : Convention) (content : Bytes) (lines : List MarkedLine) : Prop where
  before_eq : lines.map (·.before) = Bytes.lines content
  after_eq : Bytes.lines (lines.map (·.after)).flatten = lines.map (·.after)
  inserts : ∀ l ∈ lines, Inserts c.inserted l.before l.after

/-! ## Line by line -/

namespace Line

variable {c : Convention} {line out : Bytes}

/-- A scan inserts the texts of the marker call and does nothing else. -/
theorem Scans.inserts (h : Scans c line out) : Inserts c.inserted line out := by
  have hopening : c.openingBytes ∈ c.inserted := List.mem_cons_self
  have hclosing : Convention.closingBytes ∈ c.inserted := List.mem_cons_of_mem _ List.mem_cons_self
  induction h with
  | stop _ => exact .refl _ _
  | keep gap _ _ _ ih => exact (Inserts.refl _ _).append ih
  | @wrap gap lit after out _ _ _ ih =>
    simp only [List.append_assoc]
    exact (Inserts.refl _ gap).append
      (.insert hopening ((Inserts.refl _ lit).append (.insert hclosing ih)))

theorem inserts_mark (c : Convention) (line : Bytes) : Inserts c.inserted line (mark c line) := by
  rw [mark_eq]
  split
  · exact .refl _ _
  · exact (scans_scan c line).inserts

end Line

namespace Session

variable {s : Session} {read : TreeReader} {path content : Bytes} {v : Volume}
variable {c : Convention} {lines : List MarkedLine} {wrapped : Option Nat}

theorem marksLines_markLines (hfeed : Bytes.lineFeed ∉ c.openingBytes) (content : Bytes) :
    MarksLines c content (markLines c content) where
  before_eq := by simp [markLines, Function.comp_def]
  after_eq := by simp [markLines, Function.comp_def, Line.lines_flatten_mark hfeed]
  inserts := by
    intro l hl
    obtain ⟨line, -, rfl⟩ := List.mem_map.1 hl
    exact Line.inserts_mark c line

/-! ## As a whole -/

/-- The lines of two texts side by side, where they correspond. -/
theorem pairs_of_forall₂ {R : Text → Text → Prop} {old new : List Text}
    (h : List.Forall₂ R old new) :
    let pairs := List.zipWith (fun b a => (⟨Utf8.encode b, Utf8.encode a⟩ : MarkedLine)) old new
    pairs.map (·.before) = old.map Utf8.encode ∧ pairs.map (·.after) = new.map Utf8.encode ∧
      ∀ l ∈ pairs, ∃ b a, R b a ∧ l = ⟨Utf8.encode b, Utf8.encode a⟩ := by
  induction h with
  | nil => simp
  | @cons b a old new hba _ ih =>
    obtain ⟨hbefore, hafter, hpairs⟩ := ih
    refine ⟨congrArg _ hbefore, congrArg _ hafter, fun l hl => ?_⟩
    rcases List.mem_cons.1 hl with rfl | hl
    · exact ⟨b, a, hba, rfl⟩
    · exact hpairs l hl

/-- What marking a text inserts. -/
theorem inserts_of_ofText {source : Text} {m : Markup} (h : Markup.ofText read c source = .ok m) :
    Inserts [c.opening, Convention.closing] source m.output := by
  obtain ⟨-, happly, -⟩ := Markup.ofTree_eq_ok_iff.1 h
  refine Edit.inserts_of_apply (fun a ha => ?_) happly
  obtain ⟨n, -, hn⟩ := List.mem_flatMap.1 ha
  rcases List.mem_cons.1 hn with rfl | hn
  · exact List.mem_cons_self
  · rw [List.mem_singleton.1 hn]
    exact List.mem_cons_of_mem _ List.mem_cons_self

/-- Two texts are paired only if they have equally many lines. -/
theorem pairLines_eq_ok {before after : Text} (h : pairLines before after = .ok lines) :
    (Text.lines after).length = (Text.lines before).length ∧
      lines = List.zipWith (fun b a => ⟨Utf8.encode b, Utf8.encode a⟩) (Text.lines before)
        (Text.lines after) := by
  rw [pairLines] at h
  split at h
  · rename_i hlength
    cases h
    exact ⟨hlength.symm, rfl⟩
  · cases h

theorem marksLines_markTree (hfeed : '\n' ∉ c.opening)
    (h : markTree read c path content = (.ok lines, wrapped)) : MarksLines c content lines := by
  rw [markTree] at h
  split at h
  · cases h
  rename_i source hdecode
  split at h
  · cases h
  rename_i m hmark
  rw [Prod.mk.injEq] at h
  obtain ⟨hlength, hlines⟩ := pairLines_eq_ok h.1
  have hclosing : '\n' ∉ Convention.closing := by decide
  have hforall : List.Forall₂ (Inserts [c.opening, Convention.closing]) (Text.lines source)
      (Text.lines m.output) := by
    simp only [Text.lines] at hlength ⊢
    exact (inserts_of_ofText hmark).forall₂_splitAfter (by simp [hfeed, hclosing]) hlength
  obtain ⟨hbefore, hafter, hpairs⟩ := pairs_of_forall₂ hforall
  rw [← hlines] at hbefore hafter hpairs
  refine ⟨?_, ?_, fun l hl => ?_⟩
  · rw [hbefore, ← Utf8.lines_encode, Utf8.encode_of_decode? hdecode]
  · rw [hafter, ← Utf8.encode_flatten, Text.flatten_lines, Utf8.lines_encode]
  · obtain ⟨b, a, hba, rfl⟩ := hpairs l hl
    exact hba.encode

/-- **Marking gives a content back line for line**, whatever the strategy
and whatever the tree that the content is read to. -/
theorem marksLines_of_mark (hfeed : '\n' ∉ s.convention.opening)
    (h : s.mark read path content = (.ok lines, wrapped)) :
    MarksLines s.convention content lines := by
  rw [mark] at h
  split at h
  · cases h
    exact marksLines_markLines (Utf8.lineFeed_notMem_encode hfeed) content
  · exact marksLines_markTree hfeed h

/-! ## What a run leaves of each line -/

/-- The path leads to the file that has replaced its entry. -/
theorem Replaces.find {mode : Nat} {p : Progress} {r : Run} (h : s.Replaces path v mode p r) :
    r.volume.find path = .ok (.file v.freshId ⟨mode, p.scratch.content⟩) := by
  obtain ⟨-, -, -, folder, name, hnames, hvolume⟩ := h
  rw [hvolume]
  exact hnames.find_replaced Volume.home_insert (fun _ hne => Volume.entry?_insert_of_ne hne)
    (Volume.entry?_insert_self (Volume.append_name_ne_root name))

/-- What becomes of a line: the texts of the marker call are inserted and
every byte is kept, its end stays its end, and where lines are marked one
by one it is the marked line, so that an import stays as it is. -/
structure LineKept (strategy : Strategy) (line new : Bytes) : Prop where
  inserts : Inserts [Utf8.ofString "_(", Utf8.ofString ")"] line new
  sublist : line.Sublist new
  ended_iff : new.getLast? = some Bytes.lineFeed ↔ line.getLast? = some Bytes.lineFeed
  marked : strategy = .line → new = Line.mark .standard line
  import_eq : strategy = .line → Utf8.ofString "require" <+: line → new = line

/-- A line that starts as an import does is not marked. -/
theorem mark_of_require {line : Bytes} (h : Utf8.ofString "require" <+: line) :
    Line.mark .standard line = line := by
  have himport : Convention.standard.isImportLine line := by
    rw [Convention.isImportLine, List.any_eq_true]
    exact ⟨"require", List.mem_cons_self, List.isPrefixOf_iff_prefix.2 h⟩
  rw [Line.mark_eq, if_pos himport]

/-- Old and new lines, side by side. -/
theorem lineKept_of_mem {strategy : Strategy} {dryRun : Bool} {l : MarkedLine}
    (h : (⟨strategy, dryRun, .standard⟩ : Session).mark read path content = (.ok lines, wrapped))
    (hl : l ∈ lines) : LineKept strategy l.before l.after := by
  have hlines := marksLines_of_mark (s := ⟨strategy, dryRun, .standard⟩)
    (by decide : '\n' ∉ Convention.standard.opening) h
  have hinserted :
      Convention.standard.inserted = [Utf8.ofString "_(", Utf8.ofString ")"] := by decide
  have hinserts : Inserts [Utf8.ofString "_(", Utf8.ofString ")"] l.before l.after :=
    hinserted ▸ hlines.inserts l hl
  have hfeed : ∀ text ∈ [Utf8.ofString "_(", Utf8.ofString ")"], Bytes.lineFeed ∉ text := by
    decide
  have hbefore : AreLines Bytes.lineFeed (lines.map (·.before)) := by
    rw [hlines.before_eq]
    exact Bytes.areLines_lines _
  have hafter : AreLines Bytes.lineFeed (lines.map (·.after)) := by
    rw [← hlines.after_eq]
    exact Bytes.areLines_lines _
  have hmarked : strategy = .line → l.after = Line.mark .standard l.before := by
    rintro rfl
    cases h
    obtain ⟨line, -, rfl⟩ := List.mem_map.1 hl
    rfl
  refine ⟨hinserts, hinserts.sublist, ?_, hmarked, fun hline himport => ?_⟩
  · rw [hafter.getLast?_eq_iff (List.mem_map_of_mem hl),
      hbefore.getLast?_eq_iff (List.mem_map_of_mem hl), hinserts.mem_iff hfeed]
  · rw [hmarked hline, mark_of_require himport]

/-- **A run that replaces a file keeps its lines one to one**, whatever the
strategy, the content, the tree that the content is read to, and the device
that the run has come through. The new
content has as many lines as the old one, and each new line is the old
line at its place with marker texts inserted. -/
theorem run_keeps_lines (strategy : Strategy) (dryRun : Bool) (read : TreeReader) (path : Bytes)
    (v : Volume) (sink : Sink) (device : Device) (journal : Log.Journal) (lines changed : Nat)
    (h : ((⟨strategy, dryRun, .standard⟩ : Session).run read path v sink device journal).result =
      .ok ⟨lines, changed, true⟩) :
    ∃ id old id' new, v.find path = .ok (.file id old) ∧
      ((⟨strategy, dryRun, .standard⟩ : Session).run read path v sink device
        journal).volume.find path = .ok (.file id' new) ∧
      (Bytes.lines new.content).length = (Bytes.lines old.content).length ∧
      List.Forall₂ (LineKept strategy) (Bytes.lines old.content) (Bytes.lines new.content) := by
  rcases run_cases ⟨strategy, dryRun, .standard⟩ read path v sink device journal with
    ⟨⟨failure, hresult⟩, -⟩ | ⟨f, p, hreach, -, ⟨-, hresult, -⟩ | hreplaces⟩
  · rw [hresult] at h
    cases h
  · rw [hresult] at h
    cases h
  obtain ⟨id, hfound⟩ := hreach.found
  obtain ⟨marked, wrapped, hmark, hcontent, -, -⟩ := hreach.exists_lines
  have hlines := marksLines_of_mark (s := ⟨strategy, dryRun, .standard⟩)
    (by decide : '\n' ∉ Convention.standard.opening) hmark
  refine ⟨id, f, v.freshId, _, hfound, hreplaces.find, ?_⟩
  rw [hcontent, hlines.after_eq, ← hlines.before_eq]
  refine ⟨by rw [List.length_map, List.length_map], ?_⟩
  rw [List.forall₂_map_left_iff, List.forall₂_map_right_iff, List.forall₂_same]
  exact fun l hl => lineKept_of_mem hmark hl

/-- A text with a literal over two lines. -/
def brokenText : Text := "p \"a\nb\"\ny = 1\n".toList

/-- A reader that finds it. -/
def brokenReader : TreeReader := fun _ =>
  .mk (.other "program") none ⟨0, 14⟩ none false [.mk .string none ⟨2, 7⟩ none false []]

/-- A volume with the text in a file. -/
def brokenVolume : Volume :=
  { entries := [([Utf8.ofString "f"], .file 0 ⟨0o644, Utf8.encode brokenText⟩)] }

/-- A literal over two lines is opened in the one and closed in the other,
and the third line stays. -/
theorem run_keeps_lines_brokenVolume :
    ((⟨.tree, false, .standard⟩ : Session).run brokenReader (Utf8.ofString "f") brokenVolume
      {}).result = .ok ⟨3, 2, true⟩ ∧
    ∃ id old id' new, brokenVolume.find (Utf8.ofString "f") = .ok (.file id old) ∧
      ((⟨.tree, false, .standard⟩ : Session).run brokenReader (Utf8.ofString "f") brokenVolume
        {}).volume.find (Utf8.ofString "f") = .ok (.file id' new) ∧
      (Bytes.lines new.content).length = (Bytes.lines old.content).length ∧
      List.Forall₂ (LineKept .tree) (Bytes.lines old.content) (Bytes.lines new.content) := by
  have hrun : ((⟨.tree, false, .standard⟩ : Session).run brokenReader (Utf8.ofString "f")
      brokenVolume {}).result = .ok ⟨3, 2, true⟩ := by decide +kernel
  exact ⟨hrun, run_keeps_lines _ _ _ _ _ _ _ _ _ _ hrun⟩

end Session

end LiteralMark
