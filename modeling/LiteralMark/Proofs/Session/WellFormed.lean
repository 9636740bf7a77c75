import LiteralMark.Proofs.Session.Lines
import LiteralMark.Proofs.Session.Rerun
import LiteralMark.Proofs.Text.WellFormed
/-!
# Marking a file — bytes that are no text

Lines are marked as bytes, and a line need not be a text: a character can
be cut off in front of a quote, or go on behind one. What marking inserts
is a text, though, and where it stands is settled by quotes, which are
ASCII. The opening text comes in front of a quote, so it neither completes
what was cut off there nor hides it; the closing text comes behind one, so
it takes nothing from what follows. Hence a marked line is well-formed if
and only if the line was (`isWellFormed_mark_iff`). Lines end in an ASCII
byte too, so the same holds of a whole content, and of the file that a run
leaves (`run_keeps_wellFormed`).
-/

namespace LiteralMark

open Utf8 (IsWellFormed isWellFormed_append_ascii isWellFormed_append_encode)

namespace Line

variable {c : Convention} {line out lit : Bytes}

/-- A literal falls into two quotes and what is between them. -/
theorem IsLiteral.isWellFormed_append_iff (h : IsLiteral lit) (gap rest : Bytes) :
    IsWellFormed (gap ++ lit ++ rest) ↔
      IsWellFormed gap ∧ IsWellFormed lit ∧ IsWellFormed rest := by
  have hquote : quote.toNat < 128 := by decide
  obtain ⟨body, -, rfl⟩ := h
  have hlit : IsWellFormed (quote :: body ++ [quote]) ↔ IsWellFormed body := by
    rw [isWellFormed_append_ascii hquote, Utf8.isWellFormed_cons_ascii hquote]
    exact and_iff_left Utf8.isWellFormed_nil
  have happ : gap ++ (quote :: body ++ [quote]) ++ rest =
      gap ++ quote :: (body ++ quote :: rest) := by simp
  rw [hlit, happ, isWellFormed_append_ascii hquote, isWellFormed_append_ascii hquote]

theorem isWellFormed_append_opening (c : Convention) (gap : Bytes) :
    IsWellFormed (gap ++ c.openingBytes) ↔ IsWellFormed gap :=
  isWellFormed_append_encode c.opening

theorem isWellFormed_closing_append (rest : Bytes) :
    IsWellFormed (Convention.closingBytes ++ rest) ↔ IsWellFormed rest := by
  have hclosing : Convention.closingBytes = [41] := by decide
  rw [hclosing, List.singleton_append]
  exact Utf8.isWellFormed_cons_ascii (by decide)

/-- **A scan neither repairs bytes nor breaks them.** -/
theorem Scans.isWellFormed_iff (h : Scans c line out) : IsWellFormed out ↔ IsWellFormed line := by
  induction h with
  | stop _ => rfl
  | keep gap _ hlit _ ih =>
    rw [← List.append_assoc gap, hlit.isWellFormed_append_iff, hlit.isWellFormed_append_iff, ih]
  | wrap gap _ hlit _ ih =>
    rw [← List.append_assoc gap, hlit.isWellFormed_append_iff, hlit.isWellFormed_append_iff,
      isWellFormed_append_opening, isWellFormed_closing_append, ih]

/-- **A marked line is well-formed if and only if the line is.** -/
theorem isWellFormed_mark_iff (c : Convention) (line : Bytes) :
    IsWellFormed (mark c line) ↔ IsWellFormed line := by
  rw [mark_eq]
  split
  · rfl
  · exact (scans_scan c line).isWellFormed_iff

/-- **The same holds of all lines in a row**, for each but the last ends in
an ASCII byte before and after. -/
theorem isWellFormed_flatten_mark_iff (c : Convention) {ls : List Bytes}
    (h : AreLines Bytes.lineFeed ls) :
    IsWellFormed (ls.map (mark c)).flatten ↔ IsWellFormed ls.flatten := by
  have hfeed : Bytes.lineFeed.toNat < 128 := by decide
  induction h with
  | nil => rfl
  | last _ _ => simpa using isWellFormed_mark_iff c _
  | @cons body ls _ _ ih =>
    obtain ⟨new, hnew⟩ : ∃ new, mark c (body ++ [Bytes.lineFeed]) = new ++ [Bytes.lineFeed] :=
      ⟨_, mark_concat_lineFeed c body⟩
    have hbody : IsWellFormed new ↔ IsWellFormed body := by
      have hline := isWellFormed_mark_iff c (body ++ [Bytes.lineFeed])
      rw [hnew, isWellFormed_append_ascii hfeed, isWellFormed_append_ascii hfeed] at hline
      simpa using hline
    rw [List.map_cons, List.flatten_cons, List.flatten_cons, hnew, List.append_assoc,
      List.append_assoc, List.singleton_append, List.singleton_append,
      isWellFormed_append_ascii hfeed, isWellFormed_append_ascii hfeed]
    exact and_congr hbody ih

end Line

namespace Session

variable {c : Convention} {dryRun : Bool} {read : TreeReader} {path : Bytes} {v : Volume}
variable {sink : Sink} {f : File} {p : Progress}

/-- The marked lines of a content, put together. -/
theorem isWellFormed_markLines_iff (c : Convention) (content : Bytes) :
    IsWellFormed ((Bytes.lines content).map (Line.mark c)).flatten ↔ IsWellFormed content := by
  rw [Line.isWellFormed_flatten_mark_iff c (Bytes.areLines_lines content), Bytes.flatten_lines]

/-- What the buffer of a run that marks line by line has at its last step. -/
theorem Reaches.content_eq (h : (⟨.line, dryRun, c⟩ : Session).Reaches read path v sink f p) :
    p.scratch.content = ((Bytes.lines f.content).map (Line.mark c)).flatten := by
  obtain ⟨lines, wrapped, hmark, hcontent, -, -⟩ := h.exists_lines
  cases hmark
  rw [hcontent, map_after_markLines]

/-- **Marking line by line keeps what is UTF-8 and what is not**, whatever
the marker function is. A marked line is well-formed if and only if the
line is; so are the marked lines of a content in a row; and so is the file
that the path leads to after a run, whatever goes wrong with its device. It
is the file before if the run fails or replaces nothing, and else it has
the marked lines for its content. -/
theorem run_keeps_wellFormed (c : Convention) :
    (∀ line, IsWellFormed (Line.mark c line) ↔ IsWellFormed line) ∧
    (∀ content, IsWellFormed ((Bytes.lines content).map (Line.mark c)).flatten ↔
      IsWellFormed content) ∧
    ∀ dryRun read path v sink device id old, v.find path = .ok (.file id old) →
      ∃ id' new,
        ((⟨.line, dryRun, c⟩ : Session).run read path v sink device).volume.find path =
          .ok (.file id' new) ∧
        (IsWellFormed new.content ↔ IsWellFormed old.content) ∧
        ∀ summary,
          ((⟨.line, dryRun, c⟩ : Session).run read path v sink device).result = .ok summary →
          if summary.promoted then
            new.content = ((Bytes.lines old.content).map (Line.mark c)).flatten
          else new = old := by
  refine ⟨Line.isWellFormed_mark_iff c, isWellFormed_markLines_iff c, ?_⟩
  intro dryRun read path v sink device id old hfound
  rcases run_cases ⟨.line, dryRun, c⟩ read path v sink device {} with
    ⟨⟨failure, hresult⟩, hvolume⟩ | ⟨f, p, hreach, -, hend⟩
  · refine ⟨id, old, by rw [hvolume, hfound], Iff.rfl, fun summary hsummary => ?_⟩
    rw [hresult] at hsummary
    cases hsummary
  obtain ⟨id', hfound'⟩ := hreach.found
  cases hfound.symm.trans hfound'
  rcases hend with ⟨-, hresult, hvolume⟩ | hreplaces
  · refine ⟨id, old, by rw [hvolume, hfound], Iff.rfl, fun summary hsummary => ?_⟩
    cases hresult.symm.trans hsummary
    rfl
  · have hcontent := hreach.content_eq
    refine ⟨v.freshId, _, hreplaces.find, ?_, fun summary hsummary => ?_⟩
    · rw [hcontent]
      exact isWellFormed_markLines_iff c old.content
    · cases hreplaces.2.2.1.symm.trans hsummary
      exact hcontent

/-- A convention whose marker function is a character of two bytes. -/
def accentConvention : Convention := ⟨"é", []⟩

/-- A volume with a file in which the first byte of that character stands
in front of a quote, alone. -/
def brokenCharVolume : Volume :=
  { entries := [([Utf8.ofString "f"], .file 0 ⟨0o644, [195, 34, 97, 34, 10]⟩)] }

/-- The lone byte is in front of the same byte then, and the file is no
more a text than before. -/
theorem run_keeps_wellFormed_brokenCharVolume :
    brokenCharVolume.find (Utf8.ofString "f") =
      .ok (.file 0 ⟨0o644, [195, 34, 97, 34, 10]⟩) ∧
    ∃ id' new,
      ((⟨.line, false, accentConvention⟩ : Session).run (fun _ => default) (Utf8.ofString "f")
        brokenCharVolume {}).volume.find (Utf8.ofString "f") = .ok (.file id' new) ∧
      new.content = [195, 195, 169, 40, 34, 97, 34, 41, 10] ∧ ¬ IsWellFormed new.content := by
  have hfound : brokenCharVolume.find (Utf8.ofString "f") =
      .ok (.file 0 ⟨0o644, [195, 34, 97, 34, 10]⟩) := by decide +kernel
  have hrun : ((⟨.line, false, accentConvention⟩ : Session).run (fun _ => default)
      (Utf8.ofString "f") brokenCharVolume {}).result = .ok ⟨1, 1, true⟩ := by decide +kernel
  have hmarked : ((Bytes.lines [195, 34, 97, 34, 10]).map (Line.mark accentConvention)).flatten =
      [195, 195, 169, 40, 34, 97, 34, 41, 10] := by decide
  obtain ⟨id', new, hnew, hiff, hcontent⟩ := (run_keeps_wellFormed accentConvention).2.2 false
    (fun _ => default) (Utf8.ofString "f") brokenCharVolume {} {} 0 _ hfound
  refine ⟨hfound, id', new, hnew, (hcontent _ hrun).trans hmarked, ?_⟩
  rw [hiff]
  decide

end Session

end LiteralMark
