import LiteralMark.Proofs.Line.Scan
import LiteralMark.Proofs.Text.Lines
/-!
# Marking the lines of a content

The lines of a content are marked one by one. Where the marker call holds
no line feed, marking neither ends a line nor joins two: the end of a line
passes through as any bytes without quotes do (`scan_append`), and no
line becomes empty. So the marked lines are the lines of the new content
(`lines_flatten_mark`), and to mark that content once more is to mark
each marked line once more, which changes nothing
(`mark_of_mem_map_mark`).
-/

namespace LiteralMark.Line

variable {c : Convention} {line : Bytes}

/-- **Marked lines are marked to themselves.** -/
theorem mark_of_mem_map_mark {ls : List Bytes} (h : line ∈ ls.map (mark c)) :
    mark c line = line := by
  obtain ⟨old, -, rfl⟩ := List.mem_map.1 h
  exact mark_eq_self_iff.2 (isImportLine_or_isMarked_mark c old)

/-- A scan brings no line feed into a line. -/
theorem lineFeed_notMem_scan (hfeed : Bytes.lineFeed ∉ c.openingBytes)
    (hline : Bytes.lineFeed ∉ line) : Bytes.lineFeed ∉ scan c line := by
  have hclosing : Bytes.lineFeed ∉ Convention.closingBytes := by decide
  intro h
  rcases (scans_scan c line).mem h with h | h | h
  · exact hline h
  · exact hfeed h
  · exact hclosing h

/-- The end of a line passes through, whatever the marker function is. -/
theorem mark_concat_lineFeed (c : Convention) (line : Bytes) :
    mark c (line ++ [Bytes.lineFeed]) =
      (if c.isImportLine (line ++ [Bytes.lineFeed]) then line else scan c line) ++
        [Bytes.lineFeed] := by
  rw [mark_eq]
  split
  · rfl
  · exact scan_append c (by decide) line

/-- Marking keeps the end of a line. -/
theorem exists_mark_append_lineFeed (hfeed : Bytes.lineFeed ∉ c.openingBytes)
    (hline : Bytes.lineFeed ∉ line) :
    ∃ new, Bytes.lineFeed ∉ new ∧ mark c (line ++ [Bytes.lineFeed]) = new ++ [Bytes.lineFeed] := by
  refine ⟨_, ?_, mark_concat_lineFeed c line⟩
  split
  · exact hline
  · exact lineFeed_notMem_scan hfeed hline

/-- Marking ends no line that has no end, and leaves none empty. -/
theorem mark_unended (hfeed : Bytes.lineFeed ∉ c.openingBytes) (hline : Bytes.lineFeed ∉ line)
    (hne : line ≠ []) : Bytes.lineFeed ∉ mark c line ∧ mark c line ≠ [] := by
  by_cases himport : c.isImportLine line
  · rw [mark_eq, if_pos himport]
    exact ⟨hline, hne⟩
  · rw [mark_eq, if_neg himport]
    refine ⟨lineFeed_notMem_scan hfeed hline, fun hnil => hne ?_⟩
    have hsub := (scans_scan c line).sublist
    rw [hnil] at hsub
    exact List.sublist_nil.1 hsub

/-- **The marked lines are the lines of the marked content.** -/
theorem lines_flatten_mark (hfeed : Bytes.lineFeed ∉ c.openingBytes) (content : Bytes) :
    Bytes.lines ((Bytes.lines content).map (mark c)).flatten =
      (Bytes.lines content).map (mark c) := by
  have hlines := (Bytes.areLines_lines content).map (fun _ => exists_mark_append_lineFeed hfeed)
    fun _ => mark_unended hfeed
  exact hlines.splitAfter_flatten

end LiteralMark.Line
