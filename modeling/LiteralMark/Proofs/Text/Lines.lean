import LiteralMark.Text.Bytes
import Mathlib.Data.List.Basic
/-!
# Lines — what splitting gives, and what it gives back

Bytes and characters are split into lines in the same way, so the theory
is about a list and the element that ends a line in it (`splitAfter`).
A list of lists is a list of lines if each ends in that element and has
it nowhere else, but for the last, which may do without if it is not
empty (`AreLines`). Splitting gives such a list (`areLines_splitAfter`),
and it is the only list of lines with that content
(`AreLines.splitAfter_flatten`): who changes lines one by one and keeps
them lines finds the changed lines again when the new content is split.
-/

namespace LiteralMark

variable {α : Type} {feed : α} {body rest : List α} {ls : List (List α)}

/-- What the lines of a content look like. -/
inductive AreLines (feed : α) : List (List α) → Prop
  | nil : AreLines feed []
  | last {body : List α} : feed ∉ body → body ≠ [] → AreLines feed [body]
  | cons {body : List α} {ls : List (List α)} : feed ∉ body → AreLines feed ls →
      AreLines feed ((body ++ [feed]) :: ls)

/-! ## Splitting -/

section Splitting

variable [DecidableEq α]

/-- Splitting gives lines. -/
theorem areLines_splitAfter (feed : α) (xs : List α) : AreLines feed (splitAfter feed xs) := by
  induction xs with
  | nil => exact .nil
  | cons b rest ih =>
    rw [splitAfter]
    split
    · rename_i hb
      subst hb
      exact (.cons List.not_mem_nil ih : AreLines b (([] ++ [b]) :: splitAfter b rest))
    · rename_i hb
      have hnot {body : List α} (h : feed ∉ body) : feed ∉ b :: body :=
        List.not_mem_cons_of_ne_of_not_mem (Ne.symm hb) h
      cases hsplit : splitAfter feed rest with
      | nil => exact .last (hnot List.not_mem_nil) (List.cons_ne_nil _ _)
      | cons line more =>
        rw [hsplit] at ih
        cases ih with
        | last hbody _ => exact .last (hnot hbody) (List.cons_ne_nil _ _)
        | cons hbody hmore => exact .cons (hnot hbody) hmore

/-- Up to its first end of line a list is one line. -/
theorem splitAfter_append_cons (h : feed ∉ body) :
    splitAfter feed (body ++ feed :: rest) = (body ++ [feed]) :: splitAfter feed rest := by
  induction body with
  | nil => simp [splitAfter]
  | cons b body ih =>
    rw [List.mem_cons, not_or] at h
    rw [List.cons_append, splitAfter, if_neg (Ne.symm h.1), ih h.2]
    rfl

/-- And without one it is one line altogether. -/
theorem splitAfter_of_notMem (h : feed ∉ body) (hne : body ≠ []) :
    splitAfter feed body = [body] := by
  induction body with
  | nil => exact absurd rfl hne
  | cons b body ih =>
    rw [List.mem_cons, not_or] at h
    rw [splitAfter, if_neg (Ne.symm h.1)]
    cases body with
    | nil => rfl
    | cons b' body => rw [ih h.2 (List.cons_ne_nil _ _)]

/-- **Lines that are put together are split into the same lines.** -/
theorem AreLines.splitAfter_flatten (h : AreLines feed ls) : splitAfter feed ls.flatten = ls := by
  induction h with
  | nil => rfl
  | last hbody hne =>
    rw [List.flatten_cons, List.flatten_nil, List.append_nil, splitAfter_of_notMem hbody hne]
  | cons hbody _ ih =>
    rw [List.flatten_cons, List.append_assoc, List.singleton_append,
      splitAfter_append_cons hbody, ih]

end Splitting

/-- A line that has its end has it last. -/
theorem AreLines.getLast?_eq_iff {line : List α} (h : AreLines feed ls) (hline : line ∈ ls) :
    line.getLast? = some feed ↔ feed ∈ line := by
  refine ⟨List.mem_of_getLast?, fun hmem => ?_⟩
  induction h with
  | nil => cases hline
  | last hbody _ =>
    rw [List.mem_singleton] at hline
    exact absurd (hline ▸ hmem) hbody
  | cons _ _ ih =>
    rcases List.mem_cons.1 hline with rfl | hline
    · exact List.getLast?_concat
    · exact ih hline

/-- Lines of which some are left out are lines. -/
theorem AreLines.sublist {ls' : List (List α)} (h : AreLines feed ls) (hsub : ls'.Sublist ls) :
    AreLines feed ls' := by
  induction h generalizing ls' with
  | nil =>
    rw [List.sublist_nil.1 hsub]
    exact .nil
  | last hbody hne =>
    rcases List.sublist_cons_iff.1 hsub with hnone | ⟨more, rfl, hmore⟩
    · rw [List.sublist_nil.1 hnone]
      exact .nil
    · rw [List.sublist_nil.1 hmore]
      exact .last hbody hne
  | cons hbody _ ih =>
    rcases List.sublist_cons_iff.1 hsub with hless | ⟨more, rfl, hmore⟩
    · exact ih hless
    · exact .cons hbody (ih hmore)

/-! ## Changing lines one by one -/

/-- **Lines stay lines**, if what is done to each keeps the end of the
line where it is and puts no other into it. -/
theorem AreLines.map {f : List α → List α} (h : AreLines feed ls)
    (hend : ∀ body, feed ∉ body → ∃ body', feed ∉ body' ∧ f (body ++ [feed]) = body' ++ [feed])
    (hlast : ∀ body, feed ∉ body → body ≠ [] → feed ∉ f body ∧ f body ≠ []) :
    AreLines feed (ls.map f) := by
  induction h with
  | nil => exact .nil
  | last hbody hne =>
    obtain ⟨hfeed, hne⟩ := hlast _ hbody hne
    exact .last hfeed hne
  | cons hbody _ ih =>
    obtain ⟨body', hbody', heq⟩ := hend _ hbody
    rw [List.map_cons, heq]
    exact .cons hbody' ih

namespace Bytes

theorem areLines_lines (bs : Bytes) : AreLines lineFeed (lines bs) :=
  areLines_splitAfter lineFeed bs

end Bytes

end LiteralMark
