import LiteralMark.Edit
import LiteralMark.Proofs.Text.Utf8
import Mathlib.Data.List.Forall2
/-!
# Insertions — what they leave of a text

`Inserts` relates a list to a longer one that arose from it by inserting
some of a few given texts, in any number and anywhere. Applying an edit
is such a change (`Edit.inserts_of_apply`), and so is its encoding
(`Inserts.encode`).

Where no inserted text ends a line, insertions go with the lines: the ends
of lines correspond, and what lies between two of them arises from what
lay between them before. The one place where this can fail is the end of
a text whose last line is ended, for what is inserted there is a line of
its own. So if there are as many lines as before, they correspond one to
one (`Inserts.forall₂_splitAfter`).
-/

namespace LiteralMark

variable {α : Type} {texts : List (List α)} {xs ys zs : List α} {feed x : α}

/-- A list arises from another one by inserting some of the texts. -/
inductive Inserts (texts : List (List α)) : List α → List α → Prop
  /-- Nothing is left. -/
  | nil : Inserts texts [] []
  /-- An element of the list is kept. -/
  | keep (x : α) {xs ys : List α} : Inserts texts xs ys → Inserts texts (x :: xs) (x :: ys)
  /-- A text is inserted. -/
  | insert {text xs ys : List α} : text ∈ texts → Inserts texts xs ys →
      Inserts texts xs (text ++ ys)

namespace Inserts

theorem refl (texts : List (List α)) (xs : List α) : Inserts texts xs xs := by
  induction xs with
  | nil => exact .nil
  | cons x xs ih => exact .keep x ih

/-- Insertions into two lists are insertions into both in a row. -/
theorem append {xs' ys' : List α} (h : Inserts texts xs ys) (h' : Inserts texts xs' ys') :
    Inserts texts (xs ++ xs') (ys ++ ys') := by
  induction h with
  | nil => exact h'
  | keep x _ ih => exact .keep x ih
  | insert htext _ ih =>
    rw [List.append_assoc]
    exact .insert htext ih

/-- **No element is lost**, and their order is kept. -/
theorem sublist (h : Inserts texts xs ys) : xs.Sublist ys := by
  induction h with
  | nil => exact .slnil
  | keep x _ ih => exact ih.cons_cons x
  | insert _ _ ih => exact ih.trans (List.sublist_append_right _ _)

/-- An element of no inserted text is there if it was there before. -/
theorem mem_iff (h : Inserts texts xs ys) (hx : ∀ text ∈ texts, x ∉ text) : x ∈ ys ↔ x ∈ xs := by
  induction h with
  | nil => rfl
  | keep y _ ih => rw [List.mem_cons, List.mem_cons, ih]
  | insert htext _ ih => simp only [List.mem_append, hx _ htext, false_or, ih]

/-- **Where a list is cut in two, so is the other**: an element of the one
is found again in the other, between the same parts. -/
theorem split (h : Inserts texts (xs ++ feed :: zs) ys) :
    ∃ front back, ys = front ++ feed :: back ∧ Inserts texts xs front ∧ Inserts texts zs back := by
  generalize hws : xs ++ feed :: zs = ws at h
  induction h generalizing xs with
  | nil => simp at hws
  | keep x h ih =>
    rcases List.append_eq_cons_iff.1 hws with ⟨rfl, hcons⟩ | ⟨xs, rfl, rfl⟩
    · cases hcons
      exact ⟨[], _, rfl, .nil, h⟩
    · obtain ⟨front, back, rfl, hfront, hback⟩ := ih rfl
      exact ⟨x :: front, back, rfl, .keep x hfront, hback⟩
  | @insert text _ _ htext _ ih =>
    obtain ⟨front, back, rfl, hfront, hback⟩ := ih hws
    exact ⟨text ++ front, back, (List.append_assoc _ _ _).symm, .insert htext hfront, hback⟩

/-- **Insertions that end no line go with the lines**, if there are as
many lines as before. -/
theorem forall₂_splitAfter [DecidableEq α] (hfeed : ∀ text ∈ texts, feed ∉ text)
    (h : Inserts texts xs ys)
    (hlength : (splitAfter feed ys).length = (splitAfter feed xs).length) :
    List.Forall₂ (Inserts texts) (splitAfter feed xs) (splitAfter feed ys) := by
  have hlines := areLines_splitAfter feed xs
  rw [← flatten_splitAfter feed xs] at h
  generalize splitAfter feed xs = ls at h hlength hlines ⊢
  -- along the lines of the first list; each of them has its end in the second
  induction hlines generalizing ys with
  | nil =>
    rw [List.length_nil, List.length_eq_zero_iff] at hlength
    rw [hlength]
    exact .nil
  | @last body hbody hne =>
    rw [List.flatten_cons, List.flatten_nil, List.append_nil] at h
    have hys : ys ≠ [] := by
      rintro rfl
      exact hne (List.sublist_nil.1 h.sublist)
    rw [splitAfter_of_notMem (mt (h.mem_iff hfeed).1 hbody) hys]
    exact .cons h .nil
  | @cons body ls hbody _ ih =>
    rw [List.flatten_cons, List.append_assoc, List.singleton_append] at h
    obtain ⟨front, back, rfl, hfront, hback⟩ := h.split
    rw [splitAfter_append_cons (mt (hfront.mem_iff hfeed).1 hbody)] at hlength ⊢
    exact .cons (hfront.append (.refl texts [feed])) (ih hback (by simpa using hlength))

/-- Insertions into a text are insertions into its encoding. -/
theorem encode {texts : List Text} {cs out : Text} (h : Inserts texts cs out) :
    Inserts (texts.map Utf8.encode) (Utf8.encode cs) (Utf8.encode out) := by
  induction h with
  | nil => exact .nil
  | keep c _ ih => exact (Inserts.refl _ (String.utf8EncodeChar c)).append ih
  | insert htext _ ih =>
    rw [Utf8.encode_append]
    exact .insert (List.mem_map_of_mem htext) ih

end Inserts

/-! ## Edits -/

namespace Utf8

theorem append_of_splitAt? {n : Nat} {cs front back : Text}
    (h : splitAt? n cs = some (front, back)) : front ++ back = cs := by
  induction cs generalizing n front with
  | nil =>
    cases n with
    | zero =>
      cases h
      rfl
    | succ n => cases h
  | cons c cs ih =>
    cases n with
    | zero =>
      cases h
      rfl
    | succ n =>
      rw [splitAt?] at h
      split at h
      · obtain ⟨⟨before, after⟩, hsplit, heq⟩ := Option.map_eq_some_iff.1 h
        cases heq
        rw [List.cons_append, ih hsplit]
      · cases h

end Utf8

namespace Edit

variable {e : Edit} {a b : Insertion} {source rest output : Text} {texts : List Text}

theorem mem_place : b ∈ place a e ↔ b = a ∨ b ∈ e := by
  induction e with
  | nil => simp [place]
  | cons c e ih =>
    rw [place]
    split
    · exact List.mem_cons
    · rw [List.mem_cons, ih, List.mem_cons, or_left_comm]

/-- Ordering an edit keeps its insertions. -/
theorem mem_ordered : b ∈ e.ordered ↔ b ∈ e := by
  induction e with
  | nil => rfl
  | cons a e ih => rw [List.mem_cons, ← ih, ordered, List.foldr_cons, mem_place, ordered]

theorem inserts_of_applyFrom {cursor : Nat} (htexts : ∀ a ∈ e, a.text ∈ texts)
    (h : applyFrom cursor rest e = .ok output) : Inserts texts rest output := by
  induction e generalizing cursor rest output with
  | nil =>
    cases h
    exact .refl texts _
  | cons a e ih =>
    obtain ⟨ha, he⟩ := List.forall_mem_cons.1 htexts
    rw [applyFrom] at h
    split at h
    · cases h
    rename_i chunk after hsplit
    cases htail : applyFrom a.offset after e with
    | error offset =>
      rw [htail] at h
      cases h
    | ok tail =>
      rw [htail] at h
      cases h
      rw [← Utf8.append_of_splitAt? hsplit, List.append_assoc]
      exact (Inserts.refl texts chunk).append (.insert ha (ih he htail))

/-- **An edit inserts its texts and does nothing else.** -/
theorem inserts_of_apply (htexts : ∀ a ∈ e, a.text ∈ texts) (h : e.apply source = .ok output) :
    Inserts texts source output :=
  inserts_of_applyFrom (fun a ha => htexts a (mem_ordered.1 ha)) h

end Edit

end LiteralMark
