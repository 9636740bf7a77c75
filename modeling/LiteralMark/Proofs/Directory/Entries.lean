import LiteralMark.Directory.Volume
import Mathlib.Data.List.Basic
/-!
# Directories — the entries of a volume

A volume is read through `entry?`, and this file says what the two
updates do to that view: `insert` and `erase` change the entry at their
own place and no other. Two facts are sharper than the view. An entry
that is inserted where there was none and erased again leaves the very
volume it was inserted into (`erase_insert`), and an entry inserted
where there is one leaves as many entries as before
(`length_entries_insert`).
-/

namespace LiteralMark

namespace Volume

variable {v w : Volume} {p q : Place} {e e' : Entry}

/-- The root is a directory, whatever the entries are. -/
@[simp] theorem entry?_root : v.entry? [] = some .folder := rfl

/-- Below the root the entries decide. -/
theorem entry?_eq_lookup (h : p ≠ []) : v.entry? p = v.entries.lookup p := by
  cases p with
  | nil => exact absurd rfl h
  | cons name rest => rfl

/-- What has no entry is not the root. -/
theorem ne_root_of_entry?_none (h : v.entry? p = none) : p ≠ [] := by
  rintro rfl
  simp at h

/-- Nor is a file. -/
theorem ne_root_of_file {n : Nat} {f : File} (h : v.entry? p = some (.file n f)) : p ≠ [] := by
  rintro rfl
  simp at h

/-- A name in a directory is not the root. -/
theorem append_name_ne_root (name : Name) : p ++ [name] ≠ [] := by simp

@[simp] theorem home_insert : (v.insert p e).home = v.home := by
  unfold insert
  split <;> rfl

@[simp] theorem home_erase : (v.erase p).home = v.home := rfl

/-! ## Looking up in lists of entries -/

/-- Replacing the entries at one place, seen from that place. -/
theorem lookup_replace_self {l : List (Place × Entry)} (h : l.any (·.1 == p)) :
    (l.map fun (r, old) => if r == p then (r, e) else (r, old)).lookup p = some e := by
  induction l with
  | nil => simp at h
  | cons a l ih =>
    obtain ⟨r, old⟩ := a
    by_cases hr : r = p
    · subst hr
      simp
    · have hl : l.any (·.1 == p) := by simpa [hr] using h
      have hne : (p == r) = false := by simpa using Ne.symm hr
      simp only [List.map_cons, beq_iff_eq, hr, if_false, List.lookup_cons, hne]
      simpa only [beq_iff_eq] using ih hl

/-- And from any other place. -/
theorem lookup_replace_of_ne (hq : q ≠ p) (l : List (Place × Entry)) :
    (l.map fun (r, old) => if r == p then (r, e) else (r, old)).lookup q = l.lookup q := by
  induction l with
  | nil => rfl
  | cons a l ih =>
    obtain ⟨r, old⟩ := a
    by_cases hr : r = p
    · subst hr
      have hne : (q == r) = false := by simpa using hq
      simp only [List.map_cons, BEq.rfl, if_true, List.lookup_cons, hne, ih]
    · have hne : (r == p) = false := by simpa using hr
      simp only [List.map_cons, hne, Bool.false_eq_true, if_false, List.lookup_cons, ih]

/-- Nothing is found at a place no entry has. -/
theorem lookup_eq_none_of_any {l : List (Place × Entry)} (h : ¬ l.any (·.1 == p)) :
    l.lookup p = none := by
  rw [List.lookup_eq_none_iff]
  intro a ha
  simp only [List.any_eq_true, beq_iff_eq, not_exists, not_and] at h
  simpa using fun heq => h a ha heq.symm

/-- And a place where nothing is found is the place of no entry. -/
theorem any_eq_false_of_lookup {l : List (Place × Entry)} (h : l.lookup p = none) :
    l.any (·.1 == p) = false := by
  rw [List.lookup_eq_none_iff] at h
  rw [List.any_eq_false]
  intro a ha
  simpa using fun heq : a.1 = p => bne_iff_ne.1 (h a ha) heq.symm

/-! ## The two updates -/

/-- **What is inserted is found.** -/
theorem entry?_insert_self (h : p ≠ []) : entry? (v.insert p e) p = some e := by
  rw [entry?_eq_lookup h, insert]
  split
  · rename_i hany
    exact lookup_replace_self hany
  · rename_i hany
    simp [List.lookup_append, lookup_eq_none_of_any hany]

/-- **An insertion changes one place only.** -/
theorem entry?_insert_of_ne (h : q ≠ p) : entry? (v.insert p e) q = v.entry? q := by
  rcases eq_or_ne q [] with rfl | hq
  · simp
  rw [entry?_eq_lookup hq, entry?_eq_lookup hq, insert]
  split
  · exact lookup_replace_of_ne h _
  · have hne : (q == p) = false := by simpa using h
    simp [List.lookup_append, List.lookup_cons, hne]

/-- An insertion where there was no entry keeps all there were. -/
theorem entry?_insert_of_free (h : v.entry? p = none) (hq : v.entry? q = some e) :
    entry? (v.insert p e') q = some e := by
  have hne : q ≠ p := by
    rintro rfl
    simp [h] at hq
  rw [entry?_insert_of_ne hne, hq]

/-- What is erased is gone. -/
theorem entry?_erase_self (h : p ≠ []) : entry? (v.erase p) p = none := by
  rw [entry?_eq_lookup h, erase, List.lookup_eq_none_iff]
  intro a ha
  simp only [List.mem_filter, bne_iff_ne, ne_eq] at ha
  simpa using fun heq => ha.2 heq.symm

/-- **Erasing changes one place only.** -/
theorem entry?_erase_of_ne (h : q ≠ p) : entry? (v.erase p) q = v.entry? q := by
  rcases eq_or_ne q [] with rfl | hq
  · simp
  rw [entry?_eq_lookup hq, entry?_eq_lookup hq, erase]
  induction v.entries with
  | nil => rfl
  | cons a l ih =>
    obtain ⟨r, old⟩ := a
    by_cases hr : r = p
    · subst hr
      have hne : (q == r) = false := by simpa using h
      simpa [List.lookup_cons, hne] using ih
    · have hkeep : (r != p) = true := by simpa using hr
      simp only [List.filter_cons, hkeep, if_true, List.lookup_cons, ih]

/-! ## Updates that undo each other -/

/-- Where there is no entry, inserting appends one. -/
theorem insert_of_none (h : v.entry? p = none) :
    v.insert p e = { v with entries := v.entries ++ [(p, e)] } := by
  rw [entry?_eq_lookup (ne_root_of_entry?_none h)] at h
  simp [insert, any_eq_false_of_lookup h]

/-- Where there is no entry, erasing changes nothing. -/
theorem erase_of_none (h : v.entry? p = none) : v.erase p = v := by
  rw [entry?_eq_lookup (ne_root_of_entry?_none h), List.lookup_eq_none_iff] at h
  have hkeep : v.entries.filter (fun a => a.1 != p) = v.entries := by
    rw [List.filter_eq_self]
    intro a ha
    exact bne_iff_ne.2 fun heq : a.1 = p => bne_iff_ne.1 (h a ha) heq.symm
  rw [erase, hkeep]

/-- **A new entry that is erased again leaves no trace.** -/
theorem erase_insert (h : v.entry? p = none) : (v.insert p e).erase p = v := by
  have hkeep : v.entries.filter (fun a => a.1 != p) = v.entries :=
    congrArg Volume.entries (erase_of_none h)
  rw [insert_of_none h, erase]
  simp [List.filter_append, hkeep]

/-- Of two insertions at a new place the second counts. -/
theorem insert_insert (h : v.entry? p = none) :
    (v.insert p e).insert p e' = v.insert p e' := by
  have hlookup := h
  rw [entry?_eq_lookup (ne_root_of_entry?_none h), List.lookup_eq_none_iff] at hlookup
  have hkeep : v.entries.map (fun (r, old) => if r == p then (r, e') else (r, old)) =
      v.entries := by
    refine List.map_congr_left (fun a ha => ?_) |>.trans (List.map_id _)
    have hne : (a.1 == p) = false := by
      simpa using fun heq : a.1 = p => bne_iff_ne.1 (hlookup a ha) heq.symm
    simp only [hne, Bool.false_eq_true, if_false, id_eq]
  have hany : (v.entries ++ [(p, e)]).any (·.1 == p) := by simp
  rw [insert_of_none h, insert_of_none h, insert, if_pos hany, List.map_append, hkeep]
  simp

/-- Where there is an entry, inserting puts another one in its place. -/
theorem insert_of_some (h : v.entry? p = some e') (hp : p ≠ []) :
    v.insert p e =
      { v with entries := v.entries.map fun (r, old) => if r == p then (r, e) else (r, old) } := by
  have hany : v.entries.any (·.1 == p) := by
    by_contra hnot
    rw [entry?_eq_lookup hp, lookup_eq_none_of_any hnot] at h
    cases h
  rw [insert, if_pos hany]

/-- An insertion at a place that has an entry keeps their number. -/
theorem length_entries_insert (h : v.entry? p = some e') (hp : p ≠ []) :
    (v.insert p e).entries.length = v.entries.length := by
  rw [insert_of_some h hp, List.length_map]

/-! ## File numbers -/

/-- One step of the search for a fresh number. -/
def raise (n : Nat) (a : Place × Entry) : Nat :=
  match a.2 with
  | .file id _ => max n (id + 1)
  | _ => n

theorem le_raise (n : Nat) (a : Place × Entry) : n ≤ raise n a := by
  unfold raise
  split
  · exact Nat.le_max_left _ _
  · exact Nat.le_refl _

theorem le_foldl_raise (l : List (Place × Entry)) (n : Nat) : n ≤ l.foldl raise n := by
  induction l generalizing n with
  | nil => exact Nat.le_refl _
  | cons a l ih => exact Nat.le_trans (le_raise n a) (ih _)

/-- The number found is above those of all files that were looked at. -/
theorem lt_foldl_raise {l : List (Place × Entry)} {m : Nat} {f : File} (n : Nat)
    (h : (p, .file m f) ∈ l) : m < l.foldl raise n := by
  induction l generalizing n with
  | nil => simp at h
  | cons a l ih =>
    rcases List.mem_cons.1 h with rfl | h
    · have hm : m < raise n (p, .file m f) :=
        Nat.lt_of_lt_of_le (Nat.lt_succ_self m) (Nat.le_max_right _ _)
      exact Nat.lt_of_lt_of_le hm (le_foldl_raise l _)
    · exact ih _ h

/-- **A fresh number is above every number in use.** -/
theorem lt_freshId {n : Nat} {f : File} (h : v.entry? p = some (.file n f)) : n < v.freshId := by
  rw [entry?_eq_lookup (ne_root_of_file h), List.lookup_eq_some_iff] at h
  obtain ⟨l₁, l₂, hentries, -⟩ := h
  have hmem : (p, Entry.file n f) ∈ v.entries := by
    rw [hentries]
    simp
  exact lt_foldl_raise 0 hmem

/-! ## Replacing one entry -/

/-- Two volumes differ in one entry only, which in the second is a file
that shares its number with no entry of the first. -/
structure ReplacedAt (v w : Volume) (place : Place) (f : File) : Prop where
  home_eq : w.home = v.home
  others : ∀ q, q ≠ place → w.entry? q = v.entry? q
  file : ∃ id, w.entry? place = some (.file id f) ∧ ∀ q g, v.entry? q ≠ some (.file id g)

/-- **Inserting a file with a fresh number replaces one entry.** -/
theorem replacedAt_insert (h : p ≠ []) (f : File) :
    v.ReplacedAt (v.insert p (.file v.freshId f)) p f where
  home_eq := home_insert
  others _ hq := entry?_insert_of_ne hq
  file := ⟨v.freshId, entry?_insert_self h, fun _ _ hq => absurd (lt_freshId hq) (Nat.lt_irrefl _)⟩

end Volume

end LiteralMark
