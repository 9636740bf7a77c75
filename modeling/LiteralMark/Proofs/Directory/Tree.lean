import LiteralMark.Proofs.Directory.Target
/-!
# Directories — volumes that are trees

The entries of a volume are a list, and nothing in its type says that an
entry lies in a directory. On a disk it does (`IsTree`). Then the parent of
a directory is a directory, so a path that ends in `..` leads to no file,
and every path that leads to a file names an entry (`IsTree.names_of_find`).
Nor does a path through all links lead to a link (`IsTree.ne_link`).
-/

namespace LiteralMark.Volume

variable {v : Volume} {p q : Place} {path : Bytes} {name : Name} {e : Entry} {id : Nat} {f : File}

/-- Every entry lies in a directory. -/
def IsTree (v : Volume) : Prop := ∀ a ∈ v.entries, v.entry? a.1.dropLast = some .folder

instance : Decidable v.IsTree := inferInstanceAs (Decidable (∀ a ∈ v.entries, _))

namespace IsTree

theorem folder_above (hv : v.IsTree) (he : v.entry? p = some e) :
    v.entry? p.dropLast = some .folder := by
  rcases eq_or_ne p [] with rfl | hp
  · exact entry?_root
  rw [entry?_eq_lookup hp, List.lookup_eq_some_iff] at he
  obtain ⟨front, back, hentries, -⟩ := he
  exact hv (p, e) (by simp [hentries])

/-- A path that leads to a file does not end in `..`. -/
theorem getLast?_ne_up (hv : v.IsTree) (h : v.find path = .ok (.file id f)) :
    (Path.parts path).getLast? ≠ some Path.up := by
  intro hlast
  obtain ⟨q, hresolve, hq⟩ := find_eq_ok_iff.1 h
  obtain ⟨-, -, -, hleads⟩ := resolve_eq_ok_iff.1 hresolve
  have hparts := List.dropLast_append_getLast? Path.up hlast
  have hnot : v.entry? q ≠ some .folder := by simp [hq]
  -- a slash at the end only stays where `..` has led to
  have hstep : ∃ r, v.Leads linkLimit r [Path.up] q ∨ v.Leads linkLimit r [Path.here] q := by
    rw [Path.steps, ← hparts] at hleads
    split at hleads
    · obtain ⟨r, -, hr⟩ := hleads.split
      exact ⟨r, Or.inr hr⟩
    · obtain ⟨r, -, hr⟩ := hleads.split
      exact ⟨r, Or.inl hr⟩
  obtain ⟨r, hr | hr⟩ := hstep
  · cases hr with
    | up hfolder hdone =>
      cases hdone
      exact hnot (hv.folder_above hfolder)
    | enter _ hproper _ _ _ => exact hproper.2.1 rfl
    | link _ hproper _ _ => exact hproper.2.1 rfl
  · cases hr with
    | stay hfolder hdone =>
      cases hdone
      exact hnot hfolder
    | enter _ hproper _ _ _ => exact hproper.1 rfl
    | link _ hproper _ _ => exact hproper.1 rfl

/-- **Every path that leads to a file names an entry.** -/
theorem names_of_find (hv : v.IsTree) (h : v.find path = .ok (.file id f)) :
    ∃ folder name, v.Names path folder name :=
  Volume.names_of_find h (hv.getLast?_ne_up h)

/-- **A way through all links does not end at one**, unless it starts
there. -/
theorem ne_link {n : Nat} {xs : List Name} (hv : v.IsTree) (h : v.Leads n p xs q)
    (hp : ∀ target, v.entry? p ≠ some (.link target)) (target : Bytes) :
    v.entry? q ≠ some (.link target) := by
  induction h with
  | done => exact hp target
  | stay _ _ ih => exact ih hp
  | up hfolder _ ih => exact ih (by simp [hv.folder_above hfolder])
  | enter _ _ he hlink _ ih => exact ih (by simp [he, hlink])
  | @link n p q name rest old hfolder _ _ _ ih =>
    refine ih fun target => ?_
    rw [linkStart]
    split
    · simp
    · simp [hfolder]

end IsTree

end LiteralMark.Volume
