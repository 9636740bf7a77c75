import LiteralMark.Proofs.Directory.Numbers
import LiteralMark.Proofs.Directory.Tree
/-!
# Directories — what a path can see

To follow a path is to ask, again and again, whether a place holds a
directory, a link, a file or nothing; which file it is makes no difference.
Two volumes in which every place holds the same, files being as good as
each other, have the same shape (`SameShape`), and paths lead to the same
places in both, or fail with the same error (`SameShape.resolve_eq`). A
new file in the place of a file keeps the shape, so every path leads where
it led before, and a path that names another file leads to the same file
(`NamesFile.find_putNew`).
-/

namespace LiteralMark

namespace Volume

variable {v w : Volume} {p q place : Place} {xs : List Name} {n : Nat} {path : Bytes}
variable {follow : Bool} {expand expand' : Place → List Name → Except SystemError Place}

/-- Two entries that a path cannot tell apart: the same, or two files. -/
inductive Alike : Option Entry → Option Entry → Prop
  | same (e : Option Entry) : Alike e e
  | files (m n : Nat) (f g : File) : Alike (some (.file m f)) (some (.file n g))

theorem Alike.eq_folder_iff {e e' : Option Entry} (h : Alike e e') :
    e' = some .folder ↔ e = some .folder := by
  cases h with
  | same => exact Iff.rfl
  | files => simp

theorem Alike.eq_none_iff {e e' : Option Entry} (h : Alike e e') : e' = none ↔ e = none := by
  cases h with
  | same => exact Iff.rfl
  | files => simp

/-- Two volumes that a path cannot tell apart. -/
structure SameShape (v w : Volume) : Prop where
  home_eq : w.home = v.home
  places_eq : w.entries.map (·.1) = v.entries.map (·.1)
  alike : ∀ p, Alike (v.entry? p) (w.entry? p)

namespace SameShape

theorem refl (v : Volume) : v.SameShape v := ⟨rfl, rfl, fun _ => .same _⟩

theorem length_entries (h : v.SameShape w) : w.entries.length = v.entries.length := by
  simpa using congrArg List.length h.places_eq

theorem isTree (h : v.SameShape w) (hv : v.IsTree) : w.IsTree := by
  intro a ha
  have hplace : a.1 ∈ v.entries.map (·.1) := h.places_eq ▸ List.mem_map_of_mem ha
  obtain ⟨b, hb, hab⟩ := List.mem_map.1 hplace
  rw [(h.alike _).eq_folder_iff, ← hab]
  exact hv b hb

/-! ## Following a path -/

/-- One step looks at two entries, and at no more than their kinds. -/
theorem walkWith_eq (h : v.SameShape w) :
    w.walkWith follow expand p xs = v.walkWith follow expand p xs := by
  induction xs generalizing p with
  | nil => rfl
  | cons name rest ih =>
    have hp := h.alike p
    have hnext := h.alike (p ++ [name])
    simp only [walkWith, ih]
    generalize v.entry? p = e at hp ⊢
    generalize w.entry? p = e' at hp ⊢
    generalize v.entry? (p ++ [name]) = next at hnext ⊢
    generalize w.entry? (p ++ [name]) = next' at hnext ⊢
    cases hp with
    | files => rfl
    | same =>
      cases hnext with
      | same => rfl
      | files => rfl

theorem walk_eq (h : v.SameShape w) : w.walk follow n p xs = v.walk follow n p xs := by
  induction n generalizing p xs with
  | zero => exact h.walkWith_eq
  | succ n ih =>
    have hexpand : w.walk follow n = v.walk follow n := funext fun _ => funext fun _ => ih
    rw [walk, walk, hexpand]
    exact h.walkWith_eq

theorem startOf_eq (h : v.SameShape w) : w.startOf path = v.startOf path := by
  simp only [startOf, h.home_eq]

/-- **A path leads to the same place, or fails with the same error.** -/
theorem resolve_eq (h : v.SameShape w) : w.resolve path = v.resolve path := by
  simp only [resolve, h.startOf_eq, h.walk_eq]

theorem resolveFolder_eq (h : v.SameShape w) : w.resolveFolder path = v.resolveFolder path := by
  rw [resolveFolder, resolveFolder, h.resolve_eq]
  cases v.resolve path with
  | error err => rfl
  | ok q =>
    have hq := h.alike q
    simp only [bind, Except.bind]
    generalize v.entry? q = e at hq ⊢
    generalize w.entry? q = e' at hq ⊢
    cases hq with
    | same => rfl
    | files => rfl

/-- It leads to the same entry, if the two volumes have the same one there. -/
theorem find_eq (h : v.SameShape w)
    (hentry : ∀ q, v.resolve path = .ok q → w.entry? q = v.entry? q) :
    w.find path = v.find path := by
  rw [find, find, h.resolve_eq]
  cases hresolve : v.resolve path with
  | error err => rfl
  | ok q => simp only [bind, Except.bind, hentry q hresolve]

end SameShape

/-! ## The place of a file -/

/-- Whether a link at the end is followed makes no difference where there
is none. -/
theorem walkWith_true_of_false
    (hexpand : ∀ p xs, expand p xs = .ok q → expand' p xs = .ok q)
    (hlink : ∀ target, v.entry? q ≠ some (.link target))
    (h : v.walkWith false expand p xs = .ok q) : v.walkWith true expand' p xs = .ok q := by
  induction xs generalizing p with
  | nil => exact h
  | cons name rest ih =>
    rw [walkWith] at h ⊢
    split at h
    · split at h
      · rename_i hhere
        rw [if_pos hhere]
        exact ih h
      rename_i hhere
      rw [if_neg hhere]
      split at h
      · rename_i hup
        rw [if_pos hup]
        exact ih h
      rename_i hup
      rw [if_neg hup]
      split at h
      · cases h
      rename_i hlen
      rw [if_neg hlen]
      split at h
      · cases h
      · rename_i target he
        split at h
        · -- a link that is not followed would be where the walk ends
          cases h
          exact absurd he (hlink target)
        · rw [if_neg (by simp)]
          exact hexpand _ _ h
      · exact ih h
    · cases h
    · cases h

theorem walk_true_of_false (h : v.walk false n p xs = .ok q)
    (hlink : ∀ target, v.entry? q ≠ some (.link target)) : v.walk true n p xs = .ok q := by
  induction n generalizing p xs with
  | zero => exact walkWith_true_of_false (fun _ _ h => by cases h) hlink h
  | succ n ih => exact walkWith_true_of_false (fun _ _ => ih) hlink h

/-- A path names a file: the entry that its last component names, which is
not followed if it is a link, is a file. -/
structure NamesFile (v : Volume) (path : Bytes) (place : Place) : Prop where
  walk_eq : v.walk false linkLimit (v.startOf path) (Path.steps path) = .ok place
  isFile : ∃ id f, v.entry? place = some (.file id f)

namespace NamesFile

theorem ne_root (h : v.NamesFile path place) : place ≠ [] := by
  obtain ⟨id, f, hfile⟩ := h.isFile
  exact ne_root_of_file hfile

/-- **The path leads to the file it names**, if it leads anywhere. -/
theorem eq_of_resolve (h : v.NamesFile path place) (hq : v.resolve path = .ok q) : q = place := by
  obtain ⟨id, f, hfile⟩ := h.isFile
  obtain ⟨-, -, -, hleads⟩ := resolve_eq_ok_iff.1 hq
  have hwalk := walk_true_of_false h.walk_eq (by simp [hfile])
  exact hleads.unique (walk_eq_ok_iff.1 hwalk)

/-- **A new file in the place of a file keeps the shape.** -/
theorem sameShape_putNew (h : v.NamesFile path place) (g : File) :
    v.SameShape (v.putNew place g) := by
  obtain ⟨id, f, hfile⟩ := h.isFile
  refine ⟨home_insert, ?_, fun p => ?_⟩
  · rw [putNew, insert_of_some hfile h.ne_root, List.map_map]
    refine List.map_congr_left fun a _ => ?_
    simp only [Function.comp_apply]
    split <;> rfl
  · by_cases hp : p = place
    · rw [hp, hfile, putNew, entry?_insert_self h.ne_root]
      exact .files ..
    · rw [putNew, entry?_insert_of_ne hp]
      exact .same _

/-- **And it is not seen by a path that names another one.** -/
theorem find_putNew {other : Bytes} (h : v.NamesFile path place) (hother : v.NamesFile other q)
    (hne : place ≠ q) (g : File) : (v.putNew q g).find path = v.find path := by
  refine (hother.sameShape_putNew g).find_eq fun r hr => ?_
  rw [h.eq_of_resolve hr]
  exact entry?_insert_of_ne hne

end NamesFile

end Volume

end LiteralMark
