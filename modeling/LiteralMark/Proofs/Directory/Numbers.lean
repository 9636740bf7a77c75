import LiteralMark.Proofs.Directory.Entries
import Mathlib.Logic.Equiv.Basic
/-!
# Directories — file numbers

The number of a file tells which names are names of one file, and that is
all it tells. Volumes that differ in their numbers only, by a permutation,
are the same tree (`SameTree`). Numbers are given in the order in which
files are made: two entries that are replaced by new files in one order or
in the other hold the same files, and the two new numbers have changed
places (`sameTree_putNew`). The swap touches no old number, since
both new ones are fresh.
-/

namespace LiteralMark

/-- The entry with the number of its file changed. -/
def Entry.renumber (σ : Nat → Nat) : Entry → Entry
  | .file id f => .file (σ id) f
  | e => e

namespace Volume

variable {v : Volume} {p q : Place} {e a b : Entry} {σ : Nat → Nat} {n bound : Nat}
variable {l : List (Place × Entry)}

/-- The volume with the numbers of all files changed. -/
def renumber (σ : Nat → Nat) (v : Volume) : Volume :=
  { v with entries := v.entries.map fun (p, e) => (p, e.renumber σ) }

/-- Two volumes are the same tree: the same places hold the same directories,
links and files, and the same names are names of one file. -/
def SameTree (v w : Volume) : Prop := ∃ σ : Equiv.Perm Nat, w = v.renumber σ

theorem renumber_id (v : Volume) : v.renumber id = v := by
  have hid (a : Place × Entry) : (a.1, a.2.renumber id) = a := by
    obtain ⟨p, e⟩ := a
    cases e <;> rfl
  simp only [renumber, hid, List.map_id']

theorem SameTree.refl (v : Volume) : v.SameTree v := ⟨Equiv.refl Nat, (renumber_id v).symm⟩

/-- The volume with a new file at a place. -/
def putNew (v : Volume) (p : Place) (f : File) : Volume := v.insert p (.file v.freshId f)

/-! ## Numbers in use -/

/-- A number above all that are in use is not passed by the search for a
fresh one. -/
theorem foldl_raise_le (h : ∀ p m f, (p, .file m f) ∈ l → m < bound) (hn : n ≤ bound) :
    l.foldl raise n ≤ bound := by
  induction l generalizing n with
  | nil => exact hn
  | cons a l ih =>
    refine ih (fun p m f hm => h p m f (List.mem_cons_of_mem _ hm)) ?_
    obtain ⟨p, e⟩ := a
    cases e with
    | file m f => exact Nat.max_le.2 ⟨hn, h p m f List.mem_cons_self⟩
    | folder => exact hn
    | link target => exact hn

/-- **Fresh numbers are given one after the other.** -/
theorem freshId_putNew (h : v.entry? p = some e) (hp : p ≠ []) (f : File) :
    (v.putNew p f).freshId = v.freshId + 1 := by
  refine Nat.le_antisymm (foldl_raise_le (fun r m g hm => ?_) (Nat.zero_le _))
    (lt_freshId (entry?_insert_self hp))
  -- a number in use is the new one, or was in use before
  rw [putNew, insert_of_some h hp] at hm
  obtain ⟨⟨r', old⟩, hold, heq⟩ := List.mem_map.1 hm
  by_cases hr : r' = p
  · simp only [hr, BEq.rfl, if_true, Prod.mk.injEq, Entry.file.injEq] at heq
    omega
  · simp only [beq_iff_eq, hr, if_false, Prod.mk.injEq] at heq
    obtain ⟨rfl, rfl⟩ := heq
    exact Nat.lt_succ_of_lt (lt_foldl_raise 0 hold)

/-- Changing numbers that are not in use changes nothing. -/
theorem renumber_of_unused (h : ∀ m, m < v.freshId → σ m = m) : v.renumber σ = v := by
  have hsame : ∀ a ∈ v.entries, (a.1, a.2.renumber σ) = a := by
    rintro ⟨p, e⟩ ha
    cases e with
    | file m f => simp only [Entry.renumber, h m (lt_foldl_raise 0 ha)]
    | folder => rfl
    | link target => rfl
  rw [renumber, List.map_congr_left hsame, List.map_id']

/-! ## Two insertions -/

theorem renumber_insert (σ : Nat → Nat) (v : Volume) (p : Place) (e : Entry) :
    (v.insert p e).renumber σ = (v.renumber σ).insert p (e.renumber σ) := by
  have hany : (v.renumber σ).entries.any (·.1 == p) = v.entries.any (·.1 == p) := by
    simp [renumber, Function.comp_def]
  rw [insert, insert, hany]
  split
  · have hmap (a : Place × Entry) :
        (fun (r, old) => (r, Entry.renumber σ old)) (if a.1 == p then (a.1, e) else (a.1, a.2)) =
          if a.1 == p then (a.1, e.renumber σ) else (a.1, a.2.renumber σ) := by
      split <;> rfl
    simp only [renumber, List.map_map, Function.comp_def, hmap]
  · simp [renumber]

/-- **Insertions at two places that have entries commute.** -/
theorem insert_insert_comm (hpq : p ≠ q) (hp : v.entry? p = some a) (hq : v.entry? q = some b)
    (hp' : p ≠ []) (hq' : q ≠ []) (e e' : Entry) :
    (v.insert p e).insert q e' = (v.insert q e').insert p e := by
  have hq₁ : entry? (v.insert p e) q = some b := (entry?_insert_of_ne (Ne.symm hpq)).trans hq
  have hp₁ : entry? (v.insert q e') p = some a := (entry?_insert_of_ne hpq).trans hp
  rw [insert_of_some hq₁ hq', insert_of_some hp₁ hp', insert_of_some hp hp', insert_of_some hq hq']
  simp only [List.map_map]
  congr 1
  refine List.map_congr_left fun (r, old) _ => ?_
  simp only [Function.comp_apply, beq_iff_eq]
  by_cases hr : r = p
  · simp [hr, hpq]
  · by_cases hrq : r = q
    · simp [hrq, Ne.symm hpq]
    · simp [hr, hrq]

/-- Two new files, with the numbers they get. -/
theorem putNew_putNew (h : v.entry? p = some e) (hp : p ≠ []) (f g : File) :
    (v.putNew p f).putNew q g =
      (v.insert p (.file v.freshId f)).insert q (.file (v.freshId + 1) g) := by
  rw [putNew, freshId_putNew h hp, putNew]

/-- **Two entries that become new files become the same ones in either
order.** -/
theorem sameTree_putNew (hpq : p ≠ q) (hp : v.entry? p = some a) (hq : v.entry? q = some b)
    (hp' : p ≠ []) (hq' : q ≠ []) (f g : File) :
    ((v.putNew p f).putNew q g).SameTree ((v.putNew q g).putNew p f) := by
  have hunused : ∀ m, m < v.freshId → Equiv.swap v.freshId (v.freshId + 1) m = m := fun m hm =>
    Equiv.swap_apply_of_ne_of_ne (by omega) (by omega)
  refine ⟨Equiv.swap v.freshId (v.freshId + 1), ?_⟩
  rw [putNew_putNew hp hp', putNew_putNew hq hq', renumber_insert, renumber_insert,
    renumber_of_unused hunused, insert_insert_comm hpq hp hq hp' hq']
  simp only [Entry.renumber, Equiv.swap_apply_left, Equiv.swap_apply_right]

end Volume

end LiteralMark
