import LiteralMark.Proofs.Directory.Parent
import LiteralMark.Proofs.Scratch
import LiteralMark.Proofs.Text.Boundary
import Mathlib.Algebra.Group.Nat.Defs
import Mathlib.Data.List.GetD
import Mathlib.Data.List.Nodup
import Mathlib.Data.List.Perm.Subperm
/-!
# Scratch buffers — when one can be made

The name of a scratch file is the name of its target with sixteen bytes
more: two dots, six letters and an ending. The letters count in base 36,
so the numbers below 36⁶ give different names (`fileName_inj`) and larger
ones give none that is new (`fileName_mod`). There are more numbers to try
than entries, so a name that is free is found (`exists_free`). Hence little
can go wrong: if a target leads anywhere, its directory is found, and a
buffer is made unless the name of the target is readable and too long for
sixteen bytes more (`create_of_hasRoom`).
-/

namespace LiteralMark

theorem Volume.length_fullPath (v : Volume) (directory : Bytes) (name : Name) :
    (v.fullPath directory name).length = (v.fullPath directory []).length + name.length := by
  have hjoin (front : Bytes) :
      (Path.join front name).length = (Path.join front []).length + name.length := by
    simp only [Path.join]
    split
    · simp
    · simp only [List.length_append, List.length_cons, List.length_nil]
      omega
  simp only [Volume.fullPath]
  split
  · exact hjoin _
  · exact hjoin _

namespace Scratch

variable {v : Volume} {target : Bytes} {folder q : Place} {k n m : Nat}

/-! ## The letters that make names unique -/

theorem letter_mem (n : Nat) : letters.getD n 'a' ∈ letters := by
  by_cases hn : n < letters.length
  · rw [List.getD_eq_getElem _ _ hn]
    exact List.getElem_mem hn
  · rw [List.getD_eq_default _ _ (Nat.not_lt.1 hn)]
    decide

theorem encode_letters_nodup : (letters.map fun c => Utf8.encode [c]).Nodup := by decide +kernel

theorem utf8Size_letter {c : Char} (hc : c ∈ letters) : c.utf8Size = 1 := by
  have hall : letters.all (·.utf8Size == 1) := by decide
  simpa using List.all_eq_true.1 hall c hc

theorem length_encode_tag (k n : Nat) : (Utf8.encode (tag k n)).length = k := by
  rw [Utf8.length_encode]
  induction k generalizing n with
  | zero => rfl
  | succ k ih =>
    rw [tag, Utf8.size_append, ih, Utf8.size_cons, utf8Size_letter (letter_mem _), Utf8.size_nil]

/-- **Numbers that are small enough have different letters.** -/
theorem encode_tag_inj (hn : n < letters.length ^ k) (hm : m < letters.length ^ k)
    (h : Utf8.encode (tag k n) = Utf8.encode (tag k m)) : n = m := by
  have hpos : 0 < letters.length := by decide
  induction k generalizing n m with
  | zero =>
    rw [Nat.pow_zero] at hn hm
    omega
  | succ k ih =>
    -- the letters in front take equally many bytes, so the last ones agree
    rw [tag, tag, Utf8.encode_append, Utf8.encode_append] at h
    obtain ⟨hfront, hlast⟩ := List.append_inj h (by rw [length_encode_tag, length_encode_tag])
    rw [Nat.pow_succ] at hn hm
    have hdiv := ih (Nat.div_lt_of_lt_mul (by rwa [Nat.mul_comm]))
      (Nat.div_lt_of_lt_mul (by rwa [Nat.mul_comm])) hfront
    have hmod : n % letters.length = m % letters.length := by
      have hn' := Nat.mod_lt n hpos
      have hm' := Nat.mod_lt m hpos
      rw [List.getD_eq_getElem _ _ hn', List.getD_eq_getElem _ _ hm'] at hlast
      refine (List.getElem?_inj (by rwa [List.length_map]) encode_letters_nodup).1 ?_
      simp only [List.getElem?_map, List.getElem?_eq_getElem hn', List.getElem?_eq_getElem hm',
        Option.map_some, hlast]
    rw [← Nat.div_add_mod n letters.length, hdiv, hmod, Nat.div_add_mod]

/-- **Larger numbers repeat the letters.** -/
theorem tag_mod (k n : Nat) : tag k (n % letters.length ^ k) = tag k n := by
  induction k generalizing n with
  | zero => rfl
  | succ k ih =>
    rw [tag, tag, Nat.pow_succ', Nat.mod_mul_right_div_self, ih, Nat.mod_mul_right_mod]

/-! ## The name of a scratch file -/

/-- What the name of a scratch file is made of: the name of the target if
it can be read. -/
def stem (target : Bytes) : Name :=
  match Path.fileName? target with
  | some name => if (Utf8.decode? name).isSome then name else Utf8.ofString "source"
  | none => Utf8.ofString "source"

theorem fileName_eq (target : Bytes) (n : Nat) : fileName target n =
    Utf8.ofString "." ++ stem target ++ Utf8.ofString "." ++ Utf8.encode (tag 6 n) ++ ending := rfl

theorem length_fileName (target : Bytes) (n : Nat) :
    (fileName target n).length = (stem target).length + 16 := by
  have hdot : (Utf8.ofString ".").length = 1 := by decide
  have hending : ending.length = 8 := by decide
  simp only [fileName_eq, List.length_append, hdot, hending, length_encode_tag]
  omega

theorem fileName_inj (hn : n < letters.length ^ 6) (hm : m < letters.length ^ 6)
    (h : fileName target n = fileName target m) : n = m := by
  rw [fileName_eq, fileName_eq] at h
  exact encode_tag_inj hn hm (List.append_cancel_left (List.append_cancel_right h))

theorem fileName_mod (target : Bytes) (n : Nat) :
    fileName target (n % letters.length ^ 6) = fileName target n := by
  rw [fileName_eq, fileName_eq, tag_mod]

/-- The name of a path is readable, and too long to be part of the name of
a scratch file. -/
def HasLongName (target : Bytes) : Prop :=
  ∃ name, Path.fileName? target = some name ∧ (Utf8.decode? name).isSome ∧ 239 < name.length

theorem hasLongName_iff : HasLongName target ↔ Volume.nameLimit < (fileName target n).length := by
  have hsource : (Utf8.ofString "source").length = 6 := by decide
  have hlimit : Volume.nameLimit = 239 + 16 := rfl
  rw [length_fileName, hlimit, Nat.add_lt_add_iff_right, HasLongName, stem]
  cases Path.fileName? target with
  | none => simp [hsource]
  | some name =>
    by_cases hread : (Utf8.decode? name).isSome
    · simp [hread]
    · simp [hread, hsource]

theorem zero_notMem_encode_tag (k n : Nat) : 0 ∉ Utf8.encode (tag k n) := by
  refine Utf8.ascii_notMem_encode (by decide) fun c hc => ?_
  have hall : letters.all (·.val.toNat != (0 : UInt8).toNat) := by decide
  suffices hletter : c ∈ letters by simpa using List.all_eq_true.1 hall c hletter
  induction k generalizing n with
  | zero => cases hc
  | succ k ih =>
    rcases List.mem_append.1 hc with hc | hc
    · exact ih _ hc
    · rw [List.mem_singleton.1 hc]
      exact letter_mem _

theorem contains_fileName (h : target.contains 0 = false) (n : Nat) :
    (fileName target n).contains 0 = false := by
  rw [List.contains_eq_mem, decide_eq_false_iff_not] at h ⊢
  have hstem : 0 ∉ stem target := by
    rw [stem]
    split
    · rename_i name hname
      split
      · exact fun hmem => h (Path.fileName?_subset hname hmem)
      · decide
    · decide
  have hdot : 0 ∉ Utf8.ofString "." := by decide
  have hending : 0 ∉ ending := by decide
  simp only [fileName_eq, List.mem_append, not_or]
  exact ⟨⟨⟨⟨hdot, hstem⟩, hdot⟩, zero_notMem_encode_tag 6 n⟩, hending⟩

/-! ## A name that is not taken -/

/-- **Few entries leave a name free**: the first numbers give more places
than there are entries. -/
theorem exists_free_of_few (hfew : v.entries.length < letters.length ^ 6) (folder : Place)
    (target : Bytes) :
    ∃ n ∈ List.range (v.entries.length + 1), v.entry? (folder ++ [fileName target n]) = none := by
  by_contra hall
  push Not at hall
  -- the places of the first numbers differ, and all of them would be entries
  have hnodup : ((List.range (v.entries.length + 1)).map
      fun n => folder ++ [fileName target n]).Nodup := by
    refine List.Nodup.map_on (fun n hn m hm heq => ?_) List.nodup_range
    rw [List.mem_range] at hn hm
    have hname := List.append_cancel_left heq
    exact fileName_inj (by omega) (by omega) (List.singleton_inj.1 hname)
  have hsubset : ((List.range (v.entries.length + 1)).map
      fun n => folder ++ [fileName target n]) ⊆ v.entries.map Prod.fst := by
    intro place hplace
    obtain ⟨n, hn, rfl⟩ := List.mem_map.1 hplace
    have htaken := hall n hn
    rw [Volume.entry?_eq_lookup (Volume.append_name_ne_root _)] at htaken
    by_contra hnot
    refine htaken (List.lookup_eq_none_iff.2 fun a ha => ?_)
    simp only [bne_iff_ne, ne_eq]
    exact fun heq => hnot (heq ▸ List.mem_map_of_mem ha)
  have hle := (List.subperm_of_subset hnodup hsubset).length_le
  rw [List.length_map, List.length_map, List.length_range] at hle
  omega

/-- **Among the first numbers one is not taken, if any is not.** Where the
entries are not few, the first numbers give every name there is. -/
theorem exists_free (h : ∃ n, v.entry? (folder ++ [fileName target n]) = none) :
    ∃ n ∈ List.range (v.entries.length + 1), v.entry? (folder ++ [fileName target n]) = none := by
  obtain ⟨n, hn⟩ := h
  rcases Nat.lt_or_ge v.entries.length (letters.length ^ 6) with hfew | hmany
  · exact exists_free_of_few hfew folder target
  · refine ⟨n % letters.length ^ 6, ?_, by rwa [fileName_mod]⟩
    rw [List.mem_range]
    have := Nat.mod_lt n (Nat.pow_pos (n := 6) (by decide : 0 < letters.length))
    omega

/-! ## Making a buffer -/

theorem exists_createFirst {numbers : List Nat}
    (hfolder : v.resolveFolder (Path.directory target) = .ok folder)
    (hadmits : ∀ n, v.Admits (Path.directory target) (fileName target n))
    (hfree : ∃ n ∈ numbers, v.entry? (folder ++ [fileName target n]) = none) :
    ∃ s w, createFirst v target numbers = .ok (s, w) := by
  induction numbers with
  | nil => simp at hfree
  | cons n numbers ih =>
    have hcreate := (Volume.create_eq_ok_iff (f := ⟨initialMode, []⟩)).2
      ⟨hadmits n, folder, hfolder, rfl⟩
    rw [createFirst, Device.carry_faultless]
    cases hentry : v.entry? (folder ++ [fileName target n]) with
    | none =>
      rw [hentry] at hcreate
      rw [hcreate]
      exact ⟨_, _, rfl⟩
    | some e =>
      rw [hentry] at hcreate
      rw [hcreate]
      refine ih ?_
      obtain ⟨m, hm, hnone⟩ := hfree
      rcases List.mem_cons.1 hm with rfl | hm
      · rw [hentry] at hnone
        cases hnone
      · exact ⟨m, hm, hnone⟩

/-- There is room for a scratch file beside a target: there is a working
directory, no path of a scratch file is too long, and a name is free in
the directory of the target. -/
structure HasRoom (v : Volume) (target : Bytes) : Prop where
  home : v.entry? v.home = some .folder
  short : ∀ n, (v.fullPath (Path.directory target) (fileName target n)).length < Volume.pathLimit
  free : ∀ folder, v.resolveFolder (Path.directory target) = .ok folder →
    ∃ n, v.entry? (folder ++ [fileName target n]) = none

/-- There is room in every volume with few entries, if one name is short
enough: all names are equally long. -/
theorem hasRoom_of_few (hhome : v.entry? v.home = some .folder)
    (hshort : (v.fullPath (Path.directory target) (fileName target 0)).length < Volume.pathLimit)
    (hfew : v.entries.length < letters.length ^ 6) : HasRoom v target where
  home := hhome
  short n := by
    rw [Volume.length_fullPath, length_fileName] at hshort ⊢
    exact hshort
  free folder _ := by
    obtain ⟨n, -, hn⟩ := exists_free_of_few hfew folder target
    exact ⟨n, hn⟩

/-- A name that is too long is refused at once. -/
theorem create_of_hasLongName (v : Volume) (h : HasLongName target) :
    ∃ cause, create v target = .error (.createScratch (Path.directory target) cause) := by
  have hlong := (hasLongName_iff (n := 0)).1 h
  rw [create, List.range_succ_eq_map, createFirst, Device.carry_faultless]
  cases hcreate : v.create (Path.directory target) (fileName target 0) ⟨initialMode, []⟩ with
  | error e => exact ⟨_, rfl⟩
  | ok r =>
    have hadmits := (Volume.create_eq_ok_iff.1 hcreate).1
    exact absurd hadmits.2.2 (Nat.not_le.2 hlong)

/-- **Where there is room, only a long name keeps a buffer from being
made.** -/
theorem create_of_hasRoom (hroom : HasRoom v target) (hname : ¬ HasLongName target)
    (h : v.resolve target = .ok q) : ∃ s w, create v target = .ok (s, w) := by
  obtain ⟨folder, hfolder⟩ := Volume.exists_resolveFolder_directory hroom.home h
  obtain ⟨hnul, -⟩ := Volume.resolve_eq_ok_iff.1 h
  refine exists_createFirst hfolder (fun n => ⟨contains_fileName hnul n, hroom.short n, ?_⟩)
    (exists_free (hroom.free folder hfolder))
  exact Nat.not_lt.1 (mt hasLongName_iff.2 hname)

end Scratch

end LiteralMark
