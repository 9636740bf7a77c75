import LiteralMark.Proofs.Directory.Resolution
/-!
# Directories — the entry that a path names

A path that leads to a file names an entry of some directory: its last
component, taken in the directory that the components in front of it
lead to. `Names` says so, and `names_of_find` finds it. The entry need
not be the file: it can be a link that leads there. What is opened goes
through the link, and what is renamed onto the path replaces the link;
`rename_eq_ok_iff` says exactly when a rename succeeds, and
`Names.rename` that it then replaces the entry named.
-/

namespace LiteralMark

namespace Path

variable {path : Bytes}

theorem split_ne_nil (path : Bytes) : split path ≠ [] := by
  cases path with
  | nil => simp [split]
  | cons b rest =>
    rw [split]
    split
    · simp
    · split <;> simp

/-- A path without components is empty or ends in a slash. -/
theorem hasTrailingSlash_of_parts_eq_nil (h : parts path = []) (hne : path ≠ []) :
    hasTrailingSlash path := by
  induction path with
  | nil => exact absurd rfl hne
  | cons b rest ih =>
    by_cases hb : b = slash
    · subst hb
      have hrest : parts rest = [] := by simpa [parts, split] using h
      cases rest with
      | nil => rfl
      | cons c rest => simpa [hasTrailingSlash] using ih hrest (List.cons_ne_nil _ _)
    · obtain ⟨first, more, hsplit⟩ := List.exists_cons_of_ne_nil (split_ne_nil rest)
      simp [parts, split, hb, hsplit] at h

/-- Without a slash at the end the steps are the components. -/
theorem steps_eq_parts (h : hasTrailingSlash path = false) : steps path = parts path := by
  simp [steps, h]

end Path

namespace Volume

variable {v w : Volume} {path : Bytes} {folder place p q : Place} {name : Name} {e : Entry}
variable {id : Nat} {f : File}

/-- A path names an entry of a directory: the components in front of the
last lead to the directory, and the last is the name of an entry there
that is no directory and leads to none. -/
structure Names (v : Volume) (path : Bytes) (folder : Place) (name : Name) : Prop where
  noNul : path.contains 0 = false
  short : path.length < pathLimit
  noSlash : Path.hasTrailingSlash path = false
  proper : IsProper name
  parts_eq : ∃ front, Path.parts path = front ++ [name] ∧
    v.Leads linkLimit (v.startOf path) front folder
  isFolder : v.entry? folder = some .folder
  present : ∃ e, v.entry? (folder ++ [name]) = some e
  deadEnd : v.IsDeadEnd (folder ++ [name])

/-! ## Finding a file -/

/-- **When a path leads to a place.** -/
theorem resolve_eq_ok_iff : v.resolve path = .ok q ↔
    path.contains 0 = false ∧ path.length < pathLimit ∧ path ≠ [] ∧
      v.Leads linkLimit (v.startOf path) (Path.steps path) q := by
  rw [resolve, ← walk_eq_ok_iff]
  split
  · rename_i hnul
    simp only [hnul, reduceCtorEq, false_and]
  split
  · rename_i hlong
    simp only [Nat.not_lt.2 hlong, reduceCtorEq, false_and, and_false]
  split
  · rename_i hnil
    simp only [hnil, ne_eq, not_true, reduceCtorEq, false_and, and_false]
  · rename_i hnul hlong hnil
    simp only [Bool.eq_false_iff.2 hnul, Nat.not_le.1 hlong, ne_eq, hnil, not_false_eq_true,
      true_and]

/-- **When a path leads to an entry.** -/
theorem find_eq_ok_iff : v.find path = .ok e ↔
    ∃ q, v.resolve path = .ok q ∧ v.entry? q = some e := by
  rw [find]
  cases v.resolve path with
  | error err => simp [bind, Except.bind]
  | ok q => cases hq : v.entry? q <;> simp [bind, Except.bind, hq]

/-- A path leads to an entry: it is a path that the system takes, and its
steps lead there from the root or from the working directory, through as
many links as are followed. -/
def LeadsTo (v : Volume) (path : Bytes) (e : Entry) : Prop :=
  path.contains 0 = false ∧ path.length < pathLimit ∧ path ≠ [] ∧
    ∃ q, v.Leads linkLimit (v.startOf path) (Path.steps path) q ∧ v.entry? q = some e

theorem find_eq_ok_iff_leadsTo : v.find path = .ok e ↔ v.LeadsTo path e := by
  simp only [find_eq_ok_iff, resolve_eq_ok_iff, LeadsTo]
  constructor
  · rintro ⟨q, ⟨hnul, hshort, hne, hleads⟩, hq⟩
    exact ⟨hnul, hshort, hne, q, hleads, hq⟩
  · rintro ⟨hnul, hshort, hne, q, hleads, hq⟩
    exact ⟨q, ⟨hnul, hshort, hne, hleads⟩, hq⟩

/-- **When a path leads to a directory.** -/
theorem resolveFolder_eq_ok_iff : v.resolveFolder path = .ok q ↔
    v.resolve path = .ok q ∧ v.entry? q = some .folder := by
  rw [resolveFolder]
  cases v.resolve path with
  | error err => simp [bind, Except.bind]
  | ok r =>
    simp only [bind, Except.bind]
    split
    · rename_i hr
      simp only [Except.ok.injEq]
      exact ⟨fun h => ⟨h, h ▸ hr⟩, fun h => h.1⟩
    · rename_i hr
      simp only [reduceCtorEq, Except.ok.injEq, false_iff, not_and]
      rintro rfl hfolder
      exact hr hfolder

/-- One last name that leads to something other than a directory is the
name of an entry, and of a dead end. -/
theorem Leads.last_name {n : Nat} (h : v.Leads n p [name] q) (hup : name ≠ Path.up)
    (hq : v.entry? q ≠ some .folder) :
    IsProper name ∧ (∃ e, v.entry? (p ++ [name]) = some e) ∧ v.IsDeadEnd (p ++ [name]) := by
  cases h with
  | stay hp h => cases h; exact absurd hp hq
  | up _ _ => exact absurd rfl hup
  | enter _ hproper he hlink h =>
    cases h
    refine ⟨hproper, ⟨_, he⟩, hq, fun target ht => ?_⟩
    exact absurd (Option.some.inj (he.symm.trans ht)) (hlink target)
  | link _ hproper he h =>
    refine ⟨hproper, ⟨_, he⟩, by simp [he], fun target ht n' r hr => ?_⟩
    rw [List.dropLast_concat] at hr
    rw [List.append_nil] at h
    cases he.symm.trans ht
    rwa [hr.unique h]

/-- **The entry that a path to a file names.** The path cannot end in a
slash, nor in `.`, since a directory would be found; that it does not end
in `..` is asked for, because the entries of a volume need not form a
tree. -/
theorem names_of_find (h : v.find path = .ok (.file id f))
    (hup : (Path.parts path).getLast? ≠ some Path.up) : ∃ folder name, v.Names path folder name := by
  obtain ⟨q, hresolve, hq⟩ := find_eq_ok_iff.1 h
  obtain ⟨hnul, hshort, hne, hleads⟩ := resolve_eq_ok_iff.1 hresolve
  have hnot : v.entry? q ≠ some .folder := by simp [hq]
  have hslash : Path.hasTrailingSlash path = false := by
    by_contra hslash
    rw [Bool.not_eq_false] at hslash
    rw [Path.steps, if_pos hslash] at hleads
    obtain ⟨r, -, hlast⟩ := hleads.split
    have hr := hlast.folder_of_ne_nil (List.cons_ne_nil _ _)
    cases hlast with
    | stay _ hdone => cases hdone; exact hnot hr
    | enter _ hproper _ _ _ => exact hproper.1 rfl
    | link _ hproper _ _ => exact hproper.1 rfl
  rw [Path.steps_eq_parts hslash] at hleads
  have hparts : Path.parts path ≠ [] := fun hnil => by
    rw [Path.hasTrailingSlash_of_parts_eq_nil hnil hne] at hslash
    cases hslash
  obtain ⟨front, name, hsplit⟩ := (List.eq_nil_or_concat (Path.parts path)).resolve_left hparts
  rw [List.concat_eq_append] at hsplit
  rw [hsplit] at hleads
  obtain ⟨folder, hfront, hlast⟩ := hleads.split
  have hfolder := hlast.folder_of_ne_nil (List.cons_ne_nil _ _)
  have hname : name ≠ Path.up := fun heq => hup (by simp [hsplit, heq])
  obtain ⟨hproper, hpresent, hdead⟩ := hlast.last_name hname hnot
  exact ⟨folder, name, hnul, hshort, hslash, hproper, ⟨front, hsplit, hfront⟩, hfolder, hpresent,
    hdead⟩

/-! ## Renaming onto a path -/

/-- **When a rename succeeds, and what it does.** -/
theorem rename_eq_ok_iff {source : Place} : v.rename source path = .ok w ↔
    path.contains 0 = false ∧ path.length < pathLimit ∧ Path.hasTrailingSlash path = false ∧
      ∃ front name folder e, Path.parts path = front ++ [name] ∧
        v.Leads linkLimit (v.startOf path) (front ++ [Path.here]) folder ∧
        IsProper name ∧ v.entry? source = some e ∧ v.entry? (folder ++ [name]) ≠ some .folder ∧
        w = (v.erase source).insert (folder ++ [name]) e := by
  unfold rename
  simp only [bind, Except.bind, throw, throwThe, MonadExceptOf.throw, pure, Except.pure]
  constructor
  · intro h
    split at h
    · cases h
    split at h
    · cases h
    split at h
    · cases h
    split at h
    · cases h
    rename_i hnul hlong _ _ name hlast
    split at h
    · cases h
    rename_i folder hwalk
    split at h
    · cases h
    rename_i hdots
    split at h
    · cases h
    rename_i e he
    split at h
    · cases h
    split at h
    · cases h
    rename_i hlen hslash
    split at h
    · cases h
    rename_i hplace
    cases h
    obtain ⟨hhere, hup⟩ := not_or.1 hdots
    exact ⟨Bool.eq_false_iff.2 hnul, Nat.not_le.1 hlong, Bool.eq_false_iff.2 hslash, _, name,
      folder, e, (List.dropLast_append_getLast? name hlast).symm, walk_eq_ok_iff.1 hwalk,
      ⟨hhere, hup, Nat.not_lt.1 hlen⟩, he, hplace, rfl⟩
  · rintro ⟨hnul, hlong, hslash, front, name, folder, e, hparts, hleads, hproper, he, hplace, rfl⟩
    obtain ⟨hhere, hup, hlen⟩ := hproper
    have hne : path ≠ [] := by
      rintro rfl
      simp [Path.parts, Path.split] at hparts
    have hlast : (Path.parts path).getLast? = some name := by simp [hparts]
    have hfront : (Path.parts path).dropLast = front := by simp [hparts]
    rw [if_neg (by simp only [hnul, Bool.false_eq_true, not_false_eq_true]),
      if_neg (Nat.not_le.2 hlong), if_neg hne]
    simp only [hlast, hfront, hleads.walk_eq, hhere, hup, or_self, if_false, he,
      if_neg (Nat.not_lt.2 hlen), hslash, Bool.false_eq_true]

/-! ## What the entry named is good for -/

namespace Names

/-- The place of the entry, as it is found when a last link is not
followed. -/
theorem walk_false (h : v.Names path folder name) :
    v.walk false linkLimit (v.startOf path) (Path.steps path) = .ok (folder ++ [name]) := by
  obtain ⟨front, hparts, hfront⟩ := h.parts_eq
  obtain ⟨e, he⟩ := h.present
  rw [Path.steps_eq_parts h.noSlash, hparts]
  exact hfront.walk_false h.isFolder h.proper he

/-- **A rename onto the path replaces the entry**, in every volume that
has all entries of the one the path was looked up in. -/
theorem rename {source : Place} (h : v.Names path folder name) (hhome : w.home = v.home)
    (hvw : ∀ q e, v.entry? q = some e → w.entry? q = some e) (hsource : w.entry? source = some e) :
    w.rename source path = .ok ((w.erase source).insert (folder ++ [name]) e) := by
  obtain ⟨front, hparts, hfront⟩ := h.parts_eq
  obtain ⟨old, hold⟩ := h.present
  have hstart : w.startOf path = v.startOf path := by simp only [startOf, hhome]
  have hleads : v.Leads linkLimit (v.startOf path) (front ++ [Path.here]) folder :=
    hfront.append (.stay h.isFolder (.done : v.Leads 0 folder [] folder))
  refine rename_eq_ok_iff.2 ⟨h.noNul, h.short, h.noSlash, front, name, folder, e, hparts, ?_,
    h.proper, hsource, ?_, rfl⟩
  · rw [hstart]
    exact hleads.mono hvw
  · rw [hvw _ _ hold, ← hold]
    exact h.deadEnd.1

/-- **The path leads to what replaces the entry**, if that is a file. -/
theorem find_replaced (h : v.Names path folder name) (hhome : w.home = v.home)
    (hoff : ∀ q, q ≠ folder ++ [name] → w.entry? q = v.entry? q)
    (hnew : w.entry? (folder ++ [name]) = some (.file id f)) : w.find path = .ok (.file id f) := by
  obtain ⟨front, hparts, hfront⟩ := h.parts_eq
  have hne : path ≠ [] := by
    rintro rfl
    simp [Path.parts, Path.split] at hparts
  have hstart : w.startOf path = v.startOf path := by simp only [startOf, hhome]
  have hfolder : w.entry? folder = some .folder := by
    rw [hoff folder (by simp)]
    exact h.isFolder
  refine find_eq_ok_iff.2 ⟨_, resolve_eq_ok_iff.2 ⟨h.noNul, h.short, hne, ?_⟩, hnew⟩
  rw [Path.steps_eq_parts h.noSlash, hparts, hstart]
  exact (hfront.replace hoff h.deadEnd h.isFolder).append
    (.enter hfolder h.proper hnew (by simp) (.done : w.Leads 0 _ [] _))

/-- **Directories are found as before when the entry is replaced.** -/
theorem resolveFolder_replaced {directory : Bytes} (h : v.Names path folder name)
    (hhome : w.home = v.home) (hoff : ∀ q, q ≠ folder ++ [name] → w.entry? q = v.entry? q)
    (hq : v.resolveFolder directory = .ok q) : w.resolveFolder directory = .ok q := by
  obtain ⟨hresolve, hfolder⟩ := resolveFolder_eq_ok_iff.1 hq
  obtain ⟨hnul, hshort, hne, hleads⟩ := resolve_eq_ok_iff.1 hresolve
  have hstart : w.startOf directory = v.startOf directory := by simp only [startOf, hhome]
  refine resolveFolder_eq_ok_iff.2 ⟨resolve_eq_ok_iff.2 ⟨hnul, hshort, hne, ?_⟩, ?_⟩
  · rw [hstart]
    exact hleads.replace hoff h.deadEnd hfolder
  · rw [hoff q fun heq => h.deadEnd.1 (heq ▸ hfolder)]
    exact hfolder

end Names

/-! ## The place that a path names -/

/-- The place that a path names: its last component, in the directory that
the components in front of it lead to. Nothing need be there, and a link
that is there is meant itself. -/
def place? (v : Volume) (path : Bytes) : Option Place :=
  match (Path.parts path).getLast?,
    v.walk true linkLimit (v.startOf path) ((Path.parts path).dropLast ++ [Path.here]) with
  | some name, .ok folder => some (folder ++ [name])
  | _, _ => none

theorem place?_eq_some {front : List Name} (hparts : Path.parts path = front ++ [name])
    (hleads : v.Leads linkLimit (v.startOf path) (front ++ [Path.here]) folder) :
    v.place? path = some (folder ++ [name]) := by
  rw [place?, hparts, List.getLast?_concat, List.dropLast_concat, hleads.walk_eq]

theorem Names.place?_eq (h : v.Names path folder name) :
    v.place? path = some (folder ++ [name]) := by
  obtain ⟨front, hparts, hfront⟩ := h.parts_eq
  exact place?_eq_some hparts (hfront.append (.stay h.isFolder (.done : v.Leads 0 folder [] folder)))

/-- **A rename replaces what the path names**, also if the file that is
renamed was given another content before. -/
theorem rename_place? {source : Place} {u : Volume} {f' : File} (h : u.rename source path = .ok w)
    (hhome : u.home = v.home) (hoff : ∀ q, q ≠ source → u.entry? q = v.entry? q)
    (hnew : u.entry? source = some (.file id f')) :
    ∃ place, v.place? path = some place ∧ place ≠ [] ∧
      w = (u.erase source).insert place (.file id f') := by
  obtain ⟨-, -, -, front, name, folder, e, hparts, hleads, -, he, -, rfl⟩ := rename_eq_ok_iff.1 h
  obtain rfl : e = .file id f' := Option.some.inj (he.symm.trans hnew)
  -- a file is a dead end, whatever its content is, so the way is the same
  have hdead : u.IsDeadEnd source := ⟨by simp [hnew], by simp [hnew]⟩
  have hfolder : u.entry? folder = some .folder := by
    obtain ⟨r, -, hlast⟩ := hleads.split
    cases hlast with
    | stay hr hdone =>
      cases hdone
      exact hr
    | enter _ hproper _ _ _ => exact absurd rfl hproper.1
    | link _ hproper _ _ => exact absurd rfl hproper.1
  have hleads' : v.Leads linkLimit (v.startOf path) (front ++ [Path.here]) folder := by
    have hstart : v.startOf path = u.startOf path := by simp only [startOf, hhome]
    rw [hstart]
    exact hleads.replace (fun q hq => (hoff q hq).symm) hdead hfolder
  exact ⟨folder ++ [name], place?_eq_some hparts hleads', append_name_ne_root name, rfl⟩

end Volume

end LiteralMark
