import LiteralMark.Proofs.Directory.Target
import LiteralMark.Scratch
/-!
# Scratch buffers — what they leave behind

A scratch buffer adds one entry, at a place that had none (`IsNew`).
So discarding it gives the old volume back, entry by entry and number by
number, and so does a promotion that fails. A promotion that succeeds
onto a path that names an entry replaces that entry and nothing else
(`IsNew.promote_of_names`). The device under the volume decides whether
a buffer is made and promoted, never what becomes of the volume then
(`createFirst_ok`, `rename_of_promote`).

Whether a buffer can be made depends on little of a volume: where the
directory of the target lies, and which places are taken. Two volumes
that agree in these give the same buffer (`createFirst_congr`), so a
buffer that could be made before a promotion can be made after it.
-/

namespace LiteralMark

namespace Volume

variable {v w : Volume} {directory : Bytes} {name : Name} {f : File} {place : Place}

/-- What making a file asks of the path and the name, before it looks for
the name in the directory. -/
def Admits (v : Volume) (directory : Bytes) (name : Name) : Prop :=
  name.contains 0 = false ∧ (v.fullPath directory name).length < pathLimit ∧
    name.length ≤ nameLimit

/-- **When a new file is made, and what is there then.** There is none if
the name is taken. -/
theorem create_eq_ok_iff {r : Option (Place × Volume)} : v.create directory name f = .ok r ↔
    v.Admits directory name ∧ ∃ folder, v.resolveFolder directory = .ok folder ∧
      r = match v.entry? (folder ++ [name]) with
        | some _ => none
        | none => some (folder ++ [name], v.insert (folder ++ [name]) (.file v.freshId f)) := by
  unfold create
  simp only [bind, Except.bind, throw, throwThe, MonadExceptOf.throw, pure, Except.pure]
  constructor
  · intro h
    split at h
    · cases h
    split at h
    · cases h
    rename_i hnul hlong
    split at h
    · cases h
    rename_i folder hfolder
    split at h
    · cases h
    rename_i hlen
    refine ⟨⟨Bool.eq_false_iff.2 hnul, Nat.not_le.1 hlong, Nat.not_lt.1 hlen⟩, folder, hfolder, ?_⟩
    cases hentry : v.entry? (folder ++ [name]) with
    | some e =>
      rw [hentry] at h
      cases h
      rfl
    | none =>
      rw [hentry] at h
      cases h
      rfl
  · rintro ⟨⟨hnul, hlong, hlen⟩, folder, hfolder, rfl⟩
    rw [if_neg (by simp only [hnul, Bool.false_eq_true, not_false_eq_true]),
      if_neg (Nat.not_le.2 hlong), hfolder]
    simp only [if_neg (Nat.not_lt.2 hlen)]
    cases v.entry? (folder ++ [name]) <;> rfl

/-- A new file lies at a place that had no entry. -/
theorem create_eq_some (h : v.create directory name f = .ok (some (place, w))) :
    v.entry? place = none ∧ w = v.insert place (.file v.freshId f) := by
  obtain ⟨-, folder, -, hr⟩ := create_eq_ok_iff.1 h
  split at hr
  · cases hr
  · rename_i hfree
    cases hr
    exact ⟨hfree, rfl⟩

/-- The path of a name depends on the working directory only. -/
theorem fullPath_congr (hhome : w.home = v.home) :
    w.fullPath directory name = v.fullPath directory name := by
  simp only [fullPath, homePath, hhome]

/-- **Making a file looks only at the directory and the places taken.** -/
theorem create_congr (name : Name) (f : File) (hhome : w.home = v.home)
    (hfolder : w.resolveFolder directory = v.resolveFolder directory)
    (htaken : ∀ p, w.entry? p = none ↔ v.entry? p = none) :
    (w.create directory name f).map (Option.map Prod.fst) =
      (v.create directory name f).map (Option.map Prod.fst) := by
  have hpath : w.fullPath directory name = v.fullPath directory name := fullPath_congr hhome
  unfold create
  simp only [bind, Except.bind, throw, throwThe, MonadExceptOf.throw, pure, Except.pure, hpath,
    hfolder]
  split
  · rfl
  split
  · rfl
  split
  · rfl
  rename_i folder _
  split
  · rfl
  cases hv : v.entry? (folder ++ [name]) with
  | none => simp only [(htaken _).2 hv, Except.map, Option.map]
  | some e =>
    cases hw : w.entry? (folder ++ [name]) with
    | none => simp [(htaken _).1 hw] at hv
    | some e' => rfl

end Volume

namespace Scratch

variable {s t : Scratch} {v w v' : Volume} {target bytes : Bytes} {mode : Nat} {device : Device}

/-- The file of a buffer is new in a volume that came from another one by
making it, where there was none. -/
structure IsNew (s : Scratch) (v w : Volume) : Prop where
  free : v.entry? s.place = none
  volume_eq : w = v.insert s.place (.file v.freshId ⟨initialMode, []⟩)

/-! ## Making a buffer -/

/-- Whichever name is taken, the file is new and nothing was written. -/
theorem isNew_of_createFirst {numbers : List Nat}
    (h : createFirst v target numbers device = .ok (s, w)) : s.IsNew v w ∧ s.content = [] := by
  induction numbers with
  | nil => cases h
  | cons n numbers ih =>
    rw [createFirst] at h
    split at h
    · cases h
    · exact ih h
    · rename_i hcreate
      cases h
      obtain ⟨hfree, rfl⟩ := Volume.create_eq_some (Device.carry_ok hcreate)
      exact ⟨⟨hfree, rfl⟩, rfl⟩

/-- **The file of a buffer that is made is new.** -/
theorem isNew_of_create (h : create v target device = .ok (s, w)) : s.IsNew v w :=
  (isNew_of_createFirst h).1

theorem content_of_create (h : create v target device = .ok (s, w)) : s.content = [] :=
  (isNew_of_createFirst h).2

/-- A device that lets a buffer be made makes no difference. -/
theorem createFirst_ok {numbers : List Nat}
    (h : createFirst v target numbers device = .ok (s, w)) :
    createFirst v target numbers = .ok (s, w) := by
  induction numbers with
  | nil => cases h
  | cons n numbers ih =>
    rw [createFirst] at h
    rw [createFirst, Device.carry_faultless]
    split at h
    · cases h
    · rename_i hcreate
      rw [Device.carry_ok hcreate]
      exact ih h
    · rename_i hcreate
      rw [Device.carry_ok hcreate]
      exact h

theorem create_ok (h : create v target device = .ok (s, w)) : create v target = .ok (s, w) :=
  createFirst_ok h

/-- A device that refuses no new file makes no difference. -/
theorem createFirst_of_grant {numbers : List Nat} (h : device.grant .create = .ok ()) :
    createFirst v target numbers device = createFirst v target numbers := by
  induction numbers with
  | nil => rfl
  | cons n numbers ih => rw [createFirst, createFirst, Device.carry_of_grant h, ih,
      Device.carry_faultless]

/-- Volumes in which the same files can be made give the same buffer. -/
theorem createFirst_congr (numbers : List Nat) (hhome : w.home = v.home)
    (hfolder : w.resolveFolder (Path.directory target) = v.resolveFolder (Path.directory target))
    (htaken : ∀ p, w.entry? p = none ↔ v.entry? p = none) :
    (createFirst w target numbers).map Prod.fst = (createFirst v target numbers).map Prod.fst := by
  induction numbers with
  | nil => rfl
  | cons n numbers ih =>
    have hcreate := Volume.create_congr (fileName target n) ⟨initialMode, []⟩ hhome hfolder htaken
    rw [createFirst, createFirst, Volume.fullPath_congr hhome, Device.carry_faultless,
      Device.carry_faultless]
    cases hv : v.create (Path.directory target) (fileName target n) ⟨initialMode, []⟩ with
    | error err =>
      cases hw : w.create (Path.directory target) (fileName target n) ⟨initialMode, []⟩ with
      | error err' =>
        rw [hv, hw] at hcreate
        cases hcreate
        rfl
      | ok r => simp [hv, hw, Except.map] at hcreate
    | ok r =>
      cases hw : w.create (Path.directory target) (fileName target n) ⟨initialMode, []⟩ with
      | error err' => simp [hv, hw, Except.map] at hcreate
      | ok r' =>
        rw [hv, hw] at hcreate
        simp only [Except.map, Except.ok.injEq] at hcreate
        rcases r with _ | ⟨place, u⟩ <;> rcases r' with _ | ⟨place', u'⟩ <;>
          simp only [Option.map, Option.some.injEq, reduceCtorEq] at hcreate
        · exact ih
        · subst hcreate
          rfl

/-- **A buffer lies in the directory of its target**, which is found. -/
theorem place_of_createFirst {numbers : List Nat}
    (h : createFirst v target numbers device = .ok (s, w)) :
    ∃ folder n, v.resolveFolder (Path.directory target) = .ok folder ∧
      s.place = folder ++ [fileName target n] := by
  induction numbers with
  | nil => cases h
  | cons n numbers ih =>
    rw [createFirst] at h
    split at h
    · cases h
    · exact ih h
    · rename_i hcreate
      cases h
      obtain ⟨-, folder, hfolder, hr⟩ := Volume.create_eq_ok_iff.1 (Device.carry_ok hcreate)
      split at hr
      · cases hr
      · cases hr
        exact ⟨folder, n, hfolder, rfl⟩

/-- **Where a buffer can be made once, it can be made again** after the
target was replaced by a file. -/
theorem exists_create_replaced {folder : Place} {name : Name} {id : Nat} {f : File}
    (hnames : v.Names target folder name) (h : create v target = .ok (s, w)) :
    ∃ s' w', create (v.insert (folder ++ [name]) (.file id f)) target = .ok (s', w') := by
  obtain ⟨e, he⟩ := hnames.present
  have hplace : folder ++ [name] ≠ [] := Volume.append_name_ne_root name
  obtain ⟨q, -, hq, -⟩ := place_of_createFirst h
  have hfolder := hnames.resolveFolder_replaced Volume.home_insert
    (fun _ hne => Volume.entry?_insert_of_ne (e := .file id f) hne) hq
  -- the target was taken before and is taken now, so the same names are free
  have htaken (p : Place) :
      Volume.entry? (v.insert (folder ++ [name]) (.file id f)) p = none ↔ v.entry? p = none := by
    by_cases hp : p = folder ++ [name]
    · rw [hp, Volume.entry?_insert_self hplace, he]
      simp only [reduceCtorEq]
    · rw [Volume.entry?_insert_of_ne hp]
  have hcongr := createFirst_congr (List.range (v.entries.length + 1)) Volume.home_insert
    (hfolder.trans hq.symm) htaken
  rw [create] at h
  rw [h] at hcongr
  rw [create, Volume.length_entries_insert he hplace]
  cases hcreate : createFirst (v.insert (folder ++ [name]) (.file id f)) target
      (List.range (v.entries.length + 1)) with
  | error failure => simp [hcreate, Except.map] at hcongr
  | ok r => exact ⟨r.1, r.2, rfl⟩

/-! ## Writing to a buffer -/

@[simp]
theorem place_write : (s.write bytes).place = s.place := rfl

@[simp]
theorem content_write : (s.write bytes).content = s.content ++ bytes := rfl

/-- A buffer to which some texts were written in turn. -/
def writeAll (s : Scratch) (texts : List Bytes) : Scratch := texts.foldl write s

theorem content_writeAll (s : Scratch) (texts : List Bytes) :
    (s.writeAll texts).content = s.content ++ texts.flatten := by
  induction texts generalizing s with
  | nil => simp [writeAll]
  | cons text texts ih =>
    rw [writeAll, List.foldl_cons, ← writeAll, ih, content_write, List.flatten_cons,
      List.append_assoc]

/-- **A device has no room for bytes, or it makes no difference.** -/
theorem tryWrite_cases (s : Scratch) (bytes : Bytes) (device : Device) :
    (∃ size cause, device.grow size = .error cause ∧
        s.tryWrite bytes device = .error (.writeScratch cause)) ∨
      s.tryWrite bytes device = .ok (s.write bytes) := by
  rw [tryWrite]
  cases hgrow : device.grow (s.write bytes).stored with
  | error cause => exact Or.inl ⟨_, cause, hgrow, rfl⟩
  | ok _ => exact Or.inr rfl

theorem tryWrite_faultless : s.tryWrite bytes = .ok (s.write bytes) := rfl

/-! ## What a promotion comes to -/

/-- **A promotion that succeeds is a rename**, whatever the device. -/
theorem rename_of_promote (h : s.promote v target mode device = (.ok (), w)) :
    (s.settle mode v).rename s.place target = .ok w := by
  rw [promote] at h
  split at h
  · rename_i u hreplace
    cases h
    obtain ⟨-, -, hrename⟩ := ok_of_bind hreplace
    exact Device.carry_ok (ok_of_mapError hrename)
  · cases h

/-- A promotion that fails removes the file of the buffer. -/
theorem volume_of_promote_error {failure : Failure}
    (h : s.promote v target mode device = (.error failure, w)) : w = s.discard v := by
  rw [promote] at h
  split at h
  · cases h
  · cases h
    rfl

/-- **What does not go to the file of a buffer is not promoted.** -/
theorem promote_of_full {cause : String} (h : device.grow s.content.length = .error cause) :
    s.promote v target mode device = (.error (.writeScratch cause), s.discard v) := by
  have hstore : s.store device = .error (.writeScratch cause) := by
    rw [store, h]
    rfl
  rw [promote, replace, hstore]
  rfl

/-- Without faults a promotion is the rename, and it fails as the rename
does. -/
theorem promote_faultless : s.promote v target mode =
    match (s.settle mode v).rename s.place target with
    | .ok w => (.ok (), w)
    | .error e => (.error (.promote target e.message), s.discard v) := by
  have hreplace : s.replace v target mode =
      ((s.settle mode v).rename s.place target).mapError fun e => .promote target e.message := by
    rw [replace, Device.carry_faultless]
    cases (s.settle mode v).rename s.place target <;> rfl
  rw [promote, hreplace]
  cases (s.settle mode v).rename s.place target <;> rfl

/-! ## Getting rid of a new buffer -/

namespace IsNew

/-- What is written to a buffer does not move its file. -/
theorem of_place (h : s.IsNew v w) (hplace : t.place = s.place) : t.IsNew v w :=
  ⟨by rw [hplace]; exact h.free, by rw [hplace]; exact h.volume_eq⟩

/-- **A buffer that is discarded leaves no trace.** -/
theorem discard_eq (h : s.IsNew v w) : s.discard w = v := by
  rw [h.volume_eq, discard, Volume.erase_insert h.free]

/-- Settling the buffer is as if its file had been made with its content. -/
theorem settle_eq (h : s.IsNew v w) :
    s.settle mode w = v.insert s.place (.file v.freshId ⟨mode, s.content⟩) := by
  have hentry : w.entry? s.place = some (.file v.freshId ⟨initialMode, []⟩) := by
    rw [h.volume_eq, Volume.entry?_insert_self (Volume.ne_root_of_entry?_none h.free)]
  simp only [settle, hentry]
  rw [h.volume_eq, Volume.insert_insert h.free]

/-- **A promotion that fails leaves no trace either.** -/
theorem promote_error (h : s.IsNew v w) {failure : Failure}
    (hp : s.promote w target mode device = (.error failure, v')) : v' = v :=
  (volume_of_promote_error hp).trans h.discard_eq

/-- The rename onto a path that names an entry makes the entry the file of
the buffer. -/
theorem rename_of_names (h : s.IsNew v w) {folder : Place} {name : Name}
    (hnames : v.Names target folder name) : (s.settle mode w).rename s.place target =
      .ok (v.insert (folder ++ [name]) (.file v.freshId ⟨mode, s.content⟩)) := by
  have hsource : Volume.entry? (v.insert s.place (.file v.freshId ⟨mode, s.content⟩)) s.place =
      some (.file v.freshId ⟨mode, s.content⟩) :=
    Volume.entry?_insert_self (Volume.ne_root_of_entry?_none h.free)
  have hrename := hnames.rename Volume.home_insert
    (fun _ _ he => Volume.entry?_insert_of_free h.free he) hsource
  rw [Volume.erase_insert h.free] at hrename
  rw [h.settle_eq, hrename]

/-- **A promotion onto a path that names an entry succeeds** where there
are no faults, and the entry becomes the file of the buffer. -/
theorem promote_of_names (h : s.IsNew v w) {folder : Place} {name : Name}
    (hnames : v.Names target folder name) : s.promote w target mode =
      (.ok (), v.insert (folder ++ [name]) (.file v.freshId ⟨mode, s.content⟩)) := by
  rw [promote_faultless, h.rename_of_names hnames]

/-- The same for what is written to the buffer in one go. -/
theorem promote_write_of_names (h : s.IsNew v w) (hcontent : s.content = []) {folder : Place}
    {name : Name} (hnames : v.Names target folder name) : (s.write bytes).promote w target mode =
      (.ok (), v.insert (folder ++ [name]) (.file v.freshId ⟨mode, bytes⟩)) := by
  have hnew : (s.write bytes).IsNew v w := h.of_place place_write
  have hbytes : (s.write bytes).content = bytes := by
    rw [content_write, hcontent, List.nil_append]
  rw [hnew.promote_of_names hnames, hbytes]

end IsNew

/-- A rename that succeeds has a proper name at the end of the path. -/
theorem getLast?_ne_up_of_rename {source : Place} (h : v.rename source target = .ok w) :
    (Path.parts target).getLast? ≠ some Path.up := by
  obtain ⟨-, -, -, front, name, -, -, hparts, -, hproper, -⟩ := Volume.rename_eq_ok_iff.1 h
  rw [hparts, List.getLast?_concat]
  simpa using hproper.2.1

/-! ## Promoting a buffer, whatever was done to it -/

theorem entry?_settle_of_ne {q : Place} (h : q ≠ s.place) :
    Volume.entry? (s.settle mode v) q = v.entry? q := by
  rw [settle]
  split
  · exact Volume.entry?_insert_of_ne h
  · rfl

theorem home_settle : (s.settle mode v).home = v.home := by
  rw [settle]
  split
  · exact Volume.home_insert
  · rfl

/-- **A promotion that succeeds puts the file of the buffer at the place
that the target names**, with what was written to the buffer. -/
theorem promote_ok {id : Nat} {f : File} (hfile : v.entry? s.place = some (.file id f))
    (h : s.promote v target mode device = (.ok (), w)) :
    ∃ place, v.place? target = some place ∧ place ≠ [] ∧
      w = ((s.settle mode v).erase s.place).insert place (.file id ⟨mode, s.content⟩) := by
  have hplace : s.place ≠ [] := by
    intro hroot
    simp [hroot] at hfile
  have hsettled : Volume.entry? (s.settle mode v) s.place =
      some (.file id ⟨mode, s.content⟩) := by
    rw [settle, hfile]
    exact Volume.entry?_insert_self hplace
  exact Volume.rename_place? (rename_of_promote h) home_settle
    (fun q hq => entry?_settle_of_ne hq) hsettled

/-- Without its file a buffer is moved nowhere. -/
theorem not_rename_of_lost (h : v.entry? s.place = none) :
    (s.settle mode v).rename s.place target ≠ .ok w := by
  have hsettle : s.settle mode v = v := by rw [settle, h]
  rw [hsettle]
  intro hrename
  obtain ⟨-, -, -, front, name, folder, e, -, -, -, he, -⟩ := Volume.rename_eq_ok_iff.1 hrename
  rw [h] at he
  cases he

/-- **Without its file a buffer cannot be promoted**, and nothing
changes. -/
theorem promote_of_lost (h : v.entry? s.place = none) (target : Bytes) (mode : Nat)
    (device : Device) :
    ∃ failure, s.promote v target mode device = (.error failure, v) := by
  rcases hp : s.promote v target mode device with ⟨failure | _, w⟩
  · exact ⟨failure, by rw [volume_of_promote_error hp, discard, Volume.erase_of_none h]⟩
  · exact absurd (rename_of_promote hp) (not_rename_of_lost h)

/-- Where there are no faults, it is the rename that fails. -/
theorem promote_error_of_lost (h : v.entry? s.place = none) :
    ∃ cause, (s.promote v target mode).1 = .error (.promote target cause) := by
  rw [promote_faultless]
  split
  · rename_i w hrename
    exact absurd hrename (not_rename_of_lost h)
  · exact ⟨_, rfl⟩

end Scratch

end LiteralMark
