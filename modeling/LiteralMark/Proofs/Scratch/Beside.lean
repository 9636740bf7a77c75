import LiteralMark.Proofs.Directory.Parent
import LiteralMark.Proofs.Scratch
/-!
# Scratch buffers — beside the entry they replace

Where a buffer is made is read off the bytes of a path, and what it
replaces is found by the system, which goes through links. The two readings
agree (`Volume.Names.fileName?_directory`). So the file of a buffer lies in
the directory of the entry that the path names, be the entry the file or a
link to it, and promoting the buffer gives that entry a new content by a
rename that leaves no directory (`create_beside_target`).
-/

namespace LiteralMark.Scratch

variable {s : Scratch} {v w : Volume} {target : Bytes} {folder : Place} {name : Name}

/-- **A buffer for a path that names an entry lies beside the entry.** -/
theorem place_of_names (hnames : v.Names target folder name) (h : create v target = .ok (s, w)) :
    ∃ n, s.place = folder ++ [fileName target n] := by
  obtain ⟨folder', n, hfolder, hplace⟩ := place_of_createFirst h
  obtain rfl : folder' = folder :=
    Except.ok.inj (hfolder.symm.trans hnames.fileName?_directory.2)
  exact ⟨n, hplace⟩

/-- **A scratch buffer is made in the directory of the entry it will
replace.** If a path leads to a file, its directory, as it is read off the
bytes, leads to the one that holds the entry which the last component
names, and the entry has the file name of the path for its name. This entry
need not be the file; it is what is found when a link at the end is not
followed. A buffer that is made for the path has its file there, and to
promote it succeeds, replaces this one entry and takes the file of the
buffer away. -/
theorem create_beside_target (v : Volume) (path : Bytes) (id : Nat) (f : File) (hv : v.IsTree)
    (h : v.find path = .ok (.file id f)) :
    ∃ folder name e,
      v.resolveFolder (Path.directory path) = .ok folder ∧
      Path.fileName? path = some name ∧
      (Path.parts path).getLast? = some name ∧
      v.walk false Volume.linkLimit (v.startOf path) (Path.steps path) = .ok (folder ++ [name]) ∧
      v.entry? (folder ++ [name]) = some e ∧ e ≠ .folder ∧
      ∀ s w, create v path = .ok (s, w) →
        (∃ n, s.place = folder ++ [fileName path n]) ∧ s.place ≠ folder ++ [name] ∧
        (∃ number file, w.entry? s.place = some (.file number file)) ∧
        ∀ bytes mode, ∃ u, (s.write bytes).promote w path mode = (.ok (), u) ∧
          u.entry? s.place = none ∧ v.ReplacedAt u (folder ++ [name]) ⟨mode, bytes⟩ := by
  obtain ⟨folder, name, hnames⟩ := hv.names_of_find h
  obtain ⟨hname, hfolder⟩ := hnames.fileName?_directory
  obtain ⟨before, hparts, -⟩ := hnames.parts_eq
  obtain ⟨e, he⟩ := hnames.present
  have hnot : e ≠ .folder := fun heq => hnames.deadEnd.1 (heq ▸ he)
  refine ⟨folder, name, e, hfolder, hname, by rw [hparts, List.getLast?_concat],
    hnames.walk_false, he, hnot, fun s w hcreate => ?_⟩
  have hnew := isNew_of_create hcreate
  have hplace := Volume.ne_root_of_entry?_none hnew.free
  have hne : s.place ≠ folder ++ [name] := by
    intro heq
    have hfree := hnew.free
    rw [heq, he] at hfree
    cases hfree
  refine ⟨place_of_names hnames hcreate, hne, ⟨v.freshId, ⟨initialMode, []⟩, ?_⟩,
    fun bytes mode => ⟨_, hnew.promote_write_of_names (content_of_create hcreate) hnames, ?_, ?_⟩⟩
  · rw [hnew.volume_eq, Volume.entry?_insert_self hplace]
  · rw [Volume.entry?_insert_of_ne hne, hnew.free]
  · exact Volume.replacedAt_insert (Volume.append_name_ne_root name) _

/-- A volume with a link to a directory, and in that directory a file and a
link to it. -/
def windingVolume : Volume :=
  { entries := [
      ([Utf8.ofString "d"], .folder),
      ([Utf8.ofString "d", Utf8.ofString "e"], .folder),
      ([Utf8.ofString "d", Utf8.ofString "e", Utf8.ofString "f"], .file 0 ⟨0o644, []⟩),
      ([Utf8.ofString "d", Utf8.ofString "e", Utf8.ofString "g"], .link (Utf8.ofString "f")),
      ([Utf8.ofString "l"], .link (Utf8.ofString "d/e"))] }

/-- A path that goes through the first link and up again, and ends in the
second. -/
def windingPath : Bytes := Utf8.ofString "l/..//./e/./g"

/-- The buffer lies beside the second link, and replaces it. -/
theorem create_beside_target_windingVolume :
    windingVolume.IsTree ∧ windingVolume.find windingPath = .ok (.file 0 ⟨0o644, []⟩) ∧
    Path.directory windingPath = Utf8.ofString "l/..//./e" ∧
    ∃ folder name,
      windingVolume.resolveFolder (Path.directory windingPath) = .ok folder ∧
      folder = [Utf8.ofString "d", Utf8.ofString "e"] ∧ name = Utf8.ofString "g" ∧
      ∃ s w n, create windingVolume windingPath = .ok (s, w) ∧
        s.place = folder ++ [fileName windingPath n] ∧
        ∃ u, (s.write [120]).promote w windingPath 0o644 = (.ok (), u) ∧
          windingVolume.ReplacedAt u (folder ++ [name]) ⟨0o644, [120]⟩ := by
  have htree : windingVolume.IsTree := by decide +kernel
  have hfound : windingVolume.find windingPath = .ok (.file 0 ⟨0o644, []⟩) := by decide +kernel
  have hresolved : windingVolume.resolveFolder (Path.directory windingPath) =
      .ok [Utf8.ofString "d", Utf8.ofString "e"] := by decide +kernel
  have hlast : Path.fileName? windingPath = some (Utf8.ofString "g") := by decide +kernel
  obtain ⟨⟨s, w⟩, hcreate⟩ : ∃ r, create windingVolume windingPath = .ok r := by
    refine ⟨(⟨[Utf8.ofString "d", Utf8.ofString "e", fileName windingPath 0],
      windingVolume.fullPath (Path.directory windingPath) (fileName windingPath 0), [], 0⟩,
      windingVolume.insert [Utf8.ofString "d", Utf8.ofString "e", fileName windingPath 0]
        (.file windingVolume.freshId ⟨initialMode, []⟩)), ?_⟩
    decide +kernel
  obtain ⟨folder, name, e, hfolder, hname, -, -, -, -, hbeside⟩ :=
    create_beside_target windingVolume windingPath 0 _ htree hfound
  obtain ⟨⟨n, hplace⟩, -, -, hpromote⟩ := hbeside s w hcreate
  obtain ⟨u, hu, -, hreplaced⟩ := hpromote [120] 0o644
  exact ⟨htree, hfound, by decide +kernel, folder, name, hfolder,
    Except.ok.inj (hfolder.symm.trans hresolved), Option.some.inj (hname.symm.trans hlast),
    s, w, n, hcreate, hplace, u, hu, hreplaced⟩

end LiteralMark.Scratch
