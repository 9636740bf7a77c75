import LiteralMark.Proofs.Session.Run
/-!
# Marking files — histories of scratch buffers

A scratch buffer is made, written to, promoted, discarded, dropped or
replaced by another one, in any order; sessions run in between, and
somebody else may remove the file of the buffer. To make a buffer, to
promote it and to run a session may fail, each on a device with faults of
its own. A `History` records two things beside the volume and the buffer:
the places of all scratch files that were made and are still there, and
the bytes that were written since the buffer was made.

The record is what the buffer tells (`Tracks`), and a step that does not
replace a scratch file by its target keeps it so (`Sound`). So nothing
leaks (`no_scratch_leaks`): the only scratch file that is left is the one
of the buffer.
-/

namespace LiteralMark

/-- **A run changes nothing, or it replaces the entry that its path
names.** -/
theorem Session.run_volume_cases (s : Session) (read : TreeReader) (path : Bytes) (v : Volume)
    (sink : Sink) (device : Device) : (s.run read path v sink device).volume = v ∨
    ∃ place id f summary, v.place? path = some place ∧ v.entry? place ≠ none ∧
      (s.run read path v sink device).volume = v.insert place (.file id f) ∧
      (s.run read path v sink device).result = .ok summary ∧ summary.promoted = true := by
  rcases s.run_cases read path v sink device {} with
    ⟨-, hvolume⟩ | ⟨f, p, -, -, ⟨-, -, hvolume⟩ | h⟩
  · exact Or.inl hvolume
  · exact Or.inl hvolume
  · obtain ⟨-, -, hresult, folder, name, hnames, hvolume⟩ := h
    obtain ⟨e, he⟩ := hnames.present
    exact Or.inr ⟨folder ++ [name], _, _, _, hnames.place?_eq, by simp [he], hvolume, hresult,
      rfl⟩

/-- A volume and the scratch buffer at hand, if there is one. -/
structure Bench where
  volume : Volume
  buffer : Option Scratch := none

namespace History

/-- What can be done next, and on which device. A buffer is made under the
first of some names that is free, whichever names are tried. -/
inductive Step
  | create (target : Bytes) (numbers : List Nat) (device : Device := {})
  | write (bytes : Bytes)
  | promote (target : Bytes) (mode : Nat) (device : Device := {})
  | discard
  | drop
  | run (session : Session) (path : Bytes) (sink : Sink) (device : Device := {})
  | lose

end History

namespace Bench

/-- A volume without the file of the buffer. -/
def clear (b : Bench) (v : Volume) : Volume :=
  match b.buffer with
  | some s => s.discard v
  | none => v

/-- Takes a step. A new buffer takes the place of the old one, which is
dropped once the new one is there. -/
def step (read : TreeReader) (b : Bench) : History.Step → Bench
  | .create target numbers device =>
    match Scratch.createFirst b.volume target numbers device with
    | .ok (s, w) => ⟨b.clear w, some s⟩
    | .error _ => b
  | .write bytes => { b with buffer := b.buffer.map (·.write bytes) }
  | .promote target mode device =>
    match b.buffer with
    | some s => ⟨(s.promote b.volume target mode device).2, none⟩
    | none => b
  | .discard | .drop => ⟨b.clear b.volume, none⟩
  | .run session path sink device =>
    { b with volume := (session.run read path b.volume sink device).volume }
  | .lose => { b with volume := b.clear b.volume }

theorem step_promote {read : TreeReader} {b : Bench} {s : Scratch} {target : Bytes} {mode : Nat}
    {device : Device} (hb : b.buffer = some s) : b.step read (.promote target mode device) =
      ⟨(s.promote b.volume target mode device).2, none⟩ := by
  simp only [step, hb]

/-- The place of the buffer's file, if the file is there. -/
def present (b : Bench) : List Place :=
  (b.buffer.map (·.place)).toList.filter fun p => Option.isSome <| b.volume.entry? p

end Bench

namespace History

namespace Step

/-- The places at which a step makes scratch files. -/
def made (b : Bench) : Step → List Place
  | create target numbers device =>
    match Scratch.createFirst b.volume target numbers device with
    | .ok (s, _) => [s.place]
    | .error _ => []
  | run _ path _ device =>
    match device.find b.volume path, Scratch.create b.volume path device with
    | .ok _, .ok (s, _) => [s.place]
    | _, _ => []
  | _ => []

/-- A scratch file is made where there was no entry. -/
theorem entry?_of_mem_made {b : Bench} {p : Place} {x : Step} (hp : p ∈ x.made b) :
    b.volume.entry? p = none := by
  cases x with
  | create target numbers device =>
    simp only [made] at hp
    split at hp
    · rename_i hcreate
      rw [List.mem_singleton.1 hp]
      exact (Scratch.isNew_of_createFirst hcreate).1.free
    · cases hp
  | run session path sink device =>
    simp only [made] at hp
    split at hp
    · rename_i hcreate
      rw [List.mem_singleton.1 hp]
      exact (Scratch.isNew_of_create hcreate).free
    · cases hp
  | write _ | promote _ _ _ | discard | drop | lose => cases hp

/-- The bytes written to the buffer at hand, after a step. -/
def written (b : Bench) (old : Bytes) : Step → Bytes
  | create target numbers device =>
    match Scratch.createFirst b.volume target numbers device with
    | .ok _ => []
    | .error _ => old
  | write bytes => old ++ bytes
  | _ => old

/-- The path that a step may replace. -/
def target? : Step → Option Bytes
  | promote target _ _ => some target
  | run _ path _ _ => some path
  | _ => none

/-- The steps that replace the entry at a place: a promotion that
succeeds onto a path that names it, and a run that replaces the file at
such a path. -/
def Replaces (read : TreeReader) (b : Bench) (p : Place) : Step → Prop
  | promote target mode device => b.volume.place? target = some p ∧
      ∃ s, b.buffer = some s ∧ (s.promote b.volume target mode device).1 = .ok ()
  | run session path sink device => b.volume.place? path = some p ∧
      ∃ summary, (session.run read path b.volume sink device).result = .ok summary ∧
        summary.promoted = true
  | _ => False

end Step

end History

/-- A bench, the places of the scratch files that were made and have been
there ever since, and the bytes written since the last one was made. -/
structure History where
  bench : Bench
  left : List Place := []
  written : Bytes := []

namespace History

variable {read : TreeReader} {h : History} {x : Step} {s : Scratch} {p : Place}

/-- Takes a step and records it. -/
def step (read : TreeReader) (h : History) (x : Step) : History where
  bench := h.bench.step read x
  left := (h.left ++ x.made h.bench).filter fun p =>
    Option.isSome <| Volume.entry? (h.bench.step read x).volume p
  written := x.written h.bench h.written

/-- The history of some steps, from a volume without scratch files. -/
def after (read : TreeReader) (v : Volume) (steps : List Step) : History :=
  steps.foldl (step read) { bench := { volume := v } }

/-- The path that a step may replace names no scratch file. -/
def Spares (h : History) (x : Step) : Prop :=
  ∀ p ∈ h.left, x.target?.bind h.bench.volume.place? ≠ some p

instance : Decidable (h.Spares x) := inferInstanceAs (Decidable (∀ p ∈ h.left, _))

/-- No step of a sequence is given a path that names a scratch file. -/
def SparesAll (read : TreeReader) : History → List Step → Prop
  | _, [] => True
  | h, x :: steps => h.Spares x ∧ SparesAll read (h.step read x) steps

instance decidableSparesAll (read : TreeReader) :
    (h : History) → (steps : List Step) → Decidable (SparesAll read h steps)
  | _, [] => inferInstanceAs (Decidable True)
  | h, x :: steps =>
    have := decidableSparesAll read (h.step read x) steps
    inferInstanceAs (Decidable (h.Spares x ∧ SparesAll read (h.step read x) steps))

/-! ## The invariant -/

/-- The record is what the buffer tells: the scratch files that are left
are the file of the buffer, or none if it is gone; the file is a regular
one; and the buffer holds what was written. -/
structure Tracks (h : History) : Prop where
  left_eq : h.left = h.bench.present
  isFile : ∀ s, h.bench.buffer = some s → ∀ e, h.bench.volume.entry? s.place = some e →
    ∃ id f, e = .file id f
  content_eq : ∀ s, h.bench.buffer = some s → s.content = h.written

/-- What one step keeps: the record is still right, and an entry that is
no scratch file changes only if the step replaces it. -/
structure Sound (read : TreeReader) (h : History) (x : Step) : Prop where
  tracks : (h.step read x).Tracks
  frame : ∀ p, p ∉ h.left → p ∉ (h.step read x).left →
    Volume.entry? (h.step read x).bench.volume p ≠ h.bench.volume.entry? p →
      x.Replaces read h.bench p

namespace Tracks

/-- **A scratch file that is left is the one of the buffer.** -/
theorem mem_left_iff (ht : h.Tracks) : p ∈ h.left ↔
    h.bench.buffer.map (·.place) = some p ∧ h.bench.volume.entry? p ≠ none := by
  rw [ht.left_eq, Bench.present, List.mem_filter, Option.mem_toList, Option.isSome_iff_ne_none]

theorem length_left (ht : h.Tracks) : h.left.length ≤ 1 := by
  have hle : h.left.length ≤ (h.bench.buffer.map (·.place)).toList.length := by
    rw [ht.left_eq]
    exact List.length_filter_le _ _
  refine Nat.le_trans hle ?_
  cases h.bench.buffer <;> simp

/-- The place of the buffer is never the root. -/
theorem place_ne_root (ht : h.Tracks) (hb : h.bench.buffer = some s) : s.place ≠ [] := by
  intro hroot
  obtain ⟨id, f, hfile⟩ := ht.isFile s hb .folder (by rw [hroot, Volume.entry?_root])
  cases hfile

/-- A place of the buffer that is not in the record has no entry. -/
theorem entry?_eq_none (ht : h.Tracks) (hplace : h.bench.buffer.map (·.place) = some p)
    (hp : p ∉ h.left) : h.bench.volume.entry? p = none := by
  by_contra hsome
  exact hp (ht.mem_left_iff.2 ⟨hplace, hsome⟩)

/-- **Clearing removes the file of the buffer and nothing else.** -/
theorem entry?_clear (ht : h.Tracks) (w : Volume) (p : Place) :
    Volume.entry? (h.bench.clear w) p =
      if h.bench.buffer.map (·.place) = some p then none else w.entry? p := by
  cases hb : h.bench.buffer with
  | none => simp [Bench.clear, hb]
  | some s =>
    simp only [Bench.clear, hb, Scratch.discard, Option.map_some, Option.some.injEq]
    split
    · rename_i hplace
      rw [← hplace]
      exact Volume.entry?_erase_self (ht.place_ne_root hb)
    · rename_i hplace
      exact Volume.entry?_erase_of_ne (Ne.symm hplace)

/-- A promotion that succeeds had the file of the buffer, and has put it
where the target says. -/
theorem file_of_promote (ht : h.Tracks) (hb : h.bench.buffer = some s) {target : Bytes}
    {mode : Nat} {device : Device}
    (hok : (s.promote h.bench.volume target mode device).1 = .ok ()) :
    s.place ∈ h.left ∧ ∃ place id, h.bench.volume.place? target = some place ∧ place ≠ [] ∧
      (s.promote h.bench.volume target mode device).2 =
        ((s.settle mode h.bench.volume).erase s.place).insert place
          (.file id ⟨mode, h.written⟩) := by
  cases hentry : h.bench.volume.entry? s.place with
  | none =>
    obtain ⟨failure, hlost⟩ := Scratch.promote_of_lost hentry target mode device
    rw [hlost] at hok
    cases hok
  | some e =>
    obtain ⟨id, f, rfl⟩ := ht.isFile s hb e hentry
    obtain ⟨place, hplace, hroot, hvolume⟩ := Scratch.promote_ok hentry (Prod.ext hok rfl)
    rw [ht.content_eq s hb] at hvolume
    have hleft : s.place ∈ h.left :=
      ht.mem_left_iff.2 ⟨by rw [hb, Option.map_some], by simp [hentry]⟩
    exact ⟨hleft, place, id, hplace, hroot, hvolume⟩

/-! ## One step -/

/-- A step that keeps the buffer and its file, and leaves nothing of the
scratch files that it makes. -/
theorem sound_of_kept (ht : h.Tracks)
    (hplace : (h.bench.step read x).buffer.map (·.place) = h.bench.buffer.map (·.place))
    (hcontent : ∀ s, (h.bench.step read x).buffer = some s →
      s.content = x.written h.bench h.written)
    (hfile : ∀ p, h.bench.buffer.map (·.place) = some p →
      Volume.entry? (h.bench.step read x).volume p = h.bench.volume.entry? p)
    (hmade : ∀ p ∈ x.made h.bench, Volume.entry? (h.bench.step read x).volume p = none)
    (hframe : ∀ p, Volume.entry? (h.bench.step read x).volume p ≠ h.bench.volume.entry? p →
      x.Replaces read h.bench p) :
    Sound read h x where
  tracks := by
    refine ⟨?_, ?_, hcontent⟩
    · have hgone : (x.made h.bench).filter
          (fun p => Option.isSome <| Volume.entry? (h.bench.step read x).volume p) = [] := by
        rw [List.filter_eq_nil_iff]
        intro p hp
        rw [hmade p hp]
        exact Bool.false_ne_true
      simp only [step, Bench.present, List.filter_append, hgone, List.append_nil, ht.left_eq,
        List.filter_filter, hplace]
      refine List.filter_congr fun p hp => ?_
      rw [hfile p (Option.mem_toList.1 hp), Bool.and_self]
    · intro s hs e he
      have hs' : h.bench.buffer.map (·.place) = some s.place := by
        rw [← hplace]
        exact congrArg (Option.map (·.place)) hs
      obtain ⟨s₀, hs₀, heq⟩ := Option.map_eq_some_iff.1 hs'
      exact ht.isFile s₀ hs₀ e (by rw [heq, ← hfile _ hs']; exact he)
  frame := fun p _ _ hchanged => hframe p hchanged

/-- A step that does nothing. -/
theorem sound_of_idle (ht : h.Tracks) (hstep : h.bench.step read x = h.bench)
    (hmade : x.made h.bench = []) (hwritten : x.written h.bench h.written = h.written) :
    Sound read h x := by
  refine ht.sound_of_kept (by rw [hstep]) ?_ (fun p _ => by rw [hstep]) ?_ ?_
  · intro s hs
    rw [hstep] at hs
    exact (ht.content_eq s hs).trans hwritten.symm
  · intro p hp
    rw [hmade] at hp
    cases hp
  · intro p hchanged
    rw [hstep] at hchanged
    exact absurd rfl hchanged

/-- A step that makes no scratch file and after which the file of the
buffer is gone; other entries change only where the step replaces them. -/
theorem sound_of_gone (ht : h.Tracks) (hb : h.bench.buffer = some s)
    (hmade : x.made h.bench = []) (hwritten : x.written h.bench h.written = h.written)
    (hbuffer : (h.bench.step read x).buffer = none ∨ (h.bench.step read x).buffer = some s)
    (hgone : Volume.entry? (h.bench.step read x).volume s.place = none)
    (hoff : ∀ p, p ≠ s.place →
      Volume.entry? (h.bench.step read x).volume p ≠ h.bench.volume.entry? p →
        x.Replaces read h.bench p) :
    Sound read h x where
  tracks := by
    refine ⟨?_, ?_, ?_⟩
    · have hleft : (h.step read x).left = [] := by
        simp [step, hmade, ht.left_eq, Bench.present, hb, hgone]
      rw [hleft]
      rcases hbuffer with hbuffer | hbuffer
      · simp [step, Bench.present, hbuffer]
      · simp [step, Bench.present, hbuffer, hgone]
    · intro s' hs' e he
      rcases hbuffer with hbuffer | hbuffer
      · simp [step, hbuffer] at hs'
      · obtain rfl : s = s' := Option.some.inj (hbuffer.symm.trans hs')
        simp [step, hgone] at he
    · intro s' hs'
      rcases hbuffer with hbuffer | hbuffer
      · simp [step, hbuffer] at hs'
      · obtain rfl : s = s' := Option.some.inj (hbuffer.symm.trans hs')
        exact (ht.content_eq s hb).trans hwritten.symm
  frame := by
    intro p hp _ hchanged
    rcases eq_or_ne p s.place with rfl | hne
    · have hnone := ht.entry?_eq_none (by rw [hb, Option.map_some]) hp
      exact absurd (hgone.trans hnone.symm) hchanged
    · exact hoff p hne hchanged

/-- **A promotion that succeeds moves the file to the place that the target
names**, and one that fails removes it. -/
theorem sound_promote (ht : h.Tracks) {target : Bytes} {mode : Nat} {device : Device}
    (hx : h.Spares (.promote target mode device)) :
    Sound read h (.promote target mode device) := by
  cases hb : h.bench.buffer with
  | none => exact ht.sound_of_idle (by simp only [Bench.step, hb]) rfl rfl
  | some s =>
    have hroot := ht.place_ne_root hb
    have hstep : h.bench.step read (.promote target mode device) =
        ⟨(s.promote h.bench.volume target mode device).2, none⟩ := Bench.step_promote hb
    cases hresult : (s.promote h.bench.volume target mode device).1 with
    | error failure =>
      have hvolume : (s.promote h.bench.volume target mode device).2 =
          s.discard h.bench.volume := Scratch.volume_of_promote_error (Prod.ext hresult rfl)
      refine ht.sound_of_gone hb rfl rfl (Or.inl (by rw [hstep])) ?_ ?_
      · rw [hstep, hvolume]
        exact Volume.entry?_erase_self hroot
      · intro p hp hchanged
        rw [hstep, hvolume] at hchanged
        exact absurd (Volume.entry?_erase_of_ne hp) hchanged
    | ok u =>
      obtain ⟨hleft, place, id, hplace, -, hvolume⟩ := ht.file_of_promote hb hresult
      -- the target does not name the scratch file, so nothing is put back there
      have hne : s.place ≠ place := by
        rintro rfl
        exact hx _ hleft hplace
      refine ht.sound_of_gone hb rfl rfl (Or.inl (by rw [hstep])) ?_ ?_
      · rw [hstep, hvolume, Volume.entry?_insert_of_ne hne]
        exact Volume.entry?_erase_self hroot
      · intro p hp hchanged
        rcases eq_or_ne p place with rfl | hpp
        · exact ⟨hplace, s, hb, hresult⟩
        · rw [hstep, hvolume, Volume.entry?_insert_of_ne hpp, Volume.entry?_erase_of_ne hp,
            Scratch.entry?_settle_of_ne hp] at hchanged
          exact absurd rfl hchanged

/-- A buffer that is discarded or dropped takes its file away, and so does
somebody else who removes it. -/
theorem sound_clear (ht : h.Tracks) (hx : x = .discard ∨ x = .drop ∨ x = .lose) :
    Sound read h x := by
  have hmade : x.made h.bench = [] := by rcases hx with rfl | rfl | rfl <;> rfl
  have hwritten : x.written h.bench h.written = h.written := by
    rcases hx with rfl | rfl | rfl <;> rfl
  have hvolume : (h.bench.step read x).volume = h.bench.clear h.bench.volume := by
    rcases hx with rfl | rfl | rfl <;> rfl
  have hbuffer : (h.bench.step read x).buffer = none ∨
      (h.bench.step read x).buffer = h.bench.buffer := by
    rcases hx with rfl | rfl | rfl
    · exact Or.inl rfl
    · exact Or.inl rfl
    · exact Or.inr rfl
  cases hb : h.bench.buffer with
  | none =>
    have hstep : h.bench.step read x = ⟨h.bench.volume, none⟩ := by
      have hclear : h.bench.clear h.bench.volume = h.bench.volume := by simp only [Bench.clear, hb]
      rw [hb, or_self] at hbuffer
      rw [← hbuffer, ← hclear, ← hvolume]
    exact ht.sound_of_idle (by rw [hstep, ← hb]) hmade hwritten
  | some s =>
    refine ht.sound_of_gone hb hmade hwritten (hb ▸ hbuffer) ?_ ?_
    · rw [hvolume, ht.entry?_clear, if_pos (by rw [hb, Option.map_some])]
    · intro p hp hchanged
      have hne : ¬ h.bench.buffer.map (·.place) = some p := by
        simpa [hb] using Ne.symm hp
      rw [hvolume, ht.entry?_clear, if_neg hne] at hchanged
      exact absurd rfl hchanged

/-- Bytes that are written change no entry until the buffer is promoted. -/
theorem sound_write (ht : h.Tracks) (bytes : Bytes) : Sound read h (.write bytes) := by
  refine ht.sound_of_kept ?_ ?_ (fun _ _ => rfl) (fun _ hp => nomatch hp)
    (fun _ hchanged => absurd rfl hchanged)
  · simp only [Bench.step, Option.map_map]
    rfl
  · intro s hs
    obtain ⟨s₀, hs₀, rfl⟩ := Option.map_eq_some_iff.1 hs
    exact congrArg (· ++ bytes) (ht.content_eq s₀ hs₀)

/-- **A new buffer has a file where there was none**, and the file of the
old one goes. If both have the same place, because the old file was lost,
the new one goes with it. -/
theorem sound_create (ht : h.Tracks) (target : Bytes) (numbers : List Nat) (device : Device) :
    Sound read h (.create target numbers device) := by
  cases hcreate : Scratch.createFirst h.bench.volume target numbers device with
  | error failure =>
    exact ht.sound_of_idle (by simp only [Bench.step, hcreate])
      (by simp only [Step.made, hcreate]) (by simp only [Step.written, hcreate])
  | ok r =>
    obtain ⟨s, w⟩ := r
    obtain ⟨hnew, hempty⟩ := Scratch.isNew_of_createFirst hcreate
    have hstep : h.bench.step read (.create target numbers device) =
        ⟨h.bench.clear w, some s⟩ := by
      simp only [Bench.step, hcreate]
    have hleft : (h.step read (.create target numbers device)).left =
        [s.place].filter fun p => Option.isSome <| Volume.entry? (h.bench.clear w) p := by
      have hmade : Step.made h.bench (.create target numbers device) = [s.place] := by
        simp only [Step.made, hcreate]
      simp only [step, hstep, hmade, List.filter_append]
      rw [List.filter_eq_nil_iff.2, List.nil_append]
      intro p hp
      rw [ht.entry?_clear, if_pos (ht.mem_left_iff.1 hp).1]
      exact Bool.false_ne_true
    refine ⟨⟨?_, ?_, ?_⟩, ?_⟩
    · rw [hleft]
      simp only [step, hstep, Bench.present]
      rfl
    · intro s' hs' e he
      simp only [step, hstep, Option.some.injEq] at hs' he
      subst hs'
      -- an entry that clearing has left is the one that was made
      rw [ht.entry?_clear] at he
      split at he
      · cases he
      · rw [hnew.volume_eq, Volume.entry?_insert_self (Volume.ne_root_of_entry?_none hnew.free)]
          at he
        exact ⟨_, _, (Option.some.inj he).symm⟩
    · intro s' hs'
      simp only [step, hstep, Option.some.injEq] at hs'
      subst hs'
      simp only [step, Step.written, hcreate, hempty]
    · intro p hp hp' hchanged
      simp only [step, hstep] at hchanged
      rcases eq_or_ne p s.place with rfl | hne
      · rw [hleft, List.mem_filter] at hp'
        have hnone : Volume.entry? (h.bench.clear w) s.place = none := by
          by_contra hsome
          exact hp' ⟨List.mem_singleton_self _, Option.isSome_iff_ne_none.2 hsome⟩
        exact absurd (hnone.trans hnew.free.symm) hchanged
      · rw [ht.entry?_clear] at hchanged
        split at hchanged
        · rename_i hplace
          exact absurd (ht.entry?_eq_none hplace hp).symm hchanged
        · rw [hnew.volume_eq, Volume.entry?_insert_of_ne hne] at hchanged
          exact absurd rfl hchanged

/-- **A run leaves no scratch file of its own**, and the one of the buffer
stays. -/
theorem sound_run (ht : h.Tracks) {session : Session} {path : Bytes} {sink : Sink}
    {device : Device} (hx : h.Spares (.run session path sink device)) :
    Sound read h (.run session path sink device) := by
  have hvolume : (h.bench.step read (.run session path sink device)).volume =
      (session.run read path h.bench.volume sink device).volume := rfl
  rcases session.run_volume_cases read path h.bench.volume sink device with
    hrun | ⟨place, id, f, summary, hplace, hpresent, hrun, hresult, hpromoted⟩
  · rw [hrun] at hvolume
    refine ht.sound_of_kept rfl ht.content_eq (fun p _ => by rw [hvolume]) ?_ ?_
    · intro p hp
      rw [hvolume]
      exact Step.entry?_of_mem_made hp
    · intro p hchanged
      rw [hvolume] at hchanged
      exact absurd rfl hchanged
  · rw [hrun] at hvolume
    -- what is replaced was there, so it is neither a new scratch file nor a lost one
    have hoff {p : Place} (hp : p ≠ place) :
        Volume.entry? (h.bench.step read (.run session path sink device)).volume p =
          h.bench.volume.entry? p := by
      rw [hvolume, Volume.entry?_insert_of_ne hp]
    refine ht.sound_of_kept rfl ht.content_eq ?_ ?_ ?_
    · intro p hp
      refine hoff ?_
      rintro rfl
      exact hx p (ht.mem_left_iff.2 ⟨hp, hpresent⟩) hplace
    · intro p hp
      have hfree := Step.entry?_of_mem_made hp
      rw [hoff, hfree]
      rintro rfl
      exact hpresent hfree
    · intro p hchanged
      obtain rfl : p = place := by
        by_contra hp
        exact hchanged (hoff hp)
      exact ⟨hplace, summary, hresult, hpromoted⟩

/-- **Every step is sound** that is not given a scratch file to replace. -/
theorem sound (ht : h.Tracks) (hx : h.Spares x) : Sound read h x := by
  cases x with
  | create target numbers device => exact ht.sound_create target numbers device
  | write bytes => exact ht.sound_write bytes
  | promote target mode device => exact ht.sound_promote hx
  | discard => exact ht.sound_clear (Or.inl rfl)
  | drop => exact ht.sound_clear (Or.inr (Or.inl rfl))
  | run session path sink device => exact ht.sound_run hx
  | lose => exact ht.sound_clear (Or.inr (Or.inr rfl))

/-! ## Whole histories -/

theorem start (v : Volume) : Tracks { bench := { volume := v } } where
  left_eq := rfl
  isFile := fun _ hs => nomatch hs
  content_eq := fun _ hs => nomatch hs

/-- **The record is right after any steps.** -/
theorem foldl (ht : h.Tracks) {steps : List Step} (hs : SparesAll read h steps) :
    (steps.foldl (step read) h).Tracks := by
  induction steps generalizing h with
  | nil => exact ht
  | cons x steps ih => exact ih (ht.sound hs.1).tracks hs.2

end Tracks

/-- **Scratch files never leak.** Whatever was done before, on devices with
any faults, as long as no promotion and no run was given a path that names
a scratch file:

* at most one scratch file is left, and it is the one of the buffer;
* the next step changes an entry that is no scratch file only if it is a
  promotion that succeeds onto a path that names it, or a run that
  replaces it;
* a promotion that succeeds leaves at the place that the target names a
  file with the permission bits given and all that was written to the
  buffer, in order;
* a promotion of a buffer whose file was removed fails, for the rename if
  for nothing else, and it changes nothing. -/
theorem no_scratch_leaks (read : TreeReader) (v : Volume) (steps : List Step)
    (hs : SparesAll read { bench := { volume := v } } steps) :
    let h := after read v steps
    (h.left.length ≤ 1 ∧ ∀ p ∈ h.left, h.bench.buffer.map (·.place) = some p) ∧
    (∀ x, h.Spares x → ∀ p, p ∉ h.left → p ∉ (h.step read x).left →
      Volume.entry? (h.step read x).bench.volume p ≠ h.bench.volume.entry? p →
        x.Replaces read h.bench p) ∧
    (∀ s target mode device, h.bench.buffer = some s →
      (s.promote h.bench.volume target mode device).1 = .ok () →
        ∃ p id, h.bench.volume.place? target = some p ∧
          Volume.entry? (h.step read (.promote target mode device)).bench.volume p =
            some (.file id ⟨mode, h.written⟩)) ∧
    ∀ s target mode, h.bench.buffer = some s → h.bench.volume.entry? s.place = none →
      (∃ cause, (s.promote h.bench.volume target mode).1 = .error (.promote target cause)) ∧
        ∀ device,
          (∃ failure, (s.promote h.bench.volume target mode device).1 = .error failure) ∧
          (h.step read (.promote target mode device)).bench = ⟨h.bench.volume, none⟩ := by
  intro h
  have ht : h.Tracks := (Tracks.start v).foldl hs
  refine ⟨⟨ht.length_left, fun p hp => (ht.mem_left_iff.1 hp).1⟩,
    fun x hx => (ht.sound hx).frame, ?_, ?_⟩
  · intro s target mode device hb hok
    obtain ⟨-, p, id, hp, hroot, hvolume⟩ := ht.file_of_promote hb hok
    refine ⟨p, id, hp, ?_⟩
    rw [step, Bench.step_promote hb, hvolume, Volume.entry?_insert_self hroot]
  · intro s target mode hb hentry
    refine ⟨Scratch.promote_error_of_lost hentry, fun device => ?_⟩
    obtain ⟨failure, hlost⟩ := Scratch.promote_of_lost hentry target mode device
    rw [step, Bench.step_promote hb, hlost]
    exact ⟨⟨failure, rfl⟩, rfl⟩

/-- A directory with a file that has a literal. -/
def benchVolume : Volume :=
  { entries := [([Utf8.ofString "f"], .file 0 ⟨0o644, Utf8.ofString "x = \"a\"\n"⟩)] }

/-- A buffer is lost and cannot be promoted; a second one is written to
twice, before and after a run that replaces the file beside it. -/
def benchSteps : List Step :=
  [.create (Utf8.ofString "f") [0], .write (Utf8.ofString "p"), .lose,
    .promote (Utf8.ofString "f") 0o600, .create (Utf8.ofString "f") [0],
    .write (Utf8.ofString "q"), .run {} (Utf8.ofString "f") {}, .write (Utf8.ofString "r")]

theorem no_scratch_leaks_benchSteps :
    SparesAll (fun _ => default) { bench := { volume := benchVolume } } benchSteps ∧
    (after (fun _ => default) benchVolume benchSteps).left.length = 1 ∧
    (after (fun _ => default) benchVolume benchSteps).written = Utf8.ofString "qr" ∧
    ∃ p id, (after (fun _ => default) benchVolume benchSteps).bench.volume.place?
        (Utf8.ofString "g") = some p ∧
      Volume.entry? ((after (fun _ => default) benchVolume benchSteps).step (fun _ => default)
        (.promote (Utf8.ofString "g") 0o640)).bench.volume p =
          some (.file id ⟨0o640, Utf8.ofString "qr"⟩) := by
  have hs : SparesAll (fun _ => default) { bench := { volume := benchVolume } } benchSteps := by
    decide +kernel
  have hwritten : (after (fun _ => default) benchVolume benchSteps).written =
      Utf8.ofString "qr" := by
    decide +kernel
  have hpromote : (after (fun _ => default) benchVolume benchSteps).bench.buffer.map
      (fun s => (s.promote (after (fun _ => default) benchVolume benchSteps).bench.volume
        (Utf8.ofString "g") 0o640).1) = some (.ok ()) := by
    decide +kernel
  obtain ⟨s, hb, hok⟩ := Option.map_eq_some_iff.1 hpromote
  refine ⟨hs, by decide +kernel, hwritten, ?_⟩
  have hpromoted := (no_scratch_leaks (fun _ => default) benchVolume benchSteps hs).2.2.1
    s (Utf8.ofString "g") 0o640 {} hb hok
  rwa [hwritten] at hpromoted

end History

end LiteralMark
