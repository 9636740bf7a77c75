import LiteralMark.Proofs.Directory.Shape
import LiteralMark.Proofs.Session.Outcome
/-!
# Marking two files — in either order

What a run comes to depends on little: the shape of the volume, the file
that its path leads to, and nothing of its sink, if that takes everything.
`exists_comesTo` says so once for all volumes of one shape. A run over
another file keeps the shape and the file, so it makes no difference whether
it comes before or after; and the two new files are the same in either
order, but for their numbers (`run_commutes`). Two names of one file are no
exception: the first run gives its name a file of its own and leaves the
other name what it was.
-/

namespace LiteralMark

/-- What a run comes to: its result, what it reports, and the new file that
it puts at a place, if it puts one. -/
structure Effect where
  result : Except Failure Summary
  report : Bytes := []
  replaced : Option (Place × File) := none

/-- The volume as an effect leaves it. -/
def Effect.volume (a : Effect) (v : Volume) : Volume :=
  match a.replaced with
  | none => v
  | some (place, f) => v.putNew place f

/-- A run over a volume, with a sink, has an effect. -/
structure Run.Has (r : Run) (a : Effect) (v : Volume) (sink : Sink) : Prop where
  result_eq : r.result = a.result
  volume_eq : r.volume = a.volume v
  sink_eq : r.sink = { sink with taken := sink.taken ++ a.report }

namespace Scratch

variable {v w u : Volume} {target : Bytes} {s : Scratch} {failure : Failure}

/-- Where a buffer is made, and whether, depends on the shape only. -/
theorem create_sameShape (h : v.SameShape w) (target : Bytes) :
    (create w target).map Prod.fst = (create v target).map Prod.fst := by
  rw [create, create, h.length_entries]
  exact createFirst_congr _ h.home_eq h.resolveFolder_eq fun p => (h.alike p).eq_none_iff

theorem create_sameShape_ok (h : v.SameShape w) (hv : create v target = .ok (s, u)) :
    ∃ u', create w target = .ok (s, u') := by
  have hw := create_sameShape h target
  rw [hv] at hw
  cases hcreate : create w target with
  | error failure => simp [hcreate, Except.map] at hw
  | ok r =>
    simp only [hcreate, Except.map, Except.ok.injEq] at hw
    exact ⟨r.2, by rw [← hw]⟩

theorem create_sameShape_error (h : v.SameShape w) (hv : create v target = .error failure) :
    create w target = .error failure := by
  have hw := create_sameShape h target
  rw [hv] at hw
  cases hcreate : create w target with
  | error failure' => simpa [hcreate, Except.map] using hw
  | ok r => simp [hcreate, Except.map] at hw

end Scratch

namespace Session

variable {s t : Session} {read : TreeReader} {path : Bytes} {v w : Volume} {sink : Sink}
variable {lines : List MarkedLine} {f : File} {id : Nat}

/-- The place that a path names is the same in all volumes of one shape. -/
theorem Replaces.volume_eq {mode : Nat} {p : Progress} {r : Run} {place : Place}
    (h : s.Replaces path w mode p r) (hshape : v.SameShape w)
    (hplace : v.walk false Volume.linkLimit (v.startOf path) (Path.steps path) = .ok place) :
    r.volume = w.putNew place ⟨mode, p.scratch.content⟩ := by
  obtain ⟨-, -, -, folder, name, hnames, hvolume⟩ := h
  have hwalk := hnames.walk_false
  rw [hshape.startOf_eq, hshape.walk_eq, hplace, Except.ok.injEq] at hwalk
  rw [hvolume, hwalk]
  rfl

/-- What a run comes to that has marked its lines. -/
def effectOf (s : Session) (lines : List MarkedLine) (place : Place) (mode : Nat) : Effect :=
  let changed := lines.countP (·.isChanged)
  let promoted := !s.dryRun && decide (0 < changed)
  { result := .ok ⟨lines.length, changed, promoted⟩
    report := (MarkedLine.changesFrom 1 lines).flatMap LineReport.render
    replaced := if promoted then some (place, ⟨mode, (lines.map (·.after)).flatten⟩) else none }

/-- A run comes to an effect in every volume that has the shape of a given
one and in which the path leads to the same file, whatever the sink has
taken before. -/
structure ComesTo (s : Session) (read : TreeReader) (path : Bytes) (v : Volume) (a : Effect) :
    Prop where
  place_eq : ∀ place f, a.replaced = some (place, f) →
    v.walk false Volume.linkLimit (v.startOf path) (Path.steps path) = .ok place
  has : ∀ w sink, v.SameShape w → w.find path = v.find path → sink.IsOpen →
    (s.run read path w sink).Has a w sink

theorem comesTo_of_failedWith (failure : Failure)
    (h : ∀ w sink, v.SameShape w → w.find path = v.find path →
      (s.run read path w sink).FailedWith failure w sink) :
    s.ComesTo read path v { result := .error failure } := by
  refine ⟨by simp, fun w sink hshape hfind _ => ?_⟩
  obtain ⟨hresult, hvolume, hsink⟩ := h w sink hshape hfind
  exact ⟨hresult, hvolume, by simp [hsink]⟩

/-- A run that has marked its lines comes to its end. -/
theorem comesTo_effectOf {scratch : Scratch} {u : Volume} {wrapped : Option Nat} {place : Place}
    (hv : v.IsTree) (hfound : v.find path = .ok (.file id f))
    (hroom : Scratch.create v path = .ok (scratch, u))
    (hmark : s.mark read path f.content = (.ok lines, wrapped))
    (hplace : v.walk false Volume.linkLimit (v.startOf path) (Path.steps path) = .ok place) :
    s.ComesTo read path v (s.effectOf lines place (f.mode % 0o10000)) := by
  refine ⟨fun place' g hreplaced => ?_, fun w sink hshape hfind hopen => ?_⟩
  · simp only [effectOf] at hreplaced
    split at hreplaced
    · cases hreplaced
      exact hplace
    · cases hreplaced
  · obtain ⟨p, hemit, hsink⟩ := Progress.emitAll_of_isOpen
      (p := { scratch := scratch, sink := sink }) hopen lines
    obtain ⟨u', hroom'⟩ := Scratch.create_sameShape_ok hshape hroom
    -- the lines depend on the content only, so the run gets as far in `w`
    have hreach : s.Reaches read path w sink f p :=
      ⟨⟨id, hfind.trans hfound⟩, scratch, u', lines, wrapped, hroom', hmark, hemit⟩
    obtain ⟨lines', wrapped', hmark', hcontent, hlines, hchanged⟩ := hreach.exists_lines
    cases hmark.symm.trans hmark'
    obtain ⟨hsink', hend⟩ := run_of_reaches (hshape.isTree hv) hreach
    refine ⟨?_, ?_, hsink'.trans hsink⟩
    · rw [result_of_reaches (hshape.isTree hv) hreach, hlines, hchanged]
      rfl
    · rcases hend with ⟨hkeep, -, hvolume⟩ | hreplaces
      · have hidle : (!s.dryRun && decide (0 < lines.countP (·.isChanged))) = false := by
          rw [hchanged] at hkeep
          rcases hkeep with hdry | hnone
          · simp [hdry]
          · simp [hnone]
        simp only [Effect.volume, effectOf, hidle, hvolume, Bool.false_eq_true, if_false]
      · have hvolume := hreplaces.volume_eq hshape hplace
        obtain ⟨hdry, hsome, -⟩ := hreplaces
        rw [hchanged] at hsome
        have hgo : (!s.dryRun && decide (0 < lines.countP (·.isChanged))) = true := by
          simp [hdry, Nat.pos_of_ne_zero hsome]
        rw [hvolume, hcontent]
        simp only [Effect.volume, effectOf, hgo, if_true]

/-- **What a run comes to is determined** by the shape of the volume and the
file that the path leads to. -/
theorem exists_comesTo (s : Session) (read : TreeReader) (path : Bytes) (hv : v.IsTree) :
    ∃ a, s.ComesTo read path v a := by
  rcases hfound : v.find path with err | e
  · exact ⟨_, comesTo_of_failedWith (.openSource path err.message) fun w sink _ hfind =>
      run_of_find_error (hfind.trans hfound)⟩
  rcases hroom : Scratch.create v path with failure | ⟨scratch, u⟩
  · exact ⟨_, comesTo_of_failedWith failure fun w sink hshape hfind =>
      run_of_create_error (hfind.trans hfound) (Scratch.create_sameShape_error hshape hroom)⟩
  -- what is no file can be opened, but not read
  have hunread (hfile : ∀ id f, e ≠ .file id f) : ∃ a, s.ComesTo read path v a := by
    refine ⟨_, comesTo_of_failedWith (.readSource path SystemError.isFolder.message)
      fun w sink hshape hfind => ?_⟩
    obtain ⟨u', hroom'⟩ := Scratch.create_sameShape_ok hshape hroom
    exact run_of_unread (hfind.trans hfound) hfile hroom'
  cases e with
  | folder => exact hunread (by simp)
  | link target => exact hunread (by simp)
  | file id f =>
    rcases hmark : s.mark read path f.content with ⟨failure | lines, wrapped⟩
    · refine ⟨_, comesTo_of_failedWith failure fun w sink hshape hfind => ?_⟩
      obtain ⟨u', hroom'⟩ := Scratch.create_sameShape_ok hshape hroom
      exact run_of_mark_error (hfind.trans hfound) hroom' hmark
    · obtain ⟨folder, name, hnames⟩ := hv.names_of_find hfound
      exact ⟨_, comesTo_effectOf hv hfound hroom hmark hnames.walk_false⟩

/-! ## The other order -/

namespace ComesTo

variable {a b : Effect} {p q : Bytes} {P Q : Place}

/-- **A run changes nothing, or it puts a new file in the place of the one
that its path names.** -/
theorem volume_cases (ha : s.ComesTo read p v a) (hp : v.NamesFile p P) :
    (∀ w, a.volume w = w) ∨ ∃ f, ∀ w, a.volume w = w.putNew P f := by
  rcases hreplaced : a.replaced with _ | ⟨place, f⟩
  · exact Or.inl fun w => by rw [Effect.volume, hreplaced]
  · cases hp.walk_eq.symm.trans (ha.place_eq place f hreplaced)
    exact Or.inr ⟨f, fun w => by rw [Effect.volume, hreplaced]⟩

theorem sameShape (ha : s.ComesTo read p v a) (hp : v.NamesFile p P) :
    v.SameShape (a.volume v) := by
  rcases ha.volume_cases hp with hkeep | ⟨f, hput⟩
  · rw [hkeep]
    exact .refl v
  · rw [hput]
    exact hp.sameShape_putNew f

/-- A path that names another file leads to it afterwards too. -/
theorem find_eq (ha : s.ComesTo read p v a) (hp : v.NamesFile p P) (hq : v.NamesFile q Q)
    (hne : Q ≠ P) : (a.volume v).find q = v.find q := by
  rcases ha.volume_cases hp with hkeep | ⟨f, hput⟩
  · rw [hkeep]
  · rw [hput]
    exact hq.find_putNew hp hne f

/-- **A run comes to the same after a run over another file.** -/
theorem has_after {r : Run} (hb : t.ComesTo read q v b) (ha : s.ComesTo read p v a)
    (hr : r.Has a v sink) (hq : v.NamesFile q Q) (hp : v.NamesFile p P) (hne : Q ≠ P)
    (hopen : sink.IsOpen) : (t.run read q r.volume r.sink).Has b (a.volume v) r.sink := by
  have hopen' : r.sink.IsOpen := by
    rw [hr.sink_eq]
    exact hopen
  rw [hr.volume_eq]
  exact hb.has _ _ (ha.sameShape hp) (ha.find_eq hp hq hne) hopen'

/-- **Two runs over two files leave the same tree in either order.** -/
theorem sameTree (ha : s.ComesTo read p v a) (hb : t.ComesTo read q v b) (hp : v.NamesFile p P)
    (hq : v.NamesFile q Q) (hne : P ≠ Q) :
    (b.volume (a.volume v)).SameTree (a.volume (b.volume v)) := by
  rcases ha.volume_cases hp with hkeep | ⟨f, hput⟩
  · rw [hkeep, hkeep]
    exact .refl _
  rcases hb.volume_cases hq with hkeep' | ⟨g, hput'⟩
  · rw [hkeep', hkeep']
    exact .refl _
  · obtain ⟨id, old, hold⟩ := hp.isFile
    obtain ⟨id', old', hold'⟩ := hq.isFile
    rw [hput, hput', hput, hput']
    exact Volume.sameTree_putNew hne hold hold' hp.ne_root hq.ne_root f g

end ComesTo

/-- **Runs over two files commute.** If two paths name two different entries
that are files, be they two names of one file, then it does not matter over
which of the two a session runs first: each run has the same result and
reports the same, and the tree that the two leave is the same. Each run may
have its own strategy and may be a dry run or not. -/
theorem run_commutes (s t : Session) (read : TreeReader) (p q : Bytes) (P Q : Place) (v : Volume)
    (sink : Sink) (hv : v.IsTree) (hp : v.NamesFile p P) (hq : v.NamesFile q Q) (hne : P ≠ Q)
    (hopen : sink.IsOpen) :
    let first := s.run read p v sink
    let second := t.run read q first.volume first.sink
    let first' := t.run read q v sink
    let second' := s.run read p first'.volume first'.sink
    second'.result = first.result ∧ second.result = first'.result ∧
      second.volume.SameTree second'.volume ∧
      ∃ report report', first.sink.taken = sink.taken ++ report ∧
        second.sink.taken = first.sink.taken ++ report' ∧
        first'.sink.taken = sink.taken ++ report' ∧
        second'.sink.taken = first'.sink.taken ++ report := by
  intro first second first' second'
  obtain ⟨a, ha⟩ := s.exists_comesTo read p hv
  obtain ⟨b, hb⟩ := t.exists_comesTo read q hv
  have hfirst : first.Has a v sink := ha.has v sink (.refl v) rfl hopen
  have hfirst' : first'.Has b v sink := hb.has v sink (.refl v) rfl hopen
  have hsecond : second.Has b (a.volume v) first.sink :=
    hb.has_after ha hfirst hq hp (Ne.symm hne) hopen
  have hsecond' : second'.Has a (b.volume v) first'.sink :=
    ha.has_after hb hfirst' hp hq hne hopen
  refine ⟨?_, ?_, ?_, a.report, b.report, ?_, ?_, ?_, ?_⟩
  · rw [hsecond'.result_eq, hfirst.result_eq]
  · rw [hsecond.result_eq, hfirst'.result_eq]
  · rw [hsecond.volume_eq, hsecond'.volume_eq]
    exact ha.sameTree hb hp hq hne
  · rw [hfirst.sink_eq]
  · rw [hsecond.sink_eq]
  · rw [hfirst'.sink_eq]
  · rw [hsecond'.sink_eq]

/-- A volume with a file under two names, the second in a directory that a
link leads to. -/
def twoNames : Volume :=
  let file := Entry.file 0 ⟨0o644, Utf8.ofString "x = \"a\"\n"⟩
  { entries := [([Utf8.ofString "f"], file), ([Utf8.ofString "d"], .folder),
      ([Utf8.ofString "d", Utf8.ofString "g"], file),
      ([Utf8.ofString "l"], .link (Utf8.ofString "d"))] }

/-- A run over the one name, and one over the other, which is reached through
the link and `..`: each gives its name a new file, in either order, and the
order tells in the numbers of the two files only. -/
theorem run_commutes_twoNames :
    let s : Session := {}
    let p := Utf8.ofString "f"
    let q := Utf8.ofString "l/../d/g"
    let first := s.run (fun _ => default) p twoNames {}
    let second := s.run (fun _ => default) q first.volume first.sink
    let first' := s.run (fun _ => default) q twoNames {}
    let second' := s.run (fun _ => default) p first'.volume first'.sink
    second'.result = .ok ⟨1, 1, true⟩ ∧ second.result = .ok ⟨1, 1, true⟩ ∧
      second.volume.SameTree second'.volume ∧ second.volume ≠ second'.volume := by
  intro s p q first second first' second'
  have hv : twoNames.IsTree := by decide
  have hp : twoNames.NamesFile p [Utf8.ofString "f"] := ⟨by decide +kernel, _, _, rfl⟩
  have hq : twoNames.NamesFile q [Utf8.ofString "d", Utf8.ofString "g"] :=
    ⟨by decide +kernel, _, _, rfl⟩
  have hfirst : first.result = .ok ⟨1, 1, true⟩ := by decide +kernel
  have hfirst' : first'.result = .ok ⟨1, 1, true⟩ := by decide +kernel
  obtain ⟨hsecond', hsecond, htree, -⟩ := run_commutes s s (fun _ => default) p q _ _ twoNames {}
    hv hp hq (by decide) ⟨rfl, rfl⟩
  exact ⟨hsecond'.trans hfirst, hsecond.trans hfirst', htree, by decide +kernel⟩

end Session

end LiteralMark
