import LiteralMark.Proofs.Directory.Entries
/-!
# Directories — resolving a path, as a relation

`walk` follows the steps of a path with a budget of links. `Leads` is
the same as a relation, one rule per kind of step, and `walk_eq_ok_iff`
says that the two agree when all links are followed. The relation is
what the rest is proved on, by induction over the steps taken: it is
deterministic, a way can be cut in two, and it only reads entries it
passes. The last part is what a change of the volume needs. A way stays
one when entries are added (`Leads.mono`), and a way to a directory
stays one when a name that never led to a directory is given to a file
(`Leads.replace`).
-/

namespace LiteralMark

namespace Volume

variable {v w : Volume} {n m : Nat} {p q r : Place} {name : Name} {rest xs ys : List Name}
variable {e : Entry} {target : Bytes} {follow : Bool}

/-- A step that names an entry: neither `.` nor `..`, and not too long. -/
def IsProper (name : Name) : Prop :=
  name ≠ Path.here ∧ name ≠ Path.up ∧ name.length ≤ nameLimit

/-- Where the target of a link starts, if the link lies in a directory. -/
def linkStart (folder : Place) (target : Bytes) : Place :=
  if Path.isAbsolute target then [] else folder

/-- Through at most a number of links, steps lead from a directory to a
place. -/
inductive Leads (v : Volume) : Nat → Place → List Name → Place → Prop
  /-- No step is left. -/
  | done {n : Nat} {p : Place} : Leads v n p [] p
  /-- The step `.` stays. -/
  | stay {n : Nat} {p q : Place} {rest : List Name} :
      v.entry? p = some .folder → Leads v n p rest q → Leads v n p (Path.here :: rest) q
  /-- The step `..` goes up. -/
  | up {n : Nat} {p q : Place} {rest : List Name} :
      v.entry? p = some .folder → Leads v n p.dropLast rest q → Leads v n p (Path.up :: rest) q
  /-- A name goes down to its entry. -/
  | enter {n : Nat} {p q : Place} {name : Name} {rest : List Name} {e : Entry} :
      v.entry? p = some .folder → IsProper name → v.entry? (p ++ [name]) = some e →
      (∀ target, e ≠ .link target) → Leads v n (p ++ [name]) rest q → Leads v n p (name :: rest) q
  /-- The name of a link goes where the link points. -/
  | link {n : Nat} {p q : Place} {name : Name} {rest : List Name} {target : Bytes} :
      v.entry? p = some .folder → IsProper name → v.entry? (p ++ [name]) = some (.link target) →
      Leads v n (linkStart p target) (Path.steps target ++ rest) q → Leads v (n + 1) p (name :: rest) q

/-! ## The steps of `walk` -/

theorem walk_nil : v.walk follow n p [] = .ok p := by
  cases n <;> rfl

theorem walk_stay (hp : v.entry? p = some .folder) :
    v.walk follow n p (Path.here :: rest) = v.walk follow n p rest := by
  cases n <;> simp [walk, walkWith, hp]

theorem walk_up (hp : v.entry? p = some .folder) :
    v.walk follow n p (Path.up :: rest) = v.walk follow n p.dropLast rest := by
  have hne : Path.up ≠ Path.here := by decide
  cases n <;> simp [walk, walkWith, hp, hne]

theorem walk_enter (hp : v.entry? p = some .folder) (hname : IsProper name)
    (he : v.entry? (p ++ [name]) = some e) (hlink : ∀ target, e ≠ .link target) :
    v.walk follow n p (name :: rest) = v.walk follow n (p ++ [name]) rest := by
  obtain ⟨hhere, hup, hlen⟩ := hname
  have hlong : ¬ nameLimit < name.length := Nat.not_lt.2 hlen
  cases e with
  | file id f => cases n <;> simp [walk, walkWith, hp, hhere, hup, hlong, he]
  | folder => cases n <;> simp [walk, walkWith, hp, hhere, hup, hlong, he]
  | link target => exact absurd rfl (hlink target)

theorem walk_link (hp : v.entry? p = some .folder) (hname : IsProper name)
    (he : v.entry? (p ++ [name]) = some (.link target)) (hgo : rest ≠ [] ∨ follow = true) :
    v.walk follow (n + 1) p (name :: rest) =
      v.walk follow n (linkStart p target) (Path.steps target ++ rest) := by
  obtain ⟨hhere, hup, hlen⟩ := hname
  have hlong : ¬ nameLimit < name.length := Nat.not_lt.2 hlen
  have hstop : ¬ (rest = [] ∧ follow = false) := by
    rintro ⟨hnil, hfollow⟩
    rcases hgo with h | h
    · exact h hnil
    · rw [hfollow] at h
      cases h
  simp [walk, walkWith, hp, hhere, hup, hlong, he, hstop, linkStart]

/-- A link that is not followed is reached as it is. -/
theorem walk_last_link (hp : v.entry? p = some .folder) (hname : IsProper name)
    (he : v.entry? (p ++ [name]) = some (.link target)) :
    v.walk false n p [name] = .ok (p ++ [name]) := by
  obtain ⟨hhere, hup, hlen⟩ := hname
  have hlong : ¬ nameLimit < name.length := Nat.not_lt.2 hlen
  cases n <;> simp [walk, walkWith, hp, hhere, hup, hlong, he]

/-! ## The relation agrees with `walk` -/

/-- Every way of the relation is walked. -/
theorem Leads.walk_eq (h : v.Leads n p xs q) : v.walk true n p xs = .ok q := by
  induction h with
  | done => exact walk_nil
  | stay hp _ ih => rw [walk_stay hp, ih]
  | up hp _ ih => rw [walk_up hp, ih]
  | enter hp hname he hlink _ ih => rw [walk_enter hp hname he hlink, ih]
  | link hp hname he _ ih => rw [walk_link hp hname he (Or.inr rfl), ih]

/-- Whatever `walk` does first, one rule of the relation does: if links
are expanded as the relation says, walking is as the relation says. -/
theorem leads_of_walkWith {expand : Place → List Name → Except SystemError Place}
    (hexpand : ∀ p name rest target, v.entry? p = some .folder → IsProper name →
      v.entry? (p ++ [name]) = some (.link target) →
      expand (linkStart p target) (Path.steps target ++ rest) = .ok q →
      v.Leads n p (name :: rest) q)
    (h : v.walkWith true expand p xs = .ok q) : v.Leads n p xs q := by
  induction xs generalizing p with
  | nil =>
    simp only [walkWith, Except.ok.injEq] at h
    exact h ▸ .done
  | cons name rest ih =>
    rw [walkWith] at h
    split at h
    · rename_i hp
      split at h
      · rename_i hhere
        exact hhere ▸ .stay hp (ih h)
      split at h
      · rename_i hup
        exact hup ▸ .up hp (ih h)
      split at h
      · cases h
      rename_i hhere hup hlen
      have hname : IsProper name := ⟨hhere, hup, Nat.not_lt.1 hlen⟩
      split at h
      · cases h
      · rename_i target he
        rw [if_neg (by simp)] at h
        exact hexpand p name rest target hp hname he h
      · rename_i e hlink he
        exact .enter hp hname he (fun target heq => hlink target heq) (ih h)
    · cases h
    · cases h

/-- **Walking through all links is the relation.** -/
theorem walk_eq_ok_iff : v.walk true n p xs = .ok q ↔ v.Leads n p xs q := by
  refine ⟨fun h => ?_, Leads.walk_eq⟩
  induction n generalizing p xs q with
  | zero => exact leads_of_walkWith (fun _ _ _ _ _ _ _ h => by cases h) h
  | succ n ih =>
    exact leads_of_walkWith (fun p name rest target hp hname he h => .link hp hname he (ih h)) h

namespace Leads

/-! ## What a way says of the places it passes -/

/-- A way that has a step left stands in a directory. -/
theorem folder_of_ne_nil (h : v.Leads n p xs q) (hxs : xs ≠ []) : v.entry? p = some .folder := by
  cases h with
  | done => exact absurd rfl hxs
  | stay hp _ => exact hp
  | up hp _ => exact hp
  | enter hp _ _ _ _ => exact hp
  | link hp _ _ _ => exact hp

/-- **The relation is deterministic**, whatever the budgets are. -/
theorem unique (h : v.Leads n p xs q) (h' : v.Leads m p xs r) : q = r := by
  induction h generalizing m with
  | done => cases h'; rfl
  | stay hp _ ih =>
    cases h' with
    | stay _ h' => exact ih h'
    | enter _ hname _ _ _ => exact absurd rfl hname.1
    | link _ hname _ _ => exact absurd rfl hname.1
  | up hp _ ih =>
    cases h' with
    | up _ h' => exact ih h'
    | enter _ hname _ _ _ => exact absurd rfl hname.2.1
    | link _ hname _ _ => exact absurd rfl hname.2.1
  | enter hp hname he hlink _ ih =>
    cases h' with
    | stay _ _ => exact absurd rfl hname.1
    | up _ _ => exact absurd rfl hname.2.1
    | enter _ _ _ _ h' => exact ih h'
    | link _ _ he' _ =>
      rw [he] at he'
      exact absurd (Option.some.inj he') (hlink _)
  | link hp hname he _ ih =>
    cases h' with
    | stay _ _ => exact absurd rfl hname.1
    | up _ _ => exact absurd rfl hname.2.1
    | enter _ _ he' hlink _ =>
      rw [he] at he'
      exact absurd (Option.some.inj he').symm (hlink _)
    | link _ _ he' h' =>
      rw [he] at he'
      cases he'
      exact ih h'

/-- The budget relaxes upward. -/
theorem mono_links (h : v.Leads n p xs q) (hnm : n ≤ m) : v.Leads m p xs q := by
  induction h generalizing m with
  | done => exact .done
  | stay hp _ ih => exact .stay hp (ih hnm)
  | up hp _ ih => exact .up hp (ih hnm)
  | enter hp hname he hlink _ ih => exact .enter hp hname he hlink (ih hnm)
  | link hp hname he _ ih =>
    obtain ⟨m, rfl⟩ : ∃ k, m = k + 1 := ⟨m - 1, by omega⟩
    exact .link hp hname he (ih (by omega))

/-! ## Cutting a way in two -/

/-- **A way along two lists of steps stops in between.** -/
theorem split (h : v.Leads n p (xs ++ ys) q) :
    ∃ r, v.Leads n p xs r ∧ v.Leads n r ys q := by
  generalize hzs : xs ++ ys = zs at h
  induction h generalizing xs with
  | done =>
    obtain ⟨rfl, rfl⟩ := List.append_eq_nil_iff.1 hzs
    exact ⟨_, .done, .done⟩
  | stay hp h ih =>
    rcases List.append_eq_cons_iff.1 hzs with ⟨rfl, rfl⟩ | ⟨xs, rfl, rfl⟩
    · exact ⟨_, .done, .stay hp h⟩
    · obtain ⟨r, h₁, h₂⟩ := ih rfl
      exact ⟨r, .stay hp h₁, h₂⟩
  | up hp h ih =>
    rcases List.append_eq_cons_iff.1 hzs with ⟨rfl, rfl⟩ | ⟨xs, rfl, rfl⟩
    · exact ⟨_, .done, .up hp h⟩
    · obtain ⟨r, h₁, h₂⟩ := ih rfl
      exact ⟨r, .up hp h₁, h₂⟩
  | enter hp hname he hlink h ih =>
    rcases List.append_eq_cons_iff.1 hzs with ⟨rfl, rfl⟩ | ⟨xs, rfl, rfl⟩
    · exact ⟨_, .done, .enter hp hname he hlink h⟩
    · obtain ⟨r, h₁, h₂⟩ := ih rfl
      exact ⟨r, .enter hp hname he hlink h₁, h₂⟩
  | link hp hname he h ih =>
    rcases List.append_eq_cons_iff.1 hzs with ⟨rfl, rfl⟩ | ⟨xs, rfl, rfl⟩
    · exact ⟨_, .done, .link hp hname he h⟩
    · obtain ⟨r, h₁, h₂⟩ := ih (List.append_assoc _ _ _)
      exact ⟨r, .link hp hname he h₁, h₂.mono_links (Nat.le_succ _)⟩

/-- And two ways that meet are one, with the budgets added. -/
theorem append (h : v.Leads n p xs r) (h' : v.Leads m r ys q) : v.Leads (n + m) p (xs ++ ys) q := by
  induction h with
  | done => exact h'.mono_links (Nat.le_add_left _ _)
  | stay hp _ ih => exact .stay hp (ih h')
  | up hp _ ih => exact .up hp (ih h')
  | enter hp hname he hlink _ ih => exact .enter hp hname he hlink (ih h')
  | @link n p r name rest target hp hname he _ ih =>
    rw [Nat.add_right_comm, List.cons_append]
    refine .link hp hname he ?_
    rw [← List.append_assoc]
    exact ih h'

/-- A way to a directory starts in one. -/
theorem folder_start (h : v.Leads n p xs q) (hq : v.entry? q = some .folder) :
    v.entry? p = some .folder := by
  cases xs with
  | nil =>
    cases h
    exact hq
  | cons x xs => exact h.folder_of_ne_nil (List.cons_ne_nil _ _)

/-- **The last name of a path, not followed.** After a way to a directory
one more name reaches the entry of that name, a link or not. -/
theorem walk_false (h : v.Leads n p xs r) (hr : v.entry? r = some .folder) (hname : IsProper name)
    (he : v.entry? (r ++ [name]) = some e) :
    v.walk false n p (xs ++ [name]) = .ok (r ++ [name]) := by
  have hlast {xs : List Name} : xs ++ [name] ≠ [] := by simp
  induction h with
  | done =>
    cases e with
    | link target => exact walk_last_link hr hname he
    | file id f => rw [List.nil_append, walk_enter hr hname he (by simp), walk_nil]
    | folder => rw [List.nil_append, walk_enter hr hname he (by simp), walk_nil]
  | stay hp _ ih => rw [List.cons_append, walk_stay hp, ih hr he]
  | up hp _ ih => rw [List.cons_append, walk_up hp, ih hr he]
  | enter hp hname' he' hlink _ ih =>
    rw [List.cons_append, walk_enter hp hname' he' hlink, ih hr he]
  | link hp hname' he' _ ih =>
    rw [List.cons_append, walk_link hp hname' he' (Or.inl hlast), ← List.append_assoc, ih hr he]

/-! ## Changing the volume -/

/-- **A way stays one when entries are added.** -/
theorem mono (hvw : ∀ q e, v.entry? q = some e → w.entry? q = some e) (h : v.Leads n p xs q) :
    w.Leads n p xs q := by
  induction h with
  | done => exact .done
  | stay hp _ ih => exact .stay (hvw _ _ hp) ih
  | up hp _ ih => exact .up (hvw _ _ hp) ih
  | enter hp hname he hlink _ ih => exact .enter (hvw _ _ hp) hname (hvw _ _ he) hlink ih
  | link hp hname he _ ih => exact .link (hvw _ _ hp) hname (hvw _ _ he) ih

end Leads

/-- A place is a dead end if no way to a directory goes through it: it is
no directory itself, and no link to one. -/
def IsDeadEnd (v : Volume) (p : Place) : Prop :=
  v.entry? p ≠ some .folder ∧
    ∀ target, v.entry? p = some (.link target) →
      ∀ n q, v.Leads n (linkStart p.dropLast target) (Path.steps target) q →
        v.entry? q ≠ some .folder

/-- **A way to a directory stays one when a dead end changes.** The way
never stands at the changed place: it could not go on from there, nor end
there. -/
theorem Leads.replace {place : Place} (hoff : ∀ q, q ≠ place → w.entry? q = v.entry? q)
    (hdead : v.IsDeadEnd place) (h : v.Leads n p xs q) (hq : v.entry? q = some .folder) :
    w.Leads n p xs q := by
  have hfolder {p : Place} (hp : v.entry? p = some .folder) : w.entry? p = some .folder := by
    rw [hoff p fun heq => hdead.1 (heq ▸ hp)]
    exact hp
  induction h with
  | done => exact .done
  | stay hp _ ih => exact .stay (hfolder hp) (ih hq)
  | up hp _ ih => exact .up (hfolder hp) (ih hq)
  | @enter n p q name rest e hp hname he hlink h ih =>
    have hne : p ++ [name] ≠ place := fun heq => hdead.1 (heq ▸ h.folder_start hq)
    exact .enter (hfolder hp) hname ((hoff _ hne).trans he) hlink (ih hq)
  | @link n p q name rest target hp hname he h ih =>
    have hne : p ++ [name] ≠ place := by
      rintro rfl
      obtain ⟨r, hr, hrest⟩ := h.split
      have hstart : (p ++ [name]).dropLast = p := List.dropLast_concat
      exact hdead.2 target he n r (by rw [hstart]; exact hr) (hrest.folder_start hq)
    exact .link (hfolder hp) hname ((hoff _ hne).trans he) (ih hq)

end Volume

end LiteralMark
