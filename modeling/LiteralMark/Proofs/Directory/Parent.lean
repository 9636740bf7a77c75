import LiteralMark.Proofs.Directory.Tree
/-!
# Directories — the parent of a path

The parent of a path is found in its bytes: trailing components that mean
nothing are cut off, then one component, then again those that mean
nothing. The system never sees this; it resolves what is left. So the two
readings of a path have to agree. `parts_of_body` says what cutting does to
the components: those of the parent come first, then some `.`, one name,
and some `.` again. Hence a way along the path passes the parent, and a
path that leads anywhere has a directory that is found
(`exists_resolveFolder_directory`). If the path names an entry, it is the
directory that holds the entry, be the entry a link or reached through
links, and the name that was cut off is the name of the entry
(`Names.fileName?_directory`).
-/

namespace LiteralMark

namespace Path

variable {path parent name : Bytes} {n : Nat}

/-! ## Cutting bytes at a slash -/

theorem split_append_slash (front back : Bytes) :
    split (front ++ slash :: back) = split front ++ split back := by
  induction front with
  | nil => simp [split]
  | cons b front ih =>
    rw [List.cons_append, split, split, ih]
    split
    · rfl
    · obtain ⟨first, more, hsplit⟩ := List.exists_cons_of_ne_nil (split_ne_nil front)
      simp [hsplit]

theorem split_of_notMem (h : slash ∉ name) : split name = [name] := by
  induction name with
  | nil => rfl
  | cons b name ih =>
    rw [List.mem_cons, not_or] at h
    rw [split, if_neg (Ne.symm h.1), ih h.2]

@[simp] theorem parts_append_slash (front back : Bytes) :
    parts (front ++ slash :: back) = parts front ++ parts back := by
  rw [parts, split_append_slash, List.filter_append]
  rfl

@[simp] theorem parts_slash (back : Bytes) : parts (slash :: back) = parts back :=
  parts_append_slash [] back

theorem parts_of_notMem (h : slash ∉ name) (hne : name ≠ []) : parts name = [name] := by
  rw [parts, split_of_notMem h]
  simp [hne]

/-! ## The last component -/

/-- The last component behind the anchor. -/
def lastName (path : Bytes) : Name := (lastPart (path.drop (anchorLength path))).1

/-- What is left without the last component and the slash in front of it. -/
def front (path : Bytes) : Bytes :=
  path.take (path.length - (lastPart (path.drop (anchorLength path))).2)

/-- The bytes in front of the last component end in a slash, or there are
none. -/
theorem lastPart_cases (body : Bytes) : slash ∉ (lastPart body).1 ∧
    ((lastPart body = (body, body.length)) ∨
      ∃ before, body = before ++ slash :: (lastPart body).1 ∧
        (lastPart body).2 = (lastPart body).1.length + 1) := by
  have hname : (lastPart body).1 = (body.reverse.takeWhile (· ≠ slash)).reverse := rfl
  have hbody : body = (body.reverse.dropWhile (· ≠ slash)).reverse ++ (lastPart body).1 := by
    rw [hname, ← List.reverse_append, List.takeWhile_append_dropWhile, List.reverse_reverse]
  refine ⟨fun h => ?_, ?_⟩
  · rw [hname, List.mem_reverse] at h
    simpa using List.all_eq_true.1 List.all_takeWhile _ h
  rcases hdrop : body.reverse.dropWhile (· ≠ slash) with _ | ⟨b, rest⟩
  · rw [hdrop, List.reverse_nil, List.nil_append] at hbody
    refine Or.inl (Prod.ext hbody.symm ?_)
    rw [lastPart, ← hname, ← hbody]
    simp
  · have hb : b = slash := by
      have hhead := List.head?_dropWhile_not (· ≠ slash) body.reverse
      rw [hdrop] at hhead
      simpa using hhead
    rw [hdrop, hb, List.reverse_cons, List.append_assoc, List.singleton_append] at hbody
    refine Or.inr ⟨rest.reverse, hbody, ?_⟩
    have hlt : (lastPart body).1.length < body.length := by
      have := congrArg List.length hbody
      simp at this
      omega
    rw [lastPart, ← hname, if_pos hlt]

/-- The anchor is nothing, the root, or a leading `.` with a slash or
nothing behind it. -/
theorem anchor_cases (path : Bytes) :
    path.take (anchorLength path) = [] ∨ path.take (anchorLength path) = [slash] ∨
      path.drop (anchorLength path) = [] ∨ (path.drop (anchorLength path)).head? = some slash := by
  cases path with
  | nil => simp
  | cons b rest =>
    rw [anchorLength]
    split
    · rename_i hb
      simp [hb]
    split
    · rename_i hdot
      simpa using Or.inr hdot.2
    · simp

/-- **A path is its front and its last component**, with a slash between
them unless the front is the root or nothing. -/
theorem eq_front_append (h : path.drop (anchorLength path) ≠ []) :
    path = front path ++ slash :: lastName path ∨
      path = front path ++ lastName path ∧ lastName path ≠ [] ∧
        (front path = [] ∨ front path = [slash]) := by
  have hpath := List.take_append_drop (anchorLength path) path
  obtain ⟨hnot, hlast | ⟨before, hbefore, hsize⟩⟩ := lastPart_cases (path.drop (anchorLength path))
  · have hname : lastName path = path.drop (anchorLength path) := by rw [lastName, hlast]
    have hfront : front path = path.take (anchorLength path) := by
      rw [front, hlast, List.length_drop]
      have := List.length_pos_iff.2 h
      rw [List.length_drop] at this
      congr 1
      omega
    refine Or.inr ⟨by rw [hfront, hname, hpath], by rwa [hname], ?_⟩
    rw [hfront]
    rcases anchor_cases path with hnil | hroot | hbody | hhead
    · exact Or.inl hnil
    · exact Or.inr hroot
    · exact absurd hbody h
    · rw [hlast] at hnot
      exact absurd (List.mem_of_mem_head? hhead) hnot
  · left
    have hsplit : path = (path.take (anchorLength path) ++ before) ++ slash :: lastName path := by
      rw [List.append_assoc, lastName, ← hbefore, hpath]
    have hfront : front path = path.take (anchorLength path) ++ before := by
      have hlength := congrArg List.length hsplit
      rw [List.length_append, List.length_cons, lastName] at hlength
      rw [front, hsize, List.prefix_iff_eq_take.1 ⟨_, hsplit.symm⟩]
      congr 1
      omega
    rw [hfront]
    exact hsplit

theorem slash_notMem_lastName (path : Bytes) : slash ∉ lastName path :=
  (lastPart_cases _).1

theorem front_isPrefix (path : Bytes) : front path <+: path := List.take_prefix _ _

theorem lastName_subset (path : Bytes) : lastName path ⊆ path := by
  intro b hb
  rw [lastName, lastPart, List.mem_reverse] at hb
  exact List.mem_of_mem_drop (List.mem_reverse.1 ((List.takeWhile_subset _) hb))

theorem parts_eq_front (h : path.drop (anchorLength path) ≠ []) :
    parts path = parts (front path) ++ parts (lastName path) := by
  rcases eq_front_append h with heq | ⟨heq, -, hfront | hfront⟩
  · conv_lhs => rw [heq, parts_append_slash]
  · conv_lhs => rw [heq, hfront]
    rw [hfront]
    rfl
  · conv_lhs => rw [heq, hfront]
    rw [hfront]
    exact parts_slash _

theorem length_front_lt (h : path.drop (anchorLength path) ≠ []) :
    (front path).length < path.length := by
  rcases eq_front_append h with heq | ⟨heq, hne, -⟩
  · have hlength := congrArg List.length heq
    rw [List.length_append, List.length_cons] at hlength
    omega
  · have hlength := congrArg List.length heq
    have := List.length_pos_iff.2 hne
    rw [List.length_append] at hlength
    omega

/-! ## Components that mean nothing -/

theorem trimAtMost_succ (n : Nat) (path : Bytes) : trimAtMost (n + 1) path =
    if path.drop (anchorLength path) ≠ [] ∧ (lastName path = [] ∨ lastName path = here) then
      trimAtMost n (front path)
    else path := by
  rw [trimAtMost]
  by_cases hbody : path.drop (anchorLength path) = []
  · simp [hbody]
  · simp only [hbody, ne_eq, not_false_eq_true, true_and, if_false]
    rfl

theorem trimAtMost_isPrefix (n : Nat) (path : Bytes) : trimAtMost n path <+: path := by
  induction n generalizing path with
  | zero => exact List.prefix_refl path
  | succ n ih =>
    rw [trimAtMost_succ]
    split
    · exact (ih _).trans (front_isPrefix path)
    · exact List.prefix_refl path

/-- **What is trimmed off is `.` and nothing else.** -/
theorem parts_trimAtMost (n : Nat) (path : Bytes) :
    ∃ k, parts path = parts (trimAtMost n path) ++ List.replicate k here := by
  induction n generalizing path with
  | zero => exact ⟨0, by simp [trimAtMost]⟩
  | succ n ih =>
    rw [trimAtMost_succ]
    split
    · rename_i hgo
      obtain ⟨k, hk⟩ := ih (front path)
      rw [parts_eq_front hgo.1, hk]
      rcases hgo.2 with hname | hname
      · exact ⟨k, by rw [hname]; exact List.append_nil _⟩
      · refine ⟨k + 1, ?_⟩
        rw [hname, List.replicate_succ', List.append_assoc]
        rfl
    · exact ⟨0, by simp⟩

/-- **A trimmed path ends in a component that means something**, if it has
one: as many rounds as there are bytes are enough, since each takes at
least one. -/
theorem lastName_trimAtMost (hn : path.length ≤ n)
    (hbody : (trimAtMost n path).drop (anchorLength (trimAtMost n path)) ≠ []) :
    lastName (trimAtMost n path) ≠ [] ∧ lastName (trimAtMost n path) ≠ here := by
  induction n generalizing path with
  | zero =>
    rw [List.eq_nil_of_length_eq_zero (Nat.le_zero.1 hn)] at hbody
    exact absurd rfl hbody
  | succ n ih =>
    rw [trimAtMost_succ] at hbody ⊢
    split at hbody
    · rename_i hgo
      rw [if_pos hgo]
      have := length_front_lt hgo.1
      exact ih (by omega) hbody
    · rename_i hstop
      rw [if_neg hstop]
      exact not_or.1 fun hname => hstop ⟨hbody, hname⟩

/-- Without a component behind the anchor a path has none but `.`. -/
theorem eq_here_of_mem_parts (hbody : path.drop (anchorLength path) = [])
    (hname : name ∈ parts path) : name = here := by
  cases path with
  | nil => simp [parts, split] at hname
  | cons b rest =>
    rw [anchorLength] at hbody
    split at hbody
    · -- the root
      rename_i hb
      obtain rfl : rest = [] := hbody
      simp [hb, parts, split] at hname
    split at hbody
    · -- a leading `.`
      rename_i hdot
      obtain rfl : rest = [] := hbody
      rw [hdot.1] at hname
      have hparts : parts [46] = [here] := by decide
      rwa [hparts, List.mem_singleton] at hname
    · cases hbody

/-! ## Keeping the root -/

theorem isAbsolute_front (h : isAbsolute path = true) : isAbsolute (front path) = true := by
  cases path with
  | nil => cases h
  | cons b rest =>
    have hb : b = slash := by simpa [isAbsolute] using h
    have hanchor : anchorLength (b :: rest) = 1 := by rw [anchorLength, if_pos hb]
    -- the last component lies behind the root, so it takes no more bytes than there are
    have hsize : (lastPart rest).2 ≤ rest.length := by
      obtain ⟨-, hlast | ⟨before, hbefore, hsize⟩⟩ := lastPart_cases rest
      · exact Nat.le_of_eq (by rw [hlast])
      · have hlength := congrArg List.length hbefore
        rw [List.length_append, List.length_cons] at hlength
        omega
    have hlength : (b :: rest).length - (lastPart rest).2 = rest.length - (lastPart rest).2 + 1 := by
      rw [List.length_cons]
      omega
    rw [front, hanchor, List.drop_one, List.tail_cons, hlength, List.take_succ_cons]
    exact h

theorem isAbsolute_trimAtMost (n : Nat) (h : isAbsolute path = true) :
    isAbsolute (trimAtMost n path) = true := by
  induction n generalizing path with
  | zero => exact h
  | succ n ih =>
    rw [trimAtMost_succ]
    split
    · exact ih (isAbsolute_front h)
    · exact h

/-! ## Parent and file name -/

/-- **What cutting does to the components**: those of the parent, some `.`,
the last name, and some `.` again. -/
theorem parts_of_body (hbody : (trim path).drop (anchorLength (trim path)) ≠ []) :
    ∃ j k, parts path = parts (trim (front (trim path))) ++
      (List.replicate j here ++ lastName (trim path) :: List.replicate k here) := by
  obtain ⟨k, hk⟩ := parts_trimAtMost path.length path
  obtain ⟨j, hj⟩ := parts_trimAtMost (front (trim path)).length (front (trim path))
  have hname : parts (lastName (trim path)) = [lastName (trim path)] :=
    parts_of_notMem (slash_notMem_lastName _) (lastName_trimAtMost (Nat.le_refl _) hbody).1
  refine ⟨j, k, ?_⟩
  change parts path = parts (trim path) ++ _ at hk
  change parts (front (trim path)) = parts (trim (front (trim path))) ++ _ at hj
  rw [hk, parts_eq_front hbody, hj, hname]
  simp

theorem trim_front_trim_isPrefix (path : Bytes) : trim (front (trim path)) <+: path :=
  (trimAtMost_isPrefix _ _).trans ((front_isPrefix _).trans (trimAtMost_isPrefix _ _))

/-- **The parent of a path is a first piece of it**, and its components
are followed by one name, if `.` is not counted. -/
theorem parts_parent (h : parent? path = some parent) (hne : parent ≠ []) :
    parent <+: path ∧ ∃ j k name, parts path =
      parts parent ++ (List.replicate j here ++ name :: List.replicate k here) := by
  rw [parent?] at h
  split at h
  · rename_i hbody
    obtain ⟨j, k, hparts⟩ := parts_of_body hbody
    have hparent : trim (front (trim path)) = parent := Option.some.inj h
    rw [hparent] at hparts
    refine ⟨?_, j, k, lastName (trim path), hparts⟩
    rw [← hparent]
    exact trim_front_trim_isPrefix path
  · split at h
    · cases h
    · exact absurd (Option.some.inj h).symm hne

/-- **A path whose last component is a name is cut in front of that name.**
The name is the file name of the path, and what is in front of it are the
components of the parent, if `.` is not counted. The parent is empty only
if the path is relative. -/
theorem parent?_of_last {before : List Name} (hparts : parts path = before ++ [name])
    (hhere : name ≠ here) (hup : name ≠ up) :
    fileName? path = some name ∧ ∃ parent j, parent? path = some parent ∧ parent <+: path ∧
      before = parts parent ++ List.replicate j here ∧
      (isAbsolute path = true → parent ≠ []) := by
  have hbody : (trim path).drop (anchorLength (trim path)) ≠ [] := by
    intro hnil
    obtain ⟨k, hk⟩ := parts_trimAtMost path.length path
    -- all components would be `.`, the last too
    refine hhere ?_
    have hmem : name ∈ parts path := by simp [hparts]
    rw [hk, List.mem_append] at hmem
    rcases hmem with hmem | hmem
    · exact eq_here_of_mem_parts hnil hmem
    · exact List.eq_of_mem_replicate hmem
  obtain ⟨j, k, hcut⟩ := parts_of_body hbody
  -- the last component is no `.`, so nothing was trimmed off the end
  have hk : k = 0 := by
    by_contra hk
    obtain ⟨k, rfl⟩ : ∃ m, k = m + 1 := ⟨k - 1, by omega⟩
    have hlast := congrArg List.getLast? (hparts.symm.trans hcut)
    rw [List.replicate_succ', ← List.cons_append, ← List.append_assoc, ← List.append_assoc,
      List.getLast?_concat, List.getLast?_concat] at hlast
    exact hhere (Option.some.inj hlast)
  subst hk
  rw [hparts, List.replicate_zero, ← List.append_assoc] at hcut
  obtain ⟨hbefore, hname⟩ := List.append_inj' hcut rfl
  have hlast : lastName (trim path) = name := (List.singleton_inj.1 hname).symm
  refine ⟨?_, trim (front (trim path)), j, ?_, trim_front_trim_isPrefix path, hbefore, ?_⟩
  · have hne := (lastName_trimAtMost (Nat.le_refl _) hbody).1
    rw [fileName?]
    split
    · rename_i hempty
      exact absurd (congrArg Prod.fst hempty) hne
    · rename_i found size _ hfound
      have hfound' : found = name := (congrArg Prod.fst hfound).symm.trans hlast
      rw [if_neg (by rwa [hfound']), hfound']
  · rw [parent?]
    exact if_pos hbody
  · intro habsolute hnil
    have hroot : isAbsolute (trim (front (trim path))) = true :=
      isAbsolute_trimAtMost _ (isAbsolute_front (isAbsolute_trimAtMost _ habsolute))
    rw [hnil] at hroot
    cases hroot

/-- **The directory of a path** is the working directory or a first piece
of the path. -/
theorem directory_cases (path : Bytes) :
    directory path = here ∨ directory path ≠ [] ∧ directory path <+: path ∧
      ∃ rest, rest ≠ [] ∧ parts path = parts (directory path) ++ rest := by
  rcases hparent : parent? path with _ | _ | ⟨b, parent⟩
  · exact Or.inl (by rw [directory, hparent])
  · exact Or.inl (by rw [directory, hparent])
  · have hdirectory : directory path = b :: parent := by rw [directory, hparent]
    obtain ⟨hbegins, j, k, name, hparts⟩ := parts_parent hparent (List.cons_ne_nil _ _)
    rw [hdirectory]
    exact Or.inr ⟨List.cons_ne_nil _ _, hbegins, _, by simp, hparts⟩

theorem fileName?_subset (h : fileName? path = some name) : name ⊆ path := by
  have hlast : lastName (trim path) = name := by
    rw [fileName?] at h
    split at h
    · cases h
    · rename_i last size _ hlast
      split at h
      · cases h
      · rw [lastName, hlast]
        exact Option.some.inj h
  rw [← hlast]
  exact List.Subset.trans (lastName_subset _) (trimAtMost_isPrefix _ _).subset

end Path

namespace Volume

variable {v : Volume} {path directory : Bytes} {p q : Place} {n : Nat}

/-- The steps of a path to a directory are its components: a slash at the
end stays there. -/
theorem Leads.steps_of_parts (h : v.Leads n p (Path.parts path) q)
    (hq : v.entry? q = some .folder) : v.Leads n p (Path.steps path) q := by
  rw [Path.steps]
  split
  · exact h.append (m := 0) (.stay hq .done)
  · exact h

theorem startOf_eq_of_isPrefix (h : directory <+: path) (hne : directory ≠ []) :
    v.startOf directory = v.startOf path := by
  obtain ⟨rest, rfl⟩ := h
  obtain ⟨b, directory, rfl⟩ := List.exists_cons_of_ne_nil hne
  rfl

/-- A first piece of a path is a path that the system takes, so it leads
where its components lead. -/
theorem resolveFolder_of_isPrefix {folder : Place} (hbegins : directory <+: path)
    (hne : directory ≠ []) (hnul : path.contains 0 = false) (hshort : path.length < pathLimit)
    (hleads : v.Leads linkLimit (v.startOf path) (Path.parts directory) folder)
    (hfolder : v.entry? folder = some .folder) : v.resolveFolder directory = .ok folder := by
  rw [resolveFolder_eq_ok_iff, resolve_eq_ok_iff, startOf_eq_of_isPrefix hbegins hne]
  refine ⟨⟨?_, ?_, hne, hleads.steps_of_parts hfolder⟩, hfolder⟩
  · rw [List.contains_eq_mem, decide_eq_false_iff_not] at hnul ⊢
    exact fun hmem => hnul (hbegins.subset hmem)
  · exact Nat.lt_of_le_of_lt hbegins.length_le hshort

/-- The path `.` leads to the working directory. -/
theorem resolveFolder_here (hhome : v.entry? v.home = some .folder) :
    v.resolveFolder Path.here = .ok v.home := by
  rw [resolveFolder_eq_ok_iff, resolve_eq_ok_iff]
  exact ⟨⟨by decide, by decide, by decide, .stay hhome .done⟩, hhome⟩

/-- **A path that leads anywhere has a directory**, if there is a working
directory. -/
theorem exists_resolveFolder_directory (hhome : v.entry? v.home = some .folder)
    (h : v.resolve path = .ok q) : ∃ folder, v.resolveFolder (Path.directory path) = .ok folder := by
  obtain ⟨hnul, hshort, -, hleads⟩ := resolve_eq_ok_iff.1 h
  rcases Path.directory_cases path with hhere | ⟨hne, hbegins, rest, hrest, hparts⟩
  · rw [hhere]
    exact ⟨v.home, resolveFolder_here hhome⟩
  · -- the way along the path stops at the directory, and goes on
    have hsteps : ∃ rest', rest' ≠ [] ∧
        Path.steps path = Path.parts (Path.directory path) ++ rest' := by
      rw [Path.steps, hparts]
      split
      · exact ⟨rest ++ [Path.here], by simp, List.append_assoc _ _ _⟩
      · exact ⟨rest, hrest, rfl⟩
    obtain ⟨rest', hrest', heq⟩ := hsteps
    rw [heq] at hleads
    obtain ⟨folder, hfront, hback⟩ := hleads.split
    exact ⟨folder, resolveFolder_of_isPrefix hbegins hne hnul hshort hfront
      (hback.folder_of_ne_nil hrest')⟩

/-! ## The entry beside which a path has its directory -/

/-- A way along `.` alone goes nowhere. -/
theorem Leads.eq_of_replicate_here {k : Nat} (h : v.Leads n p (List.replicate k Path.here) q) :
    q = p := by
  induction k with
  | zero =>
    cases h
    rfl
  | succ k ih =>
    rw [List.replicate_succ] at h
    cases h with
    | stay _ h => exact ih h
    | enter _ hproper _ _ _ => exact absurd rfl hproper.1
    | link _ hproper _ _ => exact absurd rfl hproper.1

/-- **The two readings of a path agree.** Where a path names an entry, its
file name is the name of the entry, and its directory leads to the one that
holds the entry. -/
theorem Names.fileName?_directory {folder : Place} {name : Name} (h : v.Names path folder name) :
    Path.fileName? path = some name ∧ v.resolveFolder (Path.directory path) = .ok folder := by
  obtain ⟨before, hparts, hleads⟩ := h.parts_eq
  obtain ⟨hname, parent, j, hparent, hbegins, hbefore, hroot⟩ :=
    Path.parent?_of_last hparts h.proper.1 h.proper.2.1
  refine ⟨hname, ?_⟩
  -- the way to the entry passes the parent and stays there
  rw [hbefore] at hleads
  obtain ⟨r, hfront, hdots⟩ := hleads.split
  obtain rfl := hdots.eq_of_replicate_here
  cases hcons : parent with
  | nil =>
    have hstart : v.startOf path = v.home := by
      rw [startOf, if_neg fun habsolute => hroot habsolute hcons]
    have hdirectory : Path.directory path = Path.here := by
      rw [Path.directory, hparent, hcons]
    rw [hcons, hstart] at hfront
    obtain rfl : folder = v.home := by
      cases hfront
      rfl
    rw [hdirectory]
    exact resolveFolder_here h.isFolder
  | cons b rest =>
    have hdirectory : Path.directory path = parent := by
      rw [Path.directory, hparent, hcons]
    have hne : parent ≠ [] := by
      rw [hcons]
      exact List.cons_ne_nil _ _
    rw [hdirectory]
    exact resolveFolder_of_isPrefix hbegins hne h.noNul h.short hfront h.isFolder

end Volume

end LiteralMark
