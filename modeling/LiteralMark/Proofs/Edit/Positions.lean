import LiteralMark.Proofs.Text.Boundary
import Mathlib.Data.List.Sort
import Mathlib.Order.Bounds.Basic
/-!
# Insertions — what stands at each position

An edit is applied by putting its insertions in order and going through
the text once. What comes out can be said position by position, without
an order of the whole: at each boundary of the text stand the texts that
were recorded behind what ends there, then the texts that were recorded in
front of what starts there, both in the order of recording, and then the
character (`emitFrom`). The two agree wherever all offsets are boundaries
(`apply_eq_emitFrom`); where one is not, the smallest such offset is the
failure (`apply_eq_error`).

The argument has two halves. Ordering is a stable sort, so it keeps what
is recorded at one offset and side (`recorded_ordered`). And for ordered
insertions, the one that is applied first is the first at its offset, with
nothing recorded in front of that (`emitFrom_cons`).
-/

namespace LiteralMark

namespace Insertion

variable {a b : Insertion}

/-- Whether an insertion was recorded at an offset on a side. -/
def isAt (p : Nat) (side : Side) (a : Insertion) : Bool := a.offset == p && a.side == side

theorem isAt_iff {p : Nat} {side : Side} : a.isAt p side ↔ a.offset = p ∧ a.side = side := by
  simp [isAt]

theorem precedes_iff :
    a.precedes b ↔
      a.offset < b.offset ∨ a.offset = b.offset ∧ (a.side = .after ∨ b.side = .before) := by
  simp [precedes]

theorem precedes_of_isAt {p : Nat} {side : Side} (ha : a.isAt p side) (hb : b.isAt p side) :
    a.precedes b := by
  obtain ⟨haoff, haside⟩ := isAt_iff.1 ha
  obtain ⟨hboff, hbside⟩ := isAt_iff.1 hb
  rw [precedes_iff, haoff, hboff, haside, hbside]
  cases side <;> simp

theorem offset_le_of_precedes (h : a.precedes b) : a.offset ≤ b.offset := by
  have := precedes_iff.1 h
  omega

instance : Std.Total fun a b : Insertion => a.precedes b = true where
  total a b := by
    simp only [precedes_iff]
    rcases Nat.lt_trichotomy a.offset b.offset with hlt | heq | hgt
    · exact Or.inl (Or.inl hlt)
    · cases ha : a.side <;> simp [heq]
    · exact Or.inr (Or.inl hgt)

instance : IsTrans Insertion fun a b => a.precedes b = true where
  trans a b c hab hbc := by
    rw [precedes_iff] at *
    rcases hab with hab | ⟨hab, haside⟩
    · exact Or.inl (by omega)
    rcases hbc with hbc | ⟨hbc, hbside⟩
    · exact Or.inl (by omega)
    refine Or.inr ⟨by omega, ?_⟩
    rcases haside with haside | haside
    · exact Or.inl haside
    · exact Or.inr (hbside.resolve_left (by simp [haside]))

end Insertion

namespace Edit

variable {e e' : Edit} {a : Insertion} {source done rest chunk : Text} {p : Nat}
variable {f g : Nat → Side → List Text}

/-! ## What is recorded -/

/-- The texts that are recorded at an offset on a side, in the order of
recording. -/
def recorded (e : Edit) (p : Nat) (side : Side) : List Text :=
  (e.filter (·.isAt p side)).map (·.text)

@[simp] theorem recorded_nil (p : Nat) (side : Side) : recorded [] p side = [] := rfl

theorem recorded_cons (a : Insertion) (e : Edit) (p : Nat) (side : Side) :
    recorded (a :: e) p side = (if a.isAt p side then [a.text] else []) ++ e.recorded p side := by
  by_cases h : a.isAt p side
  · simp [recorded, h]
  · simp [recorded, h]

theorem recorded_append (e e' : Edit) (p : Nat) (side : Side) :
    recorded (e ++ e') p side = e.recorded p side ++ e'.recorded p side := by
  simp [recorded]

/-- Nothing is recorded where no insertion is. -/
theorem recorded_eq_nil {side : Side} (h : ∀ a ∈ e, ¬ a.isAt p side) : e.recorded p side = [] := by
  rw [recorded, List.map_eq_nil_iff, List.filter_eq_nil_iff]
  exact h

theorem exists_recorded_iff : (∃ side, e.recorded p side ≠ []) ↔ ∃ a ∈ e, a.offset = p := by
  simp only [recorded, ne_eq, List.map_eq_nil_iff, List.filter_eq_nil_iff, not_forall, not_not,
    Insertion.isAt_iff]
  exact ⟨fun ⟨_, a, ha, hp, _⟩ => ⟨a, ha, hp⟩, fun ⟨a, ha, hp⟩ => ⟨a.side, a, ha, hp, rfl⟩⟩

/-! ## The order -/

theorem place_eq_orderedInsert (a : Insertion) (e : Edit) :
    place a e = e.orderedInsert (fun a b => a.precedes b) a := by
  induction e with
  | nil => rfl
  | cons b e ih => rw [place, List.orderedInsert_cons, ih]

/-- The insertions are put in order by sorting them. -/
theorem ordered_eq_insertionSort (e : Edit) :
    e.ordered = e.insertionSort fun a b => a.precedes b := by
  induction e with
  | nil => rfl
  | cons a e ih =>
    rw [List.insertionSort_cons, ← ih, ← place_eq_orderedInsert]
    rfl

theorem pairwise_ordered (e : Edit) : e.ordered.Pairwise fun a b => a.precedes b := by
  rw [ordered_eq_insertionSort]
  exact List.pairwise_insertionSort _ e

/-- Insertions that are in order stay as they are. -/
theorem ordered_of_pairwise (h : e.Pairwise fun a b => a.precedes b) : e.ordered = e := by
  rw [ordered_eq_insertionSort, h.insertionSort_eq]

/-- **Ordering keeps what is recorded at one offset and side.** What is
recorded there is in order as it is, and a sort keeps what is in order. -/
theorem recorded_ordered (e : Edit) (p : Nat) (side : Side) :
    e.ordered.recorded p side = e.recorded p side := by
  have hsorted : (e.filter (·.isAt p side)).Pairwise fun a b => a.precedes b :=
    List.pairwise_of_forall_mem_list fun a ha b hb =>
      Insertion.precedes_of_isAt (List.mem_filter.1 ha).2 (List.mem_filter.1 hb).2
  have hsub : (e.filter (·.isAt p side)).Sublist (e.ordered.filter (·.isAt p side)) := by
    have hall := (List.sublist_insertionSort hsorted List.filter_sublist).filter (·.isAt p side)
    simpa only [List.filter_filter, Bool.and_self, ← ordered_eq_insertionSort] using hall
  have hlength : (e.filter (·.isAt p side)).length = (e.ordered.filter (·.isAt p side)).length := by
    rw [ordered_eq_insertionSort]
    exact ((List.perm_insertionSort _ e).filter _).length_eq.symm
  rw [recorded, recorded, hsub.eq_of_length hlength]

/-! ## Position by position -/

/-- What is inserted at one boundary: first what stands behind what ends
there. -/
def emitAt (f : Nat → Side → List Text) (p : Nat) : Text :=
  (f p .after).flatten ++ (f p .before).flatten

/-- A text, counted from an offset on, with what is inserted at each of its
boundaries, the end among them. -/
def emitFrom (f : Nat → Side → List Text) : Nat → Text → Text
  | p, [] => emitAt f p
  | p, c :: cs => emitAt f p ++ c :: emitFrom f (p + c.utf8Size) cs

theorem emitFrom_congr (h : ∀ q, p ≤ q → ∀ side, f q side = g q side) (cs : Text) :
    emitFrom f p cs = emitFrom g p cs := by
  induction cs generalizing p with
  | nil => simp [emitFrom, emitAt, h p (Nat.le_refl p)]
  | cons c cs ih =>
    have hnext := ih (p := p + c.utf8Size) fun q hq => h q (by omega)
    rw [emitFrom, emitFrom, hnext, emitAt, emitAt]
    simp only [h p (Nat.le_refl p)]

/-- A stretch of text at whose boundaries nothing is inserted stays as it
is. -/
theorem emitFrom_append (h : ∀ q, q < p + Utf8.size chunk → ∀ side, f q side = []) (after : Text) :
    emitFrom f p (chunk ++ after) = chunk ++ emitFrom f (p + Utf8.size chunk) after := by
  induction chunk generalizing p with
  | nil => simp
  | cons c chunk ih =>
    have hpos : 0 < c.utf8Size := c.utf8Size_pos
    rw [Utf8.size_cons] at h
    have hhere : emitAt f p = [] := by simp [emitAt, h p (by omega)]
    rw [List.cons_append, emitFrom, hhere, ih fun q hq => h q (by omega), Utf8.size_cons,
      Nat.add_assoc]
    rfl

theorem emitFrom_recorded_nil (p : Nat) (cs : Text) : emitFrom (recorded []) p cs = cs := by
  induction cs generalizing p with
  | nil => rfl
  | cons c cs ih =>
    rw [emitFrom, ih]
    rfl

/-- **The first of ordered insertions is the first at its offset.** A text
that belongs in front of what starts there has nothing recorded behind what
ends there. -/
theorem emitFrom_cons (h : ∀ b ∈ e, a.precedes b) (cs : Text) :
    emitFrom (recorded (a :: e)) a.offset cs = a.text ++ emitFrom e.recorded a.offset cs := by
  have hhere : emitAt (recorded (a :: e)) a.offset = a.text ++ emitAt e.recorded a.offset := by
    rw [emitAt, emitAt, recorded_cons, recorded_cons]
    cases hside : a.side with
    | after => simp [Insertion.isAt, hside]
    | before =>
      have hnone : e.recorded a.offset .after = [] := by
        refine recorded_eq_nil fun b hb hat => ?_
        obtain ⟨hoff, hbside⟩ := Insertion.isAt_iff.1 hat
        have := Insertion.precedes_iff.1 (h b hb)
        simp [hoff, hside, hbside] at this
      simp [Insertion.isAt, hside, hnone]
  have hlater (q : Nat) (hq : a.offset < q) (side : Side) :
      recorded (a :: e) q side = e.recorded q side := by
    have hnot : ¬ a.isAt q side := fun hat => by
      have := (Insertion.isAt_iff.1 hat).1
      omega
    rw [recorded_cons, if_neg hnot, List.nil_append]
  cases cs with
  | nil => exact hhere
  | cons c cs =>
    have hpos : 0 < c.utf8Size := c.utf8Size_pos
    rw [emitFrom, emitFrom, hhere, emitFrom_congr fun q hq => hlater q (by omega),
      List.append_assoc]

/-! ## Going through the text -/

/-- An insertion at a boundary of the rest. -/
theorem applyFrom_of_chunk (h : p + Utf8.size chunk = a.offset) (after : Text) (e : Edit) :
    applyFrom p (chunk ++ after) (a :: e) =
      (applyFrom a.offset after e).map (chunk ++ a.text ++ ·) := by
  have hsplit : Utf8.splitAt? (a.offset - p) (chunk ++ after) = some (chunk, after) := by
    rw [← h, Nat.add_sub_cancel_left, Utf8.splitAt?_append]
  simp only [applyFrom, hsplit]
  cases applyFrom a.offset after e <;> rfl

/-- An insertion anywhere else. -/
theorem applyFrom_of_not_isBoundary (hle : Utf8.size done ≤ a.offset)
    (h : ¬ Utf8.IsBoundary (done ++ rest) a.offset) (e : Edit) :
    applyFrom (Utf8.size done) rest (a :: e) = .error a.offset := by
  have hsplit : Utf8.splitAt? (a.offset - Utf8.size done) rest = none := by
    rw [← Option.not_isSome_iff_eq_none, Utf8.isSome_splitAt?_iff]
    rintro ⟨chunk, after, rfl, hsize⟩
    exact h ⟨done ++ chunk, after, by rw [List.append_assoc], by rw [Utf8.size_append]; omega⟩
  rw [applyFrom, hsplit]

/-- **Ordered insertions at boundaries are applied position by position.**
The induction is on the insertions; the text is in two parts, what is done
and the rest. -/
theorem applyFrom_eq_emitFrom (done rest : Text) (hsorted : e.Pairwise fun a b => a.precedes b)
    (hbehind : ∀ a ∈ e, Utf8.size done ≤ a.offset)
    (hbound : ∀ a ∈ e, Utf8.IsBoundary (done ++ rest) a.offset) :
    applyFrom (Utf8.size done) rest e = .ok (emitFrom e.recorded (Utf8.size done) rest) := by
  induction e generalizing done rest with
  | nil => rw [applyFrom, emitFrom_recorded_nil]
  | cons a e ih =>
    obtain ⟨hfirst, hsorted⟩ := List.pairwise_cons.1 hsorted
    obtain ⟨hle, -⟩ := List.forall_mem_cons.1 hbehind
    obtain ⟨hcut, hbound⟩ := List.forall_mem_cons.1 hbound
    obtain ⟨chunk, after, rfl, hsize⟩ := hcut.exists_chunk hle
    have hbehind' (b : Insertion) (hb : b ∈ e) : Utf8.size (done ++ chunk) ≤ b.offset := by
      rw [hsize]
      exact Insertion.offset_le_of_precedes (hfirst b hb)
    have hrest := ih (done ++ chunk) after hsorted hbehind' fun b hb => by
      rw [List.append_assoc]
      exact hbound b hb
    -- in front of the first insertion nothing is inserted
    have hnone (q : Nat) (hq : q < Utf8.size done + Utf8.size chunk) (side : Side) :
        recorded (a :: e) q side = [] := by
      refine recorded_eq_nil fun b hb hat => ?_
      have hoff := (Insertion.isAt_iff.1 hat).1
      rw [← Utf8.size_append, hsize] at hq
      rcases List.mem_cons.1 hb with rfl | hb
      · omega
      · have := Insertion.offset_le_of_precedes (hfirst b hb)
        omega
    rw [emitFrom_append hnone, ← Utf8.size_append, hsize, emitFrom_cons hfirst]
    rw [hsize] at hrest
    rw [applyFrom_of_chunk (by rw [← hsize, Utf8.size_append]), hrest, ← List.append_assoc]
    rfl

/-- **The failure of ordered insertions is their first offset that is no
boundary.** -/
theorem applyFrom_eq_error (done rest : Text) (hsorted : e.Pairwise fun a b => a.precedes b)
    (hbehind : ∀ a ∈ e, Utf8.size done ≤ a.offset) (ha : a ∈ e)
    (hbad : ¬ Utf8.IsBoundary (done ++ rest) a.offset)
    (hleast : ∀ b ∈ e, ¬ Utf8.IsBoundary (done ++ rest) b.offset → a.offset ≤ b.offset) :
    applyFrom (Utf8.size done) rest e = .error a.offset := by
  induction e generalizing done rest with
  | nil => cases ha
  | cons b e ih =>
    obtain ⟨hfirst, hsorted⟩ := List.pairwise_cons.1 hsorted
    obtain ⟨hle, -⟩ := List.forall_mem_cons.1 hbehind
    obtain ⟨hleastb, hleast⟩ := List.forall_mem_cons.1 hleast
    by_cases hcut : Utf8.IsBoundary (done ++ rest) b.offset
    · have ha' : a ∈ e := by
        rcases List.mem_cons.1 ha with rfl | ha
        · exact absurd hcut hbad
        · exact ha
      obtain ⟨chunk, after, rfl, hsize⟩ := hcut.exists_chunk hle
      rw [← List.append_assoc] at hbad hleast
      have hrest := ih (done ++ chunk) after hsorted
        (fun c hc => hsize ▸ Insertion.offset_le_of_precedes (hfirst c hc)) ha' hbad hleast
      rw [hsize] at hrest
      rw [applyFrom_of_chunk (by rw [← hsize, Utf8.size_append]), hrest]
      rfl
    · have heq : b.offset = a.offset := by
        have hab := hleastb hcut
        rcases List.mem_cons.1 ha with rfl | ha
        · rfl
        · have hba := Insertion.offset_le_of_precedes (hfirst a ha)
          omega
      rw [applyFrom_of_not_isBoundary hle hcut, heq]

theorem apply_eq_emitFrom (h : ∀ a ∈ e, Utf8.IsBoundary source a.offset) :
    e.apply source = .ok (emitFrom e.recorded 0 source) := by
  have happly := applyFrom_eq_emitFrom [] source (pairwise_ordered e) (fun a _ => Nat.zero_le _)
    fun a ha => h a (mem_ordered.1 ha)
  rw [emitFrom_congr fun q _ side => recorded_ordered e q side] at happly
  exact happly

theorem apply_eq_error
    (h : IsLeast {p | (∃ a ∈ e, a.offset = p) ∧ ¬ Utf8.IsBoundary source p} p) :
    e.apply source = .error p := by
  obtain ⟨⟨⟨a, ha, rfl⟩, hbad⟩, hleast⟩ := h
  exact applyFrom_eq_error [] source (pairwise_ordered e) (fun a _ => Nat.zero_le _)
    (mem_ordered.2 ha) hbad fun b hb hbbad => hleast ⟨⟨b, mem_ordered.1 hb, rfl⟩, hbbad⟩

/-- **Either every offset is a boundary, or there is a smallest that is
not.** -/
theorem isBoundary_or_exists_isLeast (e : Edit) (source : Text) :
    (∀ a ∈ e, Utf8.IsBoundary source a.offset) ∨
      ∃ p, IsLeast {p | (∃ a ∈ e, a.offset = p) ∧ ¬ Utf8.IsBoundary source p} p := by
  classical
  by_cases h : ∃ p, (∃ a ∈ e, a.offset = p) ∧ ¬ Utf8.IsBoundary source p
  · exact Or.inr ⟨Nat.find h, Nat.find_spec h, fun _ hm => Nat.find_min' h hm⟩
  · refine Or.inl fun a ha => ?_
    by_contra hbad
    exact h ⟨a.offset, ⟨a, ha, rfl⟩, hbad⟩

/-- **Only the order at one offset and side counts.** -/
theorem apply_congr (h : e'.recorded = e.recorded) (source : Text) :
    e'.apply source = e.apply source := by
  have hoffset (p : Nat) : (∃ a ∈ e', a.offset = p) ↔ ∃ a ∈ e, a.offset = p := by
    rw [← exists_recorded_iff, ← exists_recorded_iff, h]
  rcases isBoundary_or_exists_isLeast e source with hbound | ⟨p, hleast⟩
  · have hbound' (a : Insertion) (ha : a ∈ e') : Utf8.IsBoundary source a.offset := by
      obtain ⟨b, hb, heq⟩ := (hoffset a.offset).1 ⟨a, ha, rfl⟩
      rw [← heq]
      exact hbound b hb
    rw [apply_eq_emitFrom hbound, apply_eq_emitFrom hbound', h]
  · rw [apply_eq_error hleast]
    simp only [← hoffset] at hleast
    exact apply_eq_error hleast

/-! ## Recording step by step -/

/-- One step of recording. -/
inductive Step
  | before (offset : Nat) (text : Text)
  | after (offset : Nat) (text : Text)
  | wrap (start stop : Nat) (opening closing : Text)
deriving DecidableEq, Repr

/-- Records one step. -/
def record (e : Edit) : Step → Edit
  | .before offset text => e.insertBefore offset text
  | .after offset text => e.insertAfter offset text
  | .wrap start stop opening closing => e.wrap start stop opening closing

/-- The edit that steps record, one after the other. -/
def ofSteps (steps : List Step) : Edit := steps.foldl record []

namespace Step

/-- The offsets that a step names. -/
def offsets : Step → List Nat
  | before offset _ => [offset]
  | after offset _ => [offset]
  | wrap start stop _ _ => [start, stop]

/-- The texts that a step puts at an offset on a side: a range is opened in
front of what starts at its start, and closed behind what ends at its
end. -/
def textsAt (p : Nat) : Side → Step → List Text
  | .before, before offset text => if offset = p then [text] else []
  | .after, after offset text => if offset = p then [text] else []
  | .before, wrap start _ opening _ => if start = p then [opening] else []
  | .after, wrap _ stop _ closing => if stop = p then [closing] else []
  | _, _ => []

end Step

theorem map_offset_record (e : Edit) (step : Step) :
    (e.record step).map (·.offset) = e.map (·.offset) ++ step.offsets := by
  cases step <;> simp [record, insertBefore, insertAfter, wrap, around, Step.offsets]

theorem recorded_record (e : Edit) (step : Step) (p : Nat) (side : Side) :
    (e.record step).recorded p side = e.recorded p side ++ step.textsAt p side := by
  cases step <;> cases side <;>
    simp [record, insertBefore, insertAfter, wrap, around, Step.textsAt, recorded_append,
      recorded_cons, Insertion.isAt]

/-- **What steps have named and recorded**, all in all. -/
theorem foldl_record (e : Edit) (steps : List Step) :
    (steps.foldl record e).map (·.offset) = e.map (·.offset) ++ steps.flatMap Step.offsets ∧
      ∀ p side, (steps.foldl record e).recorded p side =
        e.recorded p side ++ steps.flatMap (Step.textsAt p side) := by
  induction steps generalizing e with
  | nil => simp
  | cons step steps ih =>
    obtain ⟨hoffsets, hrecorded⟩ := ih (e.record step)
    refine ⟨?_, fun p side => ?_⟩
    · rw [List.foldl_cons, hoffsets, map_offset_record, List.flatMap_cons, List.append_assoc]
    · rw [List.foldl_cons, hrecorded, recorded_record, List.flatMap_cons, List.append_assoc]

theorem exists_offset_ofSteps_iff {steps : List Step} :
    (∃ a ∈ ofSteps steps, a.offset = p) ↔ p ∈ steps.flatMap Step.offsets := by
  rw [← List.mem_map, ofSteps, (foldl_record [] steps).1]
  rfl

theorem recorded_ofSteps (steps : List Step) :
    (ofSteps steps).recorded = fun p side => steps.flatMap (Step.textsAt p side) := by
  funext p side
  exact (foldl_record [] steps).2 p side

/-- **What applying an edit gives, position by position, and when it
fails.** If every offset that was named is a boundary of the text, then at
each boundary the texts recorded behind what ends there come first, those
recorded in front of what starts there second, both in the order of
recording, and then comes the character. Otherwise the failure is the
smallest offset that lies past the end or inside a character. So of the
order of recording only the order at one offset and side counts. -/
theorem apply_ofSteps (source : Text) (steps : List Step) :
    (if ∀ p ∈ steps.flatMap Step.offsets, Utf8.IsBoundary source p then
      (ofSteps steps).apply source =
        .ok (emitFrom (fun p side => steps.flatMap (Step.textsAt p side)) 0 source)
    else
      ∃ p, IsLeast {p | p ∈ steps.flatMap Step.offsets ∧ ¬ Utf8.IsBoundary source p} p ∧
        (ofSteps steps).apply source = .error p) ∧
    ∀ steps', (∀ p side, steps'.flatMap (Step.textsAt p side) =
        steps.flatMap (Step.textsAt p side)) →
      (ofSteps steps').apply source = (ofSteps steps).apply source := by
  refine ⟨?_, fun steps' hsame => ?_⟩
  · split
    · rename_i hbound
      rw [← recorded_ofSteps]
      exact apply_eq_emitFrom fun a ha =>
        hbound a.offset (exists_offset_ofSteps_iff.1 ⟨a, ha, rfl⟩)
    · rename_i hbad
      rcases isBoundary_or_exists_isLeast (ofSteps steps) source with hbound | ⟨p, hleast⟩
      · refine absurd (fun p hp => ?_) hbad
        obtain ⟨a, ha, rfl⟩ := exists_offset_ofSteps_iff.2 hp
        exact hbound a ha
      · refine ⟨p, ?_, apply_eq_error hleast⟩
        simpa only [exists_offset_ofSteps_iff] using hleast
  · refine apply_congr ?_ source
    rw [recorded_ofSteps, recorded_ofSteps]
    funext p side
    exact hsame p side

/-- A text whose first character has two bytes. -/
def accentedText : Text := "éa".toList

/-- Steps of which three meet behind the first character. -/
def meetingSteps : List Step := [.before 2 ['x'], .wrap 0 2 ['<'] ['>'], .after 2 ['y']]

/-- The same steps in another order, which is the same at each offset and
side. -/
def shuffledSteps : List Step := [.wrap 0 2 ['<'] ['>'], .after 2 ['y'], .before 2 ['x']]

/-- Steps that name the end, an offset past it and one inside a
character. -/
def strayingSteps : List Step := [.after 3 ['x'], .before 9 ['y'], .after 1 ['z']]

/-- The range is closed before anything is opened, in both orders of
recording, and of two stray offsets the smaller is the failure. -/
theorem apply_ofSteps_accentedText :
    (ofSteps meetingSteps).apply accentedText = .ok "<é>yxa".toList ∧
      (ofSteps shuffledSteps).apply accentedText = .ok "<é>yxa".toList ∧
      (ofSteps strayingSteps).apply accentedText = .error 1 := by
  obtain ⟨hmeeting, hshuffled⟩ := apply_ofSteps accentedText meetingSteps
  obtain ⟨hstraying, -⟩ := apply_ofSteps accentedText strayingSteps
  rw [if_pos (by decide +kernel)] at hmeeting
  rw [if_neg (by decide +kernel)] at hstraying
  have hemit : emitFrom (fun p side => meetingSteps.flatMap (Step.textsAt p side)) 0 accentedText =
      "<é>yxa".toList := by decide +kernel
  have hsame (p : Nat) (side : Side) : shuffledSteps.flatMap (Step.textsAt p side) =
      meetingSteps.flatMap (Step.textsAt p side) := by
    by_cases hp : p = 2
    · cases side <;> simp [shuffledSteps, meetingSteps, Step.textsAt, hp]
    · cases side <;> simp [shuffledSteps, meetingSteps, Step.textsAt, Ne.symm hp]
  rw [hemit] at hmeeting
  refine ⟨hmeeting, by rw [hshuffled _ hsame, hmeeting], ?_⟩
  obtain ⟨p, ⟨⟨hmem, -⟩, hleast⟩, happly⟩ := hstraying
  have hone : p ≤ 1 := hleast ⟨by decide, by decide +kernel⟩
  have hp : p = 3 ∨ p = 9 ∨ p = 1 := by simpa [strayingSteps, Step.offsets] using hmem
  rw [happly, show p = 1 by omega]

end Edit

end LiteralMark
