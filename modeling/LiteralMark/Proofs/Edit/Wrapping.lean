import LiteralMark.Proofs.Edit.Positions
import LiteralMark.Tree.Basic
import Mathlib.Data.List.Pairwise
/-!
# Insertions — texts around ranges

Ranges of a text that ascend without overlap cut it into stretches: a gap,
the text of a range, the next gap, and a tail behind the last range
(`Cut`). Such ranges may touch, one ending where the next begins. If each
is wrapped, the insertions are in order as they are recorded, for the text
that closes a range goes in front of the one that opens the next
(`pairwise_aroundEach`); so the edit puts the opening text and the closing text
around the text of each range and leaves gaps and tail as they are
(`apply_aroundAll`).

The order of recording does not matter for this. Where no range is empty
and no two overlap, no two insertions belong to one offset and side
(`eq_of_precedes`), so there is one way only to put them in order
(`ordered_aroundEach`).
-/

namespace LiteralMark

/-- Ranges of a text, none of them empty, each behind the one before. -/
@[mk_iff] structure Span.Ascending (source : Text) (spans : List Span) : Prop where
  start_isBoundary : ∀ s ∈ spans, Utf8.IsBoundary source s.start
  stop_isBoundary : ∀ s ∈ spans, Utf8.IsBoundary source s.stop
  nonempty : ∀ s ∈ spans, s.start < s.stop
  apart : spans.Pairwise (·.stop ≤ ·.start)

instance (source : Text) (spans : List Span) : Decidable (Span.Ascending source spans) :=
  decidable_of_iff _ (Span.ascending_iff source spans).symm

/-- A stretch of a text up to the end of a range: what lies in front of the
range, and the text of the range. -/
structure Stretch where
  gap : Text
  inner : Text
deriving DecidableEq, Repr

namespace Stretch

/-- The text of a stretch. -/
def plain (s : Stretch) : Text := s.gap ++ s.inner

/-- The stretch with two texts around the range. -/
def wrapped (opening closing : Text) (s : Stretch) : Text :=
  s.gap ++ opening ++ s.inner ++ closing

end Stretch

/-- A text, counted from an offset on, is cut along ranges into stretches
and a tail. -/
inductive Cut : Nat → Text → List Span → List Stretch → Text → Prop
  /-- No range is left. -/
  | tail (p : Nat) (tail : Text) : Cut p tail [] [] tail
  /-- A gap, the next range, and what lies behind it. -/
  | range (gap inner : Text) {p : Nat} {rest tail : Text} {spans : List Span}
      {stretches : List Stretch} :
      Cut (p + Utf8.size gap + Utf8.size inner) rest spans stretches tail →
      Cut p (gap ++ (inner ++ rest))
        (⟨p + Utf8.size gap, p + Utf8.size gap + Utf8.size inner⟩ :: spans)
        (⟨gap, inner⟩ :: stretches) tail

variable {p : Nat} {source rest tail opening closing : Text} {spans : List Span}
variable {stretches : List Stretch}

/-! ## Cutting -/

/-- Ranges that lie behind what is done cut the rest. -/
theorem exists_cut_rest (done rest : Text) (h : Span.Ascending (done ++ rest) spans)
    (hbehind : ∀ s ∈ spans, Utf8.size done ≤ s.start) :
    ∃ stretches tail, Cut (Utf8.size done) rest spans stretches tail := by
  induction spans generalizing done rest with
  | nil => exact ⟨[], rest, .tail _ rest⟩
  | cons s spans ih =>
    obtain ⟨hstart, hstarts⟩ := List.forall_mem_cons.1 h.start_isBoundary
    obtain ⟨hstop, hstops⟩ := List.forall_mem_cons.1 h.stop_isBoundary
    obtain ⟨hlt, hnonempty⟩ := List.forall_mem_cons.1 h.nonempty
    obtain ⟨hfirst, hapart⟩ := List.pairwise_cons.1 h.apart
    obtain ⟨hle, -⟩ := List.forall_mem_cons.1 hbehind
    -- the rest is cut where the range starts, and again where it stops
    obtain ⟨gap, more, rfl, hgap⟩ := hstart.exists_chunk hle
    rw [← List.append_assoc] at hstop hstarts hstops
    obtain ⟨inner, after, rfl, hinner⟩ := hstop.exists_chunk (by omega)
    rw [← List.append_assoc] at hstarts hstops
    obtain ⟨stretches, tail, hcut⟩ := ih (done ++ gap ++ inner) after
      ⟨hstarts, hstops, hnonempty, hapart⟩ fun t ht => hinner ▸ hfirst t ht
    simp only [Utf8.size_append] at hgap hinner hcut
    have hs : s = ⟨Utf8.size done + Utf8.size gap,
        Utf8.size done + Utf8.size gap + Utf8.size inner⟩ := by
      rw [hinner, hgap]
    rw [hs]
    exact ⟨⟨gap, inner⟩ :: stretches, tail, .range gap inner hcut⟩

/-- **Ascending ranges cut a text.** -/
theorem Span.Ascending.exists_cut (h : Span.Ascending source spans) :
    ∃ stretches tail, Cut 0 source spans stretches tail :=
  exists_cut_rest [] source h fun _ _ => Nat.zero_le _

namespace Cut

theorem text_eq (h : Cut p rest spans stretches tail) :
    rest = stretches.flatMap Stretch.plain ++ tail := by
  induction h with
  | tail p tail => rfl
  | range gap inner _ ih =>
    rw [List.flatMap_cons, Stretch.plain, List.append_assoc, List.append_assoc, ← ih]

theorem length_eq (h : Cut p rest spans stretches tail) : stretches.length = spans.length := by
  induction h with
  | tail p tail => rfl
  | range gap inner _ ih => rw [List.length_cons, List.length_cons, ih]

/-- **The inner texts are the texts of the ranges.** -/
theorem map_slice? (h : Cut p rest spans stretches tail) (done : Text) (hp : Utf8.size done = p) :
    spans.map (fun s => Utf8.slice? (done ++ rest) s.start s.stop) =
      stretches.map (some ·.inner) := by
  induction h generalizing done with
  | tail p tail => rfl
  | @range gap inner p rest tail spans stretches _ ih =>
    have hfront : p + Utf8.size gap = Utf8.size (done ++ gap) := by rw [Utf8.size_append, hp]
    have hhead := Utf8.slice?_append (done ++ gap) inner rest
    have hrest := ih (done ++ gap ++ inner) (by rw [Utf8.size_append, hfront])
    simp only [List.append_assoc] at hhead hrest
    rw [List.map_cons, List.map_cons, hfront, hhead, hrest]

/-- Behind a range that ends where the text does, there is nothing. -/
theorem exists_stop_eq_iff (h : Cut p rest spans stretches tail)
    (hnonempty : ∀ s ∈ spans, s.start < s.stop) :
    (∃ s ∈ spans, s.stop = p + Utf8.size rest) ↔ stretches ≠ [] ∧ tail = [] := by
  induction h with
  | tail p tail => simp
  | @range gap inner p rest tail spans stretches hcut ih =>
    obtain ⟨-, hnonempty⟩ := List.forall_mem_cons.1 hnonempty
    have hsize : p + Utf8.size (gap ++ (inner ++ rest)) =
        p + Utf8.size gap + Utf8.size inner + Utf8.size rest := by
      simp only [Utf8.size_append]
      omega
    have hhead : p + Utf8.size gap + Utf8.size inner =
        p + Utf8.size gap + Utf8.size inner + Utf8.size rest ↔ rest = [] := by
      rw [← Utf8.size_eq_zero_iff]
      omega
    rw [hsize, List.exists_mem_cons_iff, ih hnonempty, hhead]
    simp only [ne_eq, List.cons_ne_nil, not_false_eq_true, true_and]
    constructor
    · rintro (rfl | ⟨-, htail⟩)
      · exact (List.append_eq_nil_iff.1 hcut.text_eq.symm).2
      · exact htail
    · intro htail
      cases stretches with
      | nil => exact Or.inl (by rw [hcut.text_eq, htail, List.flatMap_nil, List.append_nil])
      | cons s stretches => exact Or.inr ⟨List.cons_ne_nil _ _, htail⟩

end Cut

/-! ## Wrapping -/

theorem size_flatMap_wrapped (opening closing : Text) (stretches : List Stretch) :
    Utf8.size (stretches.flatMap (Stretch.wrapped opening closing)) =
      Utf8.size (stretches.flatMap Stretch.plain) +
        stretches.length * (Utf8.size opening + Utf8.size closing) := by
  induction stretches with
  | nil => simp
  | cons s stretches ih =>
    simp only [List.flatMap_cons, Utf8.size_append, ih, Stretch.wrapped, Stretch.plain,
      List.length_cons, Nat.succ_mul]
    omega

namespace Edit

/-- The insertions that wrap each of some ranges in two texts of its own. -/
def aroundEach (opening closing : Span → Text) (spans : List Span) : Edit :=
  spans.flatMap fun s => around s.start s.stop (opening s) (closing s)

/-- The insertions that wrap each of some ranges in the same two texts. -/
def aroundAll (opening closing : Text) (spans : List Span) : Edit :=
  aroundEach (fun _ => opening) (fun _ => closing) spans

/-- **Ascending ranges are wrapped by insertions that are in order.** -/
theorem pairwise_aroundEach (opening closing : Span → Text) (h : Span.Ascending source spans) :
    (aroundEach opening closing spans).Pairwise fun a b => a.precedes b := by
  rw [aroundEach, List.pairwise_flatMap]
  refine ⟨fun s hs => ?_, h.apart.imp_of_mem fun {s t} hs ht hst => ?_⟩
  · have hlt := h.nonempty s hs
    simp [around, Insertion.precedes_iff, hlt]
  · have hs := h.nonempty s hs
    have ht := h.nonempty t ht
    intro a ha b hb
    simp only [around, List.mem_cons, List.not_mem_nil, or_false] at ha hb
    rcases ha with rfl | rfl <;> rcases hb with rfl | rfl <;>
      simp only [Insertion.precedes_iff, true_or, and_true] <;> omega

/-- **Going through a text that is cut wraps its ranges.** -/
theorem applyFrom_aroundEach (h : Cut p rest spans stretches tail)
    (opening closing : Span → Text) :
    applyFrom p rest (aroundEach opening closing spans) =
      .ok ((List.zipWith (fun s t => Stretch.wrapped (opening s) (closing s) t) spans
        stretches).flatten ++ tail) := by
  induction h with
  | tail p tail => rfl
  | @range gap inner p rest tail spans stretches _ ih =>
    rw [aroundEach, List.flatMap_cons, ← aroundEach, around, List.cons_append, List.cons_append,
      List.nil_append, applyFrom_of_chunk rfl, applyFrom_of_chunk rfl, ih]
    simp [Except.map, Stretch.wrapped]

theorem apply_aroundAll (h : Span.Ascending source spans) (hcut : Cut 0 source spans stretches tail)
    (opening closing : Text) :
    (aroundAll opening closing spans).apply source =
      .ok (stretches.flatMap (Stretch.wrapped opening closing) ++ tail) := by
  have hall : List.zipWith (fun _ t => Stretch.wrapped opening closing t) spans stretches =
      stretches.map (Stretch.wrapped opening closing) := by
    have hzip : (spans.zip stretches).map Prod.snd = stretches :=
      List.map_snd_zip (Nat.le_of_eq hcut.length_eq)
    conv_rhs => rw [← hzip, List.map_map, List.map_zip_eq_zipWith]
    rfl
  rw [aroundAll, apply, ordered_of_pairwise (pairwise_aroundEach _ _ h), applyFrom_aroundEach hcut,
    hall, List.flatMap_def]

end Edit

/-! ## Ranges in any order -/

namespace Span

/-- Two ranges do not overlap. They may touch. -/
def Apart (s t : Span) : Prop := s.stop ≤ t.start ∨ t.stop ≤ s.start

instance (s t : Span) : Decidable (Apart s t) := inferInstanceAs (Decidable (_ ∨ _))

instance : Std.Symm Apart where
  symm _ _ h := h.symm

/-- Ranges of a text in any order, none of them empty and no two of them
overlapping. -/
@[mk_iff] structure Disjoint (source : Text) (spans : List Span) : Prop where
  start_isBoundary : ∀ s ∈ spans, Utf8.IsBoundary source s.start
  stop_isBoundary : ∀ s ∈ spans, Utf8.IsBoundary source s.stop
  nonempty : ∀ s ∈ spans, s.start < s.stop
  apart : spans.Pairwise Apart

instance (source : Text) (spans : List Span) : Decidable (Disjoint source spans) :=
  decidable_of_iff _ (disjoint_iff source spans).symm

/-- The ranges in the order of the text. -/
def sorted (spans : List Span) : List Span := spans.insertionSort (·.start ≤ ·.start)

theorem sorted_perm (spans : List Span) : (sorted spans).Perm spans :=
  List.perm_insertionSort _ spans

namespace Disjoint

variable {s t : Span} {spans' : List Span}

theorem perm (h : Disjoint source spans) (hperm : spans'.Perm spans) : Disjoint source spans' where
  start_isBoundary s hs := h.start_isBoundary s (hperm.mem_iff.1 hs)
  stop_isBoundary s hs := h.stop_isBoundary s (hperm.mem_iff.1 hs)
  nonempty s hs := h.nonempty s (hperm.mem_iff.1 hs)
  apart := (hperm.pairwise_iff symm).2 h.apart

/-- A range is known by where it starts. -/
theorem eq_of_start (h : Disjoint source spans) (hs : s ∈ spans) (ht : t ∈ spans)
    (heq : s.start = t.start) : s = t := by
  by_contra hne
  have hs' := h.nonempty s hs
  have ht' := h.nonempty t ht
  rcases h.apart.forall hs ht hne with hst | hts <;> omega

/-- And by where it stops. -/
theorem eq_of_stop (h : Disjoint source spans) (hs : s ∈ spans) (ht : t ∈ spans)
    (heq : s.stop = t.stop) : s = t := by
  by_contra hne
  have hs' := h.nonempty s hs
  have ht' := h.nonempty t ht
  rcases h.apart.forall hs ht hne with hst | hts <;> omega

/-- **In the order of the text the ranges ascend.** -/
theorem ascending_sorted (h : Disjoint source spans) : Ascending source (sorted spans) where
  start_isBoundary := (h.perm (sorted_perm spans)).start_isBoundary
  stop_isBoundary := (h.perm (sorted_perm spans)).stop_isBoundary
  nonempty := (h.perm (sorted_perm spans)).nonempty
  apart := by
    have hsorted := h.perm (sorted_perm spans)
    have hstarts : (sorted spans).Pairwise (·.start ≤ ·.start) := List.pairwise_insertionSort _ spans
    refine (hstarts.and hsorted.apart).imp_of_mem fun {s t} hs ht hst => ?_
    have hs' := hsorted.nonempty s hs
    rcases hst with ⟨hle, hstop | hstart⟩
    · exact hstop
    · have ht' := hsorted.nonempty t ht
      omega

end Disjoint

end Span

namespace Edit

/-- Recording one wrap after the other. -/
theorem foldl_wrap (e : Edit) (opening closing : Span → Text) (spans : List Span) :
    spans.foldl (fun e s => e.wrap s.start s.stop (opening s) (closing s)) e =
      e ++ aroundEach opening closing spans := by
  induction spans generalizing e with
  | nil => simp [aroundEach]
  | cons s spans ih =>
    rw [List.foldl_cons, ih, wrap, aroundEach, aroundEach, List.flatMap_cons, List.append_assoc]

/-- **Of the insertions around such ranges no two belong to one offset and
side.** -/
theorem eq_of_precedes {opening closing : Span → Text} {a b : Insertion}
    (h : Span.Disjoint source spans) (ha : a ∈ aroundEach opening closing spans)
    (hb : b ∈ aroundEach opening closing spans) (hab : a.precedes b) (hba : b.precedes a) :
    a = b := by
  simp only [aroundEach, around, List.mem_flatMap, List.mem_cons, List.not_mem_nil, or_false]
    at ha hb
  obtain ⟨s, hs, ha⟩ := ha
  obtain ⟨t, ht, hb⟩ := hb
  rw [Insertion.precedes_iff] at hab hba
  rcases ha with rfl | rfl <;> rcases hb with rfl | rfl <;>
    simp only [reduceCtorEq, or_false, and_false, or_true, and_true] at hab hba
  · rw [h.eq_of_start hs ht (by omega)]
  · omega
  · omega
  · rw [h.eq_of_stop hs ht (by omega)]

/-- **In whatever order the ranges are recorded, the insertions are ordered
as if they had been recorded in the order of the text.** Both lists are in
order, and they hold the same insertions. -/
theorem ordered_aroundEach {inOrder : List Span} (h : Span.Ascending source inOrder)
    (hspans : Span.Disjoint source spans) (hperm : spans.Perm inOrder)
    (opening closing : Span → Text) :
    (aroundEach opening closing spans).ordered = aroundEach opening closing inOrder := by
  have hordered : (aroundEach opening closing spans).ordered.Perm
      (aroundEach opening closing spans) := by
    rw [ordered_eq_insertionSort]
    exact List.perm_insertionSort _ _
  have hinOrder : (aroundEach opening closing spans).Perm
      (aroundEach opening closing inOrder) := hperm.flatMap_right _
  refine List.Perm.eq_of_pairwise (fun a b ha hb => ?_) (pairwise_ordered _)
    (pairwise_aroundEach _ _ h) (hordered.trans hinOrder)
  exact eq_of_precedes hspans (hordered.mem_iff.1 ha) (hinOrder.mem_iff.2 hb)

/-- **Wrapping does not depend on the order of recording.** Of ranges that
are not empty and do not overlap, each gets two texts of its own (which may
be the same for all). In the order of the text the ranges cut it into gaps,
the texts of the ranges and a tail. Whatever the order is in which the
wraps are recorded, the edit leaves gaps and tail as they are and puts its
own two texts directly around the text of each range; where two ranges
touch, the gap between them is empty, and the first is closed before the
second is opened. -/
theorem apply_wraps_in_any_order (source : Text) (opening closing : Span → Text)
    (ranges : List Span) (h : Span.Disjoint source ranges) :
    ∃ (inOrder : List Span) (stretches : List Stretch) (tail : Text),
      inOrder.Perm ranges ∧ inOrder.Pairwise (·.stop ≤ ·.start) ∧
      Cut 0 source inOrder stretches tail ∧
      inOrder.map (fun r => Utf8.slice? source r.start r.stop) = stretches.map (some ·.inner) ∧
      source = stretches.flatMap (fun s => s.gap ++ s.inner) ++ tail ∧
      ∀ recorded : List Span, recorded.Perm ranges →
        apply (recorded.foldl (fun e r => wrap e r.start r.stop (opening r) (closing r)) [])
            source =
          .ok ((List.zipWith (fun r s => s.gap ++ opening r ++ s.inner ++ closing r) inOrder
            stretches).flatten ++ tail) := by
  have hascending := h.ascending_sorted
  obtain ⟨stretches, tail, hcut⟩ := hascending.exists_cut
  refine ⟨Span.sorted ranges, stretches, tail, Span.sorted_perm ranges, hascending.apart, hcut,
    hcut.map_slice? [] rfl, hcut.text_eq, fun recorded hrecorded => ?_⟩
  have hordered := ordered_aroundEach hascending (h.perm hrecorded)
    (hrecorded.trans (Span.sorted_perm ranges).symm) opening closing
  rw [foldl_wrap, List.nil_append, apply, hordered, applyFrom_aroundEach hcut]
  rfl

/-- Two ranges that touch behind a character of two bytes, the second
recorded first. -/
def touchingRanges : List Span := [⟨2, 3⟩, ⟨0, 2⟩]

/-- Angles open the range at the start, brackets any other. -/
def openingOf (r : Span) : Text := if r.start = 0 then ['<'] else ['[']

/-- And what closes them. -/
def closingOf (r : Span) : Text := if r.start = 0 then ['>'] else [']']

/-- Both orders of recording give the same text, with the first range closed
before the second is opened. -/
theorem apply_wraps_in_any_order_touchingRanges :
    Span.Disjoint accentedText touchingRanges ∧
    apply (touchingRanges.foldl
        (fun e r => wrap e r.start r.stop (openingOf r) (closingOf r)) []) accentedText =
      .ok "<é>[a]".toList ∧
    apply (touchingRanges.reverse.foldl
        (fun e r => wrap e r.start r.stop (openingOf r) (closingOf r)) []) accentedText =
      .ok "<é>[a]".toList := by
  have hdisjoint : Span.Disjoint accentedText touchingRanges := by decide +kernel
  obtain ⟨inOrder, stretches, tail, -, -, -, -, -, hany⟩ :=
    apply_wraps_in_any_order accentedText openingOf closingOf touchingRanges hdisjoint
  have hfirst : apply (touchingRanges.foldl
      (fun e r => wrap e r.start r.stop (openingOf r) (closingOf r)) []) accentedText =
      .ok "<é>[a]".toList := by decide +kernel
  refine ⟨hdisjoint, hfirst, ?_⟩
  rw [hany _ (List.reverse_perm touchingRanges), ← hany _ (List.Perm.refl touchingRanges), hfirst]

end Edit

end LiteralMark
