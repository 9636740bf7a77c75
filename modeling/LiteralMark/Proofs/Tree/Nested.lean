import LiteralMark.Proofs.Edit.Wrapping
import LiteralMark.Proofs.Tree.Walk
/-!
# Syntax trees — ranges that nest

The trees of the other modules are plain data, with any ranges. A tree that
was read from a text has more order: every node starts and stops at a
boundary of the text, its children lie inside it, and each child lies
behind the one before (`Nested`). Then the literals that the walk finds
ascend without overlap (`Nested.ascending`). For two that are found below
different children this is the order of the children; below one child it
is what the walk finds there; and a literal itself is not entered, so no
literal that is found lies in another one. Marking such a tree cannot fail,
and it writes the marker call around each literal
(`ofTree_surrounds_literals`).
-/

namespace LiteralMark

namespace Node

variable {c : Convention} {source : Text} {n m root : Node} {addr addr' : List Nat}

/-- A node has its place in a text, and its children have theirs in it. -/
@[mk_iff] structure Fits (source : Text) (n : Node) : Prop where
  start_isBoundary : Utf8.IsBoundary source n.span.start
  stop_isBoundary : Utf8.IsBoundary source n.span.stop
  inside : ∀ x ∈ n.children, n.span.start ≤ x.span.start ∧ x.span.stop ≤ n.span.stop
  apart : n.children.Pairwise (·.span.stop ≤ ·.span.start)

instance : Decidable (n.Fits source) := decidable_of_iff _ (fits_iff source n).symm

/-- **Every node of a tree has its place.** -/
def Nested (source : Text) (root : Node) : Prop := root.Everywhere (Fits source)

instance : Decidable (root.Nested source) := inferInstanceAs (Decidable (root.Everywhere _))

/-! ## What the walk finds in such a tree -/

theorem mem_literals_cases (h : m ∈ n.literals c source) :
    m = n ∨ ∃ x ∈ n.children, m ∈ x.literals c source := by
  rw [literals_eq] at h
  split at h
  · exact Or.inl (List.mem_singleton.1 h)
  · cases h
  · rename_i part _
    cases hchild : n.child? part with
    | none =>
      rw [hchild] at h
      cases h
    | some x =>
      rw [hchild] at h
      exact Or.inr ⟨x, List.mem_of_find?_eq_some hchild, h⟩
  · exact Or.inr (List.mem_flatMap.1 h)

theorem exists_at?_of_mem_literals (h : m ∈ root.literals c source) :
    ∃ addr, root.at? addr = some m := by
  rw [literals_eq_map_reached, List.mem_map] at h
  obtain ⟨⟨addr, m⟩, hreached, rfl⟩ := h
  exact ⟨addr, (mem_reached.1 hreached).1⟩

namespace Nested

theorem literals_inside (h : n.Nested source) (hm : m ∈ n.literals c source) :
    n.span.start ≤ m.span.start ∧ m.span.stop ≤ n.span.stop := by
  induction n using Node.induction with
  | step n ih =>
    rcases mem_literals_cases hm with rfl | ⟨x, hx, hmx⟩
    · exact ⟨Nat.le_refl _, Nat.le_refl _⟩
    · obtain ⟨hstart, hstop⟩ := (Everywhere.root h).inside x hx
      obtain ⟨hstart', hstop'⟩ := ih x hx (Everywhere.child h hx) hmx
      omega

/-- **The literals that are found lie one behind the other.** -/
theorem literals_apart (h : n.Nested source) :
    (n.literals c source).Pairwise (·.span.stop ≤ ·.span.start) := by
  induction n using Node.induction with
  | step n ih =>
    rw [literals_eq]
    split
    · exact List.pairwise_singleton _ _
    · exact List.Pairwise.nil
    · rename_i part _
      cases hchild : n.child? part with
      | none => exact List.Pairwise.nil
      | some x =>
        have hx : x ∈ n.children := List.mem_of_find?_eq_some hchild
        exact ih x hx (Everywhere.child h hx)
    · rw [List.pairwise_flatMap]
      refine ⟨fun x hx => ih x hx (Everywhere.child h hx), ?_⟩
      -- what is found below a child lies inside it, and the children are apart
      refine (Everywhere.root h).apart.imp_of_mem fun {x y} hx hy hxy a ha b hb => ?_
      have hstop := (literals_inside (Everywhere.child h hx) ha).2
      have hstart := (literals_inside (Everywhere.child h hy) hb).1
      omega

/-- **The literals that are found ascend**, if none of them is empty. -/
theorem ascending (h : root.Nested source)
    (hfull : ∀ m ∈ root.literals c source, m.span.start < m.span.stop) :
    Span.Ascending source ((root.literals c source).map span) where
  start_isBoundary := by
    refine List.forall_mem_map.2 fun m hm => ?_
    obtain ⟨addr, haddr⟩ := exists_at?_of_mem_literals hm
    exact (h addr m haddr).start_isBoundary
  stop_isBoundary := by
    refine List.forall_mem_map.2 fun m hm => ?_
    obtain ⟨addr, haddr⟩ := exists_at?_of_mem_literals hm
    exact (h addr m haddr).stop_isBoundary
  nonempty := List.forall_mem_map.2 hfull
  apart := List.pairwise_map.2 h.literals_apart

end Nested

/-- **No literal that is found lies above another**, in any tree. -/
theorem not_prefix_of_reached (hn : (addr, n) ∈ root.reached c source)
    (hm : (addr', m) ∈ root.reached c source) (hne : addr ≠ addr') : ¬ addr <+: addr' :=
  fun hbegins => hne (eq_of_prefix_of_enters hn (mem_reached.1 hm).2.2 hbegins)

theorem plan_eq_aroundAll (c : Convention) (source : Text) (root : Node) :
    root.plan c source =
      Edit.aroundAll c.opening Convention.closing ((root.literals c source).map span) := by
  rw [plan, Edit.aroundAll, Edit.aroundEach, List.flatMap_map]

end Node

namespace Markup

variable {c : Convention} {source tail : Text} {root : Node} {stretches : List Stretch}

/-- **Marking a tree whose literals ascend.** -/
theorem ofTree_of_ascending (hsound : root.faulty = false)
    (hspans : Span.Ascending source ((root.literals c source).map Node.span))
    (hcut : Cut 0 source ((root.literals c source).map Node.span) stretches tail) :
    ofTree c source root =
      .ok ⟨stretches.flatMap (Stretch.wrapped c.opening Convention.closing) ++ tail,
        (root.literals c source).length⟩ := by
  refine ofTree_eq_ok_iff.2 ⟨hsound, ?_, rfl⟩
  rw [Node.plan_eq_aroundAll]
  exact Edit.apply_aroundAll hspans hcut _ _

/-- **The insertions of a plan never collide and never fail.** In a tree
without a fault whose ranges nest, the literals that are wrapped ascend
without overlap, and none lies above another. The text falls into gaps and
the texts of these literals, and the marked text has the marker call around
each of them; so its length follows from their number, and it is the old
text only if there is none. -/
theorem ofTree_surrounds_literals (c : Convention) (source : Text) (root : Node)
    (hsound : root.faulty = false) (hnested : root.Nested source)
    (hfull : ∀ n ∈ root.literals c source, n.span.start < n.span.stop) :
    ∃ (found : List (List Nat × Node)) (stretches : List Stretch) (tail output : Text),
      root.literals c source = found.map Prod.snd ∧
      (∀ o ∈ found, root.at? o.1 = some o.2) ∧
      found.Pairwise (fun a b => a.2.span.start < b.2.span.start ∧
        a.2.span.stop ≤ b.2.span.start ∧ ¬ a.1 <+: b.1 ∧ ¬ b.1 <+: a.1) ∧
      Cut 0 source (found.map (·.2.span)) stretches tail ∧
      found.map (·.2.text? source) = stretches.map (some ·.inner) ∧
      source = stretches.flatMap (fun s => s.gap ++ s.inner) ++ tail ∧
      output = stretches.flatMap
        (fun s => s.gap ++ c.opening ++ s.inner ++ Convention.closing) ++ tail ∧
      (root.plan c source).apply source = .ok output ∧
      ofTree c source root = .ok ⟨output, found.length⟩ ∧
      Utf8.size output = Utf8.size source + found.length * (Utf8.size c.opening + 1) ∧
      (output = source ↔ found.length = 0) := by
  have hspans := hnested.ascending hfull
  obtain ⟨stretches, tail, hcut⟩ := hspans.exists_cut
  have hmark := ofTree_of_ascending hsound hspans hcut
  have happly := (ofTree_eq_ok_iff.1 hmark).2.1
  have hslices := hcut.map_slice? [] rfl
  have hlength := hcut.length_eq
  rw [Node.literals_eq_map_reached] at hmark hcut hslices hlength
  simp only [List.map_map, List.length_map] at hmark hcut hslices hlength
  have hsource : source = stretches.flatMap Stretch.plain ++ tail := hcut.text_eq
  have hclosing : Utf8.size Convention.closing = 1 := by decide
  have hsize :
      Utf8.size (stretches.flatMap (Stretch.wrapped c.opening Convention.closing) ++ tail) =
        Utf8.size source + (root.reached c source).length * (Utf8.size c.opening + 1) := by
    have hplain := congrArg Utf8.size hsource
    rw [Utf8.size_append] at hplain
    rw [Utf8.size_append, size_flatMap_wrapped, hlength, hclosing]
    omega
  refine ⟨root.reached c source, stretches, tail,
    stretches.flatMap (Stretch.wrapped c.opening Convention.closing) ++ tail,
    Node.literals_eq_map_reached root, fun o ho => (Node.mem_reached.1 ho).1, ?_, hcut, hslices,
    hsource, rfl, happly, hmark, hsize, ?_⟩
  · have happart := hspans.apart
    rw [Node.literals_eq_map_reached, List.map_map, List.pairwise_map] at happart
    refine ((Node.reached_pairwise c source root).and happart).imp_of_mem fun {a b} ha hb hab => ?_
    have hlt := hfull a.2 (by
      rw [Node.literals_eq_map_reached]
      exact List.mem_map_of_mem ha)
    have hstop : a.2.span.stop ≤ b.2.span.start := hab.2
    have hne : a.1 ≠ b.1 := fun heq => List.lt_irrefl b.1 (heq ▸ hab.1)
    exact ⟨by omega, hstop, Node.not_prefix_of_reached ha hb hne,
      Node.not_prefix_of_reached hb ha hne.symm⟩
  · constructor
    · intro heq
      rw [heq] at hsize
      have hzero : (root.reached c source).length * (Utf8.size c.opening + 1) = 0 := by omega
      exact (Nat.mul_eq_zero.1 hzero).resolve_right (Nat.succ_ne_zero _)
    · intro hzero
      rw [hzero, List.length_eq_zero_iff] at hlength
      rw [hlength] at hsource ⊢
      exact hsource.symm

/-- A call with two literals that touch, the first with a character of two
bytes, and one that is marked. -/
def touchingText : Text := "f \"é\"'b',_(\"c\")".toList

/-- Its tree. -/
def touchingCall : Node :=
  .mk .call none ⟨0, 16⟩ none false [
    .mk (.other "identifier") (some .method) ⟨0, 1⟩ none false [],
    .mk (.other "argument_list") (some (.other "arguments")) ⟨2, 16⟩ none false [
      .mk .string none ⟨2, 6⟩ none false [],
      .mk .string none ⟨6, 9⟩ none false [],
      .mk .call none ⟨10, 16⟩ none false [
        .mk (.other "identifier") (some .method) ⟨10, 11⟩ none false [],
        .mk (.other "argument_list") (some (.other "arguments")) ⟨11, 16⟩ none false [
          .mk .string none ⟨12, 15⟩ none false []]]]]

/-- The call around the first literal is closed where the one around the
second is opened. -/
theorem ofTree_surrounds_literals_touchingText :
    touchingCall.faulty = false ∧ touchingCall.Nested touchingText ∧
    (∀ n ∈ touchingCall.literals .standard touchingText, n.span.start < n.span.stop) ∧
    ∃ output, ofTree .standard touchingText touchingCall = .ok ⟨output, 2⟩ ∧
      output = "f _(\"é\")_('b'),_(\"c\")".toList ∧
      Utf8.size output = Utf8.size touchingText + 2 * (Utf8.size Convention.standard.opening + 1) ∧
      output ≠ touchingText := by
  have hnested : touchingCall.Nested touchingText := by decide +kernel
  have hfull : ∀ n ∈ touchingCall.literals .standard touchingText, n.span.start < n.span.stop := by
    decide +kernel
  have hmark : ofTree .standard touchingText touchingCall =
      .ok ⟨"f _(\"é\")_('b'),_(\"c\")".toList, 2⟩ := by decide +kernel
  obtain ⟨found, stretches, tail, output, -, -, -, -, -, -, -, -, hmark', hsize, heq⟩ :=
    ofTree_surrounds_literals .standard touchingText touchingCall rfl hnested hfull
  rw [hmark', Except.ok.injEq, Markup.mk.injEq] at hmark
  obtain ⟨houtput, hlength⟩ := hmark
  rw [hlength] at hmark' hsize heq
  exact ⟨rfl, hnested, hfull, output, hmark', houtput, hsize, fun h => by simpa using heq.1 h⟩

end Markup

end LiteralMark
