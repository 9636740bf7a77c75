import LiteralMark.Markup
import LiteralMark.Proofs.Tree.Search
/-!
# Faults of a tree — what pruning leaves out

The search for faults does not enter a node without the flag. Where the
flags are right (`Flagged`), it misses nothing by that. A node has the flag
exactly if a search that enters every node finds a fault at it or below
(`allFaults_ne_nil_iff`), so what is not entered holds none, and both
searches give the same list (`faults_eq_allFaults`). The list is read off
the addresses: it holds the faults above which no other fault lies, each
once and in the order of the text (`allFaults_eq_map_outermost`).

Of two such faults neither lies above the other. In a tree whose ranges lie
in one another as the nodes do (`Layered`), two such nodes have their
ranges one behind the other (`Layered.apart`). And since a tree with the
flag has a fault, a text that is refused is always refused for a fault that
has a place (`faultReports_exact`).
-/

namespace LiteralMark

namespace Node

variable {n m x root : Node} {addr addr' : List Nat}

/-! ## Flags -/

/-- The flag of a node is right: it is set if something is wrong at the
node or a child has the flag, and only then. -/
def FlagFits (n : Node) : Prop :=
  n.faulty = true ↔ n.fault.isSome ∨ ∃ x ∈ n.children, x.faulty = true

instance : Decidable n.FlagFits := inferInstanceAs (Decidable (_ ↔ _))

/-- **Every flag of a tree is right.** -/
def Flagged (root : Node) : Prop := root.Everywhere FlagFits

instance : Decidable root.Flagged := inferInstanceAs (Decidable (root.Everywhere _))

/-! ## The search with and without pruning -/

mutual

/-- The outermost faults at or below a node. Every node is searched, but
for those below a fault. -/
def allFaults : Node → List Node
  | mk k f s fault faulty children =>
    if fault.isSome then [mk k f s fault faulty children] else allFaultsOf children

/-- The outermost faults at or below each of the nodes. -/
def allFaultsOf : List Node → List Node
  | [] => []
  | n :: rest => allFaults n ++ allFaultsOf rest

end

theorem faultsAll_eq (ns : List Node) : faultsAll ns = ns.flatMap faults := by
  induction ns with
  | nil => rfl
  | cons n ns ih => rw [faultsAll, ih, List.flatMap_cons]

theorem allFaultsOf_eq (ns : List Node) : allFaultsOf ns = ns.flatMap allFaults := by
  induction ns with
  | nil => rfl
  | cons n ns ih => rw [allFaultsOf, ih, List.flatMap_cons]

/-- **One step of the pruned search.** -/
theorem faults_eq (n : Node) : n.faults =
    if n.fault.isSome then [n] else if n.faulty then n.children.flatMap faults else [] := by
  obtain ⟨k, f, s, fault, faulty, cs⟩ := n
  rw [faults, faultsAll_eq]
  rfl

/-- **One step of the search that is not pruned.** -/
theorem allFaults_eq (n : Node) :
    n.allFaults = if n.fault.isSome then [n] else n.children.flatMap allFaults := by
  obtain ⟨k, f, s, fault, faulty, cs⟩ := n
  rw [allFaults, allFaultsOf_eq]
  rfl

/-- **A right flag tells whether there is a fault to be found.** -/
theorem allFaults_ne_nil_iff (h : n.Flagged) : n.allFaults ≠ [] ↔ n.faulty = true := by
  induction n using Node.induction with
  | step n ih =>
    have hflag : n.faulty = true ↔ n.fault.isSome ∨ ∃ x ∈ n.children, x.faulty = true :=
      Everywhere.root h
    rw [hflag, allFaults_eq]
    by_cases hfault : n.fault.isSome
    · simp [hfault]
    · -- the flag comes from a child then, and so does the fault
      have hchildren : n.children.flatMap allFaults ≠ [] ↔ ∃ x ∈ n.children, x.faulty = true := by
        rw [ne_eq, List.flatMap_eq_nil_iff]
        push Not
        exact exists_congr fun x => and_congr_right fun hx => ih x hx (Everywhere.child h hx)
      rw [if_neg hfault, hchildren]
      simp [hfault]

/-- **Pruning loses nothing**, where the flags are right. -/
theorem faults_eq_allFaults (h : n.Flagged) : n.faults = n.allFaults := by
  induction n using Node.induction with
  | step n ih =>
    by_cases hfaulty : n.faulty
    · rw [faults_eq, allFaults_eq, if_pos hfaulty,
        List.flatMap_congr fun x hx => ih x hx (Everywhere.child h hx)]
    · -- nothing is found here without pruning either
      have hnone : n.allFaults = [] := by
        by_contra hne
        exact hfaulty ((allFaults_ne_nil_iff h).1 hne)
      have hfault : ¬ n.fault.isSome := by
        intro hfault
        rw [allFaults_eq, if_pos hfault] at hnone
        cases hnone
      rw [hnone, faults_eq, if_neg hfault, if_neg hfaulty]

/-! ## The faults by their addresses -/

/-- The faults above which no other lies, with their addresses. The way to
them goes through nodes that are none. -/
def outermost (root : Node) : List (List Nat × Node) :=
  root.found (·.fault.isSome) fun n _ => n.fault = none

theorem mem_outermost : (addr, n) ∈ root.outermost ↔
    root.at? addr = some n ∧ n.fault.isSome ∧ root.Follows (fun a _ => a.fault = none) addr :=
  mem_found

theorem outermost_pairwise (root : Node) : root.outermost.Pairwise (·.1 < ·.1) :=
  found_pairwise root

/-- **The search finds the outermost faults**, in the order of the text. -/
theorem allFaults_eq_map_outermost (root : Node) :
    root.allFaults = root.outermost.map Prod.snd := by
  refine eq_map_found (fun n _ hfault hnone => ?_) (fun n => ?_) root
  · rw [hnone] at hfault
    cases hfault
  · rw [allFaults_eq]
    by_cases hfault : n.fault.isSome
    · rw [if_pos hfault, if_pos hfault]
    · -- no fault at the node, so every child is searched
      have hnone : n.fault = none := Option.not_isSome_iff_eq_none.1 hfault
      have hall := List.flatMap_map Prod.fst allFaults n.children.zipIdx
      rw [List.zipIdx_map_fst] at hall
      simpa only [hnone, Option.isSome_none, Bool.false_eq_true, if_false, if_true] using hall

/-- **No outermost fault lies above another.** -/
theorem not_prefix_of_outermost (hn : (addr, n) ∈ root.outermost)
    (hm : (addr', m) ∈ root.outermost) (hne : addr ≠ addr') : ¬ addr <+: addr' := by
  intro habove
  obtain ⟨hat, hfault, -⟩ := mem_outermost.1 hn
  refine hne ((mem_outermost.1 hm).2.2.eq_of_isPrefix hat (fun _ hnone => ?_) habove)
  rw [hnone] at hfault
  cases hfault

/-! ## Ranges -/

/-- A node holds its children: its range does not end before it starts, the
children lie in it, and each lies behind the one before. -/
@[mk_iff] structure Encloses (n : Node) : Prop where
  ordered : n.span.start ≤ n.span.stop
  inside : ∀ x ∈ n.children, n.span.start ≤ x.span.start ∧ x.span.stop ≤ n.span.stop
  apart : n.children.Pairwise (·.span.stop ≤ ·.span.start)

instance : Decidable n.Encloses := decidable_of_iff _ (encloses_iff n).symm

/-- **Every node of a tree holds its children.** -/
def Layered (root : Node) : Prop := root.Everywhere Encloses

instance : Decidable root.Layered := inferInstanceAs (Decidable (root.Everywhere _))

namespace Layered

theorem inside (h : n.Layered) (hm : n.at? addr = some m) :
    n.span.start ≤ m.span.start ∧ m.span.stop ≤ n.span.stop := by
  induction addr generalizing n with
  | nil =>
    cases hm
    omega
  | cons i addr ih =>
    obtain ⟨x, hx, hm⟩ := at?_cons_eq_some_iff.1 hm
    have hmem := List.mem_of_getElem? hx
    have hchild := (Everywhere.root h).inside x hmem
    have hbelow := ih (Everywhere.child h hmem) hm
    omega

/-- **Of two nodes of which neither lies above the other, the first ends
before the second starts.** Where their addresses part, they go through two
children. -/
theorem apart (h : n.Layered) (hm : n.at? addr = some m) (hx : n.at? addr' = some x)
    (hlt : addr < addr') (habove : ¬ addr <+: addr') : m.span.stop ≤ x.span.start := by
  induction addr generalizing n addr' with
  | nil => exact absurd (List.nil_prefix) habove
  | cons i addr ih =>
    cases addr' with
    | nil => exact absurd hlt (List.not_lt_nil _)
    | cons j addr' =>
      obtain ⟨y, hy, hm⟩ := at?_cons_eq_some_iff.1 hm
      obtain ⟨z, hz, hx⟩ := at?_cons_eq_some_iff.1 hx
      have hylayered : y.Layered := Everywhere.child h (List.mem_of_getElem? hy)
      have hzlayered : z.Layered := Everywhere.child h (List.mem_of_getElem? hz)
      rcases List.cons_lt_cons_iff.1 hlt with hij | ⟨rfl, hlt'⟩
      · obtain ⟨hi, rfl⟩ := List.getElem?_eq_some_iff.1 hy
        obtain ⟨hj, rfl⟩ := List.getElem?_eq_some_iff.1 hz
        have hchildren := List.pairwise_iff_getElem.1 (Everywhere.root h).apart i j hi hj hij
        have hstop := (hylayered.inside hm).2
        have hstart := (hzlayered.inside hx).1
        omega
      · obtain rfl : y = z := Option.some.inj (hy.symm.trans hz)
        refine ih hylayered hm hx hlt' fun hbelow => habove ?_
        rwa [List.prefix_cons_inj]

/-- **The outermost faults lie one behind the other.** -/
theorem outermost_apart (h : root.Layered) : root.outermost.Pairwise fun a b =>
    a.2.span.stop ≤ b.2.span.start ∧ a.2.span.start ≤ b.2.span.start := by
  refine (outermost_pairwise root).imp_of_mem fun {a b} ha hb hlt => ?_
  have hne : a.1 ≠ b.1 := fun heq => List.lt_irrefl b.1 (heq ▸ hlt)
  have hat := (mem_outermost.1 ha).1
  have hstop := h.apart hat (mem_outermost.1 hb).1 hlt (not_prefix_of_outermost ha hb hne)
  have hordered := (h a.1 a.2 hat).ordered
  omega

end Layered

end Node

/-! ## What is told of the faults -/

/-- A report tells a place: its text is not the one for a tree without a
fault. -/
theorem FaultReport.message_ne (r : FaultReport) : r.message ≠ "unrecognised syntax" := by
  intro h
  have hcolon : ':' ∈ r.message.toList := by
    simp only [message, String.toList_append, List.mem_append]
    exact Or.inl (Or.inl (Or.inl (Or.inr (by decide))))
  rw [h] at hcolon
  revert hcolon
  decide

namespace Markup

variable {c : Convention} {source : Text} {root : Node}

/-- A tree with the flag is refused for its first fault. -/
theorem ofTree_of_faults {first : Node} {rest : List Node} (hfaulty : root.faulty = true)
    (h : root.faults = first :: rest) :
    ofTree c source root = .error (.parse (FaultReport.ofNode source first).message) := by
  rw [ofTree, if_pos hfaulty, Node.faultReports, h]
  rfl

/-- **A tree is refused for a fault exactly if it has the flag**, be it right
or not. -/
theorem ofTree_eq_parse_iff (c : Convention) (source : Text) :
    (∃ message, ofTree c source root = .error (.parse message)) ↔ root.faulty = true := by
  rw [ofTree]
  cases root.faulty with
  | false =>
    simp only [Bool.false_eq_true, if_false, iff_false]
    rintro ⟨message, h⟩
    split at h <;> cases h
  | true =>
    simp only [if_true, iff_true]
    cases root.faultReports source with
    | nil => exact ⟨_, rfl⟩
    | cons first rest => exact ⟨_, rfl⟩

end Markup

/-- **The pruned search for faults loses nothing.** In a tree whose flags
are right it reports the faults above which no other lies, each once and in
the order of the text, as a search that is not pruned does. If the ranges
nest, those of the faults lie one behind the other. There is a fault exactly
if the root has the flag; so a text that is read to such a tree is refused
for the first fault, with its place, and never without one. -/
theorem Node.faultReports_exact (source : Text) (root : Node) (hflags : root.Flagged) :
    ∃ found : List (List Nat × Node),
      root.faultReports source = found.map (fun o => FaultReport.ofNode source o.2) ∧
      found.Pairwise (·.1 < ·.1) ∧
      (∀ addr n, (addr, n) ∈ found ↔
        root.at? addr = some n ∧ n.fault.isSome ∧
          ∀ above i below a, addr = above ++ i :: below → root.at? above = some a →
            a.fault = none) ∧
      (root.Layered → found.Pairwise fun a b =>
        a.2.span.stop ≤ b.2.span.start ∧ a.2.span.start ≤ b.2.span.start) ∧
      root.faults = root.allFaults ∧
      (root.faultReports source ≠ [] ↔ root.faulty = true) ∧
      ∀ (read : TreeReader) (c : Convention), read source = root →
        (root.faulty = true → ∃ first rest, found = first :: rest ∧
          Markup.ofText read c source =
            .error (.parse (FaultReport.ofNode source first.2).message)) ∧
        Markup.ofText read c source ≠ .error (.parse "unrecognised syntax") := by
  have hfaults : root.faults = root.outermost.map Prod.snd := by
    rw [faults_eq_allFaults hflags, allFaults_eq_map_outermost]
  have hflag : root.outermost ≠ [] ↔ root.faulty = true := by
    rw [← allFaults_ne_nil_iff hflags, allFaults_eq_map_outermost, ne_eq, ne_eq,
      List.map_eq_nil_iff]
  have hfirst (c : Convention) (hfaulty : root.faulty = true) :
      ∃ first rest, root.outermost = first :: rest ∧ Markup.ofTree c source root =
        .error (.parse (FaultReport.ofNode source first.2).message) := by
    obtain ⟨first, rest, hcons⟩ := List.exists_cons_of_ne_nil (hflag.2 hfaulty)
    rw [hcons] at hfaults
    exact ⟨first, rest, hcons, Markup.ofTree_of_faults hfaulty hfaults⟩
  refine ⟨root.outermost, ?_, outermost_pairwise root, fun addr n => mem_outermost,
    Layered.outermost_apart, faults_eq_allFaults hflags, ?_, fun read c hread => ?_⟩
  · rw [faultReports, hfaults, List.map_map]
    rfl
  · rw [faultReports, hfaults, ne_eq, List.map_eq_nil_iff, List.map_eq_nil_iff]
    exact hflag
  · rw [Markup.ofText, hread]
    refine ⟨hfirst c, fun hunplaced => ?_⟩
    have hfaulty := (Markup.ofTree_eq_parse_iff c source).1 ⟨_, hunplaced⟩
    obtain ⟨first, rest, -, hrefused⟩ := hfirst c hfaulty
    rw [hrefused, Except.error.injEq, SyntaxFailure.parse.injEq] at hunplaced
    exact FaultReport.message_ne _ hunplaced

namespace Node

/-- A text with a bracket that nothing opens and one that nothing closes. -/
def tornText : Text := "f ) 1 g(".toList

/-- The token that is missing at its end. -/
def tornEnd : Node := mk (.other "token") none ⟨8, 8⟩ (some .missing) true []

/-- Its tree. In the first fault lies another one, and between the two
faults that are outermost a node without any. -/
def tornTree : Node :=
  mk (.other "program") none ⟨0, 8⟩ none true [
    mk (.other "identifier") none ⟨0, 1⟩ none false [],
    mk (.other "ERROR") none ⟨2, 3⟩ (some .unexpected) true [
      mk (.other "token") none ⟨2, 3⟩ none false [],
      mk (.other "token") none ⟨3, 3⟩ (some .missing) true []],
    mk (.other "integer") none ⟨4, 5⟩ none false [],
    mk .call none ⟨6, 8⟩ none true [
      mk (.other "identifier") (some .method) ⟨6, 7⟩ none false [],
      mk (.other "argument_list") none ⟨7, 8⟩ none true [
        mk (.other "token") none ⟨7, 8⟩ none false [],
        tornEnd]]]

/-- Two of the three faults are reported, and the text is refused for the
first. -/
theorem faultReports_exact_tornText :
    tornTree.Flagged ∧ tornTree.Layered ∧
    ∃ found : List (List Nat × Node),
      tornTree.faultReports tornText = found.map (fun o => FaultReport.ofNode tornText o.2) ∧
      found.length = 2 ∧ ([3, 1, 1], tornEnd) ∈ found ∧
      (found.Pairwise fun a b =>
        a.2.span.stop ≤ b.2.span.start ∧ a.2.span.start ≤ b.2.span.start) ∧
      Markup.ofText (fun _ => tornTree) .standard tornText =
        .error (.parse "1:3: syntax error near `)`") := by
  have hflags : tornTree.Flagged := by decide
  have hlayered : tornTree.Layered := by decide
  have hreports : tornTree.faultReports tornText =
      [⟨⟨2, 3⟩, ⟨1, 3⟩, [')']⟩, ⟨⟨8, 8⟩, ⟨1, 9⟩, []⟩] := by decide +kernel
  have habove : tornTree.Follows (fun a _ => a.fault = none) [3, 1, 1] := by decide
  obtain ⟨found, hfound, -, hmem, hapart, -, -, hrefused⟩ :=
    faultReports_exact tornText tornTree hflags
  obtain ⟨first, rest, hcons, hfirst⟩ := (hrefused (fun _ => tornTree) .standard rfl).1 rfl
  refine ⟨hflags, hlayered, found, hfound, ?_, ?_, hapart hlayered, ?_⟩
  · have hlength := congrArg List.length (hfound.symm.trans hreports)
    rwa [List.length_map] at hlength
  · exact (hmem _ _).2 ⟨rfl, rfl, habove⟩
  · rw [hreports, hcons, List.map_cons, List.cons.injEq] at hfound
    rw [hfirst, ← hfound.1]
    decide +kernel

end Node

end LiteralMark
