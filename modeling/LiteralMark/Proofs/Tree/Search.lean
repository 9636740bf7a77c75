import LiteralMark.Proofs.Tree.Address
/-!
# Syntax trees — searches that keep to a rule

A search goes down from the root, and a rule tells of each node through
which of its children the way may go on. The search comes to an address if
every step on the way there keeps to the rule (`Follows`). If it stops at
what it looks for, it finds what is looked for at the addresses it comes
to, in the order of the text and each once (`eq_map_found`).
-/

namespace LiteralMark.Node

variable {rule : Node → Nat → Prop} {n m x root : Node} {addr above : List Nat} {i : Nat}

/-! ## Ways that keep to a rule -/

/-- **Every step on the way to an address keeps to a rule**: it lets the way
go on from each node above through the child that comes next. -/
def Follows (rule : Node → Nat → Prop) (root : Node) (addr : List Nat) : Prop :=
  ∀ above i below n, addr = above ++ i :: below → root.at? above = some n → rule n i

theorem follows_nil (rule : Node → Nat → Prop) (root : Node) : root.Follows rule [] := by
  intro above i below n haddr
  simp at haddr

theorem follows_cons_iff : n.Follows rule (i :: addr) ↔
    rule n i ∧ ∀ x ∈ n.children[i]?, x.Follows rule addr := by
  constructor
  · refine fun h => ⟨h [] i addr n rfl rfl, fun x hx above j below a haddr ha => ?_⟩
    refine h (i :: above) j below a (by rw [haddr, List.cons_append]) ?_
    exact at?_cons_eq_some_iff.2 ⟨x, hx, ha⟩
  · rintro ⟨hn, hbelow⟩ above j below a haddr ha
    cases above with
    | nil =>
      cases haddr
      cases ha
      exact hn
    | cons k above =>
      rw [List.cons_append, List.cons.injEq] at haddr
      obtain ⟨rfl, haddr⟩ := haddr
      obtain ⟨x, hx, ha⟩ := at?_cons_eq_some_iff.1 ha
      exact hbelow x hx above j below a haddr ha

/-- One more step at the end of a way. -/
theorem follows_concat_iff (h : root.at? addr = some n) :
    root.Follows rule (addr ++ [i]) ↔ root.Follows rule addr ∧ rule n i := by
  constructor
  · refine fun hfollows => ⟨fun above j below a haddr ha => ?_, hfollows addr i [] n rfl h⟩
    exact hfollows above j (below ++ [i]) a (by rw [haddr]; simp) ha
  · rintro ⟨hfollows, hrule⟩ above j below a haddr ha
    rcases List.eq_nil_or_concat below with rfl | ⟨below, k, rfl⟩
    · obtain ⟨rfl, hij⟩ := List.append_inj' haddr rfl
      cases hij
      cases h.symm.trans ha
      exact hrule
    · rw [List.concat_eq_append, ← List.cons_append, ← List.append_assoc] at haddr
      exact hfollows above j below a (List.append_inj' haddr rfl).1 ha

instance decidableFollows [∀ n i, Decidable (rule n i)] :
    ∀ (n : Node) (addr : List Nat), Decidable (n.Follows rule addr)
  | n, [] => isTrue (follows_nil rule n)
  | _, _ :: addr =>
    have (x : Node) : Decidable (x.Follows rule addr) := decidableFollows x addr
    decidable_of_iff _ follows_cons_iff.symm

/-- **No way goes on below a node that the rule lets through nowhere.** -/
theorem Follows.eq_of_isPrefix (h : root.Follows rule addr) (hm : root.at? above = some m)
    (hstop : ∀ i, ¬ rule m i) (habove : above <+: addr) : above = addr := by
  obtain ⟨below, rfl⟩ := habove
  cases below with
  | nil => exact (List.append_nil above).symm
  | cons i below => exact absurd (h above i below m rfl hm) (hstop i)

/-! ## What a search finds -/

variable {hit : Node → Bool} {find : Node → List Node} [∀ n i, Decidable (rule n i)]

/-- The nodes looked for that a search comes to, with their addresses. -/
def found (hit : Node → Bool) (rule : Node → Nat → Prop) [∀ n i, Decidable (rule n i)]
    (root : Node) : List (List Nat × Node) :=
  root.occurrences.filter fun o => hit o.2 && decide (root.Follows rule o.1)

theorem mem_found : (addr, n) ∈ root.found hit rule ↔
    root.at? addr = some n ∧ hit n ∧ root.Follows rule addr := by
  rw [found, List.mem_filter, mem_occurrences, Bool.and_eq_true, decide_eq_true_iff]

theorem found_pairwise (root : Node) : (root.found hit rule).Pairwise (·.1 < ·.1) :=
  (occurrences_pairwise root).filter _

/-- Below a child, a search comes to what it comes to from there, if the
rule lets it through. -/
theorem filter_below (hx : n.children[i]? = some x) :
    ((x.occurrences.map fun o => (i :: o.1, o.2)).filter fun o =>
        hit o.2 && decide (n.Follows rule o.1)) =
      if rule n i then (x.found hit rule).map fun o => (i :: o.1, o.2) else [] := by
  have hfollows (addr : List Nat) :
      n.Follows rule (i :: addr) ↔ rule n i ∧ x.Follows rule addr := by
    rw [follows_cons_iff, hx]
    simp
  rw [List.filter_map, found]
  by_cases hrule : rule n i
  · simp [Function.comp_def, hfollows, hrule]
  · simp [Function.comp_def, hfollows, hrule]

/-- **A search finds what it comes to**, in the order of the text. It is
told by one step: what is looked for is found and nothing below it, and
else what the children have that the rule lets it through to. -/
theorem eq_map_found (hstop : ∀ n i, hit n → ¬ rule n i)
    (hfind : ∀ n, find n = if hit n then [n] else
      n.children.zipIdx.flatMap fun o => if rule n o.2 then find o.1 else []) (root : Node) :
    find root = (root.found hit rule).map Prod.snd := by
  induction root using Node.induction with
  | step n ih =>
    have hbelow : (n.children.zipIdx.flatMap fun o =>
          ((o.1.occurrences.map fun a => (o.2 :: a.1, a.2)).filter fun a =>
            hit a.2 && decide (n.Follows rule a.1)).map Prod.snd) =
        n.children.zipIdx.flatMap fun o => if rule n o.2 then find o.1 else [] := by
      refine List.flatMap_congr fun o ho => ?_
      have hx := List.mk_mem_zipIdx_iff_getElem?.1 ho
      rw [filter_below hx, ih o.1 (List.mem_of_getElem? hx)]
      split <;> simp
    rw [hfind, found, occurrences_eq, List.filter_cons]
    by_cases hn : hit n
    · have hnone : (n.children.zipIdx.flatMap fun o => if rule n o.2 then find o.1 else []) = [] :=
        List.flatMap_eq_nil_iff.2 fun o _ => if_neg (hstop n o.2 hn)
      rw [if_pos hn, if_pos (by simp [hn, follows_nil]), List.map_cons, List.filter_flatMap,
        List.map_flatMap, hbelow, hnone]
    · rw [if_neg hn, if_neg (by simp [hn]), List.filter_flatMap, List.map_flatMap, hbelow]

end LiteralMark.Node
