import LiteralMark.Tree.Basic
import Mathlib.Data.List.Basic
/-!
# Syntax trees — addresses and the order of the text

Two nodes of a tree can be equal and stand at different places, so a
place is told by its address: the numbers of the children on the way from
the root (`at?`). The order of the text is the order of addresses in a
dictionary, with a node in front of what lies below it. `occurrences`
lists every node with its address; the list holds each address of the
tree once and in that order (`mem_occurrences`,
`occurrences_pairwise`), so what holds of every node of a tree
(`Everywhere`) can be decided.
-/

namespace LiteralMark

namespace Node

variable {n m x : Node} {addr : List Nat} {i : Nat}

/-- **Induction on trees**: what follows for a node from its children
holds of all nodes. -/
theorem induction {motive : Node → Prop}
    (step : ∀ n : Node, (∀ x ∈ n.children, motive x) → motive n) : ∀ n, motive n
  | mk k f s fault faulty cs =>
    step (mk k f s fault faulty cs) fun x (hx : x ∈ cs) =>
      have : sizeOf x < sizeOf cs := List.sizeOf_lt_of_mem hx
      induction step x

/-- The node at an address. -/
def at? : Node → List Nat → Option Node
  | n, [] => some n
  | n, i :: addr => n.children[i]?.bind (at? · addr)

@[simp] theorem at?_nil : n.at? [] = some n := rfl

theorem at?_cons : n.at? (i :: addr) = n.children[i]?.bind (at? · addr) := rfl

theorem at?_cons_eq_some_iff :
    n.at? (i :: addr) = some m ↔ ∃ x, n.children[i]? = some x ∧ x.at? addr = some m := by
  rw [at?_cons, Option.bind_eq_some_iff]

/-- To go on from the node at an address. -/
theorem at?_append (n : Node) (addr below : List Nat) :
    n.at? (addr ++ below) = (n.at? addr).bind (at? · below) := by
  induction addr generalizing n with
  | nil => rfl
  | cons i addr ih =>
    rw [List.cons_append, at?_cons, at?_cons]
    cases n.children[i]? with
    | none => rfl
    | some x => exact ih x

theorem at?_concat_eq_some_iff :
    n.at? (addr ++ [i]) = some m ↔ ∃ x, n.at? addr = some x ∧ x.children[i]? = some m := by
  rw [at?_append, Option.bind_eq_some_iff]
  simp only [at?_cons_eq_some_iff, at?_nil, Option.some.injEq, exists_eq_right]

/-! ## All nodes in order -/

mutual

/-- The nodes at and below a node, each with its address. -/
def occurrences : Node → List (List Nat × Node)
  | mk k f s fault faulty children =>
    ([], mk k f s fault faulty children) :: occurrencesFrom 0 children

/-- The nodes at and below nodes that are children from a number on. -/
def occurrencesFrom (i : Nat) : List Node → List (List Nat × Node)
  | [] => []
  | n :: rest =>
    (occurrences n).map (fun (addr, m) => (i :: addr, m)) ++ occurrencesFrom (i + 1) rest

end

theorem occurrencesFrom_eq (i : Nat) (ns : List Node) :
    occurrencesFrom i ns =
      (ns.zipIdx i).flatMap fun (x, j) => x.occurrences.map fun (addr, m) => (j :: addr, m) := by
  induction ns generalizing i with
  | nil => rfl
  | cons n rest ih => rw [occurrencesFrom, ih, List.zipIdx_cons, List.flatMap_cons]

/-- A node comes first, then what lies at and below each child. -/
theorem occurrences_eq (n : Node) :
    n.occurrences = ([], n) :: n.children.zipIdx.flatMap fun (x, j) =>
      x.occurrences.map fun (addr, m) => (j :: addr, m) := by
  cases n
  rw [occurrences, occurrencesFrom_eq]
  rfl

/-- **Every address is listed, with the node that is there.** -/
theorem mem_occurrences : (addr, m) ∈ n.occurrences ↔ n.at? addr = some m := by
  induction n using Node.induction generalizing addr m with
  | step n ih =>
    rw [occurrences_eq, List.mem_cons, List.mem_flatMap]
    cases addr with
    | nil => simp [eq_comm]
    | cons i addr =>
      rw [at?_cons_eq_some_iff]
      simp only [Prod.mk.injEq, List.cons_ne_nil, false_and, false_or, List.mem_map, Prod.exists]
      constructor
      · rintro ⟨x, j, hx, a, b, hab, ⟨⟨rfl, rfl⟩, rfl⟩⟩
        rw [List.mk_mem_zipIdx_iff_getElem?] at hx
        exact ⟨x, hx, (ih x (List.mem_of_getElem? hx)).1 hab⟩
      · rintro ⟨x, hx, hm⟩
        exact ⟨x, i, List.mk_mem_zipIdx_iff_getElem?.2 hx, addr, m,
          (ih x (List.mem_of_getElem? hx)).2 hm, rfl, rfl⟩

/-- The numbers of the children ascend. -/
theorem zipIdx_pairwise (ns : List Node) (k : Nat) : (ns.zipIdx k).Pairwise (·.2 < ·.2) := by
  rw [← List.pairwise_map, List.zipIdx_map_snd]
  exact List.pairwise_lt_range'

/-- **The list is in the order of the text**, and so it holds each address
once. -/
theorem occurrences_pairwise (n : Node) : n.occurrences.Pairwise (·.1 < ·.1) := by
  induction n using Node.induction with
  | step n ih =>
    rw [occurrences_eq, List.pairwise_cons, List.pairwise_flatMap]
    refine ⟨?_, ?_, (zipIdx_pairwise n.children 0).imp fun hij => ?_⟩
    · simp only [List.mem_flatMap, List.mem_map]
      rintro _ ⟨_, _, _, _, rfl⟩
      exact List.nil_lt_cons _ _
    · rintro ⟨x, j⟩ hx
      rw [List.pairwise_map]
      refine (ih x (List.mem_of_getElem? (List.mk_mem_zipIdx_iff_getElem?.1 hx))).imp fun hlt => ?_
      exact List.cons_lt_cons_iff.2 (Or.inr ⟨rfl, hlt⟩)
    · simp only [List.mem_map]
      rintro _ ⟨_, _, rfl⟩ _ ⟨_, _, rfl⟩
      exact List.cons_lt_cons_iff.2 (Or.inl hij)

/-! ## What holds everywhere -/

/-- **Something holds of every node of a tree.** -/
def Everywhere (P : Node → Prop) (root : Node) : Prop := ∀ addr n, root.at? addr = some n → P n

theorem everywhere_iff {P : Node → Prop} {root : Node} :
    root.Everywhere P ↔ ∀ o ∈ root.occurrences, P o.2 := by
  simp only [Everywhere, Prod.forall, mem_occurrences]

instance {P : Node → Prop} [DecidablePred P] {root : Node} : Decidable (root.Everywhere P) :=
  decidable_of_iff _ everywhere_iff.symm

namespace Everywhere

variable {P : Node → Prop}

theorem root (h : n.Everywhere P) : P n := h [] n rfl

theorem child (h : n.Everywhere P) (hx : x ∈ n.children) : x.Everywhere P := by
  intro addr m hm
  obtain ⟨i, hi⟩ := List.mem_iff_getElem?.1 hx
  exact h (i :: addr) m (at?_cons_eq_some_iff.2 ⟨x, hi, hm⟩)

end Everywhere

end Node

end LiteralMark
