import LiteralMark.Markup
import LiteralMark.Proofs.Tree.Search
/-!
# The marking walk — which literals it finds

The rules of the walk, said of one node and the number of one of its
children: `Admits` tells whether the way down may lead through there. The
walk comes to an address if every step to it is admitted (`Enters`), and
it finds the literals at the addresses it comes to, in the order of the
text and each of them once (`literals_eq_map_reached`).
-/

namespace LiteralMark

/-! ## The rules -/

namespace Kind

/-- The kinds of node that are wrapped. -/
def isLiteral : Kind → Bool
  | string | chainedString | heredocBeginning => true
  | _ => false

/-- The kinds of node that never hold a text for readers. -/
def isOpaque : Kind → Bool
  | delimitedSymbol | regex | subshell | stringArray | symbolArray | heredocBody | comment => true
  | _ => false

end Kind

/-- The number of the child that plays a part. -/
def Node.childIndex? (n : Node) (part : Field) : Option Nat :=
  n.children.findIdx? (·.field == some part)

namespace Convention

variable {c : Convention} {source : Text} {n : Node} {i : Nat}

/-- What a call asks of a way that leads through one of its children. A
call of the marker function has its texts marked already; a bracket
method has keys for arguments; an import has a file name. -/
def AdmitsCall (c : Convention) (n : Node) (method : Text) (i : Nat) : Prop :=
  String.ofList method ≠ c.function ∧
    if method.head? = some '[' then n.childIndex? .receiver = some i
    else (n.child? .receiver).isSome ∨ c.isImport (String.ofList method) = false

/-- Whether the way to a literal may lead through a node and its child
with a number. -/
def Admits (c : Convention) (source : Text) (n : Node) (i : Nat) : Prop :=
  n.kind.isLiteral = false ∧ n.kind.isOpaque = false ∧
    (n.kind = .elementReference → n.childIndex? .object = some i) ∧
    (n.kind = .call → ∀ method ∈ (n.child? .method).bind (Node.text? source),
      c.AdmitsCall n method i)

instance (method : Text) : Decidable (c.AdmitsCall n method i) :=
  inferInstanceAs (Decidable (_ ∧ _))

instance : Decidable (c.Admits source n i) :=
  inferInstanceAs (Decidable (_ ∧ _ ∧ _ ∧ _))

/-- What is done at a call, and which children it admits. -/
theorem admitsCall_iff {method : Text} :
    c.AdmitsCall n method i ↔
      c.visitCall method (n.child? .receiver).isSome = .descend ∨
        ∃ part, c.visitCall method (n.child? .receiver).isSome = .only part ∧
          n.childIndex? part = some i := by
  rw [AdmitsCall, visitCall]
  by_cases hfunction : String.ofList method = c.function
  · simp [hfunction]
  by_cases hbracket : method.head? = some '['
  · simp [hfunction, hbracket]
  by_cases himport : c.isImport (String.ofList method) = true
  · cases hreceiver : (n.child? .receiver).isSome <;> simp [hfunction, hbracket, himport]
  · simp [hfunction, hbracket, himport]

/-- **The rules are those the walk goes by.** -/
theorem admits_iff :
    c.Admits source n i ↔
      c.visit source n = .descend ∨
        ∃ part, c.visit source n = .only part ∧ n.childIndex? part = some i := by
  rw [Admits, visit]
  cases hkind : n.kind <;> simp [Kind.isLiteral, Kind.isOpaque]
  cases (n.child? .method).bind (Node.text? source) with
  | none => simp
  | some method => simpa using admitsCall_iff

theorem visit_eq_wrap_iff (c : Convention) (source : Text) (n : Node) :
    c.visit source n = .wrap ↔ n.kind.isLiteral := by
  rw [visit]
  cases hkind : n.kind <;> simp [Kind.isLiteral]
  cases (n.child? .method).bind (Node.text? source) with
  | none => simp
  | some method =>
    simp only [visitCall]
    repeat' split
    all_goals simp

/-! ## Where the walk comes to -/

/-- **Every step on the way to an address is admitted**: at each node
above, the child that the way goes on through is one the node admits. -/
abbrev Enters (c : Convention) (source : Text) (root : Node) (addr : List Nat) : Prop :=
  root.Follows (c.Admits source) addr

end Convention

namespace Node

variable {c : Convention} {source : Text} {n root : Node} {addr : List Nat}

/-! ## What the walk finds -/

theorem literalsAll_eq (ns : List Node) :
    literalsAll c source ns = ns.flatMap (literals c source) := by
  induction ns with
  | nil => rfl
  | cons n ns ih => rw [literalsAll, ih, List.flatMap_cons]

theorem literalsIn_eq (part : Field) (ns : List Node) :
    literalsIn c source part ns =
      (ns.find? (·.field == some part)).elim [] (literals c source) := by
  induction ns with
  | nil => rfl
  | cons n ns ih =>
    rw [literalsIn]
    by_cases hn : n.field = some part
    · rw [if_pos hn, List.find?_cons_of_pos (by simpa using hn)]
      rfl
    · rw [if_neg hn, List.find?_cons_of_neg (by simpa using hn), ih]

/-- **One step of the walk.** -/
theorem literals_eq (n : Node) :
    n.literals c source =
      match c.visit source n with
      | .wrap => [n]
      | .skip => []
      | .only part => (n.child? part).elim [] (literals c source)
      | .descend => n.children.flatMap (literals c source) := by
  obtain ⟨k, f, s, fault, faulty, cs⟩ := n
  rw [literals]
  cases c.visit source (mk k f s fault faulty cs) with
  | wrap => rfl
  | skip => rfl
  | only part => exact literalsIn_eq part cs
  | descend => exact literalsAll_eq cs

/-- To go through the children and stop at the number of the first that
passes a test is to go to that child. -/
theorem flatMap_findIdx? (p : Node → Bool) (g : Node → List Node) (ns : List Node) (k : Nat) :
    ((ns.zipIdx k).flatMap fun o => if (ns.findIdx? p).map (· + k) = some o.2 then g o.1 else []) =
      (ns.find? p).elim [] g := by
  induction ns generalizing k with
  | nil => rfl
  | cons x ns ih =>
    rw [List.zipIdx_cons, List.flatMap_cons, List.findIdx?_cons]
    by_cases hx : p x
    · have hrest : ((ns.zipIdx (k + 1)).flatMap fun o =>
          if (some 0).map (· + k) = some o.2 then g o.1 else []) = [] := by
        rw [List.flatMap_eq_nil_iff]
        intro o ho
        have hle := List.le_snd_of_mem_zipIdx ho
        simp only [Option.map_some, Option.some.injEq]
        exact if_neg (by omega)
      simp only [hx, if_true, hrest, List.find?_cons_of_pos hx]
      simp
    · have hshift (o : Option Nat) : (o.map (· + 1)).map (· + k) = o.map (· + (k + 1)) := by
        cases o <;> simp [Nat.add_assoc, Nat.add_comm 1]
      have hhead : (ns.findIdx? p).map (· + (k + 1)) ≠ some k := by
        cases ns.findIdx? p with
        | none => simp
        | some j => simp only [Option.map_some, ne_eq, Option.some.injEq]; omega
      rw [List.find?_cons_of_neg hx, ← ih (k + 1)]
      simp [hx, hshift, hhead]

/-- What the walk finds below a node. -/
theorem flatMap_admits (n : Node) :
    (n.children.zipIdx.flatMap fun o =>
        if c.Admits source n o.2 then o.1.literals c source else []) =
      if n.kind.isLiteral then [] else n.literals c source := by
  have hwrap := c.visit_eq_wrap_iff source n
  rw [literals_eq]
  cases hvisit : c.visit source n with
  | wrap =>
    rw [if_pos (hwrap.1 hvisit), List.flatMap_eq_nil_iff]
    exact fun o _ => if_neg (by simp [Convention.admits_iff, hvisit])
  | skip =>
    rw [if_neg (by simp [← hwrap, hvisit]), List.flatMap_eq_nil_iff]
    exact fun o _ => if_neg (by simp [Convention.admits_iff, hvisit])
  | only part =>
    rw [if_neg (by simp [← hwrap, hvisit])]
    have hadmits (i : Nat) :
        c.Admits source n i ↔ (n.children.findIdx? (·.field == some part)).map (· + 0) = some i := by
      simp [Convention.admits_iff, hvisit, childIndex?]
    simp only [hadmits]
    exact flatMap_findIdx? _ _ n.children 0
  | descend =>
    rw [if_neg (by simp [← hwrap, hvisit])]
    have hadmits (i : Nat) : c.Admits source n i := by simp [Convention.admits_iff, hvisit]
    simp only [hadmits, if_true]
    rw [← List.flatMap_map, List.zipIdx_map_fst]

/-- The literals that the walk comes to, with their addresses. The walk is a
search for literals, and its rule is what a node admits. -/
def reached (c : Convention) (source : Text) (root : Node) : List (List Nat × Node) :=
  root.found (·.kind.isLiteral) (c.Admits source)

/-- **The walk finds the literals that it comes to**, in the order of the
text. -/
theorem literals_eq_map_reached (root : Node) :
    root.literals c source = (root.reached c source).map Prod.snd := by
  refine eq_map_found (fun n i hlit hadmits => ?_) (fun n => ?_) root
  · rw [hadmits.1] at hlit
    cases hlit
  · rw [flatMap_admits]
    by_cases hlit : n.kind.isLiteral
    · rw [if_pos hlit, literals_eq, (c.visit_eq_wrap_iff source n).2 hlit]
    · rw [if_neg hlit, if_neg hlit]

/-- **What is reached.** -/
theorem mem_reached : (addr, n) ∈ root.reached c source ↔
    root.at? addr = some n ∧ n.kind.isLiteral ∧ c.Enters source root addr :=
  mem_found

/-- **Below a literal that is reached the walk comes to nothing**, for a
literal admits no way down. -/
theorem eq_of_prefix_of_enters {w : List Nat × Node} (hw : w ∈ root.reached c source)
    (henters : c.Enters source root addr) (habove : w.1 <+: addr) : w.1 = addr := by
  obtain ⟨hat, hlit, -⟩ := mem_reached.1 hw
  refine Follows.eq_of_isPrefix henters hat (fun i hadmits => ?_) habove
  rw [hadmits.1] at hlit
  cases hlit

theorem reached_pairwise (c : Convention) (source : Text) (root : Node) :
    (root.reached c source).Pairwise (·.1 < ·.1) :=
  found_pairwise root

end Node

/-- **When a tree is marked, and to what.** -/
theorem Markup.ofTree_eq_ok_iff {c : Convention} {source : Text} {root : Node} {m : Markup} :
    Markup.ofTree c source root = .ok m ↔
      root.faulty = false ∧ (root.plan c source).apply source = .ok m.output ∧
        m.wrapped = (root.literals c source).length := by
  obtain ⟨output, wrapped⟩ := m
  rw [Markup.ofTree]
  cases root.faulty with
  | true => simp
  | false => cases (root.plan c source).apply source <;> simp [eq_comm]

namespace Node

/-- **The walk wraps exactly the literals that the rules describe.** They
are the literals such that every node above admits the way down to them,
each of them once and in the order of the text; the insertions are around
them, and their number is the one that is told. -/
theorem literals_exact (c : Convention) (source : Text) (root : Node) :
    ∃ found : List (List Nat × Node),
      root.literals c source = found.map Prod.snd ∧
      found.Pairwise (·.1 < ·.1) ∧
      (∀ addr n, (addr, n) ∈ found ↔
        root.at? addr = some n ∧ n.kind.isLiteral ∧
          ∀ above i below a, addr = above ++ i :: below → root.at? above = some a →
            c.Admits source a i) ∧
      root.plan c source = (found.flatMap fun o =>
        Edit.around o.2.span.start o.2.span.stop c.opening Convention.closing) ∧
      ∀ m, Markup.ofTree c source root = .ok m → m.wrapped = found.length := by
  refine ⟨root.reached c source, literals_eq_map_reached root, reached_pairwise c source root,
    fun addr n => mem_reached, ?_, fun m hm => ?_⟩
  · rw [plan, literals_eq_map_reached, List.flatMap_map]
  · rw [(Markup.ofTree_eq_ok_iff.1 hm).2.2, literals_eq_map_reached, List.length_map]

/-- The text of a call with two literals, one of them marked. -/
def sampleText : Text := "f(\"x\",_(\"y\"))".toList

/-- Its first literal. -/
def sampleLiteral : Node := mk .string none ⟨2, 5⟩ none false []

/-- Its tree. -/
def sampleCall : Node :=
  mk .call none ⟨0, 13⟩ none false [
    mk (.other "identifier") (some .method) ⟨0, 1⟩ none false [],
    mk (.other "argument_list") (some (.other "arguments")) ⟨1, 13⟩ none false [
      sampleLiteral,
      mk .call none ⟨6, 12⟩ none false [
        mk (.other "identifier") (some .method) ⟨6, 7⟩ none false [],
        mk (.other "argument_list") (some (.other "arguments")) ⟨7, 12⟩ none false [
          mk .string none ⟨8, 11⟩ none false []]]]]

/-- The first literal is found at its address, and no other is. -/
theorem literals_exact_sampleCall :
    ∃ found : List (List Nat × Node),
      sampleCall.literals .standard sampleText = found.map Prod.snd ∧
      ([1, 0], sampleLiteral) ∈ found ∧ found.length = 1 := by
  obtain ⟨found, hfound, -, hmem, -, hwrapped⟩ := literals_exact .standard sampleText sampleCall
  have hmark : Markup.ofTree .standard sampleText sampleCall =
      .ok ⟨"f(_(\"x\"),_(\"y\"))".toList, 1⟩ := by decide +kernel
  have henters : Convention.standard.Enters sampleText sampleCall [1, 0] := by decide +kernel
  exact ⟨found, hfound, (hmem _ _).2 ⟨rfl, rfl, henters⟩, (hwrapped _ hmark).symm⟩

end Node

end LiteralMark
