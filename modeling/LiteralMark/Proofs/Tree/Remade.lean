import LiteralMark.Proofs.Tree.Remark
/-!
# Marking a marked tree

The tree of a marked text is the old tree with a marker call in the place
of each literal that was wrapped, and the literal in the arguments of the
call (`RemadeAs`). Everything that is not in such a place is the node that
it was: of its kind, in its part, with as many children. Only its text may
be another one, if a call has come into it. Nothing is said about where the
nodes lie, so the two trees belong to two texts.

In the new tree there is nothing to wrap (`literals_remade`). Marker calls
stop the walk, so whatever lies in a wrapped literal stays hidden. The
other half is that the walk does not find a way it did not have: how it
goes on from a node depends on the kind of the node, on the parts of its
children, which are what they were, and on the name of a method. A name
that has a call in it now is another name, but it had a literal in it that
the walk has come to, and then the walk had been free to go anywhere from
there (`visit_of_admits_method`).
-/

namespace LiteralMark

namespace Convention

variable {c : Convention} {source : Text} {n : Node} {i : Nat}

/-- No rule of the walk leads to the name of a method alone. -/
theorem visit_ne_only_method : c.visit source n ≠ .only .method := by
  rw [visit]
  cases n.kind <;> simp
  cases (n.child? .method).bind (Node.text? source) with
  | none => simp
  | some method =>
    simp only [visitCall]
    repeat' split
    all_goals simp

/-- **Where the walk may go to the name of a method, it may go anywhere.** -/
theorem visit_of_admits_method (h : c.Admits source n i) (hi : n.childIndex? .method = some i) :
    c.visit source n = .descend := by
  rcases admits_iff.1 h with hvisit | ⟨part, hvisit, hpart⟩
  · exact hvisit
  · -- a child plays one part only
    obtain ⟨_, hfield, -⟩ := List.findIdx?_eq_some_iff_getElem.1 hi
    obtain ⟨_, hfield', -⟩ := List.findIdx?_eq_some_iff_getElem.1 hpart
    rw [beq_iff_eq] at hfield hfield'
    rw [hfield, Option.some.injEq] at hfield'
    exact absurd (hfield' ▸ hvisit) visit_ne_only_method

end Convention

namespace Node

variable {c : Convention} {source output : Text} {n m x old new : Node} {addr : List Nat} {i : Nat}

/-! ## The tree of a marked text -/

/-- What a node is, apart from where it lies: its kind, the parts that its
children play, and its text. -/
structure Look where
  kind : Kind
  parts : List (Option Field)
  text : Option Text
deriving DecidableEq

/-- What a node of the tree of a text is. -/
def look (source : Text) (n : Node) : Look := ⟨n.kind, n.children.map field, n.text? source⟩

/-- Two trees, each over its text, that differ in nothing but where their
nodes lie. The parts that their roots play are left open. -/
def Copies (source output : Text) (n m : Node) : Prop :=
  n.occurrences.map (fun o => (o.1, o.2.look source)) =
    m.occurrences.map fun o => (o.1, o.2.look output)

instance : Decidable (n.Copies source output m) := inferInstanceAs (Decidable (_ = _))

instance : Decidable (n.IsMarkerCall c source) :=
  inferInstanceAs (Decidable (_ ∧ ∃ method ∈ (n.child? .method).bind (text? source),
    String.ofList method = c.function))

/-- A call that is made of a literal: it calls the marker function, plays
the part that the literal played, and has an argument list that holds the
literal with everything below it. -/
@[mk_iff] structure CallsOn (c : Convention) (source output : Text) (n call : Node) : Prop where
  isMarkerCall : call.IsMarkerCall c output
  field_eq : call.field = n.field
  holds : ∃ arguments ∈ call.children, ∃ m ∈ arguments.children, n.Copies source output m

instance : Decidable (n.CallsOn c source output m) :=
  decidable_of_iff _ (callsOn_iff c source output n m).symm

/-- **A tree is another one with a marker call in the place of each literal
that is wrapped.** A node at or below which no literal is wrapped keeps its
text. -/
@[mk_iff] structure RemadeAs (c : Convention) (source output : Text) (old new : Node) : Prop where
  wrapped : ∀ w ∈ old.reached c source, ∃ call ∈ new.at? w.1, w.2.CallsOn c source output call
  kept : ∀ o ∈ old.occurrences, (∀ w ∈ old.reached c source, ¬ w.1 <+: o.1) →
    ∃ m ∈ new.at? o.1, m.kind = o.2.kind ∧ m.field = o.2.field ∧
      m.children.length = o.2.children.length ∧
      ((∀ w ∈ old.reached c source, ¬ o.1 <+: w.1) → m.text? output = o.2.text? source)

instance : Decidable (old.RemadeAs c source output new) :=
  decidable_of_iff _ (remadeAs_iff c source output old new).symm

/-! ## What the walk finds in it -/

/-- A node that the walk comes to, and that is no literal, lies in none. -/
theorem not_prefix_of_enters (hn : old.at? addr = some n) (henters : c.Enters source old addr)
    (hlit : n.kind.isLiteral = false) : ∀ w ∈ old.reached c source, ¬ w.1 <+: addr := by
  intro w hw hbegins
  obtain ⟨ha, halit, -⟩ := mem_reached.1 hw
  rw [eq_of_prefix_of_enters hw henters hbegins] at ha
  cases ha.symm.trans hn
  rw [halit] at hlit
  cases hlit

theorem child?_eq_bind (n : Node) (part : Field) :
    n.child? part = (n.childIndex? part).bind (n.children[·]?) :=
  List.find?_eq_bind_findIdx?_getElem?

namespace RemadeAs

/-- A child of a node that is kept is made a call or kept itself, and plays
its part as before. -/
theorem child (h : old.RemadeAs c source output new)
    (hout : ∀ w ∈ old.reached c source, ¬ w.1 <+: addr) (hn : old.at? addr = some n)
    (hm : new.at? addr = some m) (hx : n.children[i]? = some x) :
    ∃ y, m.children[i]? = some y ∧ y.field = x.field ∧
      ((∀ w ∈ old.reached c source, ¬ addr ++ [i] <+: w.1) → y.text? output = x.text? source) := by
  have hat : old.at? (addr ++ [i]) = some x := at?_concat_eq_some_iff.2 ⟨n, hn, hx⟩
  have hfound {y : Node} (hy : y ∈ new.at? (addr ++ [i])) : m.children[i]? = some y := by
    obtain ⟨m', hm', hy⟩ := at?_concat_eq_some_iff.1 hy
    cases hm.symm.trans hm'
    exact hy
  by_cases hw : ∃ w ∈ old.reached c source, w.1 <+: addr ++ [i]
  · obtain ⟨⟨waddr, a⟩, hw, hbegins⟩ := hw
    rcases List.prefix_concat_iff.1 hbegins with heq | habove
    · dsimp only at heq
      subst heq
      obtain ⟨call, hcall, hcalls⟩ := h.wrapped _ hw
      cases (mem_reached.1 hw).1.symm.trans hat
      exact ⟨call, hfound hcall, hcalls.field_eq,
        fun hnone => absurd (List.prefix_refl _) (hnone _ hw)⟩
    · exact absurd habove (hout _ hw)
  · rw [not_exists] at hw
    obtain ⟨y, hy, -, hfield, -, htext⟩ := h.kept _ (mem_occurrences.2 hat)
      fun w hmem hbegins => hw w ⟨hmem, hbegins⟩
    exact ⟨y, hfound hy, hfield, htext⟩

/-- **A node that is kept is the same to the walk**, unless a call has come
into the name of a method. -/
theorem resembles (h : old.RemadeAs c source output new)
    (hout : ∀ w ∈ old.reached c source, ¬ w.1 <+: addr) (hn : old.at? addr = some n)
    (hm : new.at? addr = some m) (hkind : m.kind = n.kind)
    (hlength : m.children.length = n.children.length)
    (hmethod : ∀ i, n.childIndex? .method = some i →
      ∀ w ∈ old.reached c source, ¬ addr ++ [i] <+: w.1) :
    n.Resembles source output m := by
  have hfields : n.children.map field = m.children.map field := by
    refine List.ext_getElem (by simpa using hlength.symm) fun i hi _ => ?_
    rw [List.length_map] at hi
    obtain ⟨y, hy, hfield, -⟩ := h.child hout hn hm (List.getElem?_eq_getElem hi)
    obtain ⟨_, rfl⟩ := List.getElem?_eq_some_iff.1 hy
    rw [List.getElem_map, List.getElem_map, hfield]
  have hindex : n.childIndex? .method = m.childIndex? .method := childIndex?_congr hfields _
  refine ⟨hkind.symm, hfields, ?_⟩
  rw [child?_eq_bind, child?_eq_bind, ← hindex]
  cases hi : n.childIndex? .method with
  | none => rfl
  | some i =>
    obtain ⟨hlt, -⟩ := List.findIdx?_eq_some_iff_getElem.1 hi
    obtain ⟨y, hy, -, htext⟩ := h.child hout hn hm (List.getElem?_eq_getElem hlt)
    simp only [Option.bind_some, hy, List.getElem?_eq_getElem hlt, htext (hmethod i hi)]

/-- **In a tree with marker calls the walk finds no new way.** -/
theorem narrows (h : old.RemadeAs c source output new) : old.Narrows c source output new := by
  intro addr n hn henters
  by_cases hlit : n.kind.isLiteral
  · obtain ⟨call, hcall, hcalls⟩ := h.wrapped _ (mem_reached.2 ⟨hn, hlit, henters⟩)
    have hmarker := hcalls.isMarkerCall
    exact ⟨call, hcall, by rw [hmarker.1]; rfl, fun i hadmits => absurd hadmits hmarker.not_admits⟩
  rw [Bool.not_eq_true] at hlit
  have hout := not_prefix_of_enters hn henters hlit
  obtain ⟨m, hm, hkind, -, hlength, -⟩ := h.kept _ (mem_occurrences.2 hn) hout
  refine ⟨m, hm, by rw [hkind]; exact hlit, fun i hadmits => ⟨?_, hlength.symm⟩⟩
  by_cases hmethod : ∃ j, n.childIndex? .method = some j ∧
      ∃ w ∈ old.reached c source, addr ++ [j] <+: w.1
  · -- the walk has come to a literal in the name, so it went everywhere from here
    obtain ⟨j, hj, ⟨_, a⟩, hw, below, rfl⟩ := hmethod
    have hinto : c.Admits source n j :=
      (mem_reached.1 hw).2.2 addr j below n (List.append_assoc addr [j] below) hn
    exact Convention.admits_iff.2 (Or.inl (Convention.visit_of_admits_method hinto hj))
  · simp only [not_exists, not_and] at hmethod
    exact (h.resembles hout hn hm hkind hlength hmethod).admits_iff.2 hadmits

end RemadeAs

/-- **Marking a marked tree wraps nothing.** Let a tree be another one with
a marker call in the place of each literal that the walk wraps, in the same
part of its parent, and with the literal and everything below it in the
arguments of the call. Then the walk finds no literal in it; and if it has
no fault, marking gives its text back. It does not matter where the
literals lie that were wrapped: they may lie in the name of a method too. -/
theorem literals_remade (c : Convention) (source output : Text) (old new : Node)
    (h : old.RemadeAs c source output new) :
    new.literals c output = [] ∧
      (new.faulty = false → Markup.ofTree c output new = .ok ⟨output, 0⟩) := by
  have hnil := h.narrows.literals_eq_nil
  refine ⟨hnil, fun hsound => Markup.ofTree_eq_ok_iff.2 ⟨hsound, ?_, by rw [hnil]; rfl⟩⟩
  exact Markup.apply_plan_of_nil hnil

/-- A call on a literal that has another literal in it. -/
def nestedText : Text := "puts \"#\x7b\"y\"\x7d\"".toList

/-- Its tree. -/
def nestedCall : Node :=
  mk .call none ⟨0, 13⟩ none false [
    mk (.other "identifier") (some .method) ⟨0, 4⟩ none false [],
    mk (.other "argument_list") (some (.other "arguments")) ⟨5, 13⟩ none false [
      mk .string none ⟨5, 13⟩ none false [
        mk (.other "interpolation") none ⟨6, 12⟩ none false [
          mk .string none ⟨8, 11⟩ none false []]]]]

/-- The marked text. -/
def remadeText : Text := "puts _(\"#\x7b\"y\"\x7d\")".toList

/-- The tree of the marked text. -/
def remadeCall : Node :=
  mk .call none ⟨0, 16⟩ none false [
    mk (.other "identifier") (some .method) ⟨0, 4⟩ none false [],
    mk (.other "argument_list") (some (.other "arguments")) ⟨5, 16⟩ none false [
      mk .call none ⟨5, 16⟩ none false [
        mk (.other "identifier") (some .method) ⟨5, 6⟩ none false [],
        mk (.other "argument_list") (some (.other "arguments")) ⟨6, 16⟩ none false [
          mk .string none ⟨7, 15⟩ none false [
            mk (.other "interpolation") none ⟨8, 14⟩ none false [
              mk .string none ⟨10, 13⟩ none false []]]]]]]

/-- The outer literal is wrapped, and then neither is found any more. -/
theorem literals_remade_nestedCall :
    Markup.ofTree .standard nestedText nestedCall = .ok ⟨remadeText, 1⟩ ∧
    nestedCall.RemadeAs .standard nestedText remadeText remadeCall ∧
    remadeCall.literals .standard remadeText = [] ∧
    Markup.ofTree .standard remadeText remadeCall = .ok ⟨remadeText, 0⟩ := by
  have hremade : nestedCall.RemadeAs .standard nestedText remadeText remadeCall := by
    decide +kernel
  obtain ⟨hnil, hmark⟩ := literals_remade .standard nestedText remadeText nestedCall remadeCall hremade
  exact ⟨by decide +kernel, hremade, hnil, hmark rfl⟩

end Node

end LiteralMark
