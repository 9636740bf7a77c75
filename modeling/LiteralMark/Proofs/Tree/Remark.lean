import LiteralMark.Proofs.Tree.Walk
import Mathlib.Data.List.Induction
/-!
# Marking a marked text

A marked text should stay as it is when it is marked again. Whether it
does is decided by how the marked text is read: it must be read without a
fault, and every literal in it must lie where the walk does not come to
(`literals_eq_nil_iff`). This is so if the text is read as it was meant,
that is, to the old tree with a marker call in the place of each literal
that was wrapped (`RemarkedAs`): the walk goes down in such a tree only
where it went down in the old one, and meets no literal there (`Narrows`).
It is not so wherever a call of the marker function means something else
than a literal does, or nothing at all: the key of a pair is broken, and a
literal directly behind a word is taken for the argument of another
function.
-/

namespace LiteralMark

namespace Node

variable {c : Convention} {source output : Text} {n m old new root : Node} {i : Nat}

/-- **When there is nothing to wrap**: no literal is at an address that
the walk comes to. -/
theorem literals_eq_nil_iff : root.literals c source = [] ↔
    ∀ addr n, root.at? addr = some n → n.kind.isLiteral → ¬ c.Enters source root addr := by
  rw [literals_eq_map_reached, List.map_eq_nil_iff, List.eq_nil_iff_forall_not_mem]
  constructor
  · exact fun h addr n hn hlit henters => h (addr, n) (mem_reached.2 ⟨hn, hlit, henters⟩)
  · rintro h ⟨addr, n⟩ hmem
    obtain ⟨hn, hlit, henters⟩ := mem_reached.1 hmem
    exact h addr n hn hlit henters

/-! ## Reading a text as it was meant -/

/-- A call of the marker function. -/
def IsMarkerCall (c : Convention) (source : Text) (n : Node) : Prop :=
  n.kind = .call ∧ ∃ method, (n.child? .method).bind (text? source) = some method ∧
    String.ofList method = c.function

/-- Two nodes, each with its text, that are the same to the walk: of one
kind, with children in the same parts, and with the same method. -/
structure Resembles (source output : Text) (n m : Node) : Prop where
  kind_eq : n.kind = m.kind
  fields_eq : n.children.map field = m.children.map field
  method_eq : (n.child? .method).bind (text? source) = (m.child? .method).bind (text? output)

/-- A tree that is another tree with a marker call in the place of each
literal that the walk comes to. Of the other nodes that it comes to there
is one like it at the same address; nothing is said about the rest. -/
def RemarkedAs (c : Convention) (source output : Text) (old new : Node) : Prop :=
  ∀ addr n, old.at? addr = some n → c.Enters source old addr →
    ∃ m, new.at? addr = some m ∧
      if n.kind.isLiteral then m.IsMarkerCall c output else n.Resembles source output m

/-- The walk does not go below a marker call. -/
theorem IsMarkerCall.not_admits (h : n.IsMarkerCall c source) : ¬ c.Admits source n i := by
  obtain ⟨hkind, method, hmethod, hfunction⟩ := h
  rintro ⟨-, -, -, hcall⟩
  exact (hcall hkind method hmethod).1 hfunction

/-- The number of the child that plays a part depends on the parts only. -/
theorem childIndex?_congr (h : n.children.map field = m.children.map field) (part : Field) :
    n.childIndex? part = m.childIndex? part := by
  have hfind (x : Node) :
      x.childIndex? part = (x.children.map field).findIdx? (· == some part) := by
    rw [List.findIdx?_map]
    rfl
  rw [hfind, hfind, h]

namespace Resembles

theorem childIndex?_eq (h : n.Resembles source output m) (part : Field) :
    n.childIndex? part = m.childIndex? part :=
  childIndex?_congr h.fields_eq part

theorem isSome_child? (h : n.Resembles source output m) (part : Field) :
    (n.child? part).isSome = (m.child? part).isSome := by
  have hfind (x : Node) : (x.child? part).isSome = (x.childIndex? part).isSome := by
    rw [child?, childIndex?, List.findIdx?_isSome, Bool.eq_iff_iff, List.find?_isSome,
      List.any_eq_true]
  rw [hfind, hfind, h.childIndex?_eq]

/-- The walk goes on from both in the same way. -/
theorem admits_iff (h : n.Resembles source output m) :
    c.Admits source n i ↔ c.Admits output m i := by
  simp only [Convention.Admits, Convention.AdmitsCall, h.kind_eq, h.method_eq, h.childIndex?_eq,
    h.isSome_child?]

theorem length_children (h : n.Resembles source output m) :
    n.children.length = m.children.length := by
  simpa using congrArg List.length h.fields_eq

end Resembles

/-! ## Trees in which there is less to find -/

/-- A tree in which the walk goes down only where it goes down in another
tree, and meets no literal there. -/
def Narrows (c : Convention) (source output : Text) (old new : Node) : Prop :=
  ∀ addr n, old.at? addr = some n → c.Enters source old addr →
    ∃ m, new.at? addr = some m ∧ m.kind.isLiteral = false ∧
      ∀ i, c.Admits output m i →
        c.Admits source n i ∧ n.children.length = m.children.length

namespace Narrows

/-- Where the walk comes to in the one tree, it comes to in the other. -/
theorem enters (h : old.Narrows c source output new) {addr : List Nat} (hm : new.at? addr = some m)
    (henters : c.Enters output new addr) :
    ∃ n, old.at? addr = some n ∧ c.Enters source old addr := by
  induction addr using List.reverseRecOn generalizing m with
  | nil => exact ⟨old, rfl, follows_nil _ old⟩
  | append_singleton addr i ih =>
    -- the step that is admitted in the new tree is admitted in the old one
    obtain ⟨a, ha, hm⟩ := at?_concat_eq_some_iff.1 hm
    obtain ⟨henters, hadmits⟩ := (follows_concat_iff ha).1 henters
    obtain ⟨n, hn, hold⟩ := ih ha henters
    obtain ⟨a', ha', -, hsteps⟩ := h addr n hn hold
    cases ha.symm.trans ha'
    obtain ⟨hadmits, hlength⟩ := hsteps i hadmits
    obtain ⟨hlt, -⟩ := List.getElem?_eq_some_iff.1 hm
    rw [← hlength] at hlt
    exact ⟨_, at?_concat_eq_some_iff.2 ⟨n, hn, List.getElem?_eq_getElem hlt⟩,
      (follows_concat_iff hn).2 ⟨hold, hadmits⟩⟩

/-- **Nothing is left to wrap** in such a tree. -/
theorem literals_eq_nil (h : old.Narrows c source output new) : new.literals c output = [] := by
  rw [literals_eq_nil_iff]
  intro addr m hm hlit henters
  obtain ⟨n, hn, hold⟩ := h.enters hm henters
  obtain ⟨m', hm', hnot, -⟩ := h addr n hn hold
  cases hm.symm.trans hm'
  rw [hlit] at hnot
  cases hnot

end Narrows

/-- In a text that is read as it was meant, a marker call stops the walk,
and from any other node it goes on as it did in the old tree. -/
theorem RemarkedAs.narrows (h : old.RemarkedAs c source output new) :
    old.Narrows c source output new := by
  intro addr n hn henters
  obtain ⟨m, hm, hlike⟩ := h addr n hn henters
  by_cases hlit : n.kind.isLiteral
  · rw [if_pos hlit] at hlike
    exact ⟨m, hm, by rw [hlike.1]; rfl, fun i hadmits => absurd hadmits hlike.not_admits⟩
  · rw [if_neg hlit] at hlike
    rw [hlike.kind_eq, Bool.not_eq_true] at hlit
    exact ⟨m, hm, hlit, fun i hadmits => ⟨hlike.admits_iff.2 hadmits, hlike.length_children⟩⟩

theorem RemarkedAs.literals_eq_nil (h : old.RemarkedAs c source output new) :
    new.literals c output = [] :=
  h.narrows.literals_eq_nil

end Node

namespace Markup

variable {read : TreeReader} {c : Convention} {source : Text} {m : Markup}

/-- Without literals there is nothing to insert. -/
theorem apply_plan_of_nil {root : Node} (h : root.literals c source = []) :
    (root.plan c source).apply source = .ok source := by
  rw [Node.plan, h]
  rfl

/-- **When marking finds nothing to do**: the text is read without a
fault, and the walk finds no literal. -/
theorem ofText_eq_self_iff :
    ofText read c source = .ok ⟨source, 0⟩ ↔
      (read source).faulty = false ∧ (read source).literals c source = [] := by
  rw [ofText, ofTree_eq_ok_iff, eq_comm (a := 0), List.length_eq_zero_iff]
  exact and_congr_right fun _ => ⟨fun h => h.2, fun h => ⟨apply_plan_of_nil h, h⟩⟩

/-- A text in which nothing was wrapped is the text it was. -/
theorem output_eq_of_wrapped_eq_zero (h : ofText read c source = .ok m) (hzero : m.wrapped = 0) :
    m.output = source := by
  obtain ⟨-, happly, hwrapped⟩ := ofTree_eq_ok_iff.1 h
  rw [hzero, eq_comm, List.length_eq_zero_iff] at hwrapped
  rw [apply_plan_of_nil hwrapped, Except.ok.injEq] at happly
  exact happly.symm

/-- **When marking twice is marking once.** A marked text is marked to
itself exactly if it is read without a fault and each of its literals has
a node above it that does not admit the way down. It is so if nothing was
wrapped in the first place, and if the marked text is read as it was
meant. -/
theorem ofText_output_iff (read : TreeReader) (c : Convention) (source : Text) (m : Markup)
    (h : ofText read c source = .ok m) :
    (ofText read c m.output = .ok ⟨m.output, 0⟩ ↔
      (read m.output).faulty = false ∧
        ∀ addr n, (read m.output).at? addr = some n → n.kind.isLiteral →
          ∃ above i below a, addr = above ++ i :: below ∧ (read m.output).at? above = some a ∧
            ¬ c.Admits m.output a i) ∧
    (m.wrapped = 0 → ofText read c m.output = .ok ⟨m.output, 0⟩) ∧
    ((read m.output).faulty = false →
      (read source).RemarkedAs c source m.output (read m.output) →
      ofText read c m.output = .ok ⟨m.output, 0⟩) := by
  refine ⟨?_, fun hzero => ?_, fun hfaulty hremarked => ?_⟩
  · rw [ofText_eq_self_iff, Node.literals_eq_nil_iff]
    simp only [Node.Follows, not_forall, exists_prop]
  · obtain ⟨output, wrapped⟩ := m
    obtain rfl : output = source := output_eq_of_wrapped_eq_zero h hzero
    obtain rfl : wrapped = 0 := hzero
    exact h
  · exact ofText_eq_self_iff.2 ⟨hfaulty, hremarked.literals_eq_nil⟩

/-- A table with a literal for a key. -/
def keyText : Text := "\x7b\"a\":1\x7d".toList

/-- What it is marked to. -/
def markedKeyText : Text := "\x7b_(\"a\"):1\x7d".toList

/-- A reader that takes no call for a key. -/
def keyReader : TreeReader := fun text =>
  if text = keyText then
    .mk (.other "pair") none ⟨1, 6⟩ none false [
      .mk .string (some (.other "key")) ⟨1, 4⟩ none false [],
      .mk (.other "integer") (some (.other "value")) ⟨5, 6⟩ none false []]
  else .mk (.other "ERROR") none ⟨1, 9⟩ (some .unexpected) true []

/-- A lone literal. -/
def loneText : Text := "\"a\"".toList

/-- What it is marked to. -/
def markedLoneText : Text := "_(\"a\")".toList

/-- A reader of literals and marker calls. -/
def loneReader : TreeReader := fun text =>
  if text = loneText then .mk .string none ⟨0, 3⟩ none false []
  else .mk .call none ⟨0, 6⟩ none false [
    .mk (.other "identifier") (some .method) ⟨0, 1⟩ none false [],
    .mk .string none ⟨2, 5⟩ none false []]

/-- The marked lone literal is read as it was meant. -/
theorem remarkedAs_loneText :
    (loneReader loneText).RemarkedAs .standard loneText markedLoneText
      (loneReader markedLoneText) := by
  intro addr n hn _
  cases addr with
  | nil =>
    cases hn
    exact ⟨_, rfl, rfl, ['_'], by decide +kernel, by decide +kernel⟩
  | cons i addr =>
    obtain ⟨x, hx, -⟩ := Node.at?_cons_eq_some_iff.1 hn
    cases hx

/-- A table with a literal for a key is marked once and not again; a lone
literal that is read as a marker call stays as it is. -/
theorem ofText_output_iff_keyText :
    (ofText keyReader .standard keyText = .ok ⟨markedKeyText, 1⟩ ∧
      ofText keyReader .standard markedKeyText ≠ .ok ⟨markedKeyText, 0⟩) ∧
    ofText loneReader .standard loneText = .ok ⟨markedLoneText, 1⟩ ∧
      ofText loneReader .standard markedLoneText = .ok ⟨markedLoneText, 0⟩ := by
  have hkey : ofText keyReader .standard keyText = .ok ⟨markedKeyText, 1⟩ := by decide +kernel
  have hfaulty : (keyReader markedKeyText).faulty = true := by decide +kernel
  have hlone : ofText loneReader .standard loneText = .ok ⟨markedLoneText, 1⟩ := by
    decide +kernel
  refine ⟨⟨hkey, fun hagain => ?_⟩, hlone, ?_⟩
  · obtain ⟨hsound, -⟩ := (ofText_output_iff keyReader .standard keyText _ hkey).1.1 hagain
    exact Bool.false_ne_true (hsound.symm.trans hfaulty)
  · exact (ofText_output_iff loneReader .standard loneText _ hlone).2.2 rfl remarkedAs_loneText

end Markup

end LiteralMark
