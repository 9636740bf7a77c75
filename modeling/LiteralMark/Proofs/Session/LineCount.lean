import LiteralMark.Proofs.Session.Lines
import LiteralMark.Proofs.Tree.Nested
/-!
# Marking a file — when the number of lines changes

A text that is marked as a whole is refused if the marked text has another
number of lines. The marker texts end no line, so one should think that the
number stays; but a line that is not ended counts too, and what is inserted
behind the last end of line is such a line. This is the one way in which
the number changes: the text ends in a line feed, and a literal that is
wrapped ends where the text does, with the line feed for its last character
(`length_lines_output`). Then there is one line more.
-/

namespace LiteralMark

variable {α : Type} {feed : α} {texts : List (List α)} {xs ys : List α}

/-! ## Counting lines -/

/-- There are as many lines as ends of lines, and one more if something
stands behind the last. -/
theorem AreLines.length_eq [DecidableEq α] {ls : List (List α)} (h : AreLines feed ls) :
    ls.length = ls.flatten.count feed + if ls.flatten.getLast?.all (· = feed) then 0 else 1 := by
  induction h with
  | nil => simp
  | @last body hbody hne =>
    have hlast : body.getLast hne ≠ feed := fun heq => hbody (heq ▸ List.getLast_mem hne)
    simp [List.count_eq_zero_of_not_mem hbody, List.getLast?_eq_some_getLast hne, hlast]
  | @cons body ls hbody _ ih =>
    have hcount : (body ++ [feed] ++ ls.flatten).count feed = ls.flatten.count feed + 1 := by
      simp [List.count_append, List.count_eq_zero_of_not_mem hbody]
    have hlast : (body ++ [feed] ++ ls.flatten).getLast?.all (· = feed) =
        ls.flatten.getLast?.all (· = feed) := by
      rw [List.getLast?_append]
      cases ls.flatten.getLast? <;> simp
    rw [List.length_cons, List.flatten_cons, hcount, hlast, ih]
    omega

theorem length_splitAfter [DecidableEq α] (feed : α) (xs : List α) :
    (splitAfter feed xs).length =
      xs.count feed + if xs.getLast?.all (· = feed) then 0 else 1 := by
  have hlines := (areLines_splitAfter feed xs).length_eq
  rwa [flatten_splitAfter] at hlines

/-- Insertions that end no line leave the ends of lines as they are. -/
theorem Inserts.count_eq [DecidableEq α] (h : Inserts texts xs ys)
    (hfeed : ∀ text ∈ texts, feed ∉ text) : ys.count feed = xs.count feed := by
  induction h with
  | nil => rfl
  | keep x _ ih => rw [List.count_cons, List.count_cons, ih]
  | insert htext _ ih =>
    rw [List.count_append, List.count_eq_zero_of_not_mem (hfeed _ htext), Nat.zero_add, ih]

/-- Behind the last range stands what closes it. -/
theorem getLast?_flatMap_wrapped {stretches : List Stretch} (h : stretches ≠ [])
    (opening : Text) (last : Char) :
    (stretches.flatMap (Stretch.wrapped opening [last])).getLast? = some last := by
  obtain ⟨front, s, rfl⟩ := (List.eq_nil_or_concat' stretches).resolve_left h
  simp [Stretch.wrapped, ← List.append_assoc]

namespace Markup

variable {c : Convention} {source : Text} {root : Node} {m : Markup}

/-- A literal that is wrapped has the end of the text for its last
character, and this ends a line. -/
def EndsInLiteral (c : Convention) (source : Text) (root : Node) : Prop :=
  source.getLast? = some '\n' ∧ ∃ n ∈ root.literals c source, n.span.stop = Utf8.size source

instance : Decidable (EndsInLiteral c source root) := inferInstanceAs (Decidable (_ ∧ _))

/-- **The number of lines of a marked text.** -/
theorem length_lines_output (hfeed : '\n' ∉ c.opening)
    (hspans : Span.Ascending source ((root.literals c source).map Node.span))
    (h : ofTree c source root = .ok m) :
    (Text.lines m.output).length =
      (Text.lines source).length + if EndsInLiteral c source root then 1 else 0 := by
  obtain ⟨hsound, -, -⟩ := ofTree_eq_ok_iff.1 h
  obtain ⟨stretches, tail, hcut⟩ := hspans.exists_cut
  have hends : EndsInLiteral c source root ↔
      source.getLast? = some '\n' ∧ stretches ≠ [] ∧ tail = [] := by
    rw [← hcut.exists_stop_eq_iff hspans.nonempty, Nat.zero_add]
    simp [EndsInLiteral]
  have hclosing : '\n' ∉ Convention.closing := by decide
  have hinserts : Inserts [c.opening, Convention.closing] source m.output :=
    Session.inserts_of_ofText (show ofText (fun _ => root) c source = .ok m from h)
  have hcount : m.output.count '\n' = source.count '\n' :=
    hinserts.count_eq (by simp [hfeed, hclosing])
  have hmark := ofTree_of_ascending hsound hspans hcut
  rw [h, Except.ok.injEq] at hmark
  have houtput : m.output =
      stretches.flatMap (Stretch.wrapped c.opening Convention.closing) ++ tail := by rw [hmark]
  have hsource := hcut.text_eq
  simp only [Text.lines, length_splitAfter, hcount, hends]
  by_cases htail : tail = []
  · by_cases hnone : stretches = []
    · -- nothing is wrapped, and the text is empty
      simp [houtput, hsource, hnone, htail]
    · -- the marked text ends in the closing text, which ends no line
      have hlast : m.output.getLast? = some ')' := by
        rw [houtput, htail, List.append_nil]
        exact getLast?_flatMap_wrapped hnone _ _
      have hne : source ≠ [] := by
        rintro rfl
        obtain ⟨s, hs, -⟩ := (hcut.exists_stop_eq_iff hspans.nonempty).2 ⟨hnone, htail⟩
        have hlt := hspans.nonempty s hs
        have hle := (hspans.stop_isBoundary s hs).le_size
        rw [Utf8.size_nil] at hle
        omega
      rw [hlast, List.getLast?_eq_some_getLast hne]
      by_cases hended : source.getLast hne = '\n' <;> simp [hended, hnone, htail]
  · -- both texts end as the tail does
    have hlast : m.output.getLast? = source.getLast? := by
      rw [houtput, hsource, List.getLast?_append, List.getLast?_append,
        List.getLast?_eq_some_getLast htail, Option.some_or, Option.some_or]
    simp [hlast, htail]

end Markup

namespace Session

/-- **When marking a text as a whole is refused for its number of lines.**
The text is read without a fault, and the literals that are wrapped ascend.
Then the number of lines changes exactly if the text ends in a line feed
that is the last character of such a literal; the marked text has then one
line more, and the failure tells both numbers. In all other cases the
numbers are equal, and the lines are paired. -/
theorem markTree_lineCount_iff (read : TreeReader) (path content : Bytes) (source : Text)
    (hdecode : Utf8.decode? content = some source) (hsound : (read source).faulty = false)
    (hspans : Span.Ascending source (((read source).literals .standard source).map Node.span)) :
    ((∃ before after,
        (markTree read .standard path content).1 = .error (.lineCount before after)) ↔
      source.getLast? = some '\n' ∧
        ∃ n ∈ (read source).literals .standard source, n.span.stop = Utf8.size source) ∧
    (∀ before after,
      (markTree read .standard path content).1 = .error (.lineCount before after) →
        before = (Text.lines source).length ∧ after = before + 1) ∧
    ∃ m, Markup.ofText read .standard source = .ok m ∧
      (¬ (source.getLast? = some '\n' ∧
          ∃ n ∈ (read source).literals .standard source, n.span.stop = Utf8.size source) →
        (Text.lines m.output).length = (Text.lines source).length ∧
          ∃ lines, (markTree read .standard path content).1 = .ok lines) := by
  obtain ⟨stretches, tail, hcut⟩ := hspans.exists_cut
  have hmark := Markup.ofTree_of_ascending hsound hspans hcut
  have hlength := Markup.length_lines_output (by decide) hspans hmark
  generalize (⟨_, _⟩ : Markup) = m at hmark hlength
  have htree : (markTree read .standard path content).1 = pairLines source m.output := by
    simp only [markTree, hdecode, Markup.ofText, hmark]
  rw [htree]
  by_cases hends : Markup.EndsInLiteral .standard source (read source)
  · rw [if_pos hends] at hlength
    have hpair : pairLines source m.output =
        .error (.lineCount (Text.lines source).length ((Text.lines source).length + 1)) := by
      rw [pairLines, hlength]
      exact if_neg (by omega)
    rw [hpair]
    refine ⟨⟨fun _ => hends, fun _ => ⟨_, _, rfl⟩⟩, fun before after heq => ?_,
      m, hmark, fun hnot => absurd hends hnot⟩
    cases heq
    exact ⟨rfl, rfl⟩
  · rw [if_neg hends, Nat.add_zero] at hlength
    obtain ⟨lines, hpair⟩ : ∃ lines, pairLines source m.output = .ok lines :=
      ⟨_, by rw [pairLines, hlength]; exact if_pos rfl⟩
    rw [hpair]
    refine ⟨⟨?_, fun h => absurd h hends⟩, ?_, m, hmark, fun _ => ⟨hlength, lines, rfl⟩⟩
    · rintro ⟨before, after, heq⟩
      cases heq
    · intro before after heq
      cases heq

/-- A literal that is opened and closed by the end of a line. -/
def feedText : Text := "%\na\n".toList

/-- A reader that finds it. -/
def feedReader : TreeReader := fun _ =>
  .mk (.other "program") none ⟨0, 4⟩ none false [.mk .string none ⟨0, 4⟩ none false []]

/-- The closing text behind the literal is a third line. -/
theorem markTree_lineCount_iff_feedText :
    Utf8.decode? (Utf8.encode feedText) = some feedText ∧
    (feedReader feedText).faulty = false ∧
    Span.Ascending feedText (((feedReader feedText).literals .standard feedText).map Node.span) ∧
    (markTree feedReader .standard (Utf8.ofString "f") (Utf8.encode feedText)).1 =
      .error (.lineCount 2 3) := by
  have hdecode : Utf8.decode? (Utf8.encode feedText) = some feedText := by decide +kernel
  have hspans : Span.Ascending feedText
      (((feedReader feedText).literals .standard feedText).map Node.span) := by decide +kernel
  have hends : feedText.getLast? = some '\n' ∧
      ∃ n ∈ (feedReader feedText).literals .standard feedText,
        n.span.stop = Utf8.size feedText := by decide +kernel
  obtain ⟨hiff, hnumbers, -⟩ := markTree_lineCount_iff feedReader (Utf8.ofString "f")
    (Utf8.encode feedText) feedText hdecode rfl hspans
  obtain ⟨before, after, hrefused⟩ := hiff.2 hends
  obtain ⟨hbefore, hafter⟩ := hnumbers before after hrefused
  have hlines : (Text.lines feedText).length = 2 := by decide
  exact ⟨hdecode, rfl, hspans, by rw [hrefused, hafter, hbefore, hlines]⟩

end Session

end LiteralMark
