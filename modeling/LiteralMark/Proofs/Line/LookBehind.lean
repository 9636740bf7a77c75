import LiteralMark.Proofs.Line.Scan
import LiteralMark.Proofs.Text.Utf8
/-!
# Marking a line — the rule of pairs

A scan looks for the opening text before it looks for a literal, and goes
on behind what it has found. The rule it follows can be said without a
scan: pair the quotes of the line from the left, look behind the first
quote of each pair, and write the marker call around the pair unless the
opening text stands there (`markPairs`). The two agree for every opening
text without a quote (`scan_eq_markPairs`).

A line is cut behind its first pair. What the scan makes of the cut
(`scan_cut`) and what the rule makes of it (`markPairs_cut`) are the same,
and both go on alike behind it: an opening text that stands behind the cut
cannot reach into the pair, which ends in a quote.
-/

namespace LiteralMark.Line

variable {c : Convention} {opening bs gap lit after s t : Bytes} {pairs pairs' : List (Nat × Nat)}
variable {n start : Nat}

/-! ## The rule -/

/-- Numbers two by two, the first with the second, the third with the
fourth. A last one without a partner is left out. -/
def pairUp : List Nat → List (Nat × Nat)
  | i :: j :: rest => (i, j) :: pairUp rest
  | _ => []

/-- Where the pairs of quotes of a line stand. -/
def quotePairs (line : Bytes) : List (Nat × Nat) := pairUp (line.idxsOf quote)

/-- The pairs whose first quote does not stand directly behind the opening
text. -/
def unmarkedPairs (c : Convention) (line : Bytes) : List (Nat × Nat) :=
  (quotePairs line).filter fun (i, _) => !c.openingBytes.isSuffixOf (line.take i)

/-- Bytes, counted from a number on, with the opening text in front of the
first and the closing text behind the second of each of some pairs. -/
def surround (c : Convention) (pairs : List (Nat × Nat)) (start : Nat) (bytes : Bytes) : Bytes :=
  (bytes.zipIdx start).flatMap fun (b, i) =>
    (if i ∈ pairs.map (·.1) then c.openingBytes else []) ++
      b :: (if i ∈ pairs.map (·.2) then Convention.closingBytes else [])

/-- The line with the marker call written around every unmarked pair of
quotes. -/
def markPairs (c : Convention) (line : Bytes) : Bytes := surround c (unmarkedPairs c line) 0 line

/-! ## Surrounding pairs -/

theorem surround_cons (c : Convention) (pairs : List (Nat × Nat)) (start : Nat) (b : UInt8)
    (bs : Bytes) :
    surround c pairs start (b :: bs) =
      (if start ∈ pairs.map (·.1) then c.openingBytes else []) ++
        b :: (if start ∈ pairs.map (·.2) then Convention.closingBytes else []) ++
        surround c pairs (start + 1) bs := by
  rw [surround, List.zipIdx_cons, List.flatMap_cons]
  rfl

theorem surround_append (c : Convention) (pairs : List (Nat × Nat)) (start : Nat) (s t : Bytes) :
    surround c pairs start (s ++ t) =
      surround c pairs start s ++ surround c pairs (start + s.length) t := by
  rw [surround, List.zipIdx_append, List.flatMap_append]
  rfl

/-- Only pairs that lie among the bytes count. -/
theorem surround_congr
    (h : ∀ i, start ≤ i → i < start + bs.length →
      (i ∈ pairs.map (·.1) ↔ i ∈ pairs'.map (·.1)) ∧
        (i ∈ pairs.map (·.2) ↔ i ∈ pairs'.map (·.2))) :
    surround c pairs start bs = surround c pairs' start bs := by
  refine List.flatMap_congr fun (b, i) hi => ?_
  obtain ⟨hle, hlt, -⟩ := List.mem_zipIdx hi
  obtain ⟨hfirst, hsecond⟩ := h i hle hlt
  simp only [hfirst, hsecond]

theorem surround_nil (c : Convention) (start : Nat) (bs : Bytes) : surround c [] start bs = bs := by
  induction bs generalizing start with
  | nil => rfl
  | cons b bs ih => simp [surround_cons, ih]

/-- No position of some pairs lies among bytes that are counted from a
number on. -/
def Outside (pairs : List (Nat × Nat)) (start : Nat) (bs : Bytes) : Prop :=
  ∀ i, i ∈ pairs.map (·.1) ∨ i ∈ pairs.map (·.2) → i < start ∨ start + bs.length ≤ i

/-- Such pairs can be left out behind others. -/
theorem surround_append_outside (pairs : List (Nat × Nat)) (h : Outside pairs' start bs) :
    surround c (pairs ++ pairs') start bs = surround c pairs start bs := by
  refine surround_congr fun i hle hlt => ?_
  have hnot := mt (h i) (by omega)
  rw [not_or] at hnot
  simp only [List.map_append, List.mem_append, hnot, or_false, and_self]

/-- And in front of others. -/
theorem surround_outside_append (h : Outside pairs start bs) :
    surround c (pairs ++ pairs') start bs = surround c pairs' start bs := by
  refine surround_congr fun i hle hlt => ?_
  have hnot := mt (h i) (by omega)
  rw [not_or] at hnot
  simp only [List.map_append, List.mem_append, hnot, false_or, and_self]

theorem surround_of_outside (h : Outside pairs start bs) : surround c pairs start bs = bs :=
  (surround_append_outside [] h).trans (surround_nil c start bs)

/-- Pairs that are all counted from another number. -/
def shift (n : Nat) (pairs : List (Nat × Nat)) : List (Nat × Nat) :=
  pairs.map fun (i, j) => (i + n, j + n)

theorem map_fst_shift (n : Nat) (pairs : List (Nat × Nat)) :
    (shift n pairs).map (·.1) = (pairs.map (·.1)).map (· + n) := by
  simp [shift]

theorem map_snd_shift (n : Nat) (pairs : List (Nat × Nat)) :
    (shift n pairs).map (·.2) = (pairs.map (·.2)).map (· + n) := by
  simp [shift]

/-- Shifted pairs lie behind the shift. -/
theorem outside_shift (h : start + bs.length ≤ n) : Outside (shift n pairs) start bs := by
  intro i hi
  simp only [map_fst_shift, map_snd_shift, List.mem_map] at hi
  rcases hi with ⟨j, -, rfl⟩ | ⟨j, -, rfl⟩
  · omega
  · omega

theorem surround_shift (c : Convention) (pairs : List (Nat × Nat)) (n start : Nat) (bs : Bytes) :
    surround c (shift n pairs) (start + n) bs = surround c pairs start bs := by
  have hinj : Function.Injective (· + n) := fun _ _ => Nat.add_right_cancel
  induction bs generalizing start with
  | nil => rfl
  | cons b bs ih =>
    have hnext := ih (start + 1)
    rw [Nat.add_right_comm] at hnext
    simp only [surround_cons, map_fst_shift, map_snd_shift, hnext, List.mem_map_of_injective hinj]

/-- A pair of quotes is surrounded as a whole. -/
theorem surround_literal (h : IsLiteral lit) (c : Convention) (start : Nat) :
    surround c [(start, start + lit.length - 1)] start lit =
      c.openingBytes ++ lit ++ Convention.closingBytes := by
  obtain ⟨body, -, rfl⟩ := h
  have hlast : start + (quote :: body ++ [quote]).length - 1 = start + 1 + body.length := by
    simp
    omega
  have hbody : surround c [(start, start + 1 + body.length)] (start + 1) body = body :=
    surround_of_outside fun i hi => by simp at hi; omega
  have hne : start ≠ start + 1 + body.length := by omega
  rw [hlast, List.cons_append, surround_cons, surround_append, hbody, surround_cons]
  simp [hne, Ne.symm hne, surround]

/-! ## Cutting a line behind its first pair -/

theorem pairUp_map_add (n : Nat) (l : List Nat) : pairUp (l.map (· + n)) = shift n (pairUp l) := by
  fun_induction pairUp l with
  | case1 i j rest ih => simp [pairUp, shift, ih]
  | case2 l h =>
    rcases l with _ | ⟨i, _ | ⟨j, rest⟩⟩
    · rfl
    · rfl
    · exact absurd rfl (h i j rest)

theorem idxsOf_of_notMem (h : quote ∉ bs) (start : Nat) : bs.idxsOf quote start = [] := by
  rw [List.idxsOf_eq_nil_iff]
  intro b hb
  simpa using fun heq : b = quote => h (heq ▸ hb)

/-- The quotes of a line: those of its first pair, and those behind it. -/
theorem quotePairs_cut (hgap : quote ∉ gap) (hlit : IsLiteral lit) (after : Bytes) :
    quotePairs (gap ++ lit ++ after) =
      (gap.length, gap.length + lit.length - 1) ::
        shift (gap.length + lit.length) (quotePairs after) := by
  obtain ⟨body, hbody, rfl⟩ := hlit
  have hlength : gap.length + (quote :: body ++ [quote]).length =
      gap.length + 1 + body.length + 1 := by
    simp
    omega
  rw [quotePairs, quotePairs, ← pairUp_map_add, ← List.idxsOf_start, hlength]
  simp [List.idxsOf_append, List.idxsOf_cons, idxsOf_of_notMem hgap, idxsOf_of_notMem hbody, pairUp]

/-- **Bytes without a quote do not reach across one.** -/
theorem suffix_append_quote_iff (hopening : quote ∉ opening) :
    opening <:+ s ++ quote :: t ↔ opening <:+ t := by
  constructor
  · intro h
    rcases List.suffix_or_suffix_of_suffix h (List.suffix_append s (quote :: t)) with h | h
    · rcases List.suffix_cons_iff.1 h with rfl | h
      · exact absurd List.mem_cons_self hopening
      · exact h
    · exact absurd (h.subset List.mem_cons_self) hopening
  · exact fun h => h.trans ((List.suffix_cons quote t).trans (List.suffix_append s _))

/-- So what stands behind a literal is looked at without it. -/
theorem isSuffixOf_append_literal (hopening : quote ∉ opening) (hlit : IsLiteral lit)
    (gap t : Bytes) : opening.isSuffixOf (gap ++ lit ++ t) = opening.isSuffixOf t := by
  obtain ⟨body, -, rfl⟩ := hlit
  have happ : gap ++ (quote :: body ++ [quote]) ++ t = gap ++ quote :: body ++ quote :: t := by simp
  rw [Bool.eq_iff_iff, List.isSuffixOf_iff_suffix, List.isSuffixOf_iff_suffix, happ,
    suffix_append_quote_iff hopening]

/-- The unmarked pairs of a line: the first, if it is one, and those
behind it. -/
theorem unmarkedPairs_cut (hopening : quote ∉ c.openingBytes) (hgap : quote ∉ gap)
    (hlit : IsLiteral lit) (after : Bytes) :
    unmarkedPairs c (gap ++ lit ++ after) =
      (if c.openingBytes <:+ gap then [] else [(gap.length, gap.length + lit.length - 1)]) ++
        shift (gap.length + lit.length) (unmarkedPairs c after) := by
  have hfirst : (gap ++ lit ++ after).take gap.length = gap := by simp
  have hrest (i : Nat) : (gap ++ lit ++ after).take (i + (gap.length + lit.length)) =
      gap ++ lit ++ after.take i := by
    rw [Nat.add_comm, ← List.length_append, List.take_length_add_append]
  rw [unmarkedPairs, quotePairs_cut hgap hlit, List.filter_cons]
  simp only [hfirst, shift, List.filter_map, Function.comp_def, hrest,
    isSuffixOf_append_literal hopening hlit, unmarkedPairs]
  by_cases hmarked : c.openingBytes <:+ gap
  · simp [hmarked]
  · simp [hmarked]

/-- **What the rule makes of a line, pair by pair.** The first pair has no
part in what is written behind it, nor have the others in what is written
around it. -/
theorem markPairs_cut (hopening : quote ∉ c.openingBytes) (hgap : quote ∉ gap)
    (hlit : IsLiteral lit) (after : Bytes) :
    markPairs c (gap ++ lit ++ after) =
      gap ++ (if c.openingBytes <:+ gap then lit
        else c.openingBytes ++ lit ++ Convention.closingBytes) ++ markPairs c after := by
  have hpos := hlit.length_pos
  have hafter : surround c (shift (gap.length + lit.length) (unmarkedPairs c after))
      (0 + (gap.length + lit.length)) after = markPairs c after := surround_shift c _ _ 0 after
  rw [markPairs, unmarkedPairs_cut hopening hgap hlit, surround_append, surround_append,
    Nat.zero_add gap.length, List.length_append]
  by_cases hmarked : c.openingBytes <:+ gap
  · rw [if_pos hmarked, if_pos hmarked, List.nil_append, hafter,
      surround_of_outside (outside_shift (by omega)),
      surround_of_outside (outside_shift (by omega))]
  · have houtside {start : Nat} {bs : Bytes}
        (h : start + bs.length ≤ gap.length ∨ gap.length + lit.length ≤ start) :
        Outside [(gap.length, gap.length + lit.length - 1)] start bs := by
      intro i hi
      simp only [List.map_cons, List.map_nil, List.mem_singleton] at hi
      omega
    rw [if_neg hmarked, if_neg hmarked, surround_outside_append (houtside (by simp)),
      surround_of_outside (outside_shift (by omega)),
      surround_append_outside _ (outside_shift (by simp)),
      surround_outside_append (houtside (by simp)), surround_literal hlit, hafter]

/-! ## The scan follows the rule -/

/-- In front of a literal the opening text is found only if the gap ends in
it: both have the first quote at the same distance. -/
theorem marked?_gap_literal (hopening : quote ∉ opening) (hgap : quote ∉ gap)
    (hlit : IsLiteral lit) (hnot : ¬ opening <:+ gap) (after : Bytes) :
    marked? opening (gap ++ lit ++ after) = none := by
  have hpass {bs rest : Bytes} (h : quote ∉ bs) :
      (bs ++ quote :: rest).takeWhile (· ≠ quote) = bs := by
    have hspan : (bs ++ quote :: rest).span (· ≠ quote) = (bs, quote :: rest) :=
      span_append_quote h
    rw [List.span_eq_takeWhile_dropWhile, Prod.mk.injEq] at hspan
    exact hspan.1
  cases hm : marked? opening (gap ++ lit ++ after) with
  | none => rfl
  | some r =>
    obtain ⟨body, -, rfl⟩ := hlit
    have hfirst := takeWhile_of_marked? hm
    rw [hpass hopening, List.append_assoc, List.append_assoc, List.cons_append,
      hpass hgap] at hfirst
    exact absurd (hfirst ▸ List.suffix_rfl) hnot

/-- **A literal without the opening text in front of it is wrapped.** -/
theorem scan_wrap (hopening : quote ∉ c.openingBytes) (hgap : quote ∉ gap) (hlit : IsLiteral lit)
    (hnot : ¬ c.openingBytes <:+ gap) :
    scan c (gap ++ lit ++ after) =
      gap ++ (c.openingBytes ++ lit ++ Convention.closingBytes) ++ scan c after := by
  have hnone := marked?_gap_literal hopening hgap hlit hnot after
  induction gap with
  | nil => exact scan_of_literal hnone (literal?_append hlit after)
  | cons b gap ih =>
    have hb : b ≠ quote := fun heq => hgap (heq ▸ List.mem_cons_self)
    have hgap' : quote ∉ gap := fun h => hgap (List.mem_cons_of_mem b h)
    have hnot' : ¬ c.openingBytes <:+ gap := fun h => hnot (h.trans (List.suffix_cons b gap))
    have hrest := ih hgap' hnot' (marked?_gap_literal hopening hgap' hlit hnot' after)
    simp only [List.cons_append] at hnone hrest ⊢
    rw [scan_of_none hnone (literal?_of_ne hb), hrest]

/-- **What the scan makes of a line, pair by pair.** -/
theorem scan_cut (hopening : quote ∉ c.openingBytes) (hgap : quote ∉ gap) (hlit : IsLiteral lit)
    (after : Bytes) :
    scan c (gap ++ lit ++ after) =
      gap ++ (if c.openingBytes <:+ gap then lit
        else c.openingBytes ++ lit ++ Convention.closingBytes) ++ scan c after := by
  split
  · rename_i hmarked
    obtain ⟨front, rfl⟩ := hmarked
    have hfront : quote ∉ front := fun h => hgap (List.mem_append_left _ h)
    have hkeep : scan c (front ++ (c.openingBytes ++ lit) ++ after) =
        front ++ (c.openingBytes ++ lit) ++ scan c after := scan_gap hfront hlit
    simpa only [List.append_assoc] using hkeep
  · rename_i hnot
    exact scan_wrap hopening hgap hlit hnot

/-- **Induction along the pairs of a line**: what holds where fewer than two
quotes are left, and of a line if it holds behind its first pair, holds of
every line. -/
theorem pair_induction {motive : Bytes → Prop} (few : ∀ bs, bs.count quote ≤ 1 → motive bs)
    (pair : ∀ gap lit after, quote ∉ gap → IsLiteral lit → motive after →
      motive (gap ++ lit ++ after)) (bs : Bytes) : motive bs := by
  induction hn : bs.length using Nat.strongRecOn generalizing bs with
  | _ n ih =>
    by_cases hcount : bs.count quote ≤ 1
    · exact few bs hcount
    · -- the gap ends at the first quote, and the pair at the next one
      have hmem : quote ∈ bs := List.count_pos_iff.1 (by omega)
      obtain ⟨gap, rest, rfl, hgap⟩ := List.eq_append_cons_of_mem hmem
      have hrest : quote ∈ rest := by
        rw [List.count_append, List.count_eq_zero.2 hgap, List.count_cons_self] at hcount
        exact List.count_pos_iff.1 (by omega)
      obtain ⟨lit, after, hlit, happ⟩ := exists_isLiteral_of_mem hrest
      have hlength := congrArg List.length happ
      have hpos := hlit.length_pos
      rw [happ, ← List.append_assoc]
      refine pair gap lit after hgap hlit (ih after.length ?_ after rfl)
      simp only [List.length_append, List.length_cons] at hn hlength
      omega

theorem markPairs_of_count (h : bs.count quote ≤ 1) : markPairs c bs = bs := by
  have hpairs : quotePairs bs = [] := by
    have hlength : (bs.idxsOf quote).length ≤ 1 := by rwa [List.length_idxsOf]
    rw [quotePairs]
    generalize bs.idxsOf quote = positions at hlength
    rcases positions with _ | ⟨i, _ | ⟨j, rest⟩⟩
    · rfl
    · rfl
    · simp at hlength
  rw [markPairs, unmarkedPairs, hpairs]
  exact surround_nil c 0 bs

/-- **The scan follows the rule of pairs**, if the opening text has no
quote. -/
theorem scan_eq_markPairs (hopening : quote ∉ c.openingBytes) (bs : Bytes) :
    scan c bs = markPairs c bs := by
  induction bs using pair_induction with
  | few bs hcount => rw [scan_of_count hcount, markPairs_of_count hcount]
  | pair gap lit after hgap hlit ih =>
    rw [scan_cut hopening hgap hlit, markPairs_cut hopening hgap hlit, ih]

theorem quote_notMem_openingBytes (h : '"' ∉ c.function.toList) : quote ∉ c.openingBytes := by
  refine Utf8.ascii_notMem_encode (by decide) fun ch hch heq => ?_
  obtain rfl : ch = '"' := Char.ext (UInt32.toNat_inj.1 heq)
  rcases List.mem_append.1 hch with hfunction | hparen
  · exact h hfunction
  · exact absurd hparen (by decide)

/-- **Marking looks behind every pair of quotes.** If the name of the marker
function has no quote and the line does not start with an import keyword,
then the marked line is the line with the opening text directly in front of
the first quote and the closing text directly behind the second quote of
every pair that does not stand directly behind the opening text, and with
nothing else changed. -/
theorem mark_eq_markPairs (c : Convention) (line : Bytes) (hquote : '"' ∉ c.function.toList)
    (himport : ∀ keyword ∈ c.keywords, ¬ Utf8.ofString keyword <+: line) :
    mark c line = markPairs c line := by
  have hnot : ¬ c.isImportLine line := by
    rw [Convention.isImportLine, List.any_eq_true]
    rintro ⟨keyword, hkeyword, hprefix⟩
    exact himport keyword hkeyword (List.isPrefixOf_iff_prefix.1 hprefix)
  rw [mark_eq, if_neg hnot]
  exact scan_eq_markPairs (quote_notMem_openingBytes hquote) line

/-- An opening text that overlaps itself, in front of the first of two pairs
that touch each other, and a last quote without a partner. -/
theorem mark_eq_markPairs_overlap :
    let c : Convention := ⟨"(", ["require"]⟩
    let line := Utf8.ofString "(((\"a\"\"b\"((\""
    '"' ∉ c.function.toList ∧ (∀ keyword ∈ c.keywords, ¬ Utf8.ofString keyword <+: line) ∧
      quotePairs line = [(3, 5), (6, 8)] ∧ unmarkedPairs c line = [(6, 8)] ∧
      mark c line = Utf8.ofString "(((\"a\"((\"b\")((\"" := by
  intro c line
  have hquote : '"' ∉ c.function.toList := by decide
  have himport : ∀ keyword ∈ c.keywords, ¬ Utf8.ofString keyword <+: line := by decide
  refine ⟨hquote, himport, by decide, by decide, ?_⟩
  rw [mark_eq_markPairs c line hquote himport]
  decide

end LiteralMark.Line
