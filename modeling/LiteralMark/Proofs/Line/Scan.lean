import LiteralMark.Line
import Mathlib.Data.List.TakeDrop
import Mathlib.Data.List.TakeWhile
/-!
# Marking a line — what one scan does

`markWithin` reads a line with a bound on the bytes left to read; the
bound is never the reason to stop, so `scan` hides it. What a scan finds
is decided by quotes. In front of a literal or a marked literal it only
passes bytes that are no quotes, and where fewer than two quotes are left
it finds nothing: `Scans` cuts every line into gaps, literals and an end,
and the other facts are read off it by induction. A scan keeps the bytes
of the line in order (`Scans.sublist`) and adds no bytes but those of the
marker call (`Scans.mem`). Behind it every literal is marked
(`Scans.isMarked`), and such a line a scan keeps (`IsMarked.scan_eq`): the
opening text that a first scan has inserted is found by the second at the
same place and no earlier, because the first quote behind a gap tells
where a marked literal starts (`marked?_gap`). So marking twice is marking
once (`mark_mark`), whatever the opening text is, quotes in it included.
No literal reaches into bytes without quotes at the end of a line, so
these pass through (`mark_append_tail`).
-/

namespace LiteralMark.Line

variable {c : Convention} {opening bs rest gap lit found after s : Bytes} {b : UInt8}

/-! ## Literals -/

/-- A literal: two quotes around bytes that are none. -/
def IsLiteral (lit : Bytes) : Prop := ∃ body, quote ∉ body ∧ lit = quote :: body ++ [quote]

theorem IsLiteral.length_pos (h : IsLiteral lit) : 0 < lit.length := by
  obtain ⟨body, -, rfl⟩ := h
  simp

/-- Bytes without a quote are passed to the end. -/
theorem span_of_notMem (h : quote ∉ bs) : bs.span (· ≠ quote) = (bs, []) := by
  have hall : ∀ b ∈ bs, decide (b ≠ quote) = true := fun b hb => by
    simpa using fun heq : b = quote => h (heq ▸ hb)
  rw [List.span_eq_takeWhile_dropWhile, List.takeWhile_eq_self_iff.2 hall,
    List.dropWhile_eq_nil_iff.2 hall]

/-- And bytes with a quote up to the first. -/
theorem span_append_quote (h : quote ∉ gap) :
    (gap ++ quote :: rest).span (· ≠ quote) = (gap, quote :: rest) := by
  have hall : ∀ b ∈ gap, decide (b ≠ quote) = true := fun b hb => by
    simpa using fun heq : b = quote => h (heq ▸ hb)
  rw [List.span_eq_takeWhile_dropWhile, List.takeWhile_append_of_pos hall,
    List.dropWhile_append_of_pos hall]
  simp

/-- Behind a lone quote there is no other. -/
theorem literal?_quote_eq_none (h : quote ∉ rest) : literal? (quote :: rest) = none := by
  simp only [literal?, if_true, span_of_notMem h]

theorem literal?_of_ne (h : b ≠ quote) : literal? (b :: rest) = none := by
  simp only [literal?, if_neg h]

/-- A literal at the head is found, whatever follows. -/
theorem literal?_append (h : IsLiteral lit) (after : Bytes) :
    literal? (lit ++ after) = some (lit, after) := by
  obtain ⟨body, hbody, rfl⟩ := h
  have happ : quote :: body ++ [quote] ++ after = quote :: (body ++ quote :: after) := by simp
  rw [happ]
  simp only [literal?, if_true, span_append_quote hbody]

/-- A quote with another one behind it starts a literal. -/
theorem exists_isLiteral_of_mem (h : quote ∈ rest) :
    ∃ lit after, IsLiteral lit ∧ quote :: rest = lit ++ after := by
  obtain ⟨body, after, rfl, hbody⟩ := List.eq_append_cons_of_mem h
  exact ⟨quote :: body ++ [quote], after, ⟨body, hbody, rfl⟩, by simp⟩

/-- **What stands at the head as a literal.** -/
theorem literal?_eq_some_iff :
    literal? bs = some (found, after) ↔ IsLiteral found ∧ bs = found ++ after := by
  refine ⟨fun h => ?_, fun ⟨hfound, hbs⟩ => hbs ▸ literal?_append hfound after⟩
  cases bs with
  | nil => cases h
  | cons b rest =>
    by_cases hb : b = quote
    · subst hb
      by_cases hrest : quote ∈ rest
      · obtain ⟨lit, rest, hlit, happ⟩ := exists_isLiteral_of_mem hrest
        rw [happ, literal?_append hlit] at h
        cases h
        exact ⟨hlit, happ⟩
      · rw [literal?_quote_eq_none hrest] at h
        cases h
    · rw [literal?_of_ne hb] at h
      cases h

/-- **What stands at the head as a marked literal.** -/
theorem marked?_eq_some_iff :
    marked? opening bs = some (found, after) ↔
      ∃ lit, IsLiteral lit ∧ found = opening ++ lit ∧ bs = found ++ after := by
  rw [marked?]
  constructor
  · intro h
    split at h
    · rename_i hprefix
      obtain ⟨tail, rfl⟩ := List.isPrefixOf_iff_prefix.1 hprefix
      rw [List.drop_left, Option.map_eq_some_iff] at h
      obtain ⟨⟨lit, rest⟩, hfound, heq⟩ := h
      cases heq
      obtain ⟨hlit, rfl⟩ := literal?_eq_some_iff.1 hfound
      exact ⟨lit, hlit, rfl, by simp⟩
    · cases h
  · rintro ⟨lit, hlit, rfl, rfl⟩
    have hprefix : opening.isPrefixOf (opening ++ lit ++ after) := by
      rw [List.isPrefixOf_iff_prefix, List.append_assoc]
      exact List.prefix_append _ _
    rw [if_pos hprefix, List.append_assoc, List.drop_left, literal?_append hlit, Option.map_some]

/-! ## The scan without its bound -/

/-- The bytes with every unmarked literal wrapped. -/
def scan (c : Convention) (bytes : Bytes) : Bytes := markWithin c bytes.length bytes

theorem mark_eq (c : Convention) (line : Bytes) :
    mark c line = if c.isImportLine line then line else scan c line := rfl

/-- What is found takes at least one byte. -/
theorem length_le_of_found (hfound : 0 < found.length) (h : b :: rest = found ++ after) :
    after.length ≤ rest.length := by
  have := congrArg List.length h
  simp only [List.length_cons, List.length_append] at this
  omega

theorem length_le_of_literal? (h : literal? (b :: rest) = some (found, after)) :
    after.length ≤ rest.length := by
  obtain ⟨hlit, happ⟩ := literal?_eq_some_iff.1 h
  exact length_le_of_found hlit.length_pos happ

theorem length_le_of_marked? (h : marked? opening (b :: rest) = some (found, after)) :
    after.length ≤ rest.length := by
  obtain ⟨lit, hlit, rfl, happ⟩ := marked?_eq_some_iff.1 h
  have := hlit.length_pos
  exact length_le_of_found (by rw [List.length_append]; omega) happ

/-- **A bound that is large enough does not matter.** -/
theorem markWithin_congr : ∀ (n m : Nat) (bs : Bytes), bs.length ≤ n → bs.length ≤ m →
    markWithin c n bs = markWithin c m bs := by
  intro n
  induction n with
  | zero =>
    intro m bs hn _
    obtain rfl := List.length_eq_zero_iff.1 (Nat.le_zero.1 hn)
    cases m <;> rfl
  | succ n ih =>
    intro m bs hn hm
    cases bs with
    | nil => cases m <;> rfl
    | cons b rest =>
      rw [List.length_cons] at hn hm
      obtain ⟨m, rfl⟩ : ∃ k, m = k + 1 := ⟨m - 1, by omega⟩
      rw [markWithin, markWithin]
      split
      · rename_i found after hmarked
        have := length_le_of_marked? hmarked
        rw [ih m after (by omega) (by omega)]
      · split
        · rename_i found after hlit
          have := length_le_of_literal? hlit
          rw [ih m after (by omega) (by omega)]
        · rw [ih m rest (by omega) (by omega)]

/-! The equations of the scan, one for each thing it can find. -/

theorem scan_of_marked (h : marked? c.openingBytes bs = some (found, after)) :
    scan c bs = found ++ scan c after := by
  cases bs with
  | nil =>
    obtain ⟨lit, hlit, rfl, happ⟩ := marked?_eq_some_iff.1 h
    have := congrArg List.length happ
    have := hlit.length_pos
    simp only [List.length_nil, List.length_append] at *
    omega
  | cons b rest =>
    have hle := length_le_of_marked? h
    rw [scan, List.length_cons, markWithin, h]
    simp only [markWithin_congr rest.length after.length after hle (Nat.le_refl _), scan]

theorem scan_of_literal (hm : marked? c.openingBytes bs = none)
    (h : literal? bs = some (found, after)) :
    scan c bs = c.openingBytes ++ found ++ Convention.closingBytes ++ scan c after := by
  cases bs with
  | nil => cases h
  | cons b rest =>
    have hle := length_le_of_literal? h
    rw [scan, List.length_cons, markWithin, hm, h]
    simp only [markWithin_congr rest.length after.length after hle (Nat.le_refl _), scan]

theorem scan_of_none (hm : marked? c.openingBytes (b :: rest) = none)
    (h : literal? (b :: rest) = none) : scan c (b :: rest) = b :: scan c rest := by
  rw [scan, List.length_cons, markWithin, hm, h]
  rfl

/-- **Induction along a scan**: what holds of the empty line and follows
from what comes behind the head, whatever the head is, holds of every
line. -/
theorem scan_induction (c : Convention) {motive : Bytes → Prop} (nil : motive [])
    (marked : ∀ bs found after, marked? c.openingBytes bs = some (found, after) →
      motive after → motive bs)
    (literal : ∀ bs found after, marked? c.openingBytes bs = none →
      literal? bs = some (found, after) → motive after → motive bs)
    (pass : ∀ b rest, marked? c.openingBytes (b :: rest) = none → literal? (b :: rest) = none →
      motive rest → motive (b :: rest)) (bs : Bytes) : motive bs := by
  induction hn : bs.length using Nat.strongRecOn generalizing bs with
  | _ n ih =>
    subst hn
    cases bs with
    | nil => exact nil
    | cons b rest =>
      have hlt {after : Bytes} (hle : after.length ≤ rest.length) : motive after :=
        ih after.length (Nat.lt_succ_of_le hle) after rfl
      cases hmarked : marked? c.openingBytes (b :: rest) with
      | some r => exact marked _ r.1 r.2 hmarked (hlt (length_le_of_marked? hmarked))
      | none =>
        cases hlit : literal? (b :: rest) with
        | some r => exact literal _ r.1 r.2 hmarked hlit (hlt (length_le_of_literal? hlit))
        | none => exact pass b rest hmarked hlit (hlt (Nat.le_refl _))

/-! ## What a scan passes and what it stops at -/

/-- The shape of a scan: gaps without quotes, each with a literal behind
it that is marked already or gets wrapped, and an end with at most one
quote. -/
inductive Scans (c : Convention) : Bytes → Bytes → Prop
  /-- Fewer than two quotes are left. -/
  | stop {bs : Bytes} : bs.count quote ≤ 1 → Scans c bs bs
  /-- The literal is marked already. -/
  | keep (gap : Bytes) {lit after out : Bytes} : quote ∉ gap → IsLiteral lit → Scans c after out →
      Scans c (gap ++ (c.openingBytes ++ lit) ++ after) (gap ++ (c.openingBytes ++ lit) ++ out)
  /-- The literal is wrapped. -/
  | wrap (gap : Bytes) {lit after out : Bytes} : quote ∉ gap → IsLiteral lit → Scans c after out →
      Scans c (gap ++ lit ++ after)
        (gap ++ (c.openingBytes ++ lit) ++ (Convention.closingBytes ++ out))

theorem IsLiteral.quote_mem (h : IsLiteral lit) : quote ∈ lit := by
  obtain ⟨body, -, rfl⟩ := h
  simp

/-- A byte in front of what is scanned belongs to the first gap, unless it
is a quote without a partner. -/
theorem Scans.cons {out : Bytes} (h : Scans c rest out) (hb : b = quote → quote ∉ rest) :
    Scans c (b :: rest) (b :: out) := by
  have hne (hrest : quote ∈ rest) : quote ≠ b := fun heq => hb heq.symm hrest
  cases h with
  | stop hcount =>
    refine .stop ?_
    by_cases hq : b = quote
    · rw [hq, List.count_cons_self, List.count_eq_zero.2 (hb hq)]
    · rwa [List.count_cons_of_ne hq]
  | keep gap hgap hlit h =>
    refine .keep (b :: gap) (List.not_mem_cons_of_ne_of_not_mem (hne ?_) hgap) hlit h
    simp [hlit.quote_mem]
  | wrap gap hgap hlit h =>
    refine .wrap (b :: gap) (List.not_mem_cons_of_ne_of_not_mem (hne ?_) hgap) hlit h
    simp [hlit.quote_mem]

/-- **Every scan has this shape.** -/
theorem scans_scan (c : Convention) (bs : Bytes) : Scans c bs (scan c bs) := by
  induction bs using scan_induction c with
  | nil => exact .stop (by simp)
  | marked bs found after hmarked ih =>
    rw [scan_of_marked hmarked]
    obtain ⟨lit, hlit, rfl, rfl⟩ := marked?_eq_some_iff.1 hmarked
    exact .keep [] (by simp) hlit ih
  | literal bs found after hmarked hlit ih =>
    rw [scan_of_literal hmarked hlit, List.append_assoc _ Convention.closingBytes]
    obtain ⟨hfound, rfl⟩ := literal?_eq_some_iff.1 hlit
    exact .wrap [] (by simp) hfound ih
  | pass b rest hmarked hlit ih =>
    rw [scan_of_none hmarked hlit]
    refine ih.cons fun hb hrest => ?_
    obtain ⟨lit, after, hfound, happ⟩ := exists_isLiteral_of_mem hrest
    rw [hb, literal?_eq_some_iff.2 ⟨hfound, happ⟩] at hlit
    cases hlit

/-! ## What a scan keeps -/

/-- **A scan drops no byte of the line** and keeps their order. -/
theorem Scans.sublist {out : Bytes} (h : Scans c bs out) : bs.Sublist out := by
  induction h with
  | stop _ => exact List.Sublist.refl _
  | keep gap _ _ _ ih => exact (List.Sublist.refl _).append ih
  | @wrap gap lit _ _ _ _ _ ih =>
    have hlit : (gap ++ lit).Sublist (gap ++ (c.openingBytes ++ lit)) :=
      (List.Sublist.refl gap).append (List.sublist_append_right _ lit)
    exact hlit.append (ih.trans (List.sublist_append_right _ _))

/-- **A scan adds no byte that is not one of the marker call.** -/
theorem Scans.mem {out : Bytes} (h : Scans c bs out) (hb : b ∈ out) :
    b ∈ bs ∨ b ∈ c.openingBytes ∨ b ∈ Convention.closingBytes := by
  induction h with
  | stop _ => exact Or.inl hb
  | keep gap _ _ _ ih =>
    simp only [List.mem_append] at hb ⊢
    rcases hb with hfound | hb
    · exact Or.inl (Or.inl hfound)
    · exact (ih hb).imp_left Or.inr
  | wrap gap _ _ _ ih =>
    simp only [List.mem_append] at hb ⊢
    rcases hb with (hgap | hopening | hlit) | hclosing | hb
    · exact Or.inl (Or.inl (Or.inl hgap))
    · exact Or.inr (Or.inl hopening)
    · exact Or.inl (Or.inl (Or.inr hlit))
    · exact Or.inr (Or.inr hclosing)
    · exact (ih hb).imp_left Or.inr

theorem IsLiteral.count_quote (h : IsLiteral lit) : lit.count quote = 2 := by
  obtain ⟨body, hbody, rfl⟩ := h
  simp [List.count_eq_zero.2 hbody]

/-- Where fewer than two quotes are left, a scan changes nothing. -/
theorem scan_of_count (h : bs.count quote ≤ 1) : scan c bs = bs := by
  have hscans := scans_scan c bs
  generalize scan c bs = out at hscans
  cases hscans with
  | stop _ => rfl
  | keep gap _ hlit _ =>
    simp only [List.count_append, hlit.count_quote] at h
    omega
  | wrap gap _ hlit _ =>
    simp only [List.count_append, hlit.count_quote] at h
    omega

/-- A literal does not reach into bytes without quotes. -/
theorem IsLiteral.append_eq_append (h : IsLiteral lit) (hs : quote ∉ s)
    (happ : bs ++ s = gap ++ lit ++ after) : ∃ t, bs = gap ++ lit ++ t ∧ after = t ++ s := by
  rcases List.append_eq_append_iff.1 happ with ⟨t, hbs, hsplit⟩ | ⟨t, hbs, hafter⟩
  · obtain ⟨body, -, rfl⟩ := h
    rcases List.eq_nil_or_concat t with rfl | ⟨front, last, rfl⟩
    · exact ⟨[], by simpa using hbs.symm, by simpa using hsplit.symm⟩
    · have hlast : last = quote := by
        have := congrArg List.getLast? hbs
        simpa only [List.concat_eq_append, ← List.append_assoc, List.getLast?_concat,
          Option.some.injEq] using this.symm
      exact absurd (by simp [hsplit, hlast]) hs
  · exact ⟨t, hbs, hafter⟩

/-- So such bytes at the end change nothing of what stands at the head. -/
theorem marked?_append (opening bs : Bytes) (hs : quote ∉ s) :
    marked? opening (bs ++ s) =
      (marked? opening bs).map fun (found, after) => (found, after ++ s) := by
  cases hm : marked? opening bs with
  | some r =>
    obtain ⟨lit, hlit, hfound, happ⟩ := marked?_eq_some_iff.1 hm
    exact marked?_eq_some_iff.2 ⟨lit, hlit, hfound, by rw [happ, List.append_assoc]⟩
  | none =>
    cases hms : marked? opening (bs ++ s) with
    | none => rfl
    | some r =>
      obtain ⟨lit, hlit, hfound, happ⟩ := marked?_eq_some_iff.1 hms
      rw [hfound] at happ
      obtain ⟨t, hbs, -⟩ := hlit.append_eq_append hs happ
      rw [marked?_eq_some_iff.2 ⟨lit, hlit, rfl, hbs⟩] at hm
      cases hm

/-- A literal is a marked literal with nothing in front. -/
theorem literal?_eq_marked? : literal? bs = marked? [] bs := by
  cases h : literal? bs <;> simp [marked?, h]

theorem literal?_append_of_notMem (bs : Bytes) (hs : quote ∉ s) :
    literal? (bs ++ s) = (literal? bs).map fun (found, after) => (found, after ++ s) := by
  rw [literal?_eq_marked?, literal?_eq_marked?, marked?_append [] bs hs]

/-- **Bytes without quotes at the end of a line pass through.** -/
theorem scan_append (c : Convention) (hs : quote ∉ s) (bs : Bytes) :
    scan c (bs ++ s) = scan c bs ++ s := by
  induction bs using scan_induction c with
  | nil => exact scan_of_count (by simp [List.count_eq_zero.2 hs])
  | marked bs found after hmarked ih =>
    have hmarked' := marked?_append c.openingBytes bs hs
    rw [hmarked] at hmarked'
    rw [scan_of_marked hmarked, scan_of_marked hmarked', ih, List.append_assoc]
  | literal bs found after hmarked hlit ih =>
    have hmarked' := marked?_append c.openingBytes bs hs
    have hlit' := literal?_append_of_notMem bs hs
    rw [hmarked] at hmarked'
    rw [hlit] at hlit'
    rw [scan_of_literal hmarked hlit, scan_of_literal hmarked' hlit', ih]
    simp only [List.append_assoc]
  | pass b rest hmarked hlit ih =>
    have hmarked' := marked?_append c.openingBytes (b :: rest) hs
    have hlit' := literal?_append_of_notMem (b :: rest) hs
    rw [hmarked, List.cons_append] at hmarked'
    rw [hlit, List.cons_append] at hlit'
    rw [scan_of_none hmarked hlit, List.cons_append, scan_of_none hmarked' hlit', ih,
      List.cons_append]

/-! ## Scanning twice -/

/-- **Where the first quote stands tells where a marked literal starts.**
In front of it there is as much as in front of the first quote of the
opening text, or of the literal if the opening text has none. -/
theorem takeWhile_of_marked? (h : marked? opening bs = some (found, after)) :
    bs.takeWhile (· ≠ quote) = (opening ++ [quote]).takeWhile (· ≠ quote) := by
  obtain ⟨lit, ⟨body, -, rfl⟩, rfl, rfl⟩ := marked?_eq_some_iff.1 h
  simp [List.takeWhile_append]

/-- So directly in front of a marked literal there is no other: as long as
no quote was passed, the first quote is too far away. -/
theorem marked?_gap (hgap : quote ∉ b :: gap)
    (h : marked? opening bs = some (found, after)) : marked? opening (b :: gap ++ bs) = none := by
  cases hm : marked? opening (b :: gap ++ bs) with
  | none => rfl
  | some r =>
    exfalso
    -- both would have the first quote at the same distance
    have hall : ∀ x ∈ b :: gap, decide (x ≠ quote) = true := fun x hx => by
      simpa using fun heq : x = quote => hgap (heq ▸ hx)
    have hfirst := takeWhile_of_marked? hm
    rw [List.takeWhile_append_of_pos hall, takeWhile_of_marked? h] at hfirst
    have := congrArg List.length hfirst
    rw [List.length_append, List.length_cons] at this
    omega

/-- A scan passes a gap and keeps the marked literal behind it. -/
theorem scan_gap (hgap : quote ∉ gap) (hlit : IsLiteral lit) :
    scan c (gap ++ (c.openingBytes ++ lit) ++ after) =
      gap ++ (c.openingBytes ++ lit) ++ scan c after := by
  have hmarked : marked? c.openingBytes (c.openingBytes ++ lit ++ after) =
      some (c.openingBytes ++ lit, after) := marked?_eq_some_iff.2 ⟨lit, hlit, rfl, rfl⟩
  induction gap with
  | nil => exact scan_of_marked hmarked
  | cons b gap ih =>
    have hb : b ≠ quote := fun heq => hgap (heq ▸ List.mem_cons_self)
    have hnone := marked?_gap hgap hmarked
    simp only [List.append_assoc, List.cons_append] at hnone ih ⊢
    rw [scan_of_none hnone (literal?_of_ne hb), ih fun h => hgap (List.mem_cons_of_mem b h)]

/-- Every literal is marked: there are gaps without quotes, each with a
marked literal behind it, and an end with at most one quote. -/
inductive IsMarked (c : Convention) : Bytes → Prop
  /-- Fewer than two quotes are left. -/
  | stop {bs : Bytes} : bs.count quote ≤ 1 → IsMarked c bs
  /-- The first literal is marked, and so are the others. -/
  | keep (gap : Bytes) {lit after : Bytes} : quote ∉ gap → IsLiteral lit → IsMarked c after →
      IsMarked c (gap ++ (c.openingBytes ++ lit) ++ after)

/-- A scan keeps what is marked. -/
theorem IsMarked.scan_eq (h : IsMarked c bs) : scan c bs = bs := by
  induction h with
  | stop hcount => exact scan_of_count hcount
  | keep gap hgap hlit _ ih => rw [scan_gap hgap hlit, ih]

/-- Bytes without quotes in front belong to the first gap. -/
theorem IsMarked.append_left (h : IsMarked c bs) (hgap : quote ∉ gap) : IsMarked c (gap ++ bs) := by
  cases h with
  | stop hcount =>
    refine .stop ?_
    rwa [List.count_append, List.count_eq_zero.2 hgap, Nat.zero_add]
  | keep gap' hgap' hlit h =>
    have hgaps : quote ∉ gap ++ gap' := by simp [hgap, hgap']
    simp only [← List.append_assoc gap]
    exact .keep (gap ++ gap') hgaps hlit h

/-- **What a scan gives is marked.** -/
theorem Scans.isMarked {out : Bytes} (h : Scans c bs out) : IsMarked c out := by
  induction h with
  | stop hcount => exact .stop hcount
  | keep gap hgap hlit _ ih => exact .keep gap hgap hlit ih
  | wrap gap hgap hlit _ ih =>
    -- the wrapped literal is now a marked one, and the closing text a gap
    have hclosing : quote ∉ Convention.closingBytes := by decide
    exact .keep gap hgap hlit (ih.append_left hclosing)

theorem scan_eq_self_iff : scan c bs = bs ↔ IsMarked c bs :=
  ⟨fun h => h ▸ (scans_scan c bs).isMarked, IsMarked.scan_eq⟩

/-! ## Marking twice -/

/-- **Which lines marking keeps**: the imports, and those whose literals are
all marked. -/
theorem mark_eq_self_iff : mark c bs = bs ↔ c.isImportLine bs ∨ IsMarked c bs := by
  rw [mark_eq]
  split
  · rename_i himport
    simp [himport]
  · rename_i himport
    simp [himport, scan_eq_self_iff]

/-- Marking gives such a line. Where it starts with an import keyword only
now, its literals are marked all the same. -/
theorem isImportLine_or_isMarked_mark (c : Convention) (line : Bytes) :
    c.isImportLine (mark c line) ∨ IsMarked c (mark c line) := by
  rw [mark_eq]
  split
  · rename_i himport
    exact Or.inl himport
  · exact Or.inr (scans_scan c line).isMarked

/-- **Marking a line twice is marking it once**, whatever the marker
function and the keywords are. The lines that stay as they are are the
imports and those whose literals are all marked, and no others. -/
theorem mark_mark (c : Convention) (line : Bytes) :
    mark c (mark c line) = mark c line ∧
      (mark c line = line ↔ c.isImportLine line ∨ IsMarked c line) :=
  ⟨mark_eq_self_iff.2 (isImportLine_or_isMarked_mark c line), mark_eq_self_iff⟩

/-- An opening text with a quote in it, which is found again where it was
inserted. -/
example :
    let c : Convention := ⟨"\"", []⟩
    mark c (Utf8.ofString "x \"a\"\"") = Utf8.ofString "x \"(\"a\")\"" ∧
      mark c (Utf8.ofString "x \"(\"a\")\"") = Utf8.ofString "x \"(\"a\")\"" := by decide

/-! ## What stands at the end of a line -/

/-- An import line stays one, whatever is appended to it. -/
theorem isImportLine_append (h : c.isImportLine bs) (s : Bytes) : c.isImportLine (bs ++ s) := by
  simp only [Convention.isImportLine, List.any_eq_true, List.isPrefixOf_iff_prefix] at h ⊢
  obtain ⟨keyword, hmem, hprefix⟩ := h
  exact ⟨keyword, hmem, hprefix.trans (List.prefix_append bs s)⟩

/-- **What is appended to a line without quotes passes through**, be it the
end of the line or a comment, and whatever the marker function is: if the
longer line is an import line exactly if the shorter one is, it is marked
as the shorter one and the rest is copied. A tail that completes an import
keyword is the one exception. The longer line is kept then, so the equation
still holds if the shorter one has nothing to mark, and fails if it has. -/
theorem mark_append_tail (c : Convention) (line s : Bytes) (hs : quote ∉ s) :
    (c.isImportLine (line ++ s) = c.isImportLine line →
      mark c (line ++ s) = mark c line ++ s) ∧
    (c.isImportLine (line ++ s) ≠ c.isImportLine line →
      (mark c (line ++ s) = mark c line ++ s ↔ IsMarked c line)) := by
  simp only [mark_eq]
  refine ⟨fun hsame => ?_, fun hdiffer => ?_⟩
  · rw [hsame]
    split
    · rfl
    · exact scan_append c hs line
  · -- the tail has made an import line of one that was none
    have hshort : ¬ c.isImportLine line := fun h => by
      rw [h, isImportLine_append h] at hdiffer
      exact hdiffer rfl
    have hlong : c.isImportLine (line ++ s) := by
      rw [Bool.not_eq_true] at hshort
      rwa [hshort, ne_eq, Bool.not_eq_false] at hdiffer
    rw [if_pos hlong, if_neg hshort, List.append_cancel_right_eq, eq_comm, scan_eq_self_iff]

/-- A convention whose marker function is a quote. -/
def quoteConvention : Convention := ⟨"\"", []⟩

/-- A convention with a literal in an import keyword. -/
def keyedConvention : Convention := ⟨"_", ["\"a\" b"]⟩

/-- The end of a line passes through behind a quote without a partner, with
a quote for the marker function too; a keyword that only the tail completes
keeps a literal from being wrapped. -/
theorem mark_append_tail_lineEnd :
    (quote ∉ ([13, 10] : Bytes) ∧
      mark quoteConvention (Utf8.ofString "x \"a\" \"b" ++ [13, 10]) =
        Utf8.ofString "x \"(\"a\") \"b" ++ [13, 10]) ∧
    quote ∉ Utf8.ofString " b" ∧
      mark keyedConvention (Utf8.ofString "\"a\"" ++ Utf8.ofString " b") ≠
        mark keyedConvention (Utf8.ofString "\"a\"") ++ Utf8.ofString " b" := by
  have hend : quote ∉ ([13, 10] : Bytes) := by decide
  have htail : quote ∉ Utf8.ofString " b" := by decide
  have hmark : mark quoteConvention (Utf8.ofString "x \"a\" \"b") =
      Utf8.ofString "x \"(\"a\") \"b" := by decide
  have hpasses := (mark_append_tail quoteConvention (Utf8.ofString "x \"a\" \"b") [13, 10] hend).1
    (by decide)
  have hkept := (mark_append_tail keyedConvention (Utf8.ofString "\"a\"") (Utf8.ofString " b")
    htail).2 (by decide)
  refine ⟨⟨hend, by rw [hpasses, hmark]⟩, htail, fun heq => ?_⟩
  have hmarked := scan_eq_self_iff.2 (hkept.1 heq)
  exact absurd hmarked (by decide)

end LiteralMark.Line
