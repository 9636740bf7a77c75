import LiteralMark.Proofs.Text.Utf8
import LiteralMark.Report
import Mathlib.Data.List.TakeDrop
import Mathlib.Data.List.TakeWhile
/-!
# The report — reading it back

A report is a number, a colon, a blank and a line, and then one more line
feed. The lines can hold digits, colons and blanks, and the last one may
have no end, so the report is read with care: it is split at line feeds;
a line of the report with an empty one behind it stands for a line that
has its end, and only the last can do without the empty one. `decode?`
reads in this way, and `decode?_render` says that it gives the reports
back whenever their contents are lines: each with its line feed, but for
the last.
-/

namespace LiteralMark

namespace LineReport

variable {reports : List LineReport} {cs : Text}

/-! ## Reading -/

/-- The character of a byte. -/
def charOf (b : UInt8) : Char := Char.ofNat b.toNat

/-- Reads the number and the content of one report. -/
def ofBytes? (bytes : Bytes) : Option LineReport :=
  match bytes.span fun b => (charOf b).isDigit with
  | (digits, 58 :: 32 :: content) => some ⟨Nat.ofDigitChars 10 (digits.map charOf) 0, content⟩
  | _ => none

/-- Reads the lines of a report. -/
def ofLines? : List Bytes → Option (List LineReport)
  | [] => some []
  | [line] => (ofBytes? line.dropLast).map ([·])
  | line :: blank :: more =>
    if blank = [Bytes.lineFeed] then do return (← ofBytes? line) :: (← ofLines? more) else none

/-- Reads a report. -/
def decode? (bytes : Bytes) : Option (List LineReport) := ofLines? (Bytes.lines bytes)

/-! ## Numbers -/

theorem encode_digit {c : Char} (h : c.isDigit) :
    String.utf8EncodeChar c = [UInt8.ofNat c.toNat] ∧ charOf (UInt8.ofNat c.toNat) = c := by
  have hbounds : 48 ≤ c.toNat ∧ c.toNat ≤ 57 := by
    simpa [Char.isDigit, UInt32.le_iff_toNat_le] using h
  refine ⟨?_, ?_⟩
  · have hle : c.val.toNat ≤ 127 := by
      have : c.val.toNat = c.toNat := rfl
      omega
    rw [String.utf8EncodeChar, if_pos hle]
    rfl
  · have hmod : c.toNat % 2 ^ 8 = c.toNat := by omega
    rw [charOf, UInt8.toNat_ofNat', hmod, Char.ofNat_toNat]

/-- Digits are read as they are written. -/
theorem map_charOf_encode (h : ∀ c ∈ cs, c.isDigit) : (Utf8.encode cs).map charOf = cs := by
  induction cs with
  | nil => rfl
  | cons c cs ih =>
    obtain ⟨hc, hcs⟩ := List.forall_mem_cons.1 h
    obtain ⟨hencode, hchar⟩ := encode_digit hc
    rw [Utf8.encode_cons, hencode, List.map_append, ih hcs, List.map_singleton, hchar,
      List.singleton_append]

/-- What stands in front of the content of a report. -/
def header (n : Nat) : Bytes := Utf8.encode (Nat.toDigits 10 n) ++ [58, 32]

theorem render_eq (r : LineReport) :
    r.render = header r.number ++ r.content ++ [Bytes.lineFeed] := by
  have hcolon : Utf8.encode ": ".toList = [58, 32] := by decide
  have htext : (s!"{r.number}: ").toList = Nat.toDigits 10 r.number ++ ": ".toList := by
    simp [toString]
  rw [render, Utf8.ofString, htext, Utf8.encode_append, hcolon, header]

theorem isDigit_of_mem_header {n : Nat} {b : UInt8}
    (h : b ∈ Utf8.encode (Nat.toDigits 10 n)) : (charOf b).isDigit := by
  have hdigits : ∀ c ∈ Nat.toDigits 10 n, c.isDigit := fun c hc =>
    Nat.isDigit_of_mem_toDigits (by omega) (by omega) hc
  have hmem : charOf b ∈ (Utf8.encode (Nat.toDigits 10 n)).map charOf := List.mem_map_of_mem h
  rw [map_charOf_encode hdigits] at hmem
  exact hdigits _ hmem

theorem lineFeed_notMem_header (n : Nat) : Bytes.lineFeed ∉ header n := by
  have hfeed : ¬ (charOf Bytes.lineFeed).isDigit := by decide
  have hcolon : Bytes.lineFeed ∉ ([58, 32] : Bytes) := by decide
  rw [header, List.mem_append, not_or]
  exact ⟨fun h => hfeed (isDigit_of_mem_header h), hcolon⟩

/-- **One report is read back**, whatever its content is: the number ends
at the colon. -/
theorem ofBytes?_header (n : Nat) (content : Bytes) :
    ofBytes? (header n ++ content) = some ⟨n, content⟩ := by
  have hdigits : ∀ b ∈ Utf8.encode (Nat.toDigits 10 n), (charOf b).isDigit = true :=
    fun _ => isDigit_of_mem_header
  have hcolon : (charOf 58).isDigit = false := by decide
  have hspan : (header n ++ content).span (fun b => (charOf b).isDigit) =
      (Utf8.encode (Nat.toDigits 10 n), 58 :: 32 :: content) := by
    rw [header, List.append_assoc, List.span_eq_takeWhile_dropWhile,
      List.takeWhile_append_of_pos hdigits, List.dropWhile_append_of_pos hdigits]
    simp [hcolon]
  have hchars : (Utf8.encode (Nat.toDigits 10 n)).map charOf = Nat.toDigits 10 n :=
    map_charOf_encode fun c hc => Nat.isDigit_of_mem_toDigits (by omega) (by omega) hc
  simp only [ofBytes?, hspan, hchars, Nat.ofDigitChars_ten_toDigits]

/-! ## Whole reports -/

/-- **Reports on lines are read back.** -/
theorem decode?_render (h : AreLines Bytes.lineFeed (reports.map (·.content))) :
    decode? (reports.flatMap render) = some reports := by
  rw [decode?, Bytes.lines]
  generalize hcontents : reports.map (·.content) = contents at h
  induction h generalizing reports with
  | nil =>
    rw [List.map_eq_nil_iff] at hcontents
    subst hcontents
    rfl
  | @last body hbody _ =>
    -- the last report, with one line feed behind it
    obtain ⟨r, rest, rfl, rfl, hrest⟩ := List.map_eq_cons_iff.1 hcontents
    obtain rfl := List.map_eq_nil_iff.1 hrest
    have hline : Bytes.lineFeed ∉ header r.number ++ r.content := by
      simp [lineFeed_notMem_header, hbody]
    rw [List.flatMap_cons, List.flatMap_nil, List.append_nil, render_eq,
      splitAfter_append_cons hline, splitAfter, ofLines?, List.dropLast_concat, ofBytes?_header]
    rfl
  | @cons body contents hbody _ ih =>
    obtain ⟨r, rest, rfl, hcontent, hrest⟩ := List.map_eq_cons_iff.1 hcontents
    have hline : Bytes.lineFeed ∉ header r.number ++ body := by
      simp [lineFeed_notMem_header, hbody]
    have hrender : r.render ++ rest.flatMap render = header r.number ++ body ++
        Bytes.lineFeed :: Bytes.lineFeed :: rest.flatMap render := by
      rw [render_eq, hcontent]
      simp
    have hread : ofBytes? (header r.number ++ body ++ [Bytes.lineFeed]) = some r := by
      rw [List.append_assoc, ← hcontent, ofBytes?_header]
    rw [List.flatMap_cons, hrender, splitAfter_append_cons hline, splitAfter, if_pos rfl, ofLines?,
      if_pos rfl, hread, ih hrest]
    rfl

end LineReport

end LiteralMark
