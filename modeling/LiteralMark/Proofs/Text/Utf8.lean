import LiteralMark.Proofs.Text.Lines
import LiteralMark.Text.Utf8
/-!
# UTF-8 — reading back what was read

A content that is read as a text is the encoding of that text
(`encode_of_decode?`), so whoever changes the text changes the content in
the same places. The line feed is one byte and occurs in the encoding of
no other character; hence the lines of an encoded text are the encoded
lines of the text (`lines_encode`), and it is no matter whether a content
is split before it is read or after.
-/

namespace LiteralMark

namespace Utf8

variable {a b c d : UInt8} {l : Lead} {bs rest : Bytes} {cs : Text} {ch : Char} {n v : Nat}

@[simp] theorem encode_nil : encode [] = [] := rfl

@[simp] theorem encode_cons (ch : Char) (cs : Text) :
    encode (ch :: cs) = String.utf8EncodeChar ch ++ encode cs := rfl

@[simp] theorem encode_append (cs cs' : Text) : encode (cs ++ cs') = encode cs ++ encode cs' :=
  List.flatMap_append

theorem encode_flatten (ls : List Text) : encode ls.flatten = (ls.map encode).flatten := by
  induction ls with
  | nil => rfl
  | cons line ls ih => rw [List.flatten_cons, encode_append, ih, List.map_cons, List.flatten_cons]

@[simp] theorem encode_eq_nil_iff : encode cs = [] ↔ cs = [] := by
  cases cs with
  | nil => simp
  | cons ch cs => simp [String.utf8EncodeChar_ne_nil]

/-! ## One character -/

/-- What a leading byte says, in numbers: it lies in the range that its
number of followers goes with, and the bounds for the first follower keep
the character out of the ranges that are encoded otherwise or not at
all. -/
theorem lead?_bounds (h : lead? a = some l) :
    (l.follow = 0 ∧ a.toNat < 128) ∨
    (l.follow = 1 ∧ 194 ≤ a.toNat ∧ a.toNat < 224 ∧ 128 ≤ l.low.toNat ∧ l.high.toNat ≤ 191) ∨
    (l.follow = 2 ∧ 224 ≤ a.toNat ∧ a.toNat < 240 ∧ 128 ≤ l.low.toNat ∧ l.high.toNat ≤ 191 ∧
      (a.toNat = 224 → 160 ≤ l.low.toNat) ∧ (a.toNat = 237 → l.high.toNat ≤ 159)) ∨
    (l.follow = 3 ∧ 240 ≤ a.toNat ∧ a.toNat ≤ 244 ∧ 128 ≤ l.low.toNat ∧ l.high.toNat ≤ 191 ∧
      (a.toNat = 240 → 144 ≤ l.low.toNat) ∧ (a.toNat = 244 → l.high.toNat ≤ 143)) := by
  simp only [lead?, UInt8.lt_iff_toNat_lt, ← UInt8.toNat_inj, UInt8.reduceToNat] at h
  repeat' split at h
  all_goals cases h
  all_goals simp only [UInt8.reduceToNat, true_and]
  all_goals omega

/-- The number of a character that is one. -/
theorem val_ofNat (hv : v < 0xD800 ∨ 0xDFFF < v ∧ v < 0x110000) :
    (Char.ofNat v).val.toNat = v := by
  have hvalid : v.isValidChar := hv
  have hchar : Char.ofNat v = Char.ofNatAux v hvalid := dif_pos hvalid
  rw [hchar]
  rfl

/-- A byte is told by its number. -/
theorem ofNat_eq (h : n = a.toNat) : UInt8.ofNat n = a := by
  rw [h, UInt8.ofNat_toNat]

theorem encode_one (ha : a.toNat < 128) :
    String.utf8EncodeChar (Char.ofNat a.toNat) = [a] := by
  rw [String.utf8EncodeChar, val_ofNat (by omega)]
  simp only [if_pos (by omega : a.toNat ≤ 127), ofNat_eq rfl]

theorem encode_two (ha : 194 ≤ a.toNat ∧ a.toNat < 224) (hb : 128 ≤ b.toNat ∧ b.toNat ≤ 191) :
    String.utf8EncodeChar (Char.ofNat (a.toNat % 32 * 64 + low6 b)) = [a, b] := by
  unfold low6
  generalize hv : a.toNat % 32 * 64 + b.toNat % 64 = v
  rw [String.utf8EncodeChar, val_ofNat (by omega)]
  simp only [if_neg (by omega : ¬ v ≤ 127), if_pos (by omega : v ≤ 2047)]
  rw [ofNat_eq (a := a) (by omega), ofNat_eq (a := b) (by omega)]

theorem encode_three (ha : 224 ≤ a.toNat ∧ a.toNat < 240) (hb : 128 ≤ b.toNat ∧ b.toNat ≤ 191)
    (hlow : a.toNat = 224 → 160 ≤ b.toNat) (hhigh : a.toNat = 237 → b.toNat ≤ 159)
    (hc : 128 ≤ c.toNat ∧ c.toNat ≤ 191) :
    String.utf8EncodeChar (Char.ofNat (a.toNat % 16 * 4096 + low6 b * 64 + low6 c)) =
      [a, b, c] := by
  unfold low6
  generalize hv : a.toNat % 16 * 4096 + b.toNat % 64 * 64 + c.toNat % 64 = v
  rw [String.utf8EncodeChar, val_ofNat (by omega)]
  simp only [if_neg (by omega : ¬ v ≤ 127), if_neg (by omega : ¬ v ≤ 2047),
    if_pos (by omega : v ≤ 65535)]
  rw [ofNat_eq (a := a) (by omega), ofNat_eq (a := b) (by omega), ofNat_eq (a := c) (by omega)]

theorem encode_four (ha : 240 ≤ a.toNat ∧ a.toNat ≤ 244) (hb : 128 ≤ b.toNat ∧ b.toNat ≤ 191)
    (hlow : a.toNat = 240 → 144 ≤ b.toNat) (hhigh : a.toNat = 244 → b.toNat ≤ 143)
    (hc : 128 ≤ c.toNat ∧ c.toNat ≤ 191) (hd : 128 ≤ d.toNat ∧ d.toNat ≤ 191) :
    String.utf8EncodeChar
        (Char.ofNat (a.toNat % 8 * 262144 + low6 b * 4096 + low6 c * 64 + low6 d)) =
      [a, b, c, d] := by
  unfold low6
  generalize hv : a.toNat % 8 * 262144 + b.toNat % 64 * 4096 + c.toNat % 64 * 64 + d.toNat % 64 = v
  rw [String.utf8EncodeChar, val_ofNat (by omega)]
  simp only [if_neg (by omega : ¬ v ≤ 127), if_neg (by omega : ¬ v ≤ 2047),
    if_neg (by omega : ¬ v ≤ 65535)]
  rw [ofNat_eq (a := a) (by omega), ofNat_eq (a := b) (by omega), ofNat_eq (a := c) (by omega),
    ofNat_eq (a := d) (by omega)]

theorem continues_iff : continues b = true ↔ 128 ≤ b.toNat ∧ b.toNat ≤ 191 := by
  simp only [continues, Bool.and_eq_true, decide_eq_true_eq, UInt8.le_iff_toNat_le,
    UInt8.lt_iff_toNat_lt, UInt8.reduceToNat]
  omega

/-- **The bytes of a character that was read are its encoding.** The cases
are the numbers of bytes that follow the first. -/
theorem encode_of_piece (h : piece a rest = (some ch, n)) :
    String.utf8EncodeChar ch ++ rest.drop n = a :: rest := by
  unfold piece at h
  split at h
  · cases h
  rename_i l hlead
  have hbounds := lead?_bounds hlead
  split at h
  · cases h
    rw [encode_one (by omega)]
    rfl
  split at h
  · cases h
  rename_i b rest
  split at h
  · cases h
  rename_i hb
  simp only [Bool.or_eq_true, decide_eq_true_eq, UInt8.lt_iff_toNat_lt, not_or, Nat.not_lt] at hb
  split at h
  · cases h
    rw [encode_two (by omega) (by omega)]
    rfl
  split at h
  · cases h
  rename_i c rest
  split at h
  · cases h
  rename_i hc
  have hc := continues_iff.1 (by simpa using hc)
  split at h
  · cases h
    rw [encode_three (by omega) (by omega) (by omega) (by omega) hc]
    rfl
  split at h
  · cases h
  rename_i d rest
  split at h
  · cases h
  rename_i hd
  have hd := continues_iff.1 (by simpa using hd)
  cases h
  rw [encode_four (by omega) (by omega) (by omega) (by omega) hc hd]
  rfl

/-! ## A whole content -/

/-- What is read behind a number of bytes is encoded as these bytes. -/
theorem encode_of_piecesAfter (h : (piecesAfter n bs).mapM id = some cs) :
    encode cs = bs.drop n := by
  induction bs generalizing n cs with
  | nil =>
    simp only [piecesAfter, List.mapM_nil, Option.pure_def, Option.some.injEq] at h
    rw [← h, List.drop_nil, encode_nil]
  | cons a rest ih =>
    cases n with
    | succ n => exact ih h
    | zero =>
      simp only [piecesAfter, List.mapM_cons, id_eq, Option.pure_def, Option.bind_eq_bind,
        Option.bind_eq_some_iff, Option.some.injEq] at h
      obtain ⟨ch, hch, cs, hcs, rfl⟩ := h
      rw [encode_cons, ih hcs, List.drop_zero]
      exact encode_of_piece (Prod.ext hch rfl)

/-- **A content is the encoding of the text it is read as.** -/
theorem encode_of_decode? (h : decode? bs = some cs) : encode cs = bs :=
  encode_of_piecesAfter h

/-! ## Single bytes -/

/-- The byte of an ASCII character is a byte of no other character. -/
theorem ascii_notMem_utf8EncodeChar (ha : a.toNat < 128) (h : ch.val.toNat ≠ a.toNat) :
    a ∉ String.utf8EncodeChar ch := by
  have hbyte {m : Nat} (hm : m % 256 ≠ a.toNat) : a ≠ UInt8.ofNat m := fun heq => by
    have := congrArg UInt8.toNat heq
    rw [UInt8.toNat_ofNat'] at this
    exact hm this.symm
  rw [String.utf8EncodeChar]
  -- every other byte is at least 128, or it is the number of an ASCII character
  repeat' split
  all_goals simp only [List.mem_cons, List.not_mem_nil, or_false, not_or]
  · exact hbyte (by omega)
  · exact ⟨hbyte (by omega), hbyte (by omega)⟩
  · exact ⟨hbyte (by omega), hbyte (by omega), hbyte (by omega)⟩
  · exact ⟨hbyte (by omega), hbyte (by omega), hbyte (by omega), hbyte (by omega)⟩

/-- So it is found in an encoded text only where the character is. -/
theorem ascii_notMem_encode (ha : a.toNat < 128) (h : ∀ ch ∈ cs, ch.val.toNat ≠ a.toNat) :
    a ∉ encode cs := by
  rw [encode, List.mem_flatMap]
  rintro ⟨ch, hch, hmem⟩
  exact ascii_notMem_utf8EncodeChar ha (h ch hch) hmem

/-! ## Lines -/

theorem encode_lineFeed : String.utf8EncodeChar '\n' = [Bytes.lineFeed] := by decide

theorem lineFeed_notMem_encode (h : '\n' ∉ cs) : Bytes.lineFeed ∉ encode cs := by
  refine ascii_notMem_encode (by decide) fun ch hch heq => h ?_
  rwa [← show ch = '\n' from Char.ext (UInt32.toNat_inj.1 heq)]

/-- Encoded lines are lines. -/
theorem areLines_map_encode {ls : List Text} (h : AreLines '\n' ls) :
    AreLines Bytes.lineFeed (ls.map encode) := by
  induction h with
  | nil => exact .nil
  | last hbody hne => exact .last (lineFeed_notMem_encode hbody) (mt encode_eq_nil_iff.1 hne)
  | cons hbody _ ih =>
    rw [List.map_cons, encode_append, encode_cons, encode_lineFeed, encode_nil, List.append_nil]
    exact .cons (lineFeed_notMem_encode hbody) ih

end Utf8

/-- **The lines of an encoded text are the encoded lines of the text.** -/
theorem Utf8.lines_encode (cs : Text) :
    Bytes.lines (encode cs) = (Text.lines cs).map encode := by
  have hlines := areLines_map_encode (areLines_splitAfter '\n' cs)
  rw [Bytes.lines, Text.lines, ← hlines.splitAfter_flatten, ← encode_flatten, flatten_splitAfter]

end LiteralMark
