import LiteralMark.Proofs.Text.Utf8
/-!
# UTF-8 — which bytes are a text

Bytes are well-formed if they are the encoding of some text
(`IsWellFormed`). Reading decides it: what encodes a text is read as that
text and as no other (`decode?_encode`), and only such bytes are read at
all (`isSome_decode?_iff`).

The bytes of a character tell where it starts, for all but the first of
them continue it and the first does not. So well-formed bytes that are
cut in front of a byte that continues nothing fall into two well-formed
parts (`isWellFormed_append_iff`). A text that is put between two such
parts changes nothing of whether the whole is well-formed
(`isWellFormed_append_encode`), and an ASCII byte is a character of its
own wherever it stands, with whatever in front of it and behind it
(`isWellFormed_append_ascii`).
-/

namespace LiteralMark.Utf8

variable {a b c d : UInt8} {bs xs ys rest : Bytes} {cs : Text} {n : Nat}

/-! ## Reading one character -/

theorem lead?_one (ha : a.toNat < 128) : lead? a = some ⟨0, 0x80, 0xBF⟩ := by
  simp only [lead?, UInt8.lt_iff_toNat_lt, UInt8.reduceToNat, if_pos ha]

theorem lead?_two (ha : 194 ≤ a.toNat ∧ a.toNat < 224) : lead? a = some ⟨1, 0x80, 0xBF⟩ := by
  simp only [lead?, UInt8.lt_iff_toNat_lt, UInt8.reduceToNat]
  rw [if_neg (by omega), if_neg (by omega), if_pos (by omega)]

/-- The two leading bytes of three that bound what follows more closely
leave out the overlong forms and the surrogates. -/
theorem lead?_three (ha : 224 ≤ a.toNat ∧ a.toNat < 240) :
    lead? a = some ⟨2, if a.toNat = 224 then 0xA0 else 0x80,
      if a.toNat = 237 then 0x9F else 0xBF⟩ := by
  simp only [lead?, UInt8.lt_iff_toNat_lt, ← UInt8.toNat_inj, UInt8.reduceToNat]
  rw [if_neg (by omega), if_neg (by omega), if_neg (by omega)]
  split
  · rw [if_neg (by omega)]
  split
  · rfl
  · rw [if_pos (by omega)]

/-- And those of four the overlong forms and what lies above the last code
point. -/
theorem lead?_four (ha : 240 ≤ a.toNat ∧ a.toNat ≤ 244) :
    lead? a = some ⟨3, if a.toNat = 240 then 0x90 else 0x80,
      if a.toNat = 244 then 0x8F else 0xBF⟩ := by
  simp only [lead?, UInt8.lt_iff_toNat_lt, ← UInt8.toNat_inj, UInt8.reduceToNat]
  rw [if_neg (by omega), if_neg (by omega), if_neg (by omega), if_neg (by omega),
    if_neg (by omega), if_neg (by omega)]
  split
  · rw [if_neg (by omega)]
  split
  · rw [if_neg (by omega)]
  · rw [if_pos (by omega), if_pos (by omega)]

theorem piece_one (ha : a.toNat < 128) : piece a rest = (some (Char.ofNat a.toNat), 0) := by
  simp only [piece, lead?_one ha, if_true]

theorem piece_two (ha : 194 ≤ a.toNat ∧ a.toNat < 224) (hb : 128 ≤ b.toNat ∧ b.toNat ≤ 191) :
    piece a (b :: rest) = (some (Char.ofNat (a.toNat % 32 * 64 + low6 b)), 1) := by
  have hbounds : ¬ (b < 0x80 || 0xBF < b) = true := by
    simp only [Bool.or_eq_true, decide_eq_true_eq, UInt8.lt_iff_toNat_lt, UInt8.reduceToNat]
    omega
  simp only [piece, lead?_two ha, if_neg hbounds, Nat.one_ne_zero, if_false, if_true]

theorem piece_three (ha : 224 ≤ a.toNat ∧ a.toNat < 240) (hb : 128 ≤ b.toNat ∧ b.toNat ≤ 191)
    (hlow : a.toNat = 224 → 160 ≤ b.toNat) (hhigh : a.toNat = 237 → b.toNat ≤ 159)
    (hc : 128 ≤ c.toNat ∧ c.toNat ≤ 191) :
    piece a (b :: c :: rest) =
      (some (Char.ofNat (a.toNat % 16 * 4096 + low6 b * 64 + low6 c)), 2) := by
  have hbounds : ¬ (b < (if a.toNat = 224 then 0xA0 else 0x80) ||
      (if a.toNat = 237 then 0x9F else 0xBF) < b) = true := by
    simp only [Bool.or_eq_true, decide_eq_true_eq, UInt8.lt_iff_toNat_lt, apply_ite UInt8.toNat,
      UInt8.reduceToNat]
    split <;> split <;> omega
  simp only [piece, lead?_three ha, if_neg hbounds, continues_iff.2 hc]
  rfl

theorem piece_four (ha : 240 ≤ a.toNat ∧ a.toNat ≤ 244) (hb : 128 ≤ b.toNat ∧ b.toNat ≤ 191)
    (hlow : a.toNat = 240 → 144 ≤ b.toNat) (hhigh : a.toNat = 244 → b.toNat ≤ 143)
    (hc : 128 ≤ c.toNat ∧ c.toNat ≤ 191) (hd : 128 ≤ d.toNat ∧ d.toNat ≤ 191) :
    piece a (b :: c :: d :: rest) =
      (some (Char.ofNat (a.toNat % 8 * 262144 + low6 b * 4096 + low6 c * 64 + low6 d)), 3) := by
  have hbounds : ¬ (b < (if a.toNat = 240 then 0x90 else 0x80) ||
      (if a.toNat = 244 then 0x8F else 0xBF) < b) = true := by
    simp only [Bool.or_eq_true, decide_eq_true_eq, UInt8.lt_iff_toNat_lt, apply_ite UInt8.toNat,
      UInt8.reduceToNat]
    split <;> split <;> omega
  simp only [piece, lead?_four ha, if_neg hbounds, continues_iff.2 hc, continues_iff.2 hd]
  rfl

/-- A character is told by its number. -/
theorem char_ofNat_eq (ch : Char) (h : n = ch.val.toNat) : Char.ofNat n = ch := by
  rw [h]
  exact Char.ofNat_toNat ch

/-- A small number is that of its byte. -/
theorem toNat_ofNat_of_lt (h : n < 256) : (UInt8.ofNat n).toNat = n := by
  rw [UInt8.toNat_ofNat']
  exact Nat.mod_eq_of_lt h

/-- **An encoded character is read as that character**, whatever follows.
The cases are the numbers of bytes. -/
theorem pieces_utf8EncodeChar_append (ch : Char) (rest : Bytes) :
    pieces (String.utf8EncodeChar ch ++ rest) = some ch :: pieces rest := by
  have hvalid : ch.val.toNat < 0xD800 ∨ 0xDFFF < ch.val.toNat ∧ ch.val.toNat < 0x110000 := ch.valid
  rw [String.utf8EncodeChar]
  generalize hv : ch.val.toNat = v at hvalid
  have hbyte {m : Nat} (hm : m < 256) : (UInt8.ofNat m).toNat = m := toNat_ofNat_of_lt hm
  split
  · have ha := hbyte (m := v) (by omega)
    rw [List.singleton_append, pieces, piecesAfter, piece_one (by omega),
      char_ofNat_eq ch (by omega)]
    rfl
  split
  · have ha := hbyte (m := v / 64 % 32 + 192) (by omega)
    have hb := hbyte (m := v % 64 + 128) (by omega)
    simp only [List.cons_append, List.nil_append]
    rw [pieces, piecesAfter, piece_two (by omega) (by omega), low6,
      char_ofNat_eq ch (by omega)]
    rfl
  split
  · have ha := hbyte (m := v / 4096 % 16 + 224) (by omega)
    have hb := hbyte (m := v / 64 % 64 + 128) (by omega)
    have hc := hbyte (m := v % 64 + 128) (by omega)
    simp only [List.cons_append, List.nil_append]
    rw [pieces, piecesAfter, piece_three (by omega) (by omega) (by omega) (by omega) (by omega),
      low6, low6, char_ofNat_eq ch (by omega)]
    rfl
  · have ha := hbyte (m := v / 262144 % 8 + 240) (by omega)
    have hb := hbyte (m := v / 4096 % 64 + 128) (by omega)
    have hc := hbyte (m := v / 64 % 64 + 128) (by omega)
    have hd := hbyte (m := v % 64 + 128) (by omega)
    simp only [List.cons_append, List.nil_append]
    rw [pieces, piecesAfter, piece_four (by omega) (by omega) (by omega) (by omega) (by omega)
      (by omega), low6, low6, low6, char_ofNat_eq ch (by omega)]
    rfl

/-! ## Well-formed bytes -/

/-- Bytes are well-formed if they are the encoding of some text. -/
def IsWellFormed (bs : Bytes) : Prop := ∃ cs, encode cs = bs

theorem isWellFormed_encode (cs : Text) : IsWellFormed (encode cs) := ⟨cs, rfl⟩

@[simp] theorem isWellFormed_nil : IsWellFormed [] := isWellFormed_encode []

theorem IsWellFormed.append (hxs : IsWellFormed xs) (hys : IsWellFormed ys) :
    IsWellFormed (xs ++ ys) := by
  obtain ⟨front, rfl⟩ := hxs
  obtain ⟨back, rfl⟩ := hys
  exact ⟨front ++ back, encode_append front back⟩

theorem pieces_encode (cs : Text) : pieces (encode cs) = cs.map some := by
  induction cs with
  | nil => rfl
  | cons ch cs ih => rw [encode_cons, pieces_utf8EncodeChar_append, ih, List.map_cons]

/-- **What encodes a text is read as that text.** -/
theorem decode?_encode (cs : Text) : decode? (encode cs) = some cs := by
  rw [decode?, pieces_encode]
  induction cs with
  | nil => rfl
  | cons ch cs ih => rw [List.map_cons, List.mapM_cons, ih]; rfl

/-- **Reading accepts the well-formed bytes and no others.** -/
theorem isSome_decode?_iff : (decode? bs).isSome ↔ IsWellFormed bs := by
  constructor
  · intro h
    obtain ⟨cs, hcs⟩ := Option.isSome_iff_exists.1 h
    exact ⟨cs, encode_of_decode? hcs⟩
  · rintro ⟨cs, rfl⟩
    rw [decode?_encode]
    rfl

instance : DecidablePred IsWellFormed := fun _ => decidable_of_iff _ isSome_decode?_iff

/-! ## Where a character starts -/

/-- A character can start here: the first byte, if there is one, continues
nothing. -/
def IsStart (bs : Bytes) : Prop := ∀ b ∈ bs.head?, continues b = false

/-- The first byte of a character continues nothing, and all others do. -/
theorem exists_utf8EncodeChar_eq (ch : Char) :
    ∃ a tail, String.utf8EncodeChar ch = a :: tail ∧ continues a = false ∧
      ∀ b ∈ tail, continues b = true := by
  have hbyte {m : Nat} (hm : m < 256) : (UInt8.ofNat m).toNat = m := toNat_ofNat_of_lt hm
  have hlead {m : Nat} (hm : m < 128 ∨ 192 ≤ m ∧ m < 256) : continues (UInt8.ofNat m) = false := by
    rw [Bool.eq_false_iff, ne_eq, continues_iff, hbyte (by omega)]
    omega
  have hnext (ms : List Nat) :
      ∀ b ∈ ms.map fun m => UInt8.ofNat (m % 64 + 128), continues b = true := by
    refine List.forall_mem_map.2 fun m _ => ?_
    rw [continues_iff, hbyte (by omega)]
    omega
  rw [String.utf8EncodeChar]
  repeat' split
  · exact ⟨_, _, rfl, hlead (by omega), by simp⟩
  · exact ⟨_, _, rfl, hlead (by omega), hnext [_]⟩
  · exact ⟨_, _, rfl, hlead (by omega), hnext [_, _]⟩
  · exact ⟨_, _, rfl, hlead (by omega), hnext [_, _, _]⟩

theorem isStart_encode (cs : Text) : IsStart (encode cs) := by
  cases cs with
  | nil => simp [IsStart]
  | cons ch cs =>
    obtain ⟨a, tail, heq, ha, -⟩ := exists_utf8EncodeChar_eq ch
    intro b hb
    rw [encode_cons, heq, List.cons_append, List.head?_cons, Option.mem_some_iff] at hb
    exact hb ▸ ha

theorem isStart_ascii (ha : a.toNat < 128) (bs : Bytes) : IsStart (a :: bs) := by
  intro b hb
  rw [List.head?_cons, Option.mem_some_iff] at hb
  rw [← hb, Bool.eq_false_iff, ne_eq, continues_iff]
  omega

/-! ## Cutting well-formed bytes -/

/-- **A cut in front of a start goes through no character.** -/
theorem exists_encode_of_append (h : encode cs = xs ++ ys) (hys : IsStart ys) :
    ∃ front back, encode front = xs ∧ encode back = ys := by
  induction cs generalizing xs with
  | nil =>
    obtain ⟨rfl, rfl⟩ := List.append_eq_nil_iff.1 h.symm
    exact ⟨[], [], rfl, rfl⟩
  | cons ch cs ih =>
    rw [encode_cons] at h
    rcases List.append_eq_append_iff.1 h with ⟨more, hxs, hrest⟩ | ⟨more, hch, hrest⟩
    · -- the cut lies behind the first character
      obtain ⟨front, back, hfront, hback⟩ := ih hrest
      exact ⟨ch :: front, back, by rw [encode_cons, hfront, hxs], hback⟩
    · obtain ⟨a, tail, heq, -, htail⟩ := exists_utf8EncodeChar_eq ch
      rw [heq] at hch
      rcases List.cons_eq_append_iff.1 hch with ⟨rfl, hmore⟩ | ⟨xs, rfl, rfl⟩
      · -- it lies in front of it
        exact ⟨[], ch :: cs, rfl, by rw [encode_cons, heq, hrest, hmore]⟩
      · -- it lies in it, so nothing of it is left behind the cut
        have hmore : more = [] := by
          cases more with
          | nil => rfl
          | cons b more =>
            have hb := hys b (by rw [hrest]; rfl)
            rw [htail b (by simp)] at hb
            cases hb
        subst hmore
        rw [List.append_nil] at heq
        exact ⟨[ch], cs, by rw [encode_cons, heq, encode_nil, List.append_nil], hrest.symm⟩

/-- **Cut in front of a start, both parts are well-formed if the whole
is.** -/
theorem isWellFormed_append_iff (hys : IsStart ys) :
    IsWellFormed (xs ++ ys) ↔ IsWellFormed xs ∧ IsWellFormed ys := by
  constructor
  · rintro ⟨cs, hcs⟩
    obtain ⟨front, back, hfront, hback⟩ := exists_encode_of_append hcs hys
    exact ⟨⟨front, hfront⟩, ⟨back, hback⟩⟩
  · rintro ⟨hxs, hys⟩
    exact hxs.append hys

/-- **A text at the end neither completes nor breaks what is in front of
it.** -/
theorem isWellFormed_append_encode (cs : Text) :
    IsWellFormed (xs ++ encode cs) ↔ IsWellFormed xs := by
  rw [isWellFormed_append_iff (isStart_encode cs)]
  exact and_iff_left (isWellFormed_encode cs)

theorem isWellFormed_cons_ascii (ha : a.toNat < 128) :
    IsWellFormed (a :: bs) ↔ IsWellFormed bs := by
  constructor
  · rintro ⟨cs, hcs⟩
    cases cs with
    | nil => cases hcs
    | cons ch cs =>
      -- the first character holds the byte, so it is the byte
      have hmem : a ∈ String.utf8EncodeChar ch := by
        obtain ⟨a', tail, heq, -⟩ := exists_utf8EncodeChar_eq ch
        rw [encode_cons, heq, List.cons_append, List.cons.injEq] at hcs
        rw [heq, ← hcs.1]
        exact List.mem_cons_self
      have hnumber : a.toNat = ch.val.toNat := by
        by_contra hne
        exact ascii_notMem_utf8EncodeChar ha (Ne.symm hne) hmem
      rw [encode_cons, ← char_ofNat_eq ch hnumber, encode_one ha, List.singleton_append,
        List.cons.injEq] at hcs
      exact ⟨cs, hcs.2⟩
  · rintro ⟨cs, rfl⟩
    exact ⟨Char.ofNat a.toNat :: cs, by rw [encode_cons, encode_one ha, List.singleton_append]⟩

/-- **An ASCII byte is a character of its own**, whatever stands in front of
it and behind it. -/
theorem isWellFormed_append_ascii (ha : a.toNat < 128) :
    IsWellFormed (xs ++ a :: ys) ↔ IsWellFormed xs ∧ IsWellFormed ys := by
  rw [isWellFormed_append_iff (isStart_ascii ha ys), isWellFormed_cons_ascii ha]

end LiteralMark.Utf8
