import LiteralMark.Proofs.Insertion
/-!
# UTF-8 — offsets at which a text can be cut

Offsets into a text count bytes, and most numbers are no offset at which
the text can be cut: they lie inside a character, or past the end. Those
at which it can be cut are its boundaries (`IsBoundary`), and cutting
succeeds at these and at no others (`splitAt?_eq_some_iff`). A text that
is read from left to right is in two parts at any time, one that is done
and the rest; a boundary of the whole that is not in front of the rest is
one at which the rest can be cut (`IsBoundary.exists_chunk`).
-/

namespace LiteralMark.Utf8

variable {cs front back done rest : Text} {n p : Nat}

/-! ## The number of bytes -/

@[simp] theorem size_nil : size [] = 0 := rfl

@[simp] theorem size_cons (c : Char) (cs : Text) : size (c :: cs) = c.utf8Size + size cs := rfl

@[simp] theorem size_append (front back : Text) :
    size (front ++ back) = size front + size back := by
  induction front with
  | nil => simp
  | cons c front ih => simp [ih, Nat.add_assoc]

theorem length_encode (cs : Text) : (encode cs).length = size cs := by
  induction cs with
  | nil => rfl
  | cons c cs ih => simp [ih]

theorem size_eq_zero_iff : size cs = 0 ↔ cs = [] := by
  rw [← length_encode, List.length_eq_zero_iff, encode_eq_nil_iff]

/-! ## Boundaries -/

/-- A text can be cut at an offset: a character starts there, or the text
ends. -/
def IsBoundary (cs : Text) (p : Nat) : Prop := ∃ front back, front ++ back = cs ∧ size front = p

theorem splitAt?_append (front back : Text) :
    splitAt? (size front) (front ++ back) = some (front, back) := by
  induction front with
  | nil => rw [size_nil, List.nil_append, splitAt?]
  | cons c front ih =>
    have hpos : 0 < c.utf8Size := c.utf8Size_pos
    obtain ⟨n, hn⟩ : ∃ n, size (c :: front) = n + 1 := ⟨size (c :: front) - 1, by simp; omega⟩
    have hrest : n + 1 - c.utf8Size = size front := by
      rw [← hn, size_cons]
      omega
    have hle : c.utf8Size ≤ n + 1 := by
      rw [← hn, size_cons]
      omega
    rw [hn, List.cons_append, splitAt?, if_pos hle, hrest, ih]
    rfl

theorem size_of_splitAt? (h : splitAt? n cs = some (front, back)) : size front = n := by
  induction cs generalizing n front with
  | nil =>
    cases n with
    | zero =>
      cases h
      rfl
    | succ n => cases h
  | cons c cs ih =>
    cases n with
    | zero =>
      cases h
      rfl
    | succ n =>
      rw [splitAt?] at h
      split at h
      · rename_i hle
        obtain ⟨⟨before, after⟩, hsplit, heq⟩ := Option.map_eq_some_iff.1 h
        cases heq
        rw [size_cons, ih hsplit]
        omega
      · cases h

/-- **Where a text can be cut, and into what.** -/
theorem splitAt?_eq_some_iff :
    splitAt? n cs = some (front, back) ↔ front ++ back = cs ∧ size front = n := by
  constructor
  · intro h
    exact ⟨append_of_splitAt? h, size_of_splitAt? h⟩
  · rintro ⟨rfl, rfl⟩
    exact splitAt?_append front back

theorem isSome_splitAt?_iff : (splitAt? p cs).isSome ↔ IsBoundary cs p := by
  simp only [Option.isSome_iff_exists, Prod.exists, splitAt?_eq_some_iff, IsBoundary]

instance : DecidablePred (IsBoundary cs) := fun _ => decidable_of_iff _ isSome_splitAt?_iff

theorem IsBoundary.le_size (h : IsBoundary cs p) : p ≤ size cs := by
  obtain ⟨front, back, rfl, rfl⟩ := h
  rw [size_append]
  omega

/-- **A boundary of the whole is one of the rest**, if it does not lie in
what is done. -/
theorem IsBoundary.exists_chunk (h : IsBoundary (done ++ rest) p) (hle : size done ≤ p) :
    ∃ chunk after, chunk ++ after = rest ∧ size (done ++ chunk) = p := by
  obtain ⟨front, back, happend, rfl⟩ := h
  rcases List.append_eq_append_iff.1 happend with ⟨more, rfl, rfl⟩ | ⟨chunk, rfl, rfl⟩
  · -- the cut lies in what is done, so it lies at its end
    have hmore : more = [] := by
      rw [size_append] at hle
      exact size_eq_zero_iff.1 (by omega)
    exact ⟨[], rest, rfl, by simp [hmore]⟩
  · exact ⟨chunk, back, rfl, rfl⟩

/-! ## The text between two offsets -/

theorem dropBytes?_eq (n : Nat) (cs : Text) : dropBytes? n cs = (splitAt? n cs).map Prod.snd := by
  induction cs generalizing n with
  | nil => cases n <;> rfl
  | cons c cs ih =>
    cases n with
    | zero => rfl
    | succ n =>
      rw [dropBytes?, splitAt?, ih]
      split
      · rw [Option.map_map]
        rfl
      · rfl

/-- The text between two cuts. -/
theorem slice?_append (front inner back : Text) :
    slice? (front ++ (inner ++ back)) (size front) (size front + size inner) = some inner := by
  have hdrop : dropBytes? (size front) (front ++ (inner ++ back)) = some (inner ++ back) := by
    rw [dropBytes?_eq, splitAt?_append]
    rfl
  rw [slice?, hdrop]
  simp [splitAt?_append]

end LiteralMark.Utf8
