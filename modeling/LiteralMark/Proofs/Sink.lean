import LiteralMark.Proofs.Report
/-!
# Sinks — what fits, and what is cut

A sink takes of some bytes what fits and fails if some are left. What it
takes of one text behind another is what it takes of both in a row
(`fill_fill`, `fits_append`), so it makes no difference in how many pieces
a text is handed over. The same holds one level below: there a single call
takes a part of what it is given and tells how much, and the caller calls
again with the rest until nothing is left or a call fails (`writeAll`).
A report that is written piece by piece in this way, its number, the
separator, the content and the line feed, is cut where it would be if it
were written at once (`reportParts_eq`).
-/

namespace LiteralMark

namespace Sink

variable {s : Sink} {front back bytes : Bytes}

/-! ## What fits -/

/-- There is room for the bytes. -/
def Fits (s : Sink) (bytes : Bytes) : Prop := ∀ n ∈ s.room, bytes.length ≤ n

instance : Decidable (s.Fits bytes) := inferInstanceAs (Decidable (∀ n ∈ s.room, _))

/-- The sink with as many of the bytes as it has room for. -/
def fill (s : Sink) (bytes : Bytes) : Sink :=
  { s with
    taken := s.taken ++ bytes.take (s.room.getD bytes.length)
    room := s.room.map (· - bytes.length) }

@[simp] theorem fits_nil : s.Fits [] := fun _ _ => Nat.zero_le _

theorem fits_some {taken : Bytes} {n : Nat} {flushFails : Bool} :
    Fits ⟨taken, some n, flushFails⟩ bytes ↔ bytes.length ≤ n := by
  simp [Fits]

@[simp] theorem fill_nil : s.fill [] = s := by simp [fill]

@[simp] theorem flushFails_fill : (s.fill bytes).flushFails = s.flushFails := rfl

/-- **Writing fills the sink**, and succeeds if the bytes fit. -/
theorem write_eq (s : Sink) (bytes : Bytes) :
    s.write bytes = (if s.Fits bytes then .ok () else .error .closed, s.fill bytes) := by
  obtain ⟨taken, _ | n, flushFails⟩ := s
  · simp [write, fill, Fits]
  · by_cases hfits : bytes.length ≤ n <;> simp [write, fill, Fits, hfits]

/-- One text behind another. -/
theorem fill_fill (s : Sink) (front back : Bytes) :
    (s.fill front).fill back = s.fill (front ++ back) := by
  obtain ⟨taken, _ | n, flushFails⟩ := s
  · simp [fill]
  · simp [fill, List.take_append, Nat.sub_sub]

theorem fits_append : s.Fits (front ++ back) ↔ s.Fits front ∧ (s.fill front).Fits back := by
  obtain ⟨taken, _ | n, flushFails⟩ := s
  · simp [Fits, fill]
  · simp only [Fits, fill, Option.map_some, Option.mem_some_iff, forall_eq', List.length_append]
    omega

/-- Behind something that does not fit nothing is taken. -/
theorem fill_append_of_not_fits (h : ¬ s.Fits front) (back : Bytes) :
    s.fill (front ++ back) = s.fill front := by
  obtain ⟨taken, _ | n, flushFails⟩ := s
  · simp [Fits] at h
  · simp only [Fits, Option.mem_some_iff, forall_eq', Nat.not_le] at h
    have hlong : n - (front.length + back.length) = n - front.length := by omega
    simp [fill, List.take_append, Nat.sub_eq_zero_of_le h.le, hlong]

theorem write_append_of_fits (h : s.Fits front) (back : Bytes) :
    s.write (front ++ back) = (s.fill front).write back := by
  simp [write_eq, fits_append, h, fill_fill]

/-- **What becomes of a report**: the sink is filled, and it must be
flushed if the report fits. -/
theorem report_eq (s : Sink) (r : LineReport) :
    s.report r = (if ¬ s.Fits r.render then .error .closed
      else if s.flushFails then .error .flushRefused else .ok (), s.fill r.render) := by
  rw [report, write_eq]
  by_cases hfits : s.Fits r.render
  · by_cases hflush : s.flushFails <;> simp [hfits, hflush]
  · simp [hfits]

/-! ## Call by call -/

/-- One call takes as many bytes as there is room for and tells their
number. It fails if there are bytes and no room at all. -/
def accept (s : Sink) (bytes : Bytes) : Except SinkError Nat × Sink :=
  if s.room = some 0 ∧ bytes ≠ [] then (.error .closed, s)
  else (.ok (min (s.room.getD bytes.length) bytes.length), s.fill bytes)

/-- Calls the sink with what is left, until nothing is left or a call
fails or takes nothing. -/
def writeAll (s : Sink) (bytes : Bytes) : Except SinkError Unit × Sink :=
  if bytes = [] then (.ok (), s)
  else
    match s.accept bytes with
    | (.error e, t) => (.error e, t)
    | (.ok 0, t) => (.error .closed, t)
    | (.ok (k + 1), t) => t.writeAll (bytes.drop (k + 1))
termination_by bytes.length
decreasing_by
  have := List.length_pos_of_ne_nil ‹bytes ≠ []›
  rw [List.length_drop]
  omega

/-- Writes one text after the other, until a write fails. -/
def writeParts (s : Sink) : List Bytes → Except SinkError Unit × Sink
  | [] => (.ok (), s)
  | part :: rest =>
    match s.writeAll part with
    | (.error e, t) => (.error e, t)
    | (.ok _, t) => t.writeParts rest

/-- What a call takes fits, and it fills the sink as the whole text does. -/
theorem accept_ok {k : Nat} {t : Sink} (h : s.accept bytes = (.ok k, t)) :
    s.Fits (bytes.take k) ∧ t = s.fill (bytes.take k) ∧ (bytes ≠ [] → 0 < k) := by
  rw [accept] at h
  split at h
  · cases h
  rename_i hroom
  cases h
  obtain ⟨taken, _ | n, flushFails⟩ := s
  · simp [Fits, fill, List.length_pos_iff]
  · have hpos (hne : bytes ≠ []) : 0 < n := by
      by_contra hzero
      exact hroom ⟨by simp [Nat.eq_zero_of_not_pos hzero], hne⟩
    rw [Option.getD_some, ← List.take_eq_take_min]
    refine ⟨fits_some.2 (List.length_take_le n bytes), ?_, fun hne => ?_⟩
    · have hleft : n - (bytes.take n).length = n - bytes.length := by
        rw [List.length_take]
        omega
      rw [fill, fill, Option.getD_some, Option.getD_some, Option.map_some, Option.map_some, hleft,
        List.take_take, Nat.min_self]
    · exact Nat.lt_min.2 ⟨hpos hne, List.length_pos_of_ne_nil hne⟩

/-- A call fails only if the bytes do not fit, and then it leaves the sink
as writing them would. -/
theorem accept_error {e : SinkError} {t : Sink} (h : s.accept bytes = (.error e, t)) :
    ¬ s.Fits bytes ∧ e = .closed ∧ t = s.fill bytes := by
  rw [accept] at h
  split at h
  · rename_i hfull
    obtain ⟨hroom, hne⟩ := hfull
    obtain ⟨taken, room, flushFails⟩ := s
    cases hroom
    cases h
    simp [Fits, fill, hne]
  · cases h

/-- **The calls write what a single write does.** -/
theorem writeAll_eq_write (s : Sink) (bytes : Bytes) : s.writeAll bytes = s.write bytes := by
  fun_induction writeAll s bytes with
  | case1 s => simp [write_eq]
  | case2 s bytes hne e t hcall =>
    obtain ⟨hfits, rfl, rfl⟩ := accept_error hcall
    rw [write_eq, if_neg hfits]
  | case3 s bytes hne t hcall =>
    obtain ⟨-, -, hpos⟩ := accept_ok hcall
    exact absurd (hpos hne) (Nat.lt_irrefl 0)
  | case4 s bytes hne k t hcall ih =>
    -- what the call has taken stands in front of the rest
    obtain ⟨hfits, rfl, -⟩ := accept_ok hcall
    rw [ih, ← write_append_of_fits hfits, List.take_append_drop]

/-- Pieces in a row are one text. -/
theorem writeParts_eq_write (s : Sink) (parts : List Bytes) :
    s.writeParts parts = s.write parts.flatten := by
  induction parts generalizing s with
  | nil => simp [writeParts, write_eq]
  | cons part rest ih =>
    rw [writeParts, writeAll_eq_write, List.flatten_cons]
    by_cases hfits : s.Fits part
    · rw [write_append_of_fits hfits, ← ih, write_eq, if_pos hfits]
    · simp [write_eq, hfits, fits_append, fill_append_of_not_fits]

end Sink

/-- The pieces in which a report is written. -/
def LineReport.parts (r : LineReport) : List Bytes :=
  [Utf8.encode (Nat.toDigits 10 r.number), Utf8.ofString ": ", r.content, [Bytes.lineFeed]]

theorem LineReport.flatten_parts (r : LineReport) : r.parts.flatten = r.render := by
  have hcolon : Utf8.ofString ": " = [58, 32] := by decide
  simp [render_eq, header, parts, hcolon]

/-- Writes a report piece by piece, each with as many calls as it takes,
and flushes it. -/
def Sink.reportParts (s : Sink) (r : LineReport) : Except SinkError Unit × Sink :=
  match s.writeParts r.parts with
  | (.error e, t) => (.error e, t)
  | (.ok _, t) => if t.flushFails then (.error .flushRefused, t) else (.ok (), t)

/-- **A report is cut at the same byte** whether it is written in pieces
or at once. -/
theorem Sink.reportParts_eq (s : Sink) (r : LineReport) : s.reportParts r = s.report r := by
  rw [reportParts, writeParts_eq_write, LineReport.flatten_parts]
  rfl

end LiteralMark
