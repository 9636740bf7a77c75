import LiteralMark.Directory.Volume
/-!
# Devices

A volume is what is stored; the device is what stores it. What makes no
sense in a volume is refused by the volume. The device may refuse more: to
open a file, to make one, to change its permission bits, to rename it. It
may break off while a file is read, and it may run full while one is
written. A run is given a device as it is given a sink, and it ends with
the first call that fails, so one point is enough to say where reading or
writing breaks off. To remove a file that was made does not fail.
-/

namespace LiteralMark

/-- A call that a device may refuse. -/
inductive Call
  | openFile
  | metadata
  | create
  | setMode
  | sync
  | rename
deriving DecidableEq, Repr

/-- Where a transfer breaks off: after how many bytes, and why. -/
structure Break where
  after : Nat
  cause : String
deriving DecidableEq, Repr

/-- A device, by what goes wrong with it: the calls that it refuses, each
with the text of the error, and where reading a file and writing one break
off. -/
structure Device where
  refused : List (Call × String) := []
  reading : Option Break := none
  writing : Option Break := none
deriving DecidableEq, Repr

namespace Device

/-- Asks a device for a call. -/
def grant (d : Device) (call : Call) : Except String Unit :=
  match d.refused.lookup call with
  | some cause => .error cause
  | none => .ok ()

/-- What a call comes to, if this is the answer of the volume. -/
def carry {α : Type} (d : Device) (call : Call) (answer : Except SystemError α) :
    Except String α := do
  d.grant call
  answer.mapError (·.message)

/-- Opens what a path leads to, and asks for its permission bits. -/
def find (d : Device) (v : Volume) (path : Bytes) : Except String Entry := do
  let e ← d.carry .openFile (v.find path)
  d.grant .metadata
  return e

/-- What was read of a content when reading breaks off, and why. That the
content has ended is read too. -/
def cut? (d : Device) (content : Bytes) : Option (Bytes × String) :=
  match d.reading with
  | some b => if b.after ≤ content.length then some (content.take b.after, b.cause) else none
  | none => none

/-- Lets a file grow to a size. -/
def grow (d : Device) (size : Nat) : Except String Unit :=
  match d.writing with
  | some b => if size ≤ b.after then .ok () else .error b.cause
  | none => .ok ()

end Device

/-! ## What is done is what the volume says -/

section

variable {ε ε' α β : Type} {x : Except ε α} {a : α}

theorem ok_of_bind {f : α → Except ε β} {b : β} (h : (x >>= f) = .ok b) :
    ∃ a, x = .ok a ∧ f a = .ok b := by
  cases x with
  | error err => cases h
  | ok a => exact ⟨a, rfl, h⟩

theorem ok_of_mapError {g : ε → ε'} (h : x.mapError g = .ok a) : x = .ok a := by
  cases x with
  | error err => cases h
  | ok a =>
    cases h
    rfl

end

namespace Device

variable {α : Type} {d : Device} {call : Call} {answer : Except SystemError α} {a : α}
variable {v : Volume} {path : Bytes} {e : Entry}

/-- **A call that succeeds has the answer of the volume.** -/
theorem carry_ok (h : d.carry call answer = .ok a) : answer = .ok a := by
  obtain ⟨-, -, hanswer⟩ := ok_of_bind h
  exact ok_of_mapError hanswer

theorem find_ok (h : d.find v path = .ok e) : v.find path = .ok e := by
  obtain ⟨e', hopen, hrest⟩ := ok_of_bind h
  obtain ⟨-, -, hreturn⟩ := ok_of_bind hrest
  cases hreturn
  exact carry_ok hopen

/-- A call that is granted comes to what the volume says. -/
theorem carry_of_grant (h : d.grant call = .ok ()) :
    d.carry call answer = answer.mapError (·.message) := by
  rw [carry, h]
  rfl

/-- A device refuses to let a file grow for one reason. -/
theorem grow_eq_error_iff {b : Break} {size : Nat} {cause : String} (h : d.writing = some b) :
    d.grow size = .error cause ↔ b.after < size ∧ cause = b.cause := by
  rw [grow, h]
  simp only
  split
  · rename_i hsize
    exact iff_of_false (by simp) fun hlt => absurd hsize (Nat.not_le.2 hlt.1)
  · rename_i hsize
    rw [Except.error.injEq, and_iff_right (Nat.not_le.1 hsize)]
    exact eq_comm

/-! A device without faults answers as the volume does. -/

@[simp]
theorem carry_faultless : ({} : Device).carry call answer = answer.mapError (·.message) := rfl

@[simp]
theorem find_faultless : ({} : Device).find v path = (v.find path).mapError (·.message) := by
  rw [find, carry_faultless]
  cases v.find path <;> rfl

end Device

end LiteralMark
