import LiteralMark.Text.Utf8
/-!
# Insertions into a text

A text is changed only by inserting other texts at byte offsets, so no
character of it is lost. An insertion stands behind what ends at its
offset, or in front of what starts there; at one offset the former come
first, so that the text closing one range precedes the text opening the
next. Otherwise insertions keep the order in which they were recorded.
-/

namespace LiteralMark

/-- The side of an offset that an insertion belongs to. -/
inductive Side
  | after
  | before
deriving DecidableEq, Repr

/-- One insertion. -/
structure Insertion where
  offset : Nat
  side : Side
  text : Text
deriving DecidableEq, Repr

/-- The insertions recorded for one text, in the order of recording. -/
abbrev Edit := List Insertion

namespace Insertion

/-- Whether an insertion may stand in front of another one: its offset is
smaller, or the offsets agree and it is not a `before` in front of an
`after`. -/
def precedes (a b : Insertion) : Bool :=
  a.offset < b.offset ||
    (a.offset == b.offset && (a.side == .after || b.side == .before))

end Insertion

namespace Edit

/-- Records a text in front of what starts at the offset. -/
def insertBefore (e : Edit) (offset : Nat) (text : Text) : Edit :=
  e ++ [⟨offset, .before, text⟩]

/-- Records a text behind what ends at the offset. -/
def insertAfter (e : Edit) (offset : Nat) (text : Text) : Edit :=
  e ++ [⟨offset, .after, text⟩]

/-- The two insertions that surround a range. -/
def around (start stop : Nat) (opening closing : Text) : Edit :=
  [⟨start, .before, opening⟩, ⟨stop, .after, closing⟩]

/-- Records the two texts that surround a range. -/
def wrap (e : Edit) (start stop : Nat) (opening closing : Text) : Edit :=
  e ++ around start stop opening closing

/-- Puts an insertion in front of the first one that it may precede. -/
def place (a : Insertion) : Edit → Edit
  | [] => [a]
  | b :: rest => if a.precedes b then a :: b :: rest else b :: place a rest

/-- The insertions by offset and side, those that agree in both in the
order of recording. -/
def ordered (e : Edit) : Edit := e.foldr place []

/-- Applies ordered insertions to what is left of a text behind `cursor`.
The failure is the offset that is past the end or inside a character. -/
def applyFrom (cursor : Nat) (rest : Text) : Edit → Except Nat Text
  | [] => .ok rest
  | a :: more =>
    match Utf8.splitAt? (a.offset - cursor) rest with
    | none => .error a.offset
    | some (chunk, after) => do
      let tail ← applyFrom a.offset after more
      return chunk ++ a.text ++ tail

/-- Applies every insertion to a text. -/
def apply (e : Edit) (source : Text) : Except Nat Text := applyFrom 0 source e.ordered

end Edit

end LiteralMark
