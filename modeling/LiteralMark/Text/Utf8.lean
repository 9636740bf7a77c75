import LiteralMark.Text.Bytes
/-!
# UTF-8

`encode` writes a text as bytes. `pieces` reads bytes from left to right
and cuts them into characters and ill-formed stretches, a stretch being
as long as it could still have begun a character. `decode?` accepts the
bytes that have no such stretch; `lossy` shows each as one replacement
character, which is how a path is displayed.
-/

namespace LiteralMark.Utf8

/-- The bytes of a text. -/
def encode (cs : Text) : Bytes := cs.flatMap String.utf8EncodeChar

/-- The bytes of a string. -/
def ofString (s : String) : Bytes := encode s.toList

/-- The number of bytes of a text. -/
def size : Text → Nat
  | [] => 0
  | c :: cs => c.utf8Size + size cs

/-- What a leading byte announces: how many bytes follow, and between
which bounds the first of them lies. -/
structure Lead where
  follow : Nat
  low : UInt8
  high : UInt8

/-- The announcement of a leading byte, if it is one. The bounds exclude
overlong forms, surrogates and what lies above the last code point. -/
def lead? (a : UInt8) : Option Lead :=
  if a < 0x80 then some ⟨0, 0x80, 0xBF⟩
  else if a < 0xC2 then none
  else if a < 0xE0 then some ⟨1, 0x80, 0xBF⟩
  else if a = 0xE0 then some ⟨2, 0xA0, 0xBF⟩
  else if a = 0xED then some ⟨2, 0x80, 0x9F⟩
  else if a < 0xF0 then some ⟨2, 0x80, 0xBF⟩
  else if a = 0xF0 then some ⟨3, 0x90, 0xBF⟩
  else if a < 0xF4 then some ⟨3, 0x80, 0xBF⟩
  else if a = 0xF4 then some ⟨3, 0x80, 0x8F⟩
  else none

/-- Whether a byte continues a character. -/
def continues (b : UInt8) : Bool := 0x80 ≤ b && b < 0xC0

/-- The payload of a continuing byte. -/
def low6 (b : UInt8) : Nat := b.toNat % 64

/-- The piece that starts with byte `a` in front of other bytes, and how
many of these belong to it. An ill-formed piece ends in front of the
first byte that cannot continue it. -/
def piece (a : UInt8) (rest : Bytes) : Option Char × Nat :=
  match lead? a with
  | none => (none, 0)
  | some l =>
    if l.follow = 0 then (some (Char.ofNat a.toNat), 0)
    else
      match rest with
      | [] => (none, 0)
      | b :: rest =>
        if b < l.low || l.high < b then (none, 0)
        else if l.follow = 1 then (some (Char.ofNat (a.toNat % 32 * 64 + low6 b)), 1)
        else
          match rest with
          | [] => (none, 1)
          | c :: rest =>
            if !continues c then (none, 1)
            else if l.follow = 2 then
              (some (Char.ofNat (a.toNat % 16 * 4096 + low6 b * 64 + low6 c)), 2)
            else
              match rest with
              | [] => (none, 2)
              | d :: _ =>
                if !continues d then (none, 2)
                else
                  (some (Char.ofNat
                    (a.toNat % 8 * 262144 + low6 b * 4096 + low6 c * 64 + low6 d)), 3)

/-- The pieces of the bytes, when the first `n` bytes belong to a piece
that has been read. -/
def piecesAfter : Nat → Bytes → List (Option Char)
  | _, [] => []
  | n + 1, _ :: rest => piecesAfter n rest
  | 0, a :: rest => (piece a rest).1 :: piecesAfter (piece a rest).2 rest

/-- The bytes cut into characters (`some`) and ill-formed stretches
(`none`). -/
def pieces (bs : Bytes) : List (Option Char) := piecesAfter 0 bs

/-- The text of well-formed bytes. -/
def decode? (bs : Bytes) : Option Text := (pieces bs).mapM id

/-- The text of any bytes, each ill-formed stretch replaced. -/
def lossy (bs : Bytes) : Text := (pieces bs).map (·.getD '�')

/-- The bytes as a displayed string. -/
def display (bs : Bytes) : String := String.ofList (lossy bs)

/-- The text cut after its first `n` bytes, if a character starts (or the
text ends) there. -/
def splitAt? : Nat → Text → Option (Text × Text)
  | 0, cs => some ([], cs)
  | _ + 1, [] => none
  | n + 1, c :: cs =>
    if c.utf8Size ≤ n + 1 then
      (splitAt? (n + 1 - c.utf8Size) cs).map fun (before, after) => (c :: before, after)
    else none

/-- The text behind its first `n` bytes, if a character starts (or the
text ends) there. -/
def dropBytes? : Nat → Text → Option Text
  | 0, cs => some cs
  | _ + 1, [] => none
  | n + 1, c :: cs => if c.utf8Size ≤ n + 1 then dropBytes? (n + 1 - c.utf8Size) cs else none

/-- The text between two byte offsets. -/
def slice? (cs : Text) (start stop : Nat) : Option Text := do
  let rest ← dropBytes? start cs
  let (found, _) ← if start ≤ stop then splitAt? (stop - start) rest else none
  return found

end LiteralMark.Utf8
