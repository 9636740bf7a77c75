import LiteralMark.Text.Printable
import LiteralMark.Text.Utf8
/-!
# Quoted text

Bytes in double quotes, with escapes for what cannot be shown as it is,
and the quoted form of a text in JSON.
-/

namespace LiteralMark

namespace Quoted

/-- The digits of a number in base sixteen. -/
def hexDigits (n : Nat) : Text := Nat.toDigits 16 n

/-- A character as it is shown between quotes. -/
def showChar (c : Char) : Text :=
  if c == Char.ofNat 0 then ['\\', '0']
  else if c == '\t' then ['\\', 't']
  else if c == '\n' then ['\\', 'n']
  else if c == '\r' then ['\\', 'r']
  else if c == '"' || c == '\\' then ['\\', c]
  else if !isPrintable c then ['\\', 'u', '\x7b'] ++ hexDigits c.toNat ++ ['\x7d']
  else [c]

/-- A byte that is part of no character, as it is shown between quotes. -/
def showByte (b : UInt8) : Text :=
  let digits := (hexDigits b.toNat).map Char.toUpper
  ['\\', 'x'] ++ (if digits.length < 2 then ['0'] else []) ++ digits

/-- Bytes as they are shown between quotes, when the first `n` of them
belong to a piece that is known to be a character or not. -/
def showAfter : Nat → Bool → Bytes → Text
  | _, _, [] => []
  | n + 1, isChar, b :: rest => (if isChar then [] else showByte b) ++ showAfter n isChar rest
  | 0, _, b :: rest =>
    match Utf8.piece b rest with
    | (some c, n) => showChar c ++ showAfter n true rest
    | (none, n) => showByte b ++ showAfter n false rest

/-- Bytes in quotes. -/
def showBytes (bytes : Bytes) : String :=
  String.ofList (['"'] ++ showAfter 0 true bytes ++ ['"'])

/-- A character of a JSON string. -/
def jsonChar (c : Char) : Text :=
  if c == '"' || c == '\\' then ['\\', c]
  else if c == '\n' then ['\\', 'n']
  else if c == '\r' then ['\\', 'r']
  else if c == '\t' then ['\\', 't']
  else if c.toNat == 8 then ['\\', 'b']
  else if c.toNat == 12 then ['\\', 'f']
  else if c.toNat < 32 then
    ['\\', 'u', '0', '0'] ++ (if c.toNat < 16 then ['0'] else []) ++ hexDigits c.toNat
  else [c]

/-- A text as a JSON string. -/
def json (text : String) : String :=
  String.ofList (['"'] ++ text.toList.flatMap jsonChar ++ ['"'])

end Quoted

end LiteralMark
