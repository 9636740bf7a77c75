import LiteralMark.Text.Bytes
/-!
# Blanks

The characters that only separate others, in all scripts.
-/

namespace LiteralMark

/-- Whether a character is a blank. -/
def isBlankChar (c : Char) : Bool :=
  c == ' ' || (9 ≤ c.toNat && c.toNat ≤ 13) || c.toNat == 0x85 || c.toNat == 0xa0 ||
    c.toNat == 0x1680 || (0x2000 ≤ c.toNat && c.toNat ≤ 0x200a) || c.toNat == 0x2028 ||
    c.toNat == 0x2029 || c.toNat == 0x202f || c.toNat == 0x205f || c.toNat == 0x3000

/-- The text without blanks at its ends. -/
def trimBlanks (text : Text) : Text :=
  ((text.dropWhile isBlankChar).reverse.dropWhile isBlankChar).reverse

end LiteralMark
