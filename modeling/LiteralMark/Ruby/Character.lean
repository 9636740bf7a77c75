import LiteralMark.Text.Bytes
/-!
# Characters of Ruby source

The classes of characters that decide where a name, a blank or a number
ends.
-/

namespace LiteralMark.Ruby

/-- A blank, a line break or another separator of lines or pages. -/
def isBlank (c : Char) : Bool := c == ' ' || (9 ≤ c.toNat && c.toNat ≤ 13)

/-- The characters that end a name besides blanks and controls. -/
def punctuation : Text := ":;`\"'@$#.,|^&<=>+-*/\\%?!~()[]\x7b\x7d".toList

/-- A character of a name: everything but blanks, controls and
punctuation, letters of all scripts among it. -/
def isNameChar (c : Char) : Bool :=
  0x20 < c.toNat && !punctuation.contains c

/-- A digit. -/
def isDigit (c : Char) : Bool := '0' ≤ c && c ≤ '9'

/-- A capital letter of the Latin alphabet, which starts a constant. -/
def isUpper (c : Char) : Bool := 'A' ≤ c && c ≤ 'Z'

/-- A small letter of the Latin alphabet. -/
def isLower (c : Char) : Bool := 'a' ≤ c && c ≤ 'z'

/-- A letter of the Latin alphabet. -/
def isLetter (c : Char) : Bool := isUpper c || isLower c

/-- A letter of the Latin alphabet or an underscore. -/
def isWordStart (c : Char) : Bool := isLetter c || c == '_'

/-- A letter or digit of the Latin alphabet, or an underscore. -/
def isWordChar (c : Char) : Bool := isWordStart c || isDigit c

/-- A hexadecimal digit. -/
def isHex (c : Char) : Bool := isDigit c || ('a' ≤ c && c ≤ 'f') || ('A' ≤ c && c ≤ 'F')

/-- An octal digit. -/
def isOctal (c : Char) : Bool := '0' ≤ c && c ≤ '7'

/-- The characters that name a global variable alone. -/
def specialVariables : Text := "!@&`'+~=/\\,;.<>*$?:\"".toList

end LiteralMark.Ruby
