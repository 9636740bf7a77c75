import LiteralMark.Ruby.Character
import LiteralMark.Ruby.Lexeme.Pattern
import LiteralMark.Ruby.Token
/-!
# How tokens are spelled

The pattern of every token that is told by its own text.
-/

namespace LiteralMark.Ruby

namespace Pattern

/-- The rest of a name. -/
def nameRest : Pattern := many (char isNameChar)

/-- The start of a name that is no constant. -/
def smallStart : Pattern := char fun c => isNameChar c && !isDigit c && !isUpper c

/-- The start of the name of an instance or class variable. -/
def nameStart : Pattern := char fun c => isNameChar c && !isDigit c

/-- Everything up to the end of the line. -/
def line : Pattern := many (char (· ≠ '\n'))

/-- A comment of several lines, from `=begin` to `=end`. -/
def longComment : Pattern :=
  sequence [word "=begin", line, optional (word "\r"), word "\n",
    many (choice [char (· ≠ '='), sequence [word "=", char (· ≠ 'e')],
      sequence [word "=e", char (· ≠ 'n')], sequence [word "=en", char (· ≠ 'd')]]),
    many (char fun c => isBlank c || c == '*'), word "=end", line]

/-- An integer. -/
def integer : Pattern :=
  choice [sequence [word "0", oneOf "bB", digits fun c => c == '0' || c == '1'],
    sequence [word "0", optional (oneOf "oO"), digits isOctal],
    sequence [optional (sequence [word "0", oneOf "dD"]), digits isDigit],
    sequence [word "0", oneOf "xX", digits isHex]]

/-- A number with a fraction or an exponent. -/
def float : Pattern :=
  sequence [digits isDigit, optional (sequence [word ".", char isDigit]),
    many (sequence [optional (word "_"), char isDigit]),
    optional (sequence [oneOf "eE", optional (oneOf "+-"), digits isDigit])]

/-- A global variable. -/
def globalVariable : Pattern :=
  sequence [word "$", choice [sequence [word "-", char isWordChar], char specialVariables.contains,
    repeated (char isDigit), sequence [char isWordStart, many (char isWordChar)]]]

/-- A character behind a question mark. -/
def character : Pattern :=
  let solid := char fun c => !isBlank c
  sequence [word "?",
    choice [sequence [word "\\", solid,
        optional (choice [sequence [word "\x7b", many (char isHex), word "\x7d"], many (char isHex),
          sequence [word "-", solid, optional (sequence [oneOf "MC", word "-", solid])]])],
      solid]]

/-- A character that is written with a backslash. -/
def escape : Pattern :=
  let hex := char isHex
  sequence [word "\\",
    choice [char fun c => c ≠ 'u' && c ≠ 'x' && !isOctal c,
      sequence [word "x", hex, optional hex],
      sequence [word "u", hex, hex, hex, hex],
      sequence [word "u\x7b", repeated (char fun c => isHex c || c == ' '), word "\x7d"],
      sequence [char isOctal, optional (sequence [char isOctal, optional (char isOctal)])]]]

end Pattern

/-- The letters of the tokens that are always spelled the same. -/
def letterTable : Array Text :=
  (Token.all.map fun t => (t.spelling?.getD "").toList).toArray

namespace Token

/-- The letters of a token that is always spelled the same. -/
def letters (t : Token) : Text := letterTable.getD t.ctorIdx []

open Pattern in
/-- The pattern of a token. -/
def pattern : Token → Pattern
  | .identifier => seq smallStart nameRest
  | .identifierQuery => sequence [smallStart, nameRest, word "?"]
  | .constant => seq (char isUpper) nameRest
  | .constantQuery => sequence [char isUpper, nameRest, word "?"]
  | .instanceVariable => sequence [word "@", nameStart, nameRest]
  | .classVariable => sequence [word "@@", nameStart, nameRest]
  | .globalVariable => Pattern.globalVariable
  | .integer => Pattern.integer
  | .float => Pattern.float
  | .character => Pattern.character
  | .escapeSequence => escape
  | .blanks => repeated (char isBlank)
  | .comment => alt (seq (word "#") line) longComment
  | .data => many (char fun _ => true)
  | t => text t.letters

/-- How much a token is preferred to others of the same length: a fixed
spelling to a pattern, a tight token to one that need not be, and any
token to a comment. -/
def preference (t : Token) : Nat :=
  if t = .comment then 0
  else if t.letters.isEmpty then 1
  else if t.isTight then 3
  else 2

/-- The tokens that are told by their own text, with their patterns. -/
def patterns : List (Token × Pattern) := plain.map fun t => (t, t.pattern)

end Token

end LiteralMark.Ruby
