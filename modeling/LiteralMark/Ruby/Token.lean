import LiteralMark.BitSet
import LiteralMark.Text.Bytes
/-!
# Tokens

The tokens of Ruby. Most have a fixed spelling. A *tight* token is one
that follows the token before it without a blank: the parenthesis of
`f(x)` is tight and the one of `f (x)` is not. The tokens from
`lineBreak` on cannot be told by their own text alone; which of them
stands in a place depends on what is around it.

The order of the tokens is the order in which they are tried where one
of them may be missing from a text.
-/

namespace LiteralMark.Ruby

/-- The tokens of Ruby. -/
inductive Token
  | endOfText | identifier | dataMark | data | capitalBegin | braceLeft | braceRight
  | capitalEnd | def_ | parenLeft | parenRight | dot | colons | end_ | rescue_ | assign | comma
  | bar | semicolon | threeDots | star | starStar | nil_ | ampersand | tightColon | class_
  | less | module_ | return_ | yield_ | break_ | next_ | redo_ | retry_ | if_ | unless_
  | while_ | until_ | for_ | in_ | do_ | case_ | when_ | fatArrow | bracketLeft | bracketRight
  | tightBracketLeft | tightParenLeft | twoDots | lineWord | fileWord | encodingWord | caret
  | elsif_ | else_ | then_ | begin_ | ensure_ | tightColons | safeDot | plusAssign
  | minusAssign | starAssign | starStarAssign | slashAssign | barBarAssign | barAssign
  | ampersandsAssign | ampersandAssign | percentAssign | shiftRightAssign | shiftLeftAssign
  | caretAssign | question | colon | and_ | or_ | barBar | ampersands | shiftLeft | shiftRight
  | lessEqual | greater | greaterEqual | plus | slash | percent | equal | unequal | caseEqual
  | spaceship | matching | notMatching | defined_ | not_ | bang | tilde | minus | plusAt
  | minusAt | tildeAt | brackets | bracketsAssign | backtick | tightAssign | undef_ | alias_
  | comment | integer | float | imaginaryMark | rationalImaginaryMark | rationalMark | super_
  | self_ | true_ | false_ | constant | constantQuery | identifierQuery | instanceVariable
  | classVariable | globalVariable | character | interpolationLeft | blanks | escapeSequence
  | thinArrow
  | lineBreak | noLineBreak | simpleSymbol | stringStart | symbolStart | subshellStart
  | regexStart | stringArrayStart | symbolArrayStart | heredocBodyStart | stringContent
  | heredocContent | stringEnd | heredocEnd | heredocBeginning | blockAmpersand | splatStar
  | unaryMinus | unaryMinusNumber | binaryMinus | binaryStar | singletonArrow | hashKey
  | identifierBang | constantBang | hashSplat | binaryPower | indexBracket
  | shortInterpolation
  /-- Not in the text: what follows the body of a here document. -/
  | endOfExtra
deriving DecidableEq, Repr, Inhabited

instance : Numbered Token := ⟨Token.ctorIdx⟩

/-- A set of tokens. -/
abbrev TokenSet := BitSet Token

namespace Token

/-- All tokens, in order. -/
def all : List Token := [
    .endOfText, .identifier, .dataMark, .data, .capitalBegin, .braceLeft, .braceRight,
    .capitalEnd, .def_, .parenLeft, .parenRight, .dot, .colons, .end_, .rescue_, .assign,
    .comma, .bar, .semicolon, .threeDots, .star, .starStar, .nil_, .ampersand, .tightColon,
    .class_, .less, .module_, .return_, .yield_, .break_, .next_, .redo_, .retry_, .if_,
    .unless_, .while_, .until_, .for_, .in_, .do_, .case_, .when_, .fatArrow, .bracketLeft,
    .bracketRight, .tightBracketLeft, .tightParenLeft, .twoDots, .lineWord, .fileWord,
    .encodingWord, .caret, .elsif_, .else_, .then_, .begin_, .ensure_, .tightColons, .safeDot,
    .plusAssign, .minusAssign, .starAssign, .starStarAssign, .slashAssign, .barBarAssign,
    .barAssign, .ampersandsAssign, .ampersandAssign, .percentAssign, .shiftRightAssign,
    .shiftLeftAssign, .caretAssign, .question, .colon, .and_, .or_, .barBar, .ampersands,
    .shiftLeft, .shiftRight, .lessEqual, .greater, .greaterEqual, .plus, .slash, .percent,
    .equal, .unequal, .caseEqual, .spaceship, .matching, .notMatching, .defined_, .not_, .bang,
    .tilde, .minus, .plusAt, .minusAt, .tildeAt, .brackets, .bracketsAssign, .backtick,
    .tightAssign, .undef_, .alias_, .comment, .integer, .float, .imaginaryMark,
    .rationalImaginaryMark, .rationalMark, .super_, .self_, .true_, .false_, .constant,
    .constantQuery, .identifierQuery, .instanceVariable, .classVariable, .globalVariable,
    .character, .interpolationLeft, .blanks, .escapeSequence, .thinArrow, .lineBreak,
    .noLineBreak, .simpleSymbol, .stringStart, .symbolStart, .subshellStart, .regexStart,
    .stringArrayStart, .symbolArrayStart, .heredocBodyStart, .stringContent, .heredocContent,
    .stringEnd, .heredocEnd, .heredocBeginning, .blockAmpersand, .splatStar, .unaryMinus,
    .unaryMinusNumber, .binaryMinus, .binaryStar, .singletonArrow, .hashKey, .identifierBang,
    .constantBang, .hashSplat, .binaryPower, .indexBracket, .shortInterpolation, .endOfExtra]

/-- The text of a token that is always spelled the same. -/
def spelling? : Token → Option String
  | .dataMark => some "__END__"
  | .capitalBegin => some "BEGIN"
  | .braceLeft => some "\x7b"
  | .braceRight => some "\x7d"
  | .capitalEnd => some "END"
  | .def_ => some "def"
  | .parenLeft => some "("
  | .parenRight => some ")"
  | .dot => some "."
  | .colons => some "::"
  | .end_ => some "end"
  | .rescue_ => some "rescue"
  | .assign => some "="
  | .comma => some ","
  | .bar => some "|"
  | .semicolon => some ";"
  | .threeDots => some "..."
  | .star => some "*"
  | .starStar => some "**"
  | .nil_ => some "nil"
  | .ampersand => some "&"
  | .tightColon => some ":"
  | .class_ => some "class"
  | .less => some "<"
  | .module_ => some "module"
  | .return_ => some "return"
  | .yield_ => some "yield"
  | .break_ => some "break"
  | .next_ => some "next"
  | .redo_ => some "redo"
  | .retry_ => some "retry"
  | .if_ => some "if"
  | .unless_ => some "unless"
  | .while_ => some "while"
  | .until_ => some "until"
  | .for_ => some "for"
  | .in_ => some "in"
  | .do_ => some "do"
  | .case_ => some "case"
  | .when_ => some "when"
  | .fatArrow => some "=>"
  | .bracketLeft => some "["
  | .bracketRight => some "]"
  | .tightBracketLeft => some "["
  | .tightParenLeft => some "("
  | .twoDots => some ".."
  | .lineWord => some "__LINE__"
  | .fileWord => some "__FILE__"
  | .encodingWord => some "__ENCODING__"
  | .caret => some "^"
  | .elsif_ => some "elsif"
  | .else_ => some "else"
  | .then_ => some "then"
  | .begin_ => some "begin"
  | .ensure_ => some "ensure"
  | .tightColons => some "::"
  | .safeDot => some "&."
  | .plusAssign => some "+="
  | .minusAssign => some "-="
  | .starAssign => some "*="
  | .starStarAssign => some "**="
  | .slashAssign => some "/="
  | .barBarAssign => some "||="
  | .barAssign => some "|="
  | .ampersandsAssign => some "&&="
  | .ampersandAssign => some "&="
  | .percentAssign => some "%="
  | .shiftRightAssign => some ">>="
  | .shiftLeftAssign => some "<<="
  | .caretAssign => some "^="
  | .question => some "?"
  | .colon => some ":"
  | .and_ => some "and"
  | .or_ => some "or"
  | .barBar => some "||"
  | .ampersands => some "&&"
  | .shiftLeft => some "<<"
  | .shiftRight => some ">>"
  | .lessEqual => some "<="
  | .greater => some ">"
  | .greaterEqual => some ">="
  | .plus => some "+"
  | .slash => some "/"
  | .percent => some "%"
  | .equal => some "=="
  | .unequal => some "!="
  | .caseEqual => some "==="
  | .spaceship => some "<=>"
  | .matching => some "=~"
  | .notMatching => some "!~"
  | .defined_ => some "defined?"
  | .not_ => some "not"
  | .bang => some "!"
  | .tilde => some "~"
  | .minus => some "-"
  | .plusAt => some "+@"
  | .minusAt => some "-@"
  | .tildeAt => some "~@"
  | .brackets => some "[]"
  | .bracketsAssign => some "[]="
  | .backtick => some "\x60"
  | .tightAssign => some "="
  | .undef_ => some "undef"
  | .alias_ => some "alias"
  | .imaginaryMark => some "i"
  | .rationalImaginaryMark => some "ri"
  | .rationalMark => some "r"
  | .super_ => some "super"
  | .self_ => some "self"
  | .true_ => some "true"
  | .false_ => some "false"
  | .interpolationLeft => some "#\x7b"
  | .thinArrow => some "->"
  | _ => none

/-- Whether no blank stands in front of the token. -/
def isTight : Token → Bool
  | .tightColon | .tightBracketLeft | .tightParenLeft | .tightColons | .tightAssign
  | .imaginaryMark | .rationalImaginaryMark | .rationalMark => true
  | _ => false

/-- The words that are read as identifiers where they are not expected. -/
def keywords : List Token := [
    .dataMark, .def_, .end_, .rescue_, .nil_, .class_, .module_, .return_, .yield_, .break_,
    .next_, .redo_, .retry_, .if_, .unless_, .while_, .until_, .for_, .in_, .do_, .case_, .when_,
    .lineWord, .fileWord, .encodingWord, .elsif_, .else_, .then_, .begin_, .ensure_, .and_, .or_,
    .not_, .undef_, .alias_, .imaginaryMark, .rationalImaginaryMark, .rationalMark, .super_,
    .self_, .true_, .false_]

/-- The tokens that can be told only from their surroundings. The slash is
among them: it divides, or it opens a regular expression. -/
def contextual : List Token := [
    .lineBreak, .noLineBreak, .simpleSymbol, .stringStart, .symbolStart, .subshellStart,
    .regexStart, .stringArrayStart, .symbolArrayStart, .heredocBodyStart, .stringContent,
    .heredocContent, .stringEnd, .heredocEnd, .heredocBeginning, .slash, .blockAmpersand,
    .splatStar, .unaryMinus, .unaryMinusNumber, .binaryMinus, .binaryStar, .singletonArrow,
    .hashKey, .identifierBang, .constantBang, .hashSplat, .binaryPower, .indexBracket,
    .shortInterpolation]

/-- The tokens that are told by their own text. -/
def plain : List Token :=
  all.filter fun t => t ≠ .endOfText && t.ctorIdx < lineBreak.ctorIdx

end Token

end LiteralMark.Ruby
