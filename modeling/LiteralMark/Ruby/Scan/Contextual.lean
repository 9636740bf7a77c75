import LiteralMark.Ruby.Scan.Heredoc
/-!
# Tokens told by their surroundings

A star multiplies or spreads, a minus subtracts or negates, a bracket
indexes or opens an array. Which of them it is depends on what is
expected and on the blanks around it. The starts of literals, the text
inside them and the line breaks are found here too.
-/

namespace LiteralMark.Ruby

/-- The first of some tokens that is expected and whose condition holds. -/
def firstExpected (expected : TokenSet) (choices : List (Token × Bool)) : Option Token :=
  (choices.find? fun (t, holds) => holds && expected.contains t).map (·.1)

/-! ## Operators -/

/-- Reads an ampersand in front of a block argument. -/
def scanAmpersand? (scan : Scan) (s : Skipping) : Option Scanned :=
  let s := s.read
  let c := s.here.peek
  if c ≠ '&' && c ≠ '.' && c ≠ '=' && !isBlank c then some (s.token .blockAmpersand scan)
  else none

/-- Reads the arrow in front of the object whose own class is opened. -/
def scanArrow? (scan : Scan) (s : Skipping) : Option Scanned :=
  if s.read.here.peek = '<' then some (s.read.read.token .singletonArrow scan) else none

/-- Reads one star or two. Without a blank in front it is an operator,
and with a blank in front and none behind it spreads a value. -/
def scanStar? (scan : Scan) (expected : TokenSet) (s : Skipping) : Option Scanned :=
  let tight := !s.blanks
  let s := s.read
  let c := s.here.peek
  if c = '=' then none
  else if c ≠ '*' then
    let open_ := !isBlank c
    (firstExpected expected [(.binaryStar, tight), (.splatStar, open_), (.binaryStar, true),
      (.splatStar, true)]).map (s.token · scan)
  else
    let s := s.read
    let c := s.here.peek
    if c = '=' then none
    else
      let open_ := !isBlank c
      (firstExpected expected [(.binaryPower, tight), (.hashSplat, open_), (.binaryPower, true),
        (.hashSplat, true)]).map (s.token · scan)

/-- Reads a minus. In front of a digit it belongs to the number, unless it
could be an operator and no blank stands in front of it. -/
def scanMinus? (scan : Scan) (expected : TokenSet) (s : Skipping) : Option Scanned :=
  let blanks := s.blanks
  let s := s.read
  let c := s.here.peek
  if c = '=' || c = '>' then none
  else
    let number := (!expected.contains .binaryStar || blanks) && isDigit c
    (firstExpected expected [(.unaryMinusNumber, number), (.unaryMinus, blanks && !isBlank c),
      (.binaryMinus, true), (.unaryMinus, true)]).map (s.token · scan)

/-! ## Symbols -/

/-- A character of a symbol's name. Only its low byte counts. -/
def isSymbolChar (c : Char) : Bool :=
  let n := lowByte c
  n ≠ 0 && n ≠ 9 && n ≠ 10 && n ≠ 13 && n ≠ 32 && !(punctuation.map Char.toNat).contains n

/-- The place behind one of some characters, if one of them is next. -/
def Cursor.skipOneOf (p : Cursor) (cs : Text) : Cursor :=
  if cs.contains p.peek then p.advance else p

/-- Reads an operator that can be a symbol. -/
def operatorName? (here : Cursor) : Option Cursor :=
  let next := here.advance
  match here.peek with
  | '<' =>
    some (if next.peek = '=' then next.advance.skipOneOf ['>'] else next.skipOneOf ['<'])
  | '>' => some (next.skipOneOf ['>', '='])
  | '=' =>
    if next.peek = '~' then some next.advance
    else if next.peek = '=' then some (next.advance.skipOneOf ['='])
    else none
  | '+' | '-' | '~' => some (next.skipOneOf ['@'])
  | '.' => if next.peek = '.' then some next.advance else none
  | '&' | '^' | '|' | '/' | '%' | '\x60' => some next
  | '!' => some (next.skipOneOf ['=', '~'])
  | '*' => some (next.skipOneOf ['*'])
  | '[' => if next.peek = ']' then some (next.advance.skipOneOf ['=']) else none
  | _ => none

/-- Reads the name of a symbol. An equals sign belongs to it, but not in
front of a greater sign. -/
def symbolName? (here : Cursor) : Option Cursor := do
  let first :=
    if here.peek = '@' then here.advance.skipOneOf ['@'] else here.skipOneOf ['$']
  let second ← if isSymbolChar first.peek then some first.advance else operatorName? first
  let stop := (second.skipWhile isSymbolChar).skipOneOf ['?', '!']
  if stop.peek = '=' && stop.advance.peek ≠ '>' then some stop.advance else some stop

/-- Reads a symbol, or the start of a symbol in quotes. -/
def scanSymbol? (scan : Scan) (s : Skipping) : Option Scanned :=
  let s := s.read
  let c := s.here.peek
  if c = '"' || c = '\'' then
    let l : OpenLiteral :=
      { start := .symbolStart, opening := c, closing := c, interpolates := c = '"' }
    some (s.read.token .symbolStart { scan with literals := l :: scan.literals })
  else
    (symbolName? s.here).map fun stop => { s with here := stop }.token .simpleSymbol scan

/-! ## Words -/

/-- Whether a word may start here that is a key or ends in an exclamation
mark. -/
def startsWord (expected : TokenSet) (c : Char) : Bool :=
  ((expected.contains .hashKey || expected.contains .identifierBang) && isWordStart c) ||
    (expected.contains .constantBang && isUpper c)

/-- Reads a word in front of a colon or up to an exclamation mark. -/
def scanWord? (scan : Scan) (expected : TokenSet) (s : Skipping) : Option Scanned :=
  let marked : Token := if isUpper s.here.peek then .constantBang else .identifierBang
  let s := { s with here := s.here.skipWhile isWordChar }
  let c := s.here.peek
  if expected.contains .hashKey && c = ':' then
    if s.read.here.peek = ':' then none
    else some ({ s with mark := some s.here }.token .hashKey scan)
  else if expected.contains marked && c = '!' then
    if s.read.here.peek = '=' then none else some (s.read.token marked scan)
  else none

/-! ## All of them -/

/-- Reads the start of a literal or of a here document. -/
def scanOpening? (scan : Scan) (expected : TokenSet) (s : Skipping) : Option Scanned :=
  if s.here.peek = '<' then
    (openHeredoc? s.here).map fun (h, stop) =>
      { s with here := stop }.token .heredocBeginning { scan with heredocs := scan.heredocs ++ [h] }
  else
    (openLiteral? expected s.blanks s.here).map fun (l, stop) =>
      { s with here := stop }.token l.start { scan with literals := l :: scan.literals }

/-- Reads a token behind the blanks. -/
def scanBehind? (scan : Scan) (expected : TokenSet) (s : Skipping) : Option Scanned :=
  let c := s.here.peek
  let has := fun t => expected.contains t
  if c = '&' && has .blockAmpersand then scanAmpersand? scan s
  else if c = '<' && has .singletonArrow then scanArrow? scan s
  else if c = '*' && (has .splatStar || has .binaryStar || has .hashSplat || has .binaryPower) then
    scanStar? scan expected s
  else if c = '-' && (has .unaryMinus || has .unaryMinusNumber || has .binaryMinus) then
    scanMinus? scan expected s
  else if c = ':' && has .symbolStart then scanSymbol? scan s
  else if c = '[' && has .indexBracket && (!s.blanks || !has .stringStart) then
    some (s.read.token .indexBracket scan)
  else if startsWord expected c then scanWord? scan expected s
  else if has .stringStart then scanOpening? scan expected s
  else none

/-- Reads a token that depends on its surroundings. Inside a literal its
text is read, unless a literal may start there. -/
def scan? (scan : Scan) (expected : TokenSet) (here : Cursor) : Option Scanned :=
  let here := here.skipOrderMark
  let has := fun t => expected.contains t
  let inside := !has .stringStart
  if inside && (has .stringContent || has .stringEnd) && !scan.literals.isEmpty then
    scanInside? scan here
  else if inside && (has .heredocContent || has .heredocEnd) && !scan.heredocs.isEmpty then
    scanBody? scan here
  else
    match skipBlanks scan expected here with
    | .nothing => none
    | .found t => some t
    | .ready s => scanBehind? scan expected s

end LiteralMark.Ruby
