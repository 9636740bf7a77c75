import LiteralMark.Text.Alphanumeric
import LiteralMark.Text.Blank
/-!
# Patterns

The value that a field must have is given as a pattern, a regular
expression. No event is matched against one, but a filter is refused if a
pattern is malformed, is nested too deeply or needs word boundaries that
are not those of plain ASCII.

A value holds no comma, no equals sign and no closing brace, so nothing
in braces is ever complete.
-/

namespace LiteralMark.Log

/-- Why a pattern is refused. -/
inductive PatternError
  | malformed
  | wordBoundary
deriving DecidableEq, Repr

namespace PatternError

/-- The text of the error. -/
def message : PatternError → String
  | malformed => "error building NFA"
  | wordBoundary =>
    "unsupported regex feature for DFAs: cannot build DFAs for regexes with Unicode word " ++
      "boundaries; switch to ASCII word boundaries, or heuristically enable Unicode word " ++
      "boundaries or use a different regex engine"

end PatternError

namespace Pattern

/-- How the text of a pattern is read. -/
structure Modes where
  /-- Blanks and comments between parts mean nothing. -/
  spaced : Bool := false
  /-- Parts stand for characters and not for bytes. -/
  unicode : Bool := true
deriving DecidableEq, Repr

/-- What has to be known of a part of a pattern. -/
structure Shape where
  /-- How deeply parts are nested in it. -/
  depth : Nat := 0
  /-- Whether it has a word boundary that is not one of ASCII. -/
  boundary : Bool := false
deriving DecidableEq, Repr

namespace Shape

/-- A shape inside another part. -/
def nested (s : Shape) : Shape := { s with depth := s.depth + 1 }

/-- Several shapes side by side. One alone is not nested. -/
def together : List Shape → Shape
  | [] => {}
  | [s] => s
  | ss => ⟨ss.foldl (fun n s => max n s.depth) 0 + 1, ss.any (·.boundary)⟩

end Shape

/-- The text behind blanks and comments; `comment` says whether a comment
is open. -/
def skipBlanks : (comment : Bool) → Text → Text
  | _, [] => []
  | true, c :: rest => skipBlanks (c ≠ '\n') rest
  | false, c :: rest =>
    if isBlankChar c then skipBlanks false rest
    else if c = '#' then skipBlanks true rest
    else c :: rest

/-- The text from the next part on. -/
def Modes.skip (m : Modes) (text : Text) : Text := if m.spaced then skipBlanks false text else text

/-! ## Escapes -/

/-- What an escape stands for. -/
inductive Escape
  /-- A character, or a byte. -/
  | char (code : Nat) (byte : Bool)
  /-- A class of characters; `beyond` says whether bytes outside ASCII
  belong to it. -/
  | class_ (beyond : Bool)
  /-- A place between characters. -/
  | place (boundary : Bool)

/-- The value of a hexadecimal digit. -/
def hexDigit? (c : Char) : Option Nat :=
  if c.isDigit then some (c.toNat - '0'.toNat)
  else if 'a' ≤ c && c ≤ 'f' then some (c.toNat - 'a'.toNat + 10)
  else if 'A' ≤ c && c ≤ 'F' then some (c.toNat - 'A'.toNat + 10)
  else none

/-- Reads a number of hexadecimal digits. -/
def hexNumber? (m : Modes) : (digits : Nat) → (value : Nat) → Text → Option (Nat × Text)
  | 0, value, text => some (value, text)
  | n + 1, value, text =>
    match m.skip text with
    | [] => none
    | c :: rest => (hexDigit? c).bind fun d => hexNumber? m n (16 * value + d) rest

/-- Reads the code of a character. -/
def charCode? (m : Modes) (digits : Nat) (text : Text) : Option (Escape × Text) := do
  let (n, rest) ← hexNumber? m digits 0 text
  if n < 0xd800 || (0xe000 ≤ n && n < 0x110000) then some (.char n (digits = 2), rest) else none

/-- The code of the control character that a letter stands for. -/
def control? : Char → Option Nat
  | 'a' => some 7
  | 't' => some 9
  | 'n' => some 10
  | 'v' => some 11
  | 'f' => some 12
  | 'r' => some 13
  | _ => none

/-- Reads an escape, of which the backslash has been read. -/
def escape? (m : Modes) : Text → Option (Escape × Text)
  | [] => none
  | c :: rest =>
    if c = 'x' then charCode? m 2 rest
    else if c = 'u' then charCode? m 4 rest
    else if c = 'U' then charCode? m 8 rest
    else if c = 'p' || c = 'P' then
      match rest with
      | d :: rest =>
        if m.unicode && "CLMNPSZclmnpsz".toList.contains d then some (.class_ true, rest) else none
      | [] => none
    else if "dsw".toList.contains c then some (.class_ false, rest)
    else if "DSW".toList.contains c then some (.class_ true, rest)
    else if let some n := control? c then some (.char n false, rest)
    else if c = 'A' || c = 'z' then some (.place false, rest)
    else if c = 'b' && rest.head? = some '\x7b' then none
    else if "bB<>".toList.contains c then some (.place m.unicode, rest)
    else if c.isAlphanum || c.toNat ≥ 128 then none
    else some (.char c.toNat false, rest)

/-! ## Classes in brackets -/

/-- A set of characters in brackets: how deeply sets are nested in it, and
whether bytes outside ASCII belong to it. -/
structure Set_ where
  depth : Nat := 0
  beyond : Bool := false

/-- How two sets are combined. -/
inductive Combination
  | intersection
  | difference
  | symmetricDifference

namespace Set_

/-- The union of some sets. One alone is not nested. -/
def union : List Set_ → Set_
  | [] => {}
  | [s] => s
  | ss => ⟨ss.foldl (fun n s => max n s.depth) 0 + 1, ss.any (·.beyond)⟩

/-- Two sets combined. -/
def combine (a b : Set_) : Combination → Set_
  | .intersection => ⟨max a.depth b.depth + 1, a.beyond && b.beyond⟩
  | .difference => ⟨max a.depth b.depth + 1, a.beyond && !b.beyond⟩
  | .symmetricDifference => ⟨max a.depth b.depth + 1, a.beyond != b.beyond⟩

end Set_

/-- The names of classes of ASCII characters. -/
def classNames : List String :=
  ["alnum", "alpha", "ascii", "blank", "cntrl", "digit", "graph", "lower", "print", "punct",
    "space", "upper", "word", "xdigit"]

/-- Reads a class of ASCII characters by name, of which the first bracket
has been read. -/
def namedClass? (text : Text) : Option (Set_ × Text) :=
  match text with
  | ':' :: text =>
    let (negated, text) := match text with
      | '^' :: rest => (true, rest)
      | _ => (false, text)
    match text.span (· ≠ ':') with
    | (name, ':' :: ']' :: rest) =>
      if classNames.contains (String.ofList name) then some (⟨0, negated⟩, rest) else none
    | _ => none
  | _ => none

/-- Reads a member of a set. -/
def member? (m : Modes) : Text → Option (Escape × Text)
  | [] => none
  | '\\' :: rest => escape? m rest
  | c :: rest => some (.char c.toNat false, rest)

/-- The set of a member that is no end of a range. -/
def memberSet? (m : Modes) : Escape → Option Set_
  | .char n byte =>
    if !m.unicode && n ≥ 128 && !byte then none else some ⟨0, n ≥ 128⟩
  | .class_ beyond => some ⟨0, beyond⟩
  | .place _ => none

/-- Reads a member or a range of members. -/
def range? (m : Modes) (text : Text) : Option (Set_ × Text) := do
  let (first, rest) ← member? m text
  let single := (memberSet? m first).map (·, m.skip rest)
  match m.skip rest with
  | '-' :: after =>
    match m.skip after with
    | ']' :: _ | '-' :: _ => single
    | after =>
      let (last, rest) ← member? m after
      match first, last with
      | .char a _, .char b _ =>
        let low ← memberSet? m first
        let high ← memberSet? m last
        if a ≤ b then some (⟨0, low.beyond || high.beyond⟩, rest) else none
      | _, _ => none
  | [] => none
  | _ => single

/-- Reads the dashes at the start of a set. -/
def dashes (m : Modes) : (n : Nat) → Text → List Set_ × Text
  | 0, text => ([], text)
  | n + 1, text =>
    match m.skip text with
    | '-' :: rest =>
      let (found, rest) := dashes m n rest
      ({} :: found, rest)
    | text => ([], text)

/-- A set that is being read. -/
structure OpenSet where
  negated : Bool
  /-- The members since the last combination. -/
  members : List Set_
  /-- What stands in front of the last combination. -/
  left : Option (Set_ × Combination) := none

namespace OpenSet

/-- The set so far. -/
def value (s : OpenSet) : Set_ :=
  let right := Set_.union s.members
  match s.left with
  | some (left, how) => left.combine right how
  | none => right

/-- The set when its bracket has been closed. -/
def closed (s : OpenSet) : Set_ :=
  let inner := s.value
  ⟨inner.depth + 1, inner.beyond != s.negated⟩

/-- Adds a member. -/
def add (s : OpenSet) (member : Set_) : OpenSet := { s with members := s.members ++ [member] }

/-- Starts what the set is combined with. -/
def combineWith (s : OpenSet) (how : Combination) : OpenSet :=
  { s with members := [], left := some (s.value, how) }

end OpenSet

/-- Reads the start of a set, of which the bracket has been read. A dash
or a closing bracket there is a member. -/
def openSet (m : Modes) (text : Text) : OpenSet × Text :=
  let (negated, text) := match m.skip text with
    | '^' :: rest => (true, rest)
    | text => (false, text)
  let (members, rest) := dashes m text.length text
  match members, m.skip rest with
  | [], ']' :: rest => (⟨negated, [{}], none⟩, rest)
  | _, rest => (⟨negated, members, none⟩, rest)

/-- Reads on in a set, up to the bracket that closes it, in at most `n`
steps. The sets around it are given. -/
def set? (m : Modes) : (n : Nat) → (around : List OpenSet) → OpenSet → Text → Option (Set_ × Text)
  | 0, _, _, _ => none
  | n + 1, around, s, text =>
    match m.skip text with
    | [] => none
    | '[' :: rest =>
      match namedClass? rest with
      | some (c, rest) => set? m n around (s.add c) rest
      | none =>
        let (inner, rest) := openSet m rest
        set? m n (s :: around) inner rest
    | ']' :: rest =>
      match around with
      | [] => some (s.closed, rest)
      | outer :: around => set? m n around (outer.add s.closed) rest
    | '&' :: '&' :: rest => set? m n around (s.combineWith .intersection) rest
    | '-' :: '-' :: rest => set? m n around (s.combineWith .difference) rest
    | '~' :: '~' :: rest => set? m n around (s.combineWith .symmetricDifference) rest
    | text =>
      match range? m text with
      | some (c, rest) => set? m n around (s.add c) rest
      | none => none

/-! ## Groups -/

/-- A group that is being read. -/
structure Group where
  modes : Modes := {}
  /-- The alternatives that are complete. -/
  alternatives : List Shape := []
  /-- The parts of the last alternative, the last first; none is a change
  of the modes. -/
  parts : List (Option Shape) := []

namespace Group

/-- The shape of the last alternative. -/
def alternative (g : Group) : Shape := Shape.together (g.parts.map (·.getD {}))

/-- The shape of a group. -/
def shape (g : Group) : Shape := Shape.together (g.alternatives ++ [g.alternative])

/-- Adds a part. -/
def add (g : Group) (s : Shape) : Group := { g with parts := some s :: g.parts }

/-- Starts another alternative. -/
def nextAlternative (g : Group) : Group :=
  { g with alternatives := g.alternatives ++ [g.alternative], parts := [] }

/-- Repeats the last part. -/
def repeat_? (g : Group) : Option Group :=
  match g.parts with
  | some s :: parts => some { g with parts := some s.nested :: parts }
  | _ => none

end Group

/-- A pattern that is being read. -/
structure Reading where
  group : Group := {}
  /-- The groups around, the innermost first. -/
  around : List Group := []
  /-- The names of groups. -/
  names : List Text := []

/-- Reads the letters that change modes, up to a colon or a parenthesis.
`seen` are the letters so far, and `on` says whether modes are set. -/
def modeLetters? : (seen : Text) → (on : Bool) → Modes → Text → Option (Modes × Text)
  | _, _, _, [] => none
  | seen, on, m, c :: rest =>
    if c = ':' || c = ')' then if seen.head? = some '-' then none else some (m, c :: rest)
    else if seen.contains c then none
    else if c = '-' then modeLetters? (c :: seen) false m rest
    else if c = 'x' then modeLetters? (c :: seen) on { m with spaced := on } rest
    else if c = 'u' then modeLetters? (c :: seen) on { m with unicode := on } rest
    else if "imsUR".toList.contains c then modeLetters? (c :: seen) on m rest
    else none

/-- Whether a name is one of a group. -/
def isGroupName : Text → Bool
  | [] => false
  | c :: rest =>
    (c = '_' || (isAlphanumeric c && !c.isDigit)) &&
      rest.all fun d => d = '_' || d = '.' || d = '[' || d = ']' || isAlphanumeric d

namespace Reading

/-- Opens a group in some modes. -/
def openGroup (r : Reading) (m : Modes) : Reading :=
  { r with group := { modes := m }, around := r.group :: r.around }

/-- Opens a group with a name, of which the angle has been read. -/
def openNamed? (r : Reading) (text : Text) : Option (Reading × Text) :=
  match text.span (· ≠ '>') with
  | (name, '>' :: rest) =>
    if isGroupName name && !r.names.contains name then
      some ({ r with names := name :: r.names }.openGroup r.group.modes, rest)
    else none
  | _ => none

/-- Opens a group, or changes the modes, behind a parenthesis. -/
def openParenthesis? (r : Reading) (text : Text) : Option (Reading × Text) :=
  match r.group.modes.skip text with
  | '?' :: 'P' :: '<' :: rest => r.openNamed? rest
  | '?' :: '<' :: rest => r.openNamed? rest
  | '?' :: rest =>
    match modeLetters? [] true r.group.modes rest with
    | some (m, ':' :: after) => some (r.openGroup m, after)
    | some (m, _ :: after) =>
      if rest.head? = some ')' then none
      else some ({ r with group := { r.group with modes := m, parts := none :: r.group.parts } }, after)
    | _ => none
  | text => some (r.openGroup r.group.modes, text)

/-- Closes a group. -/
def closeParenthesis? (r : Reading) : Option Reading :=
  match r.around with
  | [] => none
  | outer :: around => some { r with group := outer.add r.group.shape.nested, around := around }

/-- Adds a part to a pattern. -/
def add (r : Reading) (s : Shape) : Reading := { r with group := r.group.add s }

/-- Reads a part that starts with a character of its own. -/
def part? (r : Reading) (c : Char) (rest : Text) : Option (Reading × Text) :=
  let m := r.group.modes
  if c = '.' then if m.unicode then some (r.add {}, rest) else none
  else if c = '\\' then
    match escape? m rest with
    | some (.char n byte, rest) =>
      if byte && !m.unicode && n ≥ 128 then none else some (r.add {}, rest)
    | some (.class_ beyond, rest) =>
      if !m.unicode && beyond then none else some (r.add {}, rest)
    | some (.place boundary, rest) => some (r.add { boundary }, rest)
    | none => none
  else some (r.add {}, rest)

/-- Reads a part of a pattern. -/
def next? (r : Reading) (c : Char) (rest : Text) : Option (Reading × Text) :=
  let m := r.group.modes
  if c = '(' then r.openParenthesis? rest
  else if c = ')' then r.closeParenthesis?.map (·, rest)
  else if c = '|' then some ({ r with group := r.group.nextAlternative }, rest)
  else if c = '[' then
    let (s, rest) := openSet m rest
    match set? m (rest.length + 1) [] s rest with
    | some (found, rest) =>
      if !m.unicode && found.beyond then none else some (r.add { depth := found.depth }, rest)
    | none => none
  else if c = '?' || c = '*' || c = '+' then
    r.group.repeat_?.map fun g =>
      ({ r with group := g }, if rest.head? = some '?' then rest.tail else rest)
  else if c = '\x7b' then none
  else r.part? c rest

/-- Reads the rest of a pattern, in at most `n` steps. -/
def finish? (r : Reading) : (n : Nat) → Text → Option Shape
  | 0, _ => none
  | n + 1, text =>
    match r.group.modes.skip text with
    | [] => if r.around.isEmpty then some r.group.shape else none
    | c :: rest => (r.next? c rest).bind fun (r, rest) => r.finish? n rest

end Reading

/-- How deeply the parts of a pattern may be nested. -/
def maxDepth : Nat := 250

end Pattern

/-- Checks a pattern. -/
def checkPattern (text : Text) : Except PatternError Unit :=
  match ({} : Pattern.Reading).finish? (text.length + 1) text with
  | none => .error .malformed
  | some s =>
    if s.depth > Pattern.maxDepth then .error .malformed
    else if s.boundary then .error .wordBoundary
    else .ok ()

/-! ## Values -/

/-- Whether a text is an optional sign and then something else. -/
def unsigned (text : Text) : Text :=
  match text with
  | '+' :: rest | '-' :: rest => rest
  | _ => text

/-- Whether a text is the exponent of a number, or nothing. -/
def isExponent : Text → Bool
  | [] => true
  | c :: rest =>
    let digits := unsigned rest
    (c = 'e' || c = 'E') && !digits.isEmpty && digits.all Char.isDigit

/-- Whether a text is a number without a sign. -/
def isUnsignedNumber (text : Text) : Bool :=
  let (whole, rest) := text.span Char.isDigit
  match rest with
  | '.' :: rest =>
    let (fraction, rest) := rest.span Char.isDigit
    !(whole.isEmpty && fraction.isEmpty) && isExponent rest
  | rest => !whole.isEmpty && isExponent rest

/-- Whether a text is a number, with a point or not, or the name of one. -/
def isNumber (text : Text) : Bool :=
  let body := unsigned text
  isUnsignedNumber body ||
    ["inf", "infinity", "nan"].contains (String.ofList (body.map Char.toLower))

/-- Checks the value that a field must have: a number, or else a
pattern. -/
def checkValue (text : Text) : Except PatternError Unit :=
  if isNumber text then .ok () else checkPattern text

end LiteralMark.Log
