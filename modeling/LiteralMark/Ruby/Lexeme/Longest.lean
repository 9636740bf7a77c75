import LiteralMark.Ruby.Cursor
import LiteralMark.Ruby.Lexeme.Spelling
/-!
# The longest token

Behind blanks, the token that is looked for is the longest one that the
text starts with. A comment is longer than most tokens and yields to all
others: where a token is complete, no comment goes on. A line break
behind a backslash is a blank.

Where no token is found, it matters how far the text could have been one,
and where the blanks ended.
-/

namespace LiteralMark.Ruby

/-- A place in blanks: between two of them, or behind the first part of an
escaped line break. -/
inductive Blank
  | between
  | escape
  | escapeReturn
deriving DecidableEq, Repr

/-- Where blanks go on behind a character, if they do. -/
def Blank.after (c : Char) : Blank → Option Blank
  | between => if isBlank c then some between else if c = '\\' then some escape else none
  | escape => if c = '\n' then some between else if c = '\r' then some escapeReturn else none
  | escapeReturn => if c = '\n' then some between else none

/-- What has been found at some place of a text. -/
structure Search where
  /-- Where the token starts. -/
  start : Cursor
  /-- The longest token so far and its end. -/
  found : Option (Token × Cursor)
  /-- The place that has been reached. -/
  stop : Cursor

namespace Search

/-- The complete token that is preferred among those under way. -/
def complete? (live : List (Token × Pattern)) : Option Token :=
  live.foldl
    (fun best (t, p) =>
      if !p.admitsEmpty then best
      else
        match best with
        | some b => if b.preference < t.preference then some t else best
        | none => some t)
    none

/-- Whether a complete token is left for what a character goes on with:
never for blanks alone or a comment, and where it is complete inside
blanks, only for itself or for more blanks. -/
def goesOn (done : Option Token) (blank blank' : Option Blank) (next : List (Token × Pattern)) :
    Bool :=
  match done with
  | none | some .comment => true
  | some t =>
    next.any (·.1 ≠ .comment) && (blank.isNone || blank'.isSome || next.any (·.1 = t))

/-- Searches on from a place. The tokens `fresh` may start behind blanks,
and the text may end there if `ends` holds. -/
def go (fresh : List (Token × Pattern)) :
    Text → (ends : Bool) → Option Blank → List (Token × Pattern) → Search → Search
  | text, ends, blank, live, s =>
    let done := complete? live
    let s := match done with
      | some t => { s with found := some (t, s.stop) }
      | none => s
    match text with
    | [] => if ends then { s with found := some (.endOfText, s.stop) } else s
    | c :: text =>
      if c = '\x00' then s
      else
        let next := live.flatMap fun (t, p) => (p.after c).map fun q => (t, q)
        let blank' := blank.bind (·.after c)
        if (next.isEmpty && blank'.isNone) || !goesOn done blank blank' next then s
        else
          let stop := s.stop.advance
          let more := if blank' = some .between then fresh else []
          if next.isEmpty then go fresh text ends blank' more { s with start := stop, stop := stop }
          else go fresh text false blank' (next ++ more) { s with stop := stop }

end Search

/-- The search for the longest of some tokens at a place. -/
def Cursor.search (p : Cursor) (tokens : TokenSet) : Search :=
  let p := p.skipOrderMark
  let live := Token.patterns.filter (tokens.contains ·.1)
  let fresh := live.filter (!·.1.isTight)
  Search.go fresh p.rest (tokens.contains .endOfText) (some .between) live ⟨p, none, p⟩

/-- The keyword that a text starts with, the longest if there are
several. -/
def keyword? (text : Text) : Option Token :=
  (Token.keywords.filter (·.letters.isPrefixOf text)).foldl
    (fun best t =>
      match best with
      | some b => if b.letters.length < t.letters.length then some t else best
      | none => some t)
    none

end LiteralMark.Ruby
