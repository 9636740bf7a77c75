import LiteralMark.Convention
/-!
# Marking a line

A literal of a line is a double quote, a run of other bytes and a double
quote. The line is read from left to right: a literal directly behind
the opening text of a marker call is copied, any other is wrapped, and
reading goes on behind it. Escapes are not understood, and a quote
without a partner is no literal.
-/

namespace LiteralMark.Line

/-- The double quote. -/
def quote : UInt8 := 34

/-- The literal at the head of the bytes, with both quotes, and what
follows it. -/
def literal? : Bytes → Option (Bytes × Bytes)
  | [] => none
  | b :: rest =>
    if b = quote then
      match rest.span (· ≠ quote) with
      | (_, []) => none
      | (body, close :: after) => some (b :: body ++ [close], after)
    else none

/-- The marked literal at the head of the bytes: the opening text, then a
literal. -/
def marked? (opening bytes : Bytes) : Option (Bytes × Bytes) :=
  if opening.isPrefixOf bytes then
    (literal? (bytes.drop opening.length)).map fun (found, after) => (opening ++ found, after)
  else none

/-- The bytes with every unmarked literal wrapped. A literal that is
already marked is looked for first. The bound is the number of bytes
left to read. -/
def markWithin (c : Convention) : Nat → Bytes → Bytes
  | 0, bytes => bytes
  | _ + 1, [] => []
  | n + 1, b :: rest =>
    match marked? c.openingBytes (b :: rest) with
    | some (found, after) => found ++ markWithin c n after
    | none =>
      match literal? (b :: rest) with
      | some (found, after) =>
        c.openingBytes ++ found ++ Convention.closingBytes ++ markWithin c n after
      | none => b :: markWithin c n rest

/-- The line with every unmarked literal wrapped; an import line is kept
as it is. -/
def mark (c : Convention) (line : Bytes) : Bytes :=
  if c.isImportLine line then line else markWithin c line.length line

end LiteralMark.Line
