/-!
# Bytes and lines

File contents, paths and arguments are byte strings: they need not be
text. A content falls into lines, each keeping the line feed that ends
it, and the lines put together are the content again.
-/

namespace LiteralMark

/-- A string of bytes. -/
abbrev Bytes := List UInt8

/-- A text: the characters of a content that is well-formed UTF-8. -/
abbrev Text := List Char

/-- A list split after every occurrence of an element. A last part without
it is a part too, and the empty list has none. -/
def splitAfter {α : Type} [DecidableEq α] (feed : α) : List α → List (List α)
  | [] => []
  | b :: rest =>
    if b = feed then [b] :: splitAfter feed rest
    else
      match splitAfter feed rest with
      | [] => [[b]]
      | line :: more => (b :: line) :: more

/-- What was split is the parts put together. -/
theorem flatten_splitAfter {α : Type} [DecidableEq α] (feed : α) (xs : List α) :
    (splitAfter feed xs).flatten = xs := by
  induction xs with
  | nil => rfl
  | cons b rest ih =>
    rw [splitAfter]
    split
    · rw [List.flatten_cons, ih, List.singleton_append]
    · cases hsplit : splitAfter feed rest with
      | nil =>
        rw [hsplit] at ih
        rw [← ih]
        rfl
      | cons line more =>
        rw [hsplit, List.flatten_cons] at ih
        rw [List.flatten_cons, List.cons_append, ih]

namespace Bytes

/-- The line feed, which ends a line. -/
def lineFeed : UInt8 := 10

/-- The lines of some bytes. -/
def lines (bs : Bytes) : List Bytes := splitAfter lineFeed bs

/-- The lines of a content, put together again, are the content. -/
theorem flatten_lines (bs : Bytes) : (lines bs).flatten = bs := flatten_splitAfter lineFeed bs

end Bytes

namespace Text

/-- The lines of a text. -/
def lines (cs : Text) : List Text := splitAfter '\n' cs

/-- The lines of a text, put together again, are the text. -/
theorem flatten_lines (cs : Text) : (lines cs).flatten = cs := flatten_splitAfter '\n' cs

end Text

end LiteralMark
