import LiteralMark.Text.Utf8
/-!
# Marking conventions

A convention names the marker function, which is wrapped around literals
as in `_("text")`, and the keywords that introduce imports, whose texts
are left alone.
-/

namespace LiteralMark

/-- The marker function and the import keywords. -/
structure Convention where
  function : String
  keywords : List String
deriving DecidableEq, Repr

namespace Convention

/-- The usual convention: `_("text")`, with `require` and
`require_relative` as imports. -/
def standard : Convention := ⟨"_", ["require", "require_relative"]⟩

/-- The text that opens a marker call. -/
def opening (c : Convention) : Text := c.function.toList ++ ['(']

/-- The text that closes a marker call. -/
def closing : Text := [')']

/-- The bytes that open a marker call. -/
def openingBytes (c : Convention) : Bytes := Utf8.encode c.opening

/-- The bytes that close a marker call. -/
def closingBytes : Bytes := Utf8.encode closing

/-- Whether a name is one of the import keywords. -/
def isImport (c : Convention) (name : String) : Bool := c.keywords.any (· == name)

/-- Whether a line starts with an import keyword. Only the very start of
the line counts: an indented import is no import line. -/
def isImportLine (c : Convention) (line : Bytes) : Bool :=
  c.keywords.any fun keyword => (Utf8.ofString keyword).isPrefixOf line

end Convention

end LiteralMark
