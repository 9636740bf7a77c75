import LiteralMark.Text.Utf8
/-!
# Settings of a run

How literals are found, how diagnostics are written, and the other
settings of one run over one file, with their names and defaults.
-/

namespace LiteralMark

/-- A name compared without regard to the case of ASCII letters. -/
def sameIgnoringCase (a b : String) : Bool :=
  a.toList.map Char.toLower == b.toList.map Char.toLower

/-- How the literals of a file are found. -/
inductive Strategy
  /-- Line by line, by their quotes. -/
  | line
  /-- In the syntax tree of the whole file. -/
  | tree
deriving DecidableEq, Repr

namespace Strategy

/-- The name of a strategy. -/
def name : Strategy → String
  | line => "line"
  | tree => "ast"

/-- All strategies, in the order in which they are listed. -/
def all : List Strategy := [line, tree]

/-- The strategy with a given name. -/
def ofName? (ignoreCase : Bool) (text : String) : Option Strategy :=
  all.find? fun s => if ignoreCase then sameIgnoringCase s.name text else s.name == text

/-- The complaint about a name that no strategy has. -/
def unknown (text : String) : String := "invalid variant: " ++ text

end Strategy

/-- How diagnostics are written. -/
inductive LogFormat
  | json
  | compact
deriving DecidableEq, Repr

namespace LogFormat

/-- The name of a format. -/
def name : LogFormat → String
  | json => "json"
  | compact => "compact"

/-- The format with a given name, in any case. -/
def ofName? (text : String) : Option LogFormat :=
  [json, compact].find? fun f => sameIgnoringCase f.name text

/-- The complaint about a name that no format has. -/
def unknown : String := "Matching variant not found"

end LogFormat

/-- The settings of a run over one file. -/
structure Settings where
  path : Bytes
  strategy : Strategy := .line
  dryRun : Bool := false
  logFilter : String := "warn"
  logFormat : LogFormat := .compact
deriving DecidableEq, Repr

end LiteralMark
