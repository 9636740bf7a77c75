import LiteralMark.Log.Event
import LiteralMark.Log.Pattern
/-!
# Filters of events

A filter is a list of directives, separated by commas. A directive is a
level, or the start of a target with a level; it may also name fields
that an event must have, as in `[{path}]=debug`, or a span or the value of
a field, and then it applies to no event at all. The most specific
directive that an event matches decides whether it is shown.
-/

namespace LiteralMark.Log

/-- Why a filter was refused. -/
inductive FilterError
  | directive
  | level
  | field (e : PatternError)
deriving DecidableEq, Repr

namespace FilterError

/-- The text of the error. -/
def message : FilterError → String
  | directive => "invalid filter directive"
  | level =>
    "error parsing level filter: expected one of \"off\", \"error\", \"warn\", \"info\", " ++
      "\"debug\", \"trace\", or a number 0-5"
  | field e => "invalid field filter: " ++ e.message

end FilterError

/-- The rank up to which events are shown; nothing is shown at zero. -/
abbrev Threshold := Nat

/-- A rank written as a number. A plus sign and leading zeros are
allowed. -/
def numericThreshold? (text : Text) : Option Threshold :=
  let digits := match text with
    | '+' :: rest => rest
    | _ => text
  if digits.isEmpty || !digits.all Char.isDigit then none
  else
    let n := digits.foldl (fun n c => n * 10 + (c.toNat - '0'.toNat)) 0
    if n ≤ 5 then some n else none

/-- The threshold that a level names. -/
def threshold? (text : Text) : Option Threshold :=
  match numericThreshold? text with
  | some n => some n
  | none =>
    ([("off", 0), ("error", 1), ("warn", 2), ("info", 3), ("debug", 4), ("trace", 5)].find?
      fun (name, _) => sameIgnoringCase name (String.ofList text)).map (·.2)

/-- One part of a filter. -/
structure Directive where
  target : Option Text := none
  /-- The fields that an event must have. -/
  fields : List Text := []
  /-- The directive is about spans, or about values of fields. -/
  isDynamic : Bool := false
  threshold : Threshold := 5
deriving DecidableEq, Repr

/-- Whether a directive may start with a character. -/
def startsDirective (c : Char) : Bool := c == '-' || c == ':' || c == '_' || isAlphanumeric c

namespace Directive

/-- Reads a level behind an equals sign; none means every level. -/
def withLevel (d : Directive) (text : Text) : Except FilterError Directive :=
  if text.isEmpty then .ok d
  else
    match threshold? text with
    | some n => .ok { d with threshold := n }
    | none => .error .level

/-- Adds the condition on a field. The value ends at a second equals
sign. -/
def withField (d : Directive) (text : Text) : Except FilterError Directive :=
  match text.span (· ≠ '=') with
  | ([], []) => .error .directive
  | (name, []) => .ok { d with fields := d.fields ++ [name] }
  | (name, _ :: rest) =>
    match checkValue (rest.takeWhile (· ≠ '=')) with
    | .error e => .error (.field e)
    | .ok _ => .ok { d with fields := d.fields ++ [name], isDynamic := true }

/-- Where the reading of a directive is. The numbers say where the current
part starts. -/
inductive Phase
  | start
  | levelOrTarget (from_ : Nat)
  | span (from_ : Nat)
  | field (from_ : Nat)
  | fields
  | target
  | level (from_ : Nat)

/-- The part of a text between two positions. -/
def part (text : Text) (from_ until_ : Nat) : Text := (text.take until_).drop from_

/-- Reads one character of a directive; `i` is its position. -/
def next (text : Text) (i : Nat) (c : Char) :
    Phase × Directive → Except FilterError (Phase × Directive)
  | (.start, d) =>
    if c == '[' then .ok (.span (i + 1), d)
    else if startsDirective c then .ok (.levelOrTarget i, d)
    else .error .directive
  | (.levelOrTarget k, d) =>
    if c == '=' then .ok (.level (i + 1), { d with target := some (part text k i) })
    else if c == '[' then .ok (.span (i + 1), { d with target := some (part text k i) })
    else .ok (.levelOrTarget k, d)
  | (.span k, d) =>
    if c == ']' then .ok (.target, { d with isDynamic := true })
    else if c == '\x7b' then
      .ok (.field (i + 1), { d with isDynamic := d.isDynamic || k != i })
    else .ok (.span k, d)
  | (.field k, d) =>
    if c == '\x7d' then do return (.fields, ← d.withField (part text k i))
    else if c == ',' then do return (.field (i + 1), ← d.withField (part text k i))
    else .ok (.field k, d)
  | (.fields, d) => if c == ']' then .ok (.target, d) else .error .directive
  | (.target, d) => if c == '=' then .ok (.level (i + 1), d) else .error .directive
  | (.level k, d) => .ok (.level k, d)

/-- Ends the reading of a directive. -/
def finish (text : Text) : Phase × Directive → Except FilterError Directive
  | (.levelOrTarget k, d) =>
    match threshold? (text.drop k) with
    | some n => .ok { d with threshold := n }
    | none => .ok { d with target := some (text.drop k) }
  | (.level k, d) => d.withLevel (text.drop k)
  | (.target, d) => .ok d
  | _ => .error .directive

/-- Reads a directive. Blanks at its ends are not looked at, but positions
are those of the whole text. -/
def parse (text : Text) : Except FilterError Directive := do
  let chars := (trimBlanks text).zipIdx
  let last ← chars.foldlM (fun s (c, i) => next text i c s) (Phase.start, {})
  finish text last

/-- Whether a directive is at least as specific as another one: first by
the length of its target, then by the number of its fields. Of two that
are equal in this, the one whose target or whose fields come later in the
order of texts counts as the more specific. -/
def specific (a b : Directive) : Bool :=
  let size (d : Directive) : Nat := match d.target with
    | none => 0
    | some t => 1 + Utf8.size t
  let order := (compare (size a) (size b)).then <|
    (compare a.fields.length b.fields.length).then <|
      (compare (a.target.getD []) (b.target.getD [])).then (compare a.fields b.fields)
  order != .lt

/-- Puts a directive in front of the first one that is not more specific. -/
def place (a : Directive) : List Directive → List Directive
  | [] => [a]
  | b :: rest => if a.specific b then a :: b :: rest else b :: place a rest

/-- Whether a directive applies to an event. -/
def applies (d : Directive) (e : Event) : Bool :=
  !d.isDynamic &&
    (match d.target with
      | none => true
      | some t => t.isPrefixOf e.target.toList) &&
    d.fields.all fun name => name == "message".toList || e.fields.any (·.1.toList == name)

end Directive

/-- A filter: its directives, the most specific first. -/
structure Filter where
  directives : List Directive
deriving DecidableEq, Repr

namespace Filter

/-- Splits a text at every comma. -/
def splitCommas : Text → List Text
  | [] => [[]]
  | c :: rest =>
    if c = ',' then [] :: splitCommas rest
    else
      match splitCommas rest with
      | [] => [[c]]
      | first :: more => (c :: first) :: more

/-- Reads a filter. Of two directives for the same target the last one
counts; a filter without directives shows errors only. -/
def parse (text : String) : Except FilterError Filter := do
  let parts := (splitCommas text.toList).filter (· ≠ [])
  let directives ← parts.mapM Directive.parse
  if directives.isEmpty then return ⟨[{ threshold := 1 }]⟩
  else return ⟨directives.reverse.foldr Directive.place []⟩

/-- Whether an event is shown. -/
def shows (f : Filter) (e : Event) : Bool :=
  match f.directives.find? (·.applies e) with
  | some d => e.level.rank ≤ d.threshold
  | none => false

end Filter

end LiteralMark.Log
