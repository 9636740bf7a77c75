import LiteralMark.Settings
import LiteralMark.Text.Quoted
/-!
# Diagnostic events

What a run tells about itself: a level, a target that names the part of
the program, a message and some fields. An event is written as one line,
in a compact form or as a JSON object; the time stands in front.
-/

namespace LiteralMark

/-- What a run over a file did. -/
structure Summary where
  lines : Nat := 0
  changed : Nat := 0
  promoted : Bool := false
deriving DecidableEq, Repr

namespace Summary

/-- The text of a summary. -/
def render (s : Summary) : String :=
  "MarkSummary \x7b lines: " ++ toString s.lines ++ ", changed: " ++ toString s.changed ++
    ", promoted: " ++ (if s.promoted then "true" else "false") ++ " \x7d"

end Summary

namespace Log

/-- How important an event is. -/
inductive Level
  | error
  | warn
  | info
  | debug
  | trace
deriving DecidableEq, Repr

namespace Level

/-- The rank of a level: the more it lets through, the higher. -/
def rank : Level → Nat
  | error => 1
  | warn => 2
  | info => 3
  | debug => 4
  | trace => 5

/-- The name of a level. -/
def name : Level → String
  | error => "ERROR"
  | warn => "WARN"
  | info => "INFO"
  | debug => "DEBUG"
  | trace => "TRACE"

end Level

/-- The value of a field. -/
inductive Value
  | text (value : String)
  | number (value : Nat)
  | flag (value : Bool)
deriving DecidableEq, Repr

namespace Value

/-- A value in the compact form. -/
def compact : Value → String
  | text s => s
  | number n => toString n
  | flag b => if b then "true" else "false"

/-- A value in JSON. -/
def json : Value → String
  | text s => Quoted.json s
  | v => v.compact

end Value

/-- Something that happened in a run. -/
inductive Event
  | createdScratch (path : Bytes)
  | markedSource (wrapped : Nat)
  | promotedScratch (target : Bytes)
  | leftUntouched (path : Bytes) (dryRun : Bool)
  | rewroteFile (path : Bytes) (strategy : Strategy) (lines changed : Nat)
  | runComplete (summary : Summary)
deriving DecidableEq, Repr

namespace Event

/-- The level of an event. -/
def level : Event → Level
  | rewroteFile .. => .info
  | _ => .debug

/-- The part of the program that an event comes from. -/
def target : Event → String
  | createdScratch _ | promotedScratch _ => "strmark_cli::scratch"
  | markedSource _ => "strmark_syntax::ast_marker"
  | leftUntouched .. | rewroteFile .. => "strmark_cli::session"
  | runComplete _ => "strmark_cli"

/-- What an event says. -/
def message : Event → String
  | createdScratch _ => "created scratch buffer"
  | markedSource _ => "marked ruby source"
  | promotedScratch _ => "promoted scratch buffer"
  | leftUntouched .. => "leaving target untouched"
  | rewroteFile .. => "rewrote file"
  | runComplete _ => "run complete"

/-- The fields of an event. -/
def fields : Event → List (String × Value)
  | createdScratch path => [("scratch", .text (Utf8.display path))]
  | markedSource wrapped => [("wrapped", .number wrapped)]
  | promotedScratch path => [("target", .text (Utf8.display path))]
  | leftUntouched path dryRun => [("path", .text (Utf8.display path)), ("dry_run", .flag dryRun)]
  | rewroteFile path strategy lines changed =>
    [("path", .text (Utf8.display path)), ("strategy", .text strategy.name),
     ("lines", .number lines), ("changed", .number changed)]
  | runComplete summary => [("summary", .text summary.render)]

/-- An event in the compact form, with the time in front. -/
def compactLine (time : String) (e : Event) : String :=
  let level := e.level.name
  let padding := if level.length < 5 then " " else ""
  time ++ " " ++ padding ++ level ++ " " ++ e.target ++ ": " ++ e.message ++
    String.join (e.fields.map fun (name, value) => " " ++ name ++ "=" ++ value.compact) ++ "\n"

/-- An event as a JSON object. -/
def jsonLine (time : String) (e : Event) : String :=
  let field (name value : String) : String := Quoted.json name ++ ":" ++ value
  let fields := [field "timestamp" (Quoted.json time), field "level" (Quoted.json e.level.name),
      field "message" (Quoted.json e.message)] ++
    e.fields.map (fun (name, value) => field name value.json) ++
    [field "target" (Quoted.json e.target)]
  "\x7b" ++ ",".intercalate fields ++ "\x7d\n"

/-- The line of an event. -/
def line (format : LogFormat) (time : String) (e : Event) : String :=
  match format with
  | .compact => e.compactLine time
  | .json => e.jsonLine time

end Event

end Log

end LiteralMark
