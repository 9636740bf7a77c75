import LiteralMark.Command.Similarity
import LiteralMark.Settings
/-!
# What the command line accepts

The options with their names and values, the ways in which arguments can
be wrong, and the texts that are shown: the version, the help in its two
forms, and the messages about wrong arguments.
-/

namespace LiteralMark.Command

/-- The name of the program. -/
def programName : String := "strmark"

/-- The options. -/
inductive Switch
  | strategy
  | dryRun
  | logFilter
  | logFormat
  | help
  | version
deriving DecidableEq, Repr

namespace Switch

/-- All options, in the order in which they are listed. -/
def all : List Switch := [strategy, dryRun, logFilter, logFormat, help, version]

/-- The name of an option. -/
def name : Switch → String
  | strategy => "strategy"
  | dryRun => "dry-run"
  | logFilter => "log-filter"
  | logFormat => "log-format"
  | help => "help"
  | version => "version"

/-- What the value of an option is called, if it takes one. -/
def valueName? : Switch → Option String
  | strategy => some "STRATEGY"
  | logFilter => some "FILTER"
  | logFormat => some "FORMAT"
  | dryRun | help | version => none

/-- An option as it is shown. -/
def shown (s : Switch) : String :=
  match s.valueName? with
  | some value => "--" ++ s.name ++ " <" ++ value ++ ">"
  | none => "--" ++ s.name

/-- The option with a given name. -/
def ofName? (name : String) : Option Switch := all.find? (·.name == name)

/-- The option that a name is likely meant for. -/
def similar? (name : String) : Option Switch :=
  (Similarity.suggest? name (all.map Switch.name)).bind ofName?

end Switch

/-- What the path is called. -/
def pathName : String := "PATH"

/-- The path as it is shown. -/
def pathShown : String := "<" ++ pathName ++ ">"

namespace Switch

/-- Whether an option says what is done, as the path does. -/
def isSetting : Switch → Bool
  | help | version => false
  | _ => true

end Switch

/-- All that says what is done, as it is shown together. -/
def settingsShown : String :=
  "<" ++ "|".intercalate ((Switch.all.filter (·.isSetting)).map Switch.shown ++ [pathName]) ++ ">"

/-- Advice that goes with a message. -/
inductive Tip
  | similarOption (s : Switch)
  | similarValue (value : String)
  | useDashes (argument : String)
deriving DecidableEq, Repr

namespace Tip

/-- The text of an advice. -/
def message : Tip → String
  | similarOption s => "a similar argument exists: '--" ++ s.name ++ "'"
  | similarValue value => "a similar value exists: '" ++ value ++ "'"
  | useDashes argument => "to pass '" ++ argument ++ "' as a value, use '-- " ++ argument ++ "'"

end Tip

/-- The way in which arguments are wrong. `used` are the options given
before, and `others` says whether an option or the path was given
before. -/
inductive UsageError
  | missingPath (used : List Switch)
  | emptyPath
  | unexpectedArgument (argument : String) (tip : Option Tip) (used : List Switch)
  | missingValue (s : Switch)
  | unknownStrategy (value : String)
  | unknownFormat (value : String)
  | unexpectedValue (value : String) (s : Switch) (others : Bool)
  | repeated (s : Switch)
  | notText
deriving DecidableEq, Repr

namespace UsageError

/-- The list of strategies, as it is shown. -/
def strategies : String :=
  "\n  [possible values: " ++ ", ".intercalate (Strategy.all.map Strategy.name) ++ "]"

/-- What is wrong. -/
def description : UsageError → String
  | missingPath _ => "the following required arguments were not provided:\n  " ++ pathShown
  | emptyPath => "a value is required for '" ++ pathShown ++ "' but none was supplied"
  | unexpectedArgument argument _ _ => "unexpected argument '" ++ argument ++ "' found"
  | missingValue s =>
    "a value is required for '" ++ s.shown ++ "' but none was supplied" ++
      (if s = .strategy then strategies else "")
  | unknownStrategy value =>
    "invalid value '" ++ value ++ "' for '" ++ Switch.strategy.shown ++ "'" ++ strategies
  | unknownFormat value =>
    "invalid value '" ++ value ++ "' for '" ++ Switch.logFormat.shown ++ "': " ++ LogFormat.unknown
  | unexpectedValue value s _ =>
    "unexpected value '" ++ value ++ "' for '--" ++ s.name ++ "' found; no more were expected"
  | repeated s => "the argument '" ++ s.shown ++ "' cannot be used multiple times"
  | notText => "invalid UTF-8 was detected in one or more arguments"

/-- The advice that goes with an error. -/
def tip? : UsageError → Option Tip
  | unexpectedArgument _ tip _ => tip
  | unknownStrategy value =>
    (Similarity.suggest? value (Strategy.all.map Strategy.name)).map .similarValue
  | _ => none

/-- The usage with some options, or with all of them. -/
def usage (used : List Switch) : String :=
  let options := if used.isEmpty then ["[OPTIONS]"] else used.eraseDups.map Switch.shown
  "Usage: " ++ " ".intercalate ([programName] ++ options ++ [pathShown])

/-- The usage that goes with an error. -/
def usage? : UsageError → Option String
  | missingPath [] => some ("Usage: " ++ programName ++ " " ++ pathShown)
  | missingPath used => some (usage used)
  | unexpectedArgument _ _ used => some (usage used)
  | unexpectedValue _ s false => some (usage [s])
  | unexpectedValue _ s true =>
    let option := if s.isSetting then [] else [s.shown]
    some ("Usage: " ++ " ".intercalate ([programName] ++ option ++ [settingsShown]))
  | repeated _ | notText => some (usage [])
  | emptyPath | missingValue _ | unknownStrategy _ | unknownFormat _ => none

/-- The whole message about wrong arguments. -/
def message (e : UsageError) : String :=
  let parts := ["error: " ++ e.description] ++ (e.tip?.map fun t => "  tip: " ++ t.message).toList ++
    e.usage?.toList ++ ["For more information, try '--help'."]
  "\n\n".intercalate parts ++ "\n"

end UsageError

/-! ## Help and version -/

/-- The text of the version. -/
def versionText : String := programName ++ " 0.1.0\n"

/-- The first lines of the help. -/
def helpHead : String :=
  "Wrap unmarked string literals in translation-marker calls\n\n" ++ UsageError.usage [] ++
    "\n\nArguments:\n"

/-- The short help. -/
def shortHelp : String :=
  helpHead ++ "  <PATH>  The source file to rewrite in place\n\n" ++
    "Options:\n" ++
    "      --strategy <STRATEGY>  How string literals are located [default: line] " ++
    "[possible values: line, ast]\n" ++
    "      --dry-run              Reports changed lines without rewriting the file\n" ++
    "      --log-filter <FILTER>  Tracing filter for diagnostics written to stderr " ++
    "[default: warn]\n" ++
    "      --log-format <FORMAT>  Diagnostic output format (`json` or `compact`) " ++
    "[default: compact]\n" ++
    "  -h, --help                 Print help (see more with '--help')\n" ++
    "  -V, --version              Print version\n"

/-- The long help. -/
def longHelp : String :=
  helpHead ++ "  <PATH>\n          The source file to rewrite in place\n\n" ++
    "Options:\n" ++
    "      --strategy <STRATEGY>\n" ++
    "          How string literals are located\n\n" ++
    "          Possible values:\n" ++
    "          - line: Regex scan, one line at a time\n" ++
    "          - ast:  Tree-sitter walk over the whole Ruby file\n" ++
    "          \n" ++
    "          [default: line]\n\n" ++
    "      --dry-run\n" ++
    "          Reports changed lines without rewriting the file\n\n" ++
    "      --log-filter <FILTER>\n" ++
    "          Tracing filter for diagnostics written to stderr\n" ++
    "          \n" ++
    "          [default: warn]\n\n" ++
    "      --log-format <FORMAT>\n" ++
    "          Diagnostic output format (`json` or `compact`)\n" ++
    "          \n" ++
    "          [default: compact]\n\n" ++
    "  -h, --help\n" ++
    "          Print help (see a summary with '-h')\n\n" ++
    "  -V, --version\n" ++
    "          Print version\n"

end LiteralMark.Command
