import LiteralMark.Markup
/-!
# Failures of a run

Why a file could not be marked. Paths are shown with a replacement
character for every stretch that is no UTF-8.
-/

namespace LiteralMark

/-- Why a run failed; `cause` is the text of what the system said. -/
inductive Failure
  | openSource (path : Bytes) (cause : String)
  | readSource (path : Bytes) (cause : String)
  | notUtf8 (path : Bytes)
  | createScratch (directory : Bytes) (cause : String)
  | writeScratch (cause : String)
  | promote (path : Bytes) (cause : String)
  | report (cause : String)
  | lineCount (before after : Nat)
  | unreadable (failure : SyntaxFailure)
deriving DecidableEq, Repr

namespace Failure

/-- The message of a failure. -/
def message : Failure → String
  | openSource path cause => "failed to open " ++ Utf8.display path ++ ": " ++ cause
  | readSource path cause => "failed to read " ++ Utf8.display path ++ ": " ++ cause
  | notUtf8 path => Utf8.display path ++ " is not valid UTF-8 text"
  | createScratch directory cause =>
    "failed to create scratch buffer in " ++ Utf8.display directory ++ ": " ++ cause
  | writeScratch cause => "failed to write scratch buffer: " ++ cause
  | promote path cause => "failed to replace " ++ Utf8.display path ++ ": " ++ cause
  | report cause => "failed to report changed line: " ++ cause
  | lineCount before after => s!"rewrite changed the line count from {before} to {after}"
  | unreadable failure => failure.message

end Failure

end LiteralMark
