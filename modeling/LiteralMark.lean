import LiteralMark.Invocation
import LiteralMark.Main
import LiteralMark.Ruby.Program
import LiteralMark.Proofs.Directory.Entries
import LiteralMark.Proofs.Directory.Resolution
import LiteralMark.Proofs.Directory.Target
import LiteralMark.Proofs.Line.Content
import LiteralMark.Proofs.Scratch
import LiteralMark.Proofs.Session.Rerun
import LiteralMark.Proofs.Tree.Address
import LiteralMark.Proofs.Tree.Remark
import LiteralMark.Proofs.Insertion
import LiteralMark.Proofs.Session.Lines
import LiteralMark.Proofs.Directory.Tree
import LiteralMark.Proofs.Report
import LiteralMark.Proofs.Session.Outcome
import LiteralMark.Proofs.Session.Patch
import LiteralMark.Proofs.Invocation
import LiteralMark.Proofs.Session.Journal
import LiteralMark.Proofs.Session.History
import LiteralMark.Proofs.Line.LookBehind
import LiteralMark.Proofs.Directory.Numbers
import LiteralMark.Proofs.Directory.Shape
import LiteralMark.Proofs.Session.Commute
import LiteralMark.Proofs.Logging
import LiteralMark.Proofs.Edit.Positions
import LiteralMark.Proofs.Edit.Wrapping
import LiteralMark.Proofs.Tree.Nested
import LiteralMark.Proofs.Session.LineCount
import LiteralMark.Proofs.Session.Budget
import LiteralMark.Proofs.Tree.Remade
import LiteralMark.Proofs.Directory.Parent
import LiteralMark.Proofs.Scratch.Room
import LiteralMark.Proofs.Session.Failure
import LiteralMark.Proofs.Session.WellFormed
import LiteralMark.Proofs.Scratch.Beside
