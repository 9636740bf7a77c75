import LiteralMark.Ruby.Rule
import LiteralMark.Ruby.Token
/-!
# Forms

What a rule stands for is written as a form: symbols, one after another
or one instead of another. A form can bind with a strength, and then a
side says how forms of equal strength group; the strength decides between
two readings of one text. A form can play a part in its node, by which
the node's child is found, and it can have a label, under which a rule
that makes no node is shown as one.

`Form.sequences` lists the sequences of symbols that a form stands for.
-/

namespace LiteralMark.Ruby

/-- The side to which forms of equal strength group. -/
inductive Side
  | left
  | right
deriving DecidableEq, Repr

/-- The part that a symbol plays in its node. -/
inductive Part
  | alias_ | alternative | alternatives | arguments | begin_ | block | body | class_ | clauses
  | condition | consequence | else_ | end_ | exceptions | guard | handler | key | left
  | locals | method | name | object | operand | operator | parameters | pattern | receiver
  | right | scope | superclass | value | variable
deriving DecidableEq, Repr

/-- What a part is shown as, if not as the rule or token that it is. -/
inductive Label
  | arrayPattern | bareString | bareSymbol | call | constant | destructured | findPattern
  | hashKey | hashPattern | identifier | rational
deriving DecidableEq, Repr

/-- A token or a rule. -/
inductive Symbol
  | token (t : Token)
  | rule (r : Rule)
deriving DecidableEq, Repr

/-- A form: what a rule stands for. -/
inductive Form
  | nothing
  | symbol (s : Symbol)
  | both (first second : Form)
  | either (first second : Form)
  | bound (strength : Int) (side : Option Side) (form : Form)
  | playing (part : Part) (form : Form)
  | labelled (label : Label) (form : Form)
deriving Repr

/-- What is said of a symbol by the forms around it. -/
structure Setting where
  strength : Option Int := none
  side : Option Side := none
  part : Option Part := none
  label : Option Label := none
deriving DecidableEq, Repr

/-- A symbol of a sequence. -/
structure Step where
  symbol : Symbol
  setting : Setting
deriving DecidableEq, Repr

/-- Gives the last of some steps the strength and side that hold around
them; the side only if it was set for them. -/
def Setting.restoreLast (s : Setting) (side : Option Side) : List Step → List Step
  | [] => []
  | [x] =>
    let y := { x.setting with strength := s.strength }
    [{ x with setting := if side.isSome then { y with side := s.side } else y }]
  | x :: xs => x :: s.restoreLast side xs

namespace Form

/-- The sequences that a form stands for under a setting. A strength
holds between the symbols of its form, and behind the last of them only
at the end of the rule. -/
def sequencesIn (s : Setting) (atEnd : Bool) : Form → List (List Step)
  | nothing => [[]]
  | symbol x => [[⟨x, s⟩]]
  | both a b =>
    (a.sequencesIn s false).flatMap fun xs => (b.sequencesIn s atEnd).map (xs ++ ·)
  | either a b => a.sequencesIn s atEnd ++ b.sequencesIn s atEnd
  | bound n side f =>
    let found := f.sequencesIn { s with strength := some n, side := side.or s.side } atEnd
    if atEnd then found else found.map (s.restoreLast side)
  | playing p f => f.sequencesIn { s with part := some p } atEnd
  | labelled l f => f.sequencesIn { s with label := some l } atEnd

/-- The sequences that a form stands for, each once. -/
def sequences (f : Form) : List (List Step) := (f.sequencesIn {} true).eraseDups

/-! ## Writing forms -/

/-- A token. -/
def t (token : Token) : Form := symbol (.token token)

/-- A rule. -/
def r (rule : Rule) : Form := symbol (.rule rule)

/-- Forms one after another. -/
def seq : List Form → Form
  | [] => nothing
  | [f] => f
  | f :: fs => both f (seq fs)

/-- One of some forms. -/
def choice : List Form → Form
  | [] => nothing
  | [f] => f
  | f :: fs => either f (choice fs)

/-- A form or nothing. -/
def optional (f : Form) : Form := either f nothing

/-- A form that binds with a strength. -/
def binds (strength : Int) (f : Form) : Form := bound strength none f

/-- A form that groups to the left. -/
def left (strength : Int) (f : Form) : Form := bound strength (some .left) f

/-- A form that groups to the right. -/
def right (strength : Int) (f : Form) : Form := bound strength (some .right) f

/-- A form that plays a part. -/
def part (p : Part) (f : Form) : Form := playing p f

/-- A form under a label. -/
def label (l : Label) (f : Form) : Form := labelled l f

/-- The form of a repetition. -/
def repeated (self : Rule) (f : Form) : Form := either (both (r self) (r self)) f

end Form

end LiteralMark.Ruby
