import LiteralMark.Ruby.Parse.Repair
/-!
# Reading on

The attempts read on in turn, each up to its next token. After each round
they are compared: the worse are given up, the alike are joined, and the
best of them, if it has found a fault, is repaired.
-/

namespace LiteralMark.Ruby

namespace Reader

variable (m : Reader)

/-! ## One token -/

/-- Whether a lexeme is the next one in another state too. A word may be a
keyword there. -/
def Recent.fits (r : Recent) (s : State) : Bool :=
  let l := r.lexeme
  !s.isSilent && (l.token.bind s.action?).isSome && s.readsLike l.state &&
    (l.token ≠ some .identifier || (!l.keyword && l.state = s))

/-- The recent lexeme, if it is the next one of an attempt. -/
def recent? (v : Nat) : Option Lexeme :=
  match m.recent with
  | some r =>
    if r.offset = (m.top v).place.offset && r.scan == (m.attempt v).scan && Recent.fits r (m.state v)
    then some r.lexeme
    else none
  | none => none

/-- Looks for the next lexeme of an attempt. There is none in a silent
state. -/
def look (v : Nat) : Option Lexeme × Reader :=
  let level := m.top v
  if level.state.isSilent then (none, m)
  else
    let a := m.attempt v
    let l := level.place.lexeme level.state a.scan (m.stack.moved a)
    (some l, { m with recent := some ⟨l, level.place.offset, a.scan⟩ })

/-- An attempt has found a fault in front of a lexeme. -/
def pause (v : Nat) (l : Lexeme) : Reader :=
  m.modify v fun a => { a with status := .paused l, countAtFault := (m.top v).count }

/-- Does what a lexeme leads to, up to the next shift, in at most `n`
steps. The lexeme is looked for if none is given. -/
def advanceWith (v : Nat) : (n : Nat) → Option Lexeme → Reader → Reader
  | 0, _, m => m.halt v
  | n + 1, ahead, m =>
    let (ahead, m) :=
      match ahead with
      | some l => (some l, m)
      | none => m.look v
    let state := m.state v
    let action :=
      match ahead with
      | some l => l.token.bind state.action?
      | none => state.action? .endOfExtra
    match action, ahead with
    | some (.shift target), some l => m.shift v l false target
    | some .pass, some l => m.shift v l true state
    | some (.reduce i), _ | some (.reduceOver i _), _ =>
      match m.reduce v i ahead.isNone with
      | (m, some w) => advanceWith v n ahead (m.replace v w)
      | (m, none) => m.halt v
    | some .accept, some l => m.accept v l
    | some .recover, some l => m.recover v l
    | none, some l =>
      if l.keyword && l.token ≠ some .identifier && (state.action? .identifier).isSome then
        advanceWith v n (some { l with token := some .identifier }) m
      else if state = .fault then m.recover v l
      else m.pause v l
    | _, none => m.halt v

/-- Reads the next token of an attempt. -/
def advance (v : Nat) : Reader :=
  m.advanceWith v (200 * (m.stack.levels.size + 2)) (m.recent? v)

/-! ## One round -/

/-- Reads on in an attempt, at most `n` tokens, until it is further than
all have been; the first attempt reads at least that far. -/
def advancePast (v : Nat) : (n : Nat) → (far : Nat) → Reader → Nat × Reader
  | 0, far, m => (far, m)
  | n + 1, far, m =>
    if !(m.attempt v).status.isActive then (far, m)
    else
      let m := m.advance v
      let offset := (m.top v).place.offset
      if offset > far || (v > 0 && offset = far) then (offset, m) else advancePast v n far m

/-- Reads on in all attempts from `v` on, at most `n` of them. -/
def advanceAll (bound : Nat) : (n v : Nat) → (far : Nat) → Reader → Nat × Reader
  | 0, _, far, m => (far, m)
  | n + 1, v, far, m =>
    if v ≥ m.attempts.length then (far, m)
    else
      let (far, m) := advancePast v bound far m
      advanceAll bound n (v + 1) far m

/-! ## Comparing attempts -/

/-- Where an attempt stands among the better ones, which are given in
order. Its standing does not change when it is put in the place of
another, which then has to be placed. -/
def place (x : Stack.Standing) : List Attempt → Attempt → (before : List Attempt) → Stack →
    Stack × List Attempt
  | [], a, before, s => (s, before ++ [a])
  | b :: bs, a, before, s =>
    match (s.standing b).compare x, s.join? b a with
    | .takeLeft, _ => (s, before ++ b :: bs)
    | .takeRight, _ => place x bs a before s
    | _, some (s, b) => (s, before ++ b :: bs)
    | .preferRight, none => place x bs b (before ++ [a]) s
    | _, none => place x bs a (before ++ [b]) s

/-- Puts all attempts in order. The result has the least cost of those
that are not in a fault. -/
def sort : List Attempt → (sorted : List Attempt) → (least : Option Nat) → Stack →
    Stack × List Attempt × Option Nat
  | [], sorted, least, s => (s, sorted, least)
  | a :: as, sorted, least, s =>
    if a.status.isHalted then sort as sorted least s
    else
      let a := s.settle a
      let x := s.standing a
      let least := if !x.faulty && least.all (x.cost < ·) then some x.cost else least
      let (s, sorted) := place x sorted a [] s
      sort as sorted least s

/-- Forgets the attempts that have found a fault. -/
def dropPaused : Reader :=
  { m with attempts := m.attempts.filter fun a => !a.status.isPaused }

/-- Compares all attempts. If the best has found a fault, that is
repaired, and otherwise those with a fault are given up. The result has
the least cost of those that go on. -/
def condense : Reader × Option Nat :=
  let (stack, attempts, least) := sort m.attempts [] none m.stack
  let m := { m with stack := stack, attempts := attempts.take maxAttempts }
  match m.attempts with
  | { status := .paused l, .. } :: _ =>
    if m.accepted < maxAttempts then
      let cost := m.stack.cost (m.attempt 0)
      let m := m.modify 0 fun a => { a with status := .active }
      ((m.repair 0 l).dropPaused, some cost)
    else (m.dropPaused, least)
  | _ => (m.dropPaused, least)

/-! ## The whole text -/

/-- Reads on until no attempt is left, or none is better than the tree
that was found; at most `n` rounds. -/
def run (bound : Nat) : (n : Nat) → (far : Nat) → Reader → Reader
  | 0, _, m => m
  | n + 1, far, m =>
    let (far, m) := advanceAll bound bound 0 far m
    if m.attempts.isEmpty then m
    else
      let (m, least) := m.condense
      if m.finished.any fun t => least.all (t.cost < ·) then m else run bound n far m

end Reader

/-- Reads a text to a subtree. -/
def parse? (text : Text) : Option Subtree :=
  let bound := 64 * (text.length + 16)
  ((Reader.start text).run bound bound 0).finished

end LiteralMark.Ruby
