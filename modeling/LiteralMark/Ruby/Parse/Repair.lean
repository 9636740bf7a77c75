import LiteralMark.Ruby.Parse.Reader
/-!
# Repairing faults

Where a lexeme leads nowhere, a fault has been found. Then a token may be
missing that would make a rule complete; or some of the text in front is
unexpected, and the lexeme leads on from an earlier state; or the lexeme
itself is unexpected and is skipped. All of these are tried, as far as no
other attempt is better already.
-/

namespace LiteralMark.Ruby

namespace Reader

variable (m : Reader)

/-! ## Whether a repair is worth it -/

/-- Whether one of the attempts `others`, which have come as far as an
attempt, is better than that attempt would be at some cost. -/
def betterAmong (v cost : Nat) : List Nat → Reader → Bool × Reader
  | [], m => (false, m)
  | w :: others, m =>
    let b := m.attempt w
    if w = v || !b.status.isActive || (m.top w).place.offset < (m.top v).place.offset then
      betterAmong v cost others m
    else
      let m := m.modify w m.stack.settle
      let x : Stack.Standing := ⟨cost, m.stack.countSince (m.attempt v), false⟩
      match x.compare (m.stack.standing (m.attempt w)) with
      | .takeRight => (true, m)
      | .preferRight =>
        if m.stack.canJoin (m.attempt w) (m.attempt v) then (true, m)
        else betterAmong v cost others m
      | _ => betterAmong v cost others m

/-- Whether there is something better than an attempt would be at some
cost. -/
def better (v cost : Nat) : Bool × Reader :=
  if m.finished.any (·.cost ≤ cost) then (true, m)
  else betterAmong v cost (List.range m.attempts.length) (m.modify v m.stack.settle)

/-! ## Going on from an earlier state -/

/-- Goes on from an earlier state as a new attempt: the subtrees above it
are unexpected. A stretch of unexpected text in front of them grows. -/
def resumeAt (v : Nat) (goal : State) (below : Nat × List (List Subtree)) : Reader :=
  let level := m.stack.level below.1
  if level.state ≠ goal then m
  else
    let w := m.attempts.length
    let trees := below.2.headD []
    let fault := level.links.find? fun l => l.tree.any (·.sign = .unexpected)
    let base := (fault.map (·.node)).getD below.1
    let before := ((fault.bind (·.tree)).map (·.children)).getD []
    let (parts, extras) := Subtree.splitExtras (before ++ trees)
    let a := m.attempt v
    let new : Attempt := { node := base, scan := a.scan, countAtFault := a.countAtFault }
    let m := { m with attempts := m.attempts ++ [new] }
    let m := if parts.isEmpty then m
      else m.push w (some (Subtree.node .unexpected 0 parts).asExtra) goal
    m.pushExtras w extras goal

/-- Goes on from the first of the earlier states in which a token leads
on, unless there is something better. -/
def resumeEarlier (v : Nat) (t : Token) (since cost count : Nat) :
    List Earlier → Reader → Reader
  | [], m => m
  | e :: es, m =>
    let place := (m.top v).place
    let known := (List.range count).any fun w =>
      m.state w = e.state && (m.top w).place.offset = place.offset
    if e.state = .fault || e.place.offset = place.offset || known then
      resumeEarlier v t since cost count es m
    else
      let depth := if since > 0 then e.depth + 1 else e.depth
      match m.better v (cost + Cost.skipped + Cost.length (e.place.distance place)) with
      | (true, m) => m
      | (false, m) =>
        if (e.state.action? t).isNone then resumeEarlier v t since cost count es m
        else
          let n := m.attempts.length
          let m := (m.stack.pop (m.attempt v).node depth).foldl
            (fun m below => m.resumeAt v e.state below) m
          if m.attempts.length > n then m else resumeEarlier v t since cost count es m

/-! ## Skipping a lexeme -/

/-- Whether a token belongs to no rule wherever it stands. -/
def isExtra (t : Token) : Bool := State.start.action? t == some .pass

/-- Skips a lexeme: it is put to the unexpected text. -/
def skip (v : Nat) (l : Lexeme) : Reader :=
  let a := m.attempt v
  let part := Subtree.node .skipped 0 [l.subtree (l.token.any isExtra)]
  let (base, part) :=
    match m.stack.countSince a, m.stack.pop a.node 1 with
    | _ + 1, (base, trees :: _) :: _ => (base, Subtree.node .skipped 0 (trees ++ [part]))
    | _, _ => (a.node, part)
  ((m.modify v fun a => { a with node := base }).push v (some part) .fault).modify v
    fun a => { a with scan := l.scan.getD a.scan }

/-- Repairs a fault in front of a lexeme. -/
def recover (v : Nat) (l : Lexeme) : Reader :=
  let m := m.modify v m.stack.settle
  let a := m.attempt v
  let since := m.stack.countSince a
  let cost := m.stack.cost a
  let count := m.attempts.length
  let m :=
    match a.earlier, l.token with
    | some es, some t => resumeEarlier v t since cost count es m
    | _, _ => m
  let resumed := m.attempts.length > count
  if l.token = some .endOfText then
    (m.push v (some (Subtree.node .unexpected 0 [])) .start).accept v l
  else if resumed && (m.attempts.length > maxAttempts || l.changed) then m.halt v
  else
    match m.better v (cost + Cost.skipped + Cost.length l.total) with
    | (true, m) => m.halt v
    | (false, m) => m.skip v l

/-! ## Finding a fault -/

/-- The tokens that can be missing. -/
def possible : List Token := Token.all.filter fun t => t ≠ .endOfText && t ≠ .endOfExtra

/-- What the tokens lead to in a state: whether one of them is shifted,
and the rules that are complete in front of one of them. -/
def prospects (s : State) (tokens : List Token) : Bool × List Item :=
  tokens.foldl
    (fun (shifts, items) t =>
      let add := fun (i : Item) =>
        if i.dot = 0 || items.any (fun j => j.rule = i.rule && j.dot = i.dot) then items
        else items ++ [i]
      match s.action? t with
      | some (.shift _) | some .recover => (true, items)
      | some (.reduce i) | some (.reduceOver i _) => (shifts, add i)
      | _ => (shifts, items))
    (false, [])

/-- The most reductions in a row of which only the last is kept. -/
def maxChain : Nat := 6

/-- Reduces all rules that are complete in front of a token, or in front
of any token if none is given. The attempts from `v` on are looked at, in
at most `n` steps; of those in front of `first` only `start`. The result
says whether the token is shifted in one of them. -/
def reduceAll (start first : Nat) (t : Option Token) :
    (n step v : Nat) → Bool → Reader → Bool × Reader
  | 0, _, _, shifts, m => (shifts, m)
  | n + 1, step, v, shifts, m =>
    let count := m.attempts.length
    if v ≥ count then (shifts, m)
    else
      match m.joinFirst? ((List.range v).filter (first ≤ ·)) v with
      | some m => reduceAll start first t n (step + 1) v shifts m
      | none =>
        let (here, items) := prospects (m.state v) ((t.map ([·])).getD possible)
        let (m, last) := items.foldl (fun (m, _) i => m.reduce v i false) (m, none)
        let next := if v = start then count else v + 1
        match here, last with
        | true, _ => reduceAll start first t n (step + 1) next true m
        | false, some w =>
          if step < maxChain then reduceAll start first t n (step + 1) v shifts (m.replace v w)
          else
            reduceAll start first t n (step + 1) next shifts (if t.isSome then m.remove v else m)
        | false, none =>
          reduceAll start first t n (step + 1) next shifts (if t.isSome then m.remove v else m)

/-- Reduces all rules that are complete in an attempt. -/
def reduceFrom (v : Nat) (t : Option Token) : Bool × Reader :=
  reduceAll v m.attempts.length t 1000 0 v false m

/-- Whether a rule is complete in front of a token. -/
def completes (s : State) (t : Token) : Bool :=
  match s.action? t with
  | some (.reduce _) | some (.reduceOver _ _) => true
  | _ => false

/-- Tries the tokens that can be missing in front of a token, up to the
first with which the token leads on. -/
def insertMissing (v : Nat) (ahead : Token) : List Token → Reader → Bool × Reader
  | [], m => (false, m)
  | t :: ts, m =>
    let state := m.state v
    let target := state.behindToken t
    if target = .fault || target = state || !completes target ahead then insertMissing v ahead ts m
    else
      let w := m.attempts.length
      let new := { m.attempt v with earlier := none }
      let m := { m with attempts := m.attempts ++ [new] }.push w (some (Subtree.missing t)) target
      match m.reduceFrom w (if ahead = .endOfText then none else some ahead) with
      | (true, m) => (true, m)
      | (false, m) => insertMissing v ahead ts m

/-- Puts the state after a fault on some attempts. In the first of them
for which that helps, a missing token is put in as a further attempt. -/
def markFault (ahead : Option Token) : List Nat → (inserted : Bool) → Reader → Reader
  | [], _, m => m
  | v :: vs, inserted, m =>
    let (inserted, m) :=
      match inserted, ahead with
      | false, some t => insertMissing v t possible m
      | _, _ => (inserted, m)
    markFault ahead vs inserted (m.push v none .fault)

/-- How many subtrees are looked through for earlier states. -/
def maxDepth : Nat := 16

/-- Adds a state to the earlier ones, the last first, if it is not among
those of its depth. -/
def addEarlier (found : List Earlier) (e : Earlier) : List Earlier :=
  let sameDepth := found.takeWhile fun f => f.depth ≥ e.depth
  if sameDepth.any fun f => f.depth = e.depth && f.state = e.state then found else e :: found

/-- The states that were gone through in front of a place, the nearest
first. -/
def earlierStates (node : Nat) : List Earlier :=
  (m.stack.descend node
    (fun found p =>
      if p.count > maxDepth then (found, true)
      else
        let l := m.stack.level p.node
        (addEarlier found ⟨l.place, p.count, l.state⟩, false))
    []).reverse

/-- Repairs a fault that an attempt has found in front of a lexeme. -/
def repair (v : Nat) (l : Lexeme) : Reader :=
  let count := m.attempts.length
  let (_, m) := m.reduceFrom v none
  let added := (List.range m.attempts.length).filter (count ≤ ·)
  let m := markFault l.token (v :: added) false m
  let m := added.foldl (fun m _ => (m.join? v count).getD m) m
  let earlier := m.earlierStates (m.attempt v).node
  (m.modify v fun a => { a with earlier := some earlier }).recover v l

end Reader

end LiteralMark.Ruby
