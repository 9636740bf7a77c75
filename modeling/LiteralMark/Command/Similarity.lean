/-!
# Similar words

How similar two words are, as a number from zero to one, and the word of
a list that is most similar to a given one. Two characters match if they
are equal and not too far apart; matching characters in another order
count less.
-/

namespace LiteralMark.Similarity

/-- Finds the first character of a word, not used yet and within a window,
that equals a given one, and marks it as used; `j` is the position of
the head. -/
def take? (c : Char) (low high : Nat) : Nat → List (Char × Bool) → Option (List (Char × Bool))
  | _, [] => none
  | j, (d, used) :: rest =>
    if low ≤ j && j < high && c == d && !used then some ((d, true) :: rest)
    else (take? c low high (j + 1) rest).map ((d, used) :: ·)

/-- The characters of the first word that match, with the second word in
which their partners are marked. -/
def matching (range : Nat) : Nat → List Char → List (Char × Bool) → List Char × List (Char × Bool)
  | _, [], other => ([], other)
  | i, c :: rest, other =>
    match take? c (i - range) (i + range + 1) 0 other with
    | some marked =>
      let (found, last) := matching range (i + 1) rest marked
      (c :: found, last)
    | none => matching range (i + 1) rest other

/-- The similarity of two words. -/
def similarity (a b : String) : Float :=
  let xs := a.toList
  let ys := b.toList
  if xs.isEmpty && ys.isEmpty then 1
  else if xs.isEmpty || ys.isEmpty then 0
  else
    let range := max xs.length ys.length / 2 - 1
    let (found, marked) := matching range 0 xs (ys.map (·, false))
    let partners := (marked.filter (·.2)).map (·.1)
    let moved := ((found.zip partners).filter fun (c, d) => c != d).length / 2
    let m := found.length.toFloat
    if found.isEmpty then 0
    else
      (m / xs.length.toFloat + m / ys.length.toFloat +
        (found.length - moved).toFloat / m) / 3

/-- Words at most this similar are not suggested. -/
def threshold : Float := 0.7

/-- The most similar word of a list, of equally similar ones the last, if
it is similar enough. -/
def suggest? (word : String) (candidates : List String) : Option String :=
  let best := candidates.foldl (fun (best : Option (Float × String)) candidate =>
    let s := similarity word candidate
    if s > threshold then
      match best with
      | some (t, other) => if t > s then some (t, other) else some (s, candidate)
      | none => some (s, candidate)
    else best) none
  best.map (·.2)

end LiteralMark.Similarity
