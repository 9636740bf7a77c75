/-!
# Points in time

The time that stands in front of a log line: the date and the time of day
in universal time, with microseconds.
-/

namespace LiteralMark.Log

/-- A point in time, counted from the start of the year 1970. -/
structure Time where
  seconds : Nat
  nanoseconds : Nat := 0
deriving DecidableEq, Repr

/-- A day of the calendar. -/
structure Date where
  year : Nat
  month : Nat
  day : Nat
deriving DecidableEq, Repr

namespace Date

/-- The date of a day, counted from the start of the year 1970. Years are
taken to start in March, so that a leap day is the last of its year, and
400 of them have always the same number of days. -/
def ofDays (days : Nat) : Date :=
  let fromMarch := days + 719468
  let era := fromMarch / 146097
  let inEra := fromMarch % 146097
  let year := (inEra - inEra / 1460 + inEra / 36524 - inEra / 146096) / 365
  let inYear := inEra - (365 * year + year / 4 - year / 100)
  let month := (5 * inYear + 2) / 153
  { year := 400 * era + year + (if month < 10 then 0 else 1)
    month := if month < 10 then month + 3 else month - 9
    day := inYear - (153 * month + 2) / 5 + 1 }

end Date

namespace Time

/-- A number with at least `width` digits. -/
def padded (width n : Nat) : String :=
  let digits := toString n
  String.ofList (List.replicate (width - digits.length) '0') ++ digits

/-- The text of a point in time. -/
def render (t : Time) : String :=
  let date := Date.ofDays (t.seconds / 86400)
  let clock := t.seconds % 86400
  padded 4 date.year ++ "-" ++ padded 2 date.month ++ "-" ++ padded 2 date.day ++ "T" ++
    padded 2 (clock / 3600) ++ ":" ++ padded 2 (clock / 60 % 60) ++ ":" ++ padded 2 (clock % 60) ++
    "." ++ padded 6 (t.nanoseconds / 1000) ++ "Z"

end Time

end LiteralMark.Log
