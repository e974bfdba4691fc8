/-!
# Instants

An instant is a number of milliseconds since the start of 1970. It is written as a date and a time
of day, with the milliseconds if there are any.
-/

namespace Failover.Text

def padded (width n : Nat) : String :=
  let digits := toString n
  String.ofList (List.replicate (width - digits.length) '0') ++ digits

/-- Year, month and day of a day since the start of 1970. Days are counted in eras of 400 years
that begin in March, so that a leap day is the last day of its year. -/
def calendarDay (day : Nat) : Nat × Nat × Nat :=
  let d := day + 719468
  let era := d / 146097
  let dayOfEra := d % 146097
  let yearOfEra := (dayOfEra - dayOfEra / 1460 + dayOfEra / 36524 - dayOfEra / 146096) / 365
  let dayOfYear := dayOfEra - (365 * yearOfEra + yearOfEra / 4 - yearOfEra / 100)
  let m := (5 * dayOfYear + 2) / 153
  let month := if m < 10 then m + 3 else m - 9
  let year := yearOfEra + 400 * era + (if month ≤ 2 then 1 else 0)
  (year, month, dayOfYear - (153 * m + 2) / 5 + 1)

/-- An instant in universal time, with the given mark for its zone. -/
def instant (zone : String) (milliseconds : Nat) : String :=
  let (year, month, day) := calendarDay (milliseconds / 86400000)
  let s := milliseconds / 1000 % 86400
  let fraction := if milliseconds % 1000 = 0 then "" else "." ++ padded 3 (milliseconds % 1000)
  s!"{padded 4 year}-{padded 2 month}-{padded 2 day}T{padded 2 (s / 3600)}:"
    ++ s!"{padded 2 (s / 60 % 60)}:{padded 2 (s % 60)}{fraction}{zone}"

end Failover.Text
