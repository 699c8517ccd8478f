/-!
# Calendar dates of instants

The date and time of day, in coordinated universal time, of an instant given by the seconds since the
beginning of 1970.
-/

namespace SchemaTypings.Clock

structure Day where
  year : Nat
  month : Nat
  day : Nat
  deriving DecidableEq, Repr

/-- The day that lies `days` days after the first of January 1970. Years are counted from the first of
March here, so that the leap day is the last of its year; 400 years have 146097 days. -/
def Day.ofDays (days : Nat) : Day :=
  let shifted := days + 719468
  let era := shifted / 146097
  let ofEra := shifted % 146097
  let yearOfEra := (ofEra - ofEra / 1460 + ofEra / 36524 - ofEra / 146096) / 365
  let ofYear := ofEra - (365 * yearOfEra + yearOfEra / 4 - yearOfEra / 100)
  let monthFromMarch := (5 * ofYear + 2) / 153
  let month := if monthFromMarch < 10 then monthFromMarch + 3 else monthFromMarch - 9
  { year := yearOfEra + era * 400 + (if month ≤ 2 then 1 else 0)
    month
    day := ofYear - (153 * monthFromMarch + 2) / 5 + 1 }

/-- A number with at least `width` digits. -/
def padded (width value : Nat) : String :=
  let digits := (Nat.repr value).toList
  String.ofList (List.replicate (width - digits.length) '0' ++ digits)

/-- The text of the instant that lies `seconds` seconds after the beginning of 1970. -/
def instantText (seconds : Nat) : String :=
  let day := Day.ofDays (seconds / 86400)
  let rest := seconds % 86400
  let date := s!"{padded 4 day.year}-{padded 2 day.month}-{padded 2 day.day}"
  let time := s!"{padded 2 (rest / 3600)}:{padded 2 (rest / 60 % 60)}:{padded 2 (rest % 60)}"
  s!"{date}T{time}Z"

end SchemaTypings.Clock
