/-!
# Timestamps

A *timestamp* counts milliseconds from the start of 1970 in universal time,
without leap seconds.  Its text is a date and a time of day with three places of
the second.  A year outside of 0 to 9999 has a sign.

The date is computed in the Gregorian calendar from the days since March 1 of
the year 0.  A year that starts in March ends with the leap day, so the months
before it have fixed lengths.
-/

namespace BundleConfig

/-- A point in time. -/
structure Timestamp where
  /-- Milliseconds since the start of 1970. -/
  milliseconds : Int
deriving DecidableEq

namespace Timestamp

/-- The whole seconds since the start of 1970. -/
def seconds (t : Timestamp) : Int := t.milliseconds.fdiv 1000

/-- Year, month and day of a day counted from the start of 1970. -/
def dateOfDay (day : Int) : Int × Nat × Nat :=
  let shifted := day + 719468
  let era := shifted.fdiv 146097
  let dayOfEra := (shifted - era * 146097).toNat
  let yearOfEra :=
    (dayOfEra - dayOfEra / 1460 + dayOfEra / 36524 - dayOfEra / 146096) / 365
  let dayOfYear := dayOfEra - (365 * yearOfEra + yearOfEra / 4 - yearOfEra / 100)
  let monthFromMarch := (5 * dayOfYear + 2) / 153
  let day := dayOfYear - (153 * monthFromMarch + 2) / 5 + 1
  let month := if monthFromMarch < 10 then monthFromMarch + 3 else monthFromMarch - 9
  let year : Int := yearOfEra + era * 400
  (if month ≤ 2 then year + 1 else year, month, day)

/-- A number with zeros in front, up to a number of digits. -/
def padded (width n : Nat) : String :=
  let digits := toString n
  String.ofList (List.replicate (width - digits.length) '0') ++ digits

/-- The text of a year. -/
def yearText (year : Int) : String :=
  if 0 ≤ year ∧ year ≤ 9999 then padded 4 year.toNat
  else (if year < 0 then "-" else "+") ++ padded 4 year.natAbs

/-- The text of a timestamp. -/
def toText (t : Timestamp) : String :=
  let day := t.milliseconds.fdiv 86400000
  let rest := (t.milliseconds - day * 86400000).toNat
  let (year, month, dayOfMonth) := dateOfDay day
  yearText year ++ "-" ++ padded 2 month ++ "-" ++ padded 2 dayOfMonth ++ "T" ++
    padded 2 (rest / 3600000) ++ ":" ++ padded 2 (rest / 60000 % 60) ++ ":" ++
    padded 2 (rest / 1000 % 60) ++ "." ++ padded 3 (rest % 1000) ++ "Z"

end Timestamp

end BundleConfig
