/-
# The time at the start of a log line

A log line starts with the UTC date and time of the event to the microsecond, in the
RFC 3339 form `YYYY-MM-DDTHH:MM:SS.ffffffZ`. The date is found from the number of days since
1970-01-01 by counting in 400-year eras of 146097 days, with years that start on March 1 so
that the leap day is the last day of a year (`civilDate`).

Key definitions: `Log.civilDate`, `Log.utcStamp`.
-/
namespace ColumnExpr
namespace Log

/-- The year, month and day of a day counted from 1970-01-01. -/
def civilDate (days : Int) : Int × Nat × Nat :=
  let z := days + 719468
  let era := z / 146097
  let dayOfEra := (z - era * 146097).toNat
  let yearOfEra := (dayOfEra - dayOfEra / 1460 + dayOfEra / 36524 - dayOfEra / 146096) / 365
  let dayOfYear := dayOfEra - (365 * yearOfEra + yearOfEra / 4 - yearOfEra / 100)
  let shiftedMonth := (5 * dayOfYear + 2) / 153
  let day := dayOfYear - (153 * shiftedMonth + 2) / 5 + 1
  let month := if shiftedMonth < 10 then shiftedMonth + 3 else shiftedMonth - 9
  (era * 400 + yearOfEra + (if month ≤ 2 then 1 else 0), month, day)

/-- A number in decimal with leading zeros up to a width. -/
def padded (width n : Nat) : String :=
  let s := toString n
  String.ofList (List.replicate (width - s.length) '0') ++ s

/-- The text of a time given in nanoseconds since 1970-01-01T00:00:00Z. -/
def utcStamp (nanos : Int) : String :=
  let secs := nanos / 1000000000
  let fraction := (nanos - secs * 1000000000).toNat
  let days := secs / 86400
  let inDay := (secs - days * 86400).toNat
  let (year, month, day) := civilDate days
  let yearText := if 0 ≤ year then padded 4 year.toNat else toString year
  yearText ++ "-" ++ padded 2 month ++ "-" ++ padded 2 day ++ "T" ++ padded 2 (inDay / 3600) ++
    ":" ++ padded 2 (inDay / 60 % 60) ++ ":" ++ padded 2 (inDay % 60) ++ "." ++
    padded 6 (fraction / 1000) ++ "Z"

example : utcStamp 0 = "1970-01-01T00:00:00.000000Z" := by decide
example : civilDate 19782 = (2024, 2, 29) := by decide

end Log
end ColumnExpr
