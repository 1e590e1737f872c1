/-!
# Calendar dates

Moments are counted in seconds since 1970-01-01 00:00:00 UTC, as certificates and identity files
record them. Turning a day count into a proleptic Gregorian date works in eras of 400 years
(146097 days), which repeat exactly; inside an era, years are counted from March so that the
leap day falls at the end.
-/

namespace RevSync

/-- A moment: seconds since the Unix epoch and a fraction in nanoseconds. -/
structure Timestamp where
  seconds : Int
  nanos : Nat := 0
  deriving DecidableEq, Repr, Inhabited

/-- A calendar date. -/
structure CivilDate where
  year : Int
  month : Nat
  day : Nat
  deriving DecidableEq, Repr, Inhabited

namespace CivilDate

/-- The date a number of days after 1970-01-01. -/
def ofDays (days : Int) : CivilDate :=
  let z := days + 719468
  let era := z / 146097
  let doe := (z - era * 146097).toNat
  let yoe := (doe - doe / 1460 + doe / 36524 - doe / 146096) / 365
  let doy := doe - (365 * yoe + yoe / 4 - yoe / 100)
  let mp := (5 * doy + 2) / 153
  let day := doy - (153 * mp + 2) / 5 + 1
  let month := if mp < 10 then mp + 3 else mp - 9
  { year := yoe + era * 400 + (if month ≤ 2 then 1 else 0), month, day }

/-- The number of days from 1970-01-01 to a date. -/
def toDays (d : CivilDate) : Int :=
  let y := if d.month ≤ 2 then d.year - 1 else d.year
  let era := y / 400
  let yoe := (y - era * 400).toNat
  let mp := if d.month > 2 then d.month - 3 else d.month + 9
  let doy := (153 * mp + 2) / 5 + d.day - 1
  let doe := yoe * 365 + yoe / 4 - yoe / 100 + doy
  era * 146097 + doe - 719468

end CivilDate

/-- A number with at least `width` digits, padded with zeros. -/
def padded (width n : Nat) : String :=
  let s := toString n
  String.ofList (List.replicate (width - s.length) '0') ++ s

namespace Timestamp

/-- Seconds in a day. -/
def secondsPerDay : Int := 86400

/-- The moment's date. -/
def date (t : Timestamp) : CivilDate := CivilDate.ofDays (t.seconds / secondsPerDay)

/-- The seconds since midnight. -/
def secondOfDay (t : Timestamp) : Nat := (t.seconds % secondsPerDay).toNat

/-- The moment at a date and time of day (UTC). -/
def ofCivil (d : CivilDate) (hour minute second : Nat) : Timestamp :=
  { seconds := d.toDays * secondsPerDay + hour * 3600 + minute * 60 + second }

/-- The year as written in dates: at least four digits, with a sign when negative. -/
def yearText (y : Int) : String :=
  if y < 0 then "-" ++ padded 4 y.natAbs else padded 4 y.toNat

/-- The fraction of a second without trailing zeros, at least one digit. -/
def fractionText (nanos : Nat) : String :=
  let digits := (Nat.toDigits 10 (1000000000 + nanos)).drop 1
  let trimmed := (digits.reverse.dropWhile (· == '0')).reverse
  if trimmed.isEmpty then "0" else String.ofList trimmed

/-- The moment written as `2090-01-01 0:00:00.0 +00:00:00`: date, hour without padding,
minutes, seconds with their fraction, and the (zero) offset. -/
def describe (t : Timestamp) : String :=
  let d := t.date
  let s := t.secondOfDay
  yearText d.year ++ "-" ++ padded 2 d.month ++ "-" ++ padded 2 d.day ++ " " ++
    toString (s / 3600) ++ ":" ++ padded 2 (s / 60 % 60) ++ ":" ++ padded 2 (s % 60) ++ "." ++
    fractionText t.nanos ++ " +00:00:00"

/-- The moment in RFC 3339 form, `2090-01-01T00:00:00Z`, with a fraction only when there is
one. -/
def rfc3339 (t : Timestamp) : String :=
  let d := t.date
  let s := t.secondOfDay
  let frac := if t.nanos = 0 then "" else "." ++ fractionText t.nanos
  yearText d.year ++ "-" ++ padded 2 d.month ++ "-" ++ padded 2 d.day ++ "T" ++
    padded 2 (s / 3600) ++ ":" ++ padded 2 (s / 60 % 60) ++ ":" ++ padded 2 (s % 60) ++ frac ++ "Z"

end Timestamp

end RevSync
