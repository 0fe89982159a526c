import Rehost.Text.Basic
/-!
# Instants and their texts

An instant is whole seconds since 1970-01-01T00:00:00 UTC plus nanoseconds.
Calendar fields come from the proleptic Gregorian calendar through the
day-number conversions `civilOfDays` and `daysOfCivil`, checked at a few
boundaries by the `example`s below.

Years in `0..9999` are written with four digits; other years carry a sign and
at least four digits (`+10000`, `-0001`). Three texts are written:

* `Instant.compact`: `YYYYMMDDTHHMMSSZ`, for names and tags;
* `Instant.iso`: `YYYY-MM-DDTHH:MM:SS[.frac]Z`, the fraction left out when
  zero and otherwise 3, 6 or 9 digits, the fewest that are exact;
* `Instant.rfc3339`: the same with the offset written `+00:00`.

Representable instants lie between the years -262144 and 262143.
-/

namespace Rehost.Time

/-- Seconds in a day. -/
def secsPerDay : Int := 86400

/-- The day number (days since 1970-01-01) of a civil date. -/
def daysOfCivil (y : Int) (m d : Nat) : Int :=
  let y := if m ≤ 2 then y - 1 else y
  let era := y / 400
  let yoe := y % 400
  let mp : Int := if m > 2 then m - 3 else m + 9
  let doy := (153 * mp + 2) / 5 + d - 1
  let doe := yoe * 365 + yoe / 4 - yoe / 100 + doy
  era * 146097 + doe - 719468

/-- The civil date (year, month, day) of a day number. -/
def civilOfDays (z : Int) : Int × Nat × Nat :=
  let z := z + 719468
  let era := z / 146097
  let doe := z - era * 146097
  let yoe := (doe - doe / 1460 + doe / 36524 - doe / 146096) / 365
  let y := yoe + era * 400
  let doy := doe - (365 * yoe + yoe / 4 - yoe / 100)
  let mp := (5 * doy + 2) / 153
  let d := doy - (153 * mp + 2) / 5 + 1
  let m := if mp < 10 then mp + 3 else mp - 9
  (if m ≤ 2 then y + 1 else y, m.toNat, d.toNat)

example : civilOfDays 0 = (1970, 1, 1) := by decide
example : civilOfDays (-719528) = (0, 1, 1) := by decide
example : daysOfCivil 2000 2 29 = 11016 := by decide

/-- Whether a year has a 29th of February. -/
def isLeap (y : Int) : Bool := (y % 4 == 0 && y % 100 != 0) || y % 400 == 0

/-- The number of days in a month of a year. -/
def monthLength (y : Int) (m : Nat) : Nat :=
  if m == 2 then (if isLeap y then 29 else 28)
  else if m == 4 || m == 6 || m == 9 || m == 11 then 30 else 31

/-- The earliest representable year. -/
def minYear : Int := -262144

/-- The latest representable year. -/
def maxYear : Int := 262143

/-- A point in time. -/
structure Instant where
  secs : Int
  nanos : Nat := 0
  deriving DecidableEq, Repr, Inhabited

/-- Calendar fields of an instant in UTC. -/
structure Fields where
  year : Int
  month : Nat
  day : Nat
  hour : Nat
  minute : Nat
  second : Nat
  nanos : Nat
  deriving DecidableEq, Repr

namespace Instant

/-- The instant of a count of nanoseconds since the epoch. -/
def ofNanos (n : Int) : Instant := ⟨n / 1000000000, (n % 1000000000).toNat⟩

/-- Calendar fields in UTC; a nanosecond count of a second or more is a leap
    second, shown as second 60. -/
def fields (t : Instant) : Fields :=
  let days := t.secs / secsPerDay
  let rest := (t.secs % secsPerDay).toNat
  let (y, m, d) := civilOfDays days
  let leap := if t.nanos ≥ 1000000000 then 1 else 0
  { year := y, month := m, day := d, hour := rest / 3600, minute := rest / 60 % 60,
    second := rest % 60 + leap, nanos := t.nanos - leap * 1000000000 }

/-- Whether the instant falls in a representable year. -/
def inRange (t : Instant) : Bool :=
  let y := t.fields.year
  minYear ≤ y && y ≤ maxYear

/-- The instant of calendar fields with an offset east of UTC in seconds. -/
def ofFields (f : Fields) (offset : Int) : Instant :=
  ⟨daysOfCivil f.year f.month f.day * secsPerDay + f.hour * 3600 + f.minute * 60 + f.second - offset,
    f.nanos⟩

end Instant

/-- A number with at least `n` digits. -/
def digits (n : Nat) (v : Nat) : String := Text.padLeft (toString v) n '0'

/-- A year: four digits in `0..9999`, otherwise a sign and at least four digits. -/
def yearText (y : Int) : String :=
  if 0 ≤ y ∧ y ≤ 9999 then digits 4 y.toNat
  else if y < 0 then "-" ++ digits 4 y.natAbs
  else "+" ++ digits 4 y.toNat

/-- The fraction of a second: nothing when zero, else 3, 6 or 9 digits, the
    fewest that are exact. -/
def fractionText (nanos : Nat) : String :=
  if nanos == 0 then ""
  else if nanos % 1000000 == 0 then "." ++ digits 3 (nanos / 1000000)
  else if nanos % 1000 == 0 then "." ++ digits 6 (nanos / 1000)
  else "." ++ digits 9 nanos

namespace Fields

/-- The date as `YYYY-MM-DD`. -/
def dateText (f : Fields) : String :=
  yearText f.year ++ "-" ++ digits 2 f.month ++ "-" ++ digits 2 f.day

/-- The time of day as `HH:MM:SS`. -/
def clockText (f : Fields) : String :=
  digits 2 f.hour ++ ":" ++ digits 2 f.minute ++ ":" ++ digits 2 f.second

end Fields

namespace Instant

/-- The compact UTC form `YYYYMMDDTHHMMSSZ`. -/
def compact (t : Instant) : String :=
  let f := t.fields
  yearText f.year ++ digits 2 f.month ++ digits 2 f.day ++ "T" ++ digits 2 f.hour ++
    digits 2 f.minute ++ digits 2 f.second ++ "Z"

/-- The ISO form with a `Z` suffix. -/
def iso (t : Instant) : String :=
  let f := t.fields
  f.dateText ++ "T" ++ f.clockText ++ fractionText f.nanos ++ "Z"

/-- The RFC 3339 form with a `+00:00` offset. -/
def rfc3339 (t : Instant) : String :=
  let f := t.fields
  f.dateText ++ "T" ++ f.clockText ++ fractionText f.nanos ++ "+00:00"

end Instant

example : (Instant.mk 1765823400 0).compact = "20251215T183000Z" := by decide
example : (Instant.mk 1765823400 500000000).iso = "2025-12-15T18:30:00.500Z" := by decide

end Rehost.Time
