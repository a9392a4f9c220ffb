import DurableWorkflow.Json.Decode

/-!
# Timestamps

A point in time as a calendar day, a time of day and an offset from universal time.

## Main Definitions

* `Timestamp`: a point in time.
* `Timestamp.unixSeconds`: whole seconds since the start of 1970.
* `Timestamp.reader`: the written form, an array of nine integers.

## Design Notes

Days count from 1 within the year, in the Gregorian calendar extended to all years.  The parts of an
offset share the sign of the hours, or of the minutes if there are no hours.
-/

namespace DurableWorkflow

/-- A point in time. -/
structure Timestamp where
  year : Int
  day : Int
  hour : Int
  minute : Int
  second : Int
  nanosecond : Int
  offsetHours : Int
  offsetMinutes : Int
  offsetSeconds : Int
  deriving DecidableEq

namespace Timestamp

/-- The start of 1970. -/
def epoch : Timestamp := ⟨1970, 1, 0, 0, 0, 0, 0, 0, 0⟩

instance : Inhabited Timestamp := ⟨epoch⟩

/-- Whether a year has 366 days. -/
def isLeap (year : Int) : Bool :=
  year.emod 4 = 0 && (year.emod 100 ≠ 0 || year.emod 400 = 0)

/-- Days before a year, counted from the start of year 1. -/
def daysBefore (year : Int) : Int :=
  let y := year - 1
  365 * y + y.fdiv 4 - y.fdiv 100 + y.fdiv 400

/-- Seconds since the start of 1970, rounded down. -/
def unixSeconds (t : Timestamp) : Int :=
  (daysBefore t.year - daysBefore 1970 + (t.day - 1)) * 86400
    + t.hour * 3600 + t.minute * 60 + t.second
    - (t.offsetHours * 3600 + t.offsetMinutes * 60 + t.offsetSeconds)

/-- Whether two numbers have opposite signs. -/
def opposed (a b : Int) : Bool := (0 < a && b < 0) || (a < 0 && 0 < b)

/-- Whether the parts are within their ranges. -/
def inRange (t : Timestamp) : Bool :=
  let within (low high n : Int) : Bool := low ≤ n && n ≤ high
  within (-9999) 9999 t.year && within 1 (if isLeap t.year then 366 else 365) t.day
    && within 0 23 t.hour && within 0 59 t.minute && within 0 59 t.second
    && within 0 999999999 t.nanosecond && within (-25) 25 t.offsetHours
    && within (-59) 59 t.offsetMinutes && within (-59) 59 t.offsetSeconds

/-- Gives the parts of the offset one sign. -/
def alignOffset (t : Timestamp) : Timestamp :=
  let minutes := if opposed t.offsetHours t.offsetMinutes then -t.offsetMinutes else t.offsetMinutes
  let seconds :=
    if opposed t.offsetHours t.offsetSeconds || opposed minutes t.offsetSeconds then
      -t.offsetSeconds
    else t.offsetSeconds
  { t with offsetMinutes := minutes, offsetSeconds := seconds }

/-- The nine parts in order. -/
def toJson (t : Timestamp) : Json :=
  .array [.int t.year, .int t.day, .int t.hour, .int t.minute, .int t.second, .int t.nanosecond,
    .int t.offsetHours, .int t.offsetMinutes, .int t.offsetSeconds]

/-- A timestamp as it is written. -/
def reader : Json.Reader Timestamp := fun s v => do
  let _ ← s.inner?
  match v with
  | .array [.int year, .int day, .int hour, .int minute, .int second, .int nanosecond,
      .int offsetHours, .int offsetMinutes, .int offsetSeconds] =>
    let t : Timestamp := ⟨year, day, hour, minute, second, nanosecond, offsetHours, offsetMinutes,
      offsetSeconds⟩
    if t.inRange then some t.alignOffset else none
  | _ => none

end Timestamp

end DurableWorkflow
