import RecordQuery.Calendar.Date

/-!
# Civil Date-Times

A date with a time of day, at nanosecond precision and without an offset. The second named
60 of a minute is kept as second 59 with more than a billion nanoseconds.

## Main Definitions

* `DateTime` — a date, a second of the day and nanoseconds
* `DateTime.atClock` — a date-time from hour, minute and second
* `DateTime.text` — the written form
-/

namespace RecordQuery

/-- A date, the seconds since its midnight and the nanoseconds since that second. -/
structure DateTime where
  date : Date
  secondOfDay : Nat
  nanos : Nat
  deriving DecidableEq

namespace DateTime

/-- Nanoseconds in a second. -/
def nanosPerSecond : Nat := 1000000000

/-- Seconds in a day. -/
def secondsPerDay : Nat := 86400

/-- The date-time at an hour, minute, second and nanosecond. Second 60 is the last second of
its minute, prolonged. -/
def atClock (date : Date) (hour minute second nanos : Nat) : Option DateTime :=
  if hour < 24 ∧ minute < 60 ∧ second ≤ 60 then
    if second = 60 then
      some ⟨date, hour * 3600 + minute * 60 + 59, nanosPerSecond + nanos⟩
    else some ⟨date, hour * 3600 + minute * 60 + second, nanos⟩
  else none

/-- Midnight of a date. -/
def midnight (date : Date) : DateTime :=
  ⟨date, 0, 0⟩

/-- A fraction of a second, in as many groups of three digits as it needs. -/
def fractionText (nanos : Nat) : List Char :=
  if nanos = 0 then []
  else if nanos % 1000000 = 0 then '.' :: Date.padded 3 (nanos / 1000000)
  else if nanos % 1000 = 0 then '.' :: Date.padded 6 (nanos / 1000)
  else '.' :: Date.padded 9 nanos

/-- Hours, minutes and seconds with colons between them, and the fraction. -/
def clockText (t : DateTime) : List Char :=
  let (second, nanos) :=
    if nanosPerSecond ≤ t.nanos then (t.secondOfDay % 60 + 1, t.nanos - nanosPerSecond)
    else (t.secondOfDay % 60, t.nanos)
  Date.padded 2 (t.secondOfDay / 3600) ++ ':' :: Date.padded 2 (t.secondOfDay / 60 % 60) ++
    ':' :: Date.padded 2 second ++ fractionText nanos

/-- Date and time with a `T` between them. -/
def text (t : DateTime) : List Char :=
  t.date.text ++ 'T' :: t.clockText

end DateTime

end RecordQuery
