/-!
# Civil Dates

Dates of the proleptic Gregorian calendar and their number of days since 1 January 1970.

## Main Definitions

* `Date` — year, month and day
* `Date.Valid` — dates that exist and lie in the supported range of years
* `Date.dayNumber`, `Date.ofDayNumber` — days since the epoch
* `Date.text` — the written form of a date
-/

namespace RecordQuery

/-- A year, a month counted from 1 and a day of the month counted from 1. -/
structure Date where
  year : Int
  month : Nat
  day : Nat
  deriving DecidableEq

namespace Date

/-- Leap years. -/
def isLeap (year : Int) : Bool :=
  year % 4 == 0 && (year % 100 != 0 || year % 400 == 0)

/-- The lengths of the twelve months. -/
def monthLengths (leap : Bool) : List Nat :=
  [31, if leap then 29 else 28, 31, 30, 31, 30, 31, 31, 30, 31, 30, 31]

/-- The first supported year. -/
def firstYear : Int := -262143

/-- The last supported year. -/
def lastYear : Int := 262142

/-- The date exists and its year is supported. -/
def Valid (d : Date) : Prop :=
  firstYear ≤ d.year ∧ d.year ≤ lastYear ∧ 1 ≤ d.month ∧ d.month ≤ 12 ∧ 1 ≤ d.day ∧
    d.day ≤ (monthLengths (isLeap d.year)).getD (d.month - 1) 0

instance (d : Date) : Decidable d.Valid := by
  unfold Valid; infer_instance

/-- Days from 1 January of year 1 to 1 January of a year. -/
def daysBeforeYear (year : Int) : Int :=
  let y := year - 1
  365 * y + y / 4 - y / 100 + y / 400

/-- Days from 1 January to the first of a month of the same year. -/
def daysBeforeMonth (leap : Bool) (month : Nat) : Nat :=
  ((monthLengths leap).take (month - 1)).foldl (· + ·) 0

/-- Days from 1 January of year 1 to 1 January 1970. -/
def epochDays : Int := 719162

/-- Days since 1 January 1970. -/
def dayNumber (d : Date) : Int :=
  daysBeforeYear d.year - epochDays + daysBeforeMonth (isLeap d.year) d.month + (d.day - 1)

/-- The year that holds the day `n` days after 1 January of year 1. The mean length of a
year gives it up to one year. -/
def yearOfDay (n : Int) : Int :=
  let guess := n * 400 / 146097 + 1
  if daysBeforeYear (guess + 1) ≤ n then guess + 1
  else if daysBeforeYear guess ≤ n then guess
  else guess - 1

/-- The month and day reached by counting a number of days through a list of months. -/
def monthAndDay : List Nat → Nat → Nat → Nat × Nat
  | [], month, rest => (month, rest + 1)
  | length :: lengths, month, rest =>
    if rest < length then (month, rest + 1)
    else monthAndDay lengths (month + 1) (rest - length)

/-- The date a number of days after 1 January 1970. -/
def ofDayNumber (n : Int) : Date :=
  let n := n + epochDays
  let year := yearOfDay n
  let (month, day) := monthAndDay (monthLengths (isLeap year)) 1 (n - daysBeforeYear year).toNat
  ⟨year, month, day⟩

/-- A number written with at least `width` digits. -/
def padded (width n : Nat) : List Char :=
  let digits := Nat.toDigits 10 n
  List.replicate (width - digits.length) '0' ++ digits

/-- A year of four digits, or one outside that range with a sign. -/
def yearText (year : Int) : List Char :=
  if 0 ≤ year ∧ year ≤ 9999 then padded 4 year.toNat
  else (if year < 0 then '-' else '+') :: padded 4 year.natAbs

/-- Year, month and day with hyphens between them. -/
def text (d : Date) : List Char :=
  yearText d.year ++ '-' :: padded 2 d.month ++ '-' :: padded 2 d.day

end Date

end RecordQuery
