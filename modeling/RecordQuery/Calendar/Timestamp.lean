import RecordQuery.Calendar.DateTime
import RecordQuery.Number.Words

/-!
# Timestamps

A timestamp is a number of whole seconds since the start of 1970 in UTC and a part of a
second in nanoseconds. Every way to make one carries whole seconds out of the nanoseconds,
so that timestamps are equal exactly when they name the same instant.

## Main Definitions

* `Timestamp` — seconds and nanoseconds
* `Timestamp.make` — a timestamp with the carry
* `Timestamp.ofMillis`, `Timestamp.toMillis` — milliseconds since the epoch
* `Timestamp.ofDateTime`, `Timestamp.toDateTime?` — civil date-times in UTC
* `Timestamp.text` — the written form
-/

namespace RecordQuery

/-- An instant at nanosecond precision. -/
structure Timestamp where
  secs : Int64
  nanos : Nat
  nanos_lt : nanos < 1000000000 := by omega
  deriving DecidableEq

namespace Timestamp

/-- The start of 1970. -/
def epoch : Timestamp := { secs := 0, nanos := 0 }

instance : Inhabited Timestamp := ⟨epoch⟩

/-- The instant some nanoseconds after a second. Whole seconds are carried, up to the
greatest second there is. -/
def make (secs : Int64) (nanos : Nat) : Timestamp where
  secs := saturate64 (secs.toInt + (nanos / 1000000000 : Nat))
  nanos := nanos % 1000000000
  nanos_lt := Nat.mod_lt _ (by decide)

/-- Chronological order. -/
def order (s t : Timestamp) : Ordering :=
  (compare s.secs.toInt t.secs.toInt).then (compare s.nanos t.nanos)

/-- The instant a number of milliseconds after the epoch. -/
def ofMillis (millis : Int64) : Timestamp :=
  make (.ofInt (millis.toInt / 1000)) ((millis.toInt % 1000).toNat * 1000000)

/-- Whole milliseconds since the epoch, toward the past; both steps stop at the limits of
64 bits. -/
def toMillis (t : Timestamp) : Int64 :=
  saturate64 ((saturate64 (t.secs.toInt * 1000)).toInt + (t.nanos / 1000000 : Nat))

/-- The instant of a civil date-time, of which UTC is `offset` seconds behind. -/
def ofLocal (t : DateTime) (offset : Int) : Timestamp :=
  make (.ofInt (t.date.dayNumber * 86400 + t.secondOfDay - offset)) t.nanos

/-- The instant of a civil date-time in UTC. -/
def ofDateTime (t : DateTime) : Timestamp :=
  ofLocal t 0

/-- The civil date-time in UTC, if its year is supported. -/
def toDateTime? (t : Timestamp) : Option DateTime :=
  let day := t.secs.toInt / 86400
  let date := Date.ofDayNumber day
  if date.Valid then some ⟨date, (t.secs.toInt % 86400).toNat, t.nanos⟩ else none

/-- The start of the day in UTC. -/
def startOfDay (t : Timestamp) : Timestamp :=
  make (.ofInt (t.secs.toInt / 86400 * 86400)) 0

/-- Date and time in UTC; an instant without a supported date is written as its seconds with
nine decimals. -/
def text (t : Timestamp) : String :=
  match t.toDateTime? with
  | some d => String.ofList (d.text ++ ['Z'])
  | none => toString t.secs.toInt ++ String.ofList ('.' :: Date.padded 9 t.nanos ++ ['s'])

end Timestamp

end RecordQuery
