import RecordQuery.Calendar.Timestamp
import RecordQuery.Text.Blank

/-!
# Reading Dates and Times

Three written forms name an instant: a date and time with an offset in fixed-width fields,
a date and time without an offset, and a date alone. The latter two are lenient about the
width of their fields and about blanks before a number, and are taken as UTC.

## Main Definitions

* `Scan` — a reader of the front of a text
* `readOffsetForm` — fixed-width fields with an offset
* `DateTimeForm`, `readDateTime` — lenient fields without an offset
* `readDate` — a lenient date alone
* `Timestamp.parse?` — an instant in any of the forms
-/

namespace RecordQuery.Calendar

/-- A reader of the front of a text, which gives what it read and the text after it. -/
abbrev Scan (α : Type) := List Char → Option (α × List Char)

/-- Between `least` and `most` ASCII digits, as many as there are. -/
def number (least most : Nat) : Scan Nat := fun s =>
  let digits := (s.take most).takeWhile Char.isDigit
  if digits.length < least then none
  else
    some (digits.foldl (fun n c => 10 * n + (c.toNat - '0'.toNat)) 0, s.drop digits.length)

/-- One given character. -/
def expect (c : Char) : Scan Unit
  | d :: r => if d = c then some ((), r) else none
  | [] => none

/-- The fraction of a second after an optional point, in nanoseconds. Digits after the ninth
are passed over. -/
def fraction : Scan Nat
  | '.' :: r =>
    match number 1 9 r with
    | some (n, rest) =>
      some (n * Nat.pow 10 (9 - (r.length - rest.length)), rest.dropWhile Char.isDigit)
    | none => none
  | s => some (0, s)

/-- A date that exists, from its parts. -/
def dateOf (year : Int) (month day : Nat) : Option Date :=
  let d : Date := ⟨year, month, day⟩
  if d.Valid then some d else none

/-- The sign of an offset: plus, hyphen or the minus sign proper. -/
def offsetSign : Scan Int
  | '+' :: r => some (1, r)
  | '-' :: r => some (-1, r)
  | '\u2212' :: r => some (-1, r)
  | _ => none

/-- An offset in seconds: `Z`, or a sign, hours and minutes, less than a day. -/
def offset : Scan Int
  | 'Z' :: r => some (0, r)
  | 'z' :: r => some (0, r)
  | s => do
    let (sign, s) ← offsetSign s
    let (hours, s) ← number 2 2 s
    let (_, s) ← expect ':' s
    let (minutes, s) ← number 2 2 s
    if hours < 24 ∧ minutes < 60 then some (sign * (hours * 3600 + minutes * 60), s) else none

/-- What stands between the date and the time of the fixed-width form. -/
def isDateTimeMark (c : Char) : Bool :=
  c == 'T' || c == 't' || c == ' '

/-- Fields of fixed width with an offset, and nothing after them. -/
def readOffsetForm (s : List Char) : Option Timestamp := do
  let (year, s) ← number 4 4 s
  let (_, s) ← expect '-' s
  let (month, s) ← number 2 2 s
  let (_, s) ← expect '-' s
  let (day, s) ← number 2 2 s
  let s ← match s with
    | c :: r => if isDateTimeMark c then some r else none
    | [] => none
  let (hour, s) ← number 2 2 s
  let (_, s) ← expect ':' s
  let (minute, s) ← number 2 2 s
  let (_, s) ← expect ':' s
  let (second, s) ← number 2 2 s
  let (nanos, s) ← fraction s
  let (seconds, s) ← offset s
  let date ← dateOf year month day
  let t ← DateTime.atClock date hour minute second nanos
  if s.isEmpty then some (.ofLocal t seconds) else none

/-- A number of one or two digits, after any blanks. -/
def shortNumber : Scan Nat := fun s =>
  number 1 2 (Text.trimStart s)

/-- A year of up to four digits, or of any number of digits after a sign. -/
def signedYear : Scan Int := fun s =>
  match Text.trimStart s with
  | '-' :: r => (number 1 r.length r).map fun (n, s) => (-(n : Int), s)
  | '+' :: r => (number 1 r.length r).map fun (n, s) => ((n : Int), s)
  | s => (number 1 4 s).map fun (n, s) => ((n : Int), s)

/-- How lenient a form without offset is. -/
structure DateTimeForm where
  /-- Blanks may stand before each separator and at the end. -/
  gaps : Bool
  /-- The character between date and time; without one, any blanks may stand there. -/
  mark : Option Char

namespace DateTimeForm

/-- A `T` between date and time. -/
def marked : DateTimeForm := ⟨false, some 'T'⟩

/-- Blanks between date and time. -/
def spaced : DateTimeForm := ⟨false, none⟩

/-- A `T` between date and time, with blanks wherever they do no harm. -/
def loose : DateTimeForm := ⟨true, some 'T'⟩

/-- The text without the blanks that the form allows before a separator. -/
def skip (f : DateTimeForm) (s : List Char) : List Char :=
  if f.gaps then Text.trimStart s else s

/-- One separator of the form. -/
def separator (f : DateTimeForm) (c : Char) : Scan Unit := fun s =>
  expect c (f.skip s)

/-- What stands between date and time. -/
def between (f : DateTimeForm) : Scan Unit := fun s =>
  match f.mark with
  | some c => f.separator c s
  | none => some ((), Text.trimStart s)

/-- Year, month and day with hyphens between them. -/
def date (f : DateTimeForm) : Scan (Int × Nat × Nat) := fun s => do
  let (year, s) ← signedYear s
  let (_, s) ← f.separator '-' s
  let (month, s) ← shortNumber s
  let (_, s) ← f.separator '-' s
  let (day, s) ← shortNumber s
  return ((year, month, day), s)

end DateTimeForm

/-- A date and time without offset, and nothing after it. -/
def readDateTime (f : DateTimeForm) (s : List Char) : Option DateTime := do
  let ((year, month, day), s) ← f.date s
  let (_, s) ← f.between s
  let (hour, s) ← shortNumber s
  let (_, s) ← f.separator ':' s
  let (minute, s) ← shortNumber s
  let (_, s) ← f.separator ':' s
  let (second, s) ← shortNumber s
  let (nanos, s) ← fraction s
  let date ← dateOf year month day
  let t ← DateTime.atClock date hour minute second nanos
  if (f.skip s).isEmpty then some t else none

/-- A date alone, and nothing after it. -/
def readDate (s : List Char) : Option Date := do
  let ((year, month, day), s) ← DateTimeForm.marked.date s
  let date ← dateOf year month day
  if s.isEmpty then some date else none

end RecordQuery.Calendar

namespace RecordQuery.Timestamp

open Calendar

/-- The instant that a text names, without regard to blanks around it. The forms are tried
in order: with an offset, without one, a date alone. -/
def parse? (text : String) : Option Timestamp :=
  let s := Text.trim text.toList
  readOffsetForm s
    <|> (readDateTime .marked s).map ofDateTime
    <|> (readDateTime .spaced s).map ofDateTime
    <|> (readDate s).map fun d => ofDateTime (.midnight d)

end RecordQuery.Timestamp
