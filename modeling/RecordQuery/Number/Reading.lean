import RecordQuery.Number.Shortest
import RecordQuery.Number.Words
import RecordQuery.Text.Ascii

/-!
# Reading Numbers

Integers and floating-point numbers from their decimal text.

## Main Definitions

* `readSigned`, `readUnsigned` — 64-bit integers with an optional sign
* `readDecimal` — digits with an optional point and exponent
* `readFloat` — the floating-point number nearest to a decimal, or a named special one
-/

namespace RecordQuery.Reading

/-- The value of a text of ASCII digits. -/
def naturalValue (digits : List Char) : Nat :=
  digits.foldl (fun n c => 10 * n + (c.toNat - '0'.toNat)) 0

/-- A text of at least one ASCII digit and nothing else. -/
def readNatural (s : List Char) : Option Nat :=
  if !s.isEmpty && s.all Char.isDigit then some (naturalValue s) else none

/-- A leading sign, and the text after it. -/
def splitSign : List Char → Option Bool × List Char
  | '+' :: r => (some false, r)
  | '-' :: r => (some true, r)
  | r => (none, r)

/-- The text of an integer with an optional sign. -/
def readInteger (s : List Char) : Option Int :=
  match splitSign s with
  | (some true, r) => (readNatural r).map fun n => -(n : Int)
  | (_, r) => (readNatural r).map fun n => (n : Int)

/-- The text of a signed 64-bit integer. -/
def readSigned (s : List Char) : Option Int64 :=
  match readInteger s with
  | some n => signed64? n
  | none => none

/-- The text of an unsigned 64-bit integer, which may have a plus sign only. -/
def readUnsigned (s : List Char) : Option UInt64 :=
  match splitSign s with
  | (some true, _) => none
  | (_, r) =>
    match readNatural r with
    | some n => unsigned64? n
    | none => none

/-- Digits before and after an optional point; one of them at least. The result is the
decimal and the text after it. -/
def readMantissa (s : List Char) : Option (Decimal × List Char) :=
  let whole := s.takeWhile Char.isDigit
  match s.dropWhile Char.isDigit with
  | '.' :: r =>
    let fraction := r.takeWhile Char.isDigit
    if whole.isEmpty && fraction.isEmpty then none
    else
      some (⟨naturalValue (whole ++ fraction), -(fraction.length : Int)⟩,
        r.dropWhile Char.isDigit)
  | r => if whole.isEmpty then none else some (⟨naturalValue whole, 0⟩, r)

/-- An optional exponent that ends the text. -/
def readExponent : List Char → Option Int
  | [] => some 0
  | c :: r => if c = 'e' ∨ c = 'E' then readInteger r else none

/-- The text of an unsigned decimal. -/
def readDecimal (s : List Char) : Option Decimal := do
  let (mantissa, r) ← readMantissa s
  let e ← readExponent r
  return ⟨mantissa.digits, mantissa.exponent + e⟩

/-- The number of a format nearest to a decimal. Decimals far outside the range of every
format are decided by their number of digits alone. -/
def nearest (f : BinaryFormat) (negative : Bool) (d : Decimal) : Binary64 :=
  if d.digits = 0 then .ofMagnitude negative 0
  else
    let top := d.exponent + decimalLength d.digits
    if 400 < top then .infinity negative
    else if top < -400 then .ofMagnitude negative 0
    else
      match d.exponent with
      | .ofNat e => .roundTo f negative (d.digits * Nat.pow 10 e) 1
      | .negSucc e => .roundTo f negative d.digits (Nat.pow 10 (e + 1))

/-- The text of a floating-point number of a format: a decimal with an optional sign, or
`inf`, `infinity` or `nan` in any letter case. -/
def readFloatAs (f : BinaryFormat) (s : List Char) : Option Binary64 :=
  let (sign, r) := splitSign s
  let negative := sign.getD false
  let word := r.map Char.toLower
  if word = ['i', 'n', 'f'] ∨ word = ['i', 'n', 'f', 'i', 'n', 'i', 't', 'y'] then
    some (.infinity negative)
  else if word = ['n', 'a', 'n'] then some (.nan negative)
  else (readDecimal r).map (nearest f negative)

/-- The text of a 64-bit floating-point number. -/
def readFloat (s : List Char) : Option Binary64 :=
  readFloatAs .double s

end RecordQuery.Reading
