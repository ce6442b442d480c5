import RecordQuery.Json.Basic
import RecordQuery.Number.Reading

/-!
# Numbers in JSON Text

A numeral is the spelling of a number: its digits and exponent, as they are written. An
integer that fits 64 bits, signed or unsigned, stays an integer. Every other numeral is a
floating-point number, which is found in three steps: the leading digits that fit a 64-bit
word are kept, the word is rounded to a floating-point number, and that is multiplied or
divided by a rounded power of ten. Each step may round, so the result need not be the number
nearest to the numeral. A result too large for a floating-point number is refused.

## Main Definitions

* `Numeral` — the spelling of a number
* `Numeral.read` — a numeral at the front of a text
* `Numeral.value?` — the number that a numeral stands for
-/

namespace RecordQuery

namespace Binary64

/-- A power of ten, rounded to nearest. -/
def powerOfTen (e : Nat) : Binary64 :=
  ofRatio false (Nat.pow 10 e) 1

/-- The exponent of the greatest finite power of ten. -/
def greatestPowerOfTen : Nat := 308

/-- A number divided by a power of ten; divided more than once when the power is not
finite. -/
def divideByTens (x : Binary64) (e : Nat) : Binary64 :=
  if e ≤ greatestPowerOfTen then x.div (powerOfTen e)
  else if x.magnitude = 0 then x
  else divideByTens (x.div (powerOfTen greatestPowerOfTen)) (e - greatestPowerOfTen)
termination_by e
decreasing_by simp only [greatestPowerOfTen] at *; omega

/-- A number multiplied by a power of ten, unless the product is too large. -/
def scaleByTens? (x : Binary64) : Int → Option Binary64
  | .negSucc e => some (x.divideByTens (e + 1))
  | .ofNat e =>
    if e ≤ greatestPowerOfTen then
      let y := x.mul (powerOfTen e)
      if y.isFinite then some y else none
    else if x.magnitude = 0 then some x
    else none

end Binary64

namespace Json

/-- The spelling of a number: the digits before and after the point, and the exponent. -/
structure Numeral where
  negative : Bool
  whole : List Char
  fraction : List Char
  power : Option Int

namespace Numeral

/-- The digits of an integer part: a zero alone, or digits that do not begin with one. -/
def readWhole : List Char → Option (List Char × List Char)
  | '0' :: r => some (['0'], r)
  | s =>
    let digits := s.takeWhile Char.isDigit
    if digits.isEmpty then none else some (digits, s.dropWhile Char.isDigit)

/-- An optional fraction, as its digits. -/
def readFraction : List Char → Option (List Char × List Char)
  | '.' :: r =>
    let digits := r.takeWhile Char.isDigit
    if digits.isEmpty then none else some (digits, r.dropWhile Char.isDigit)
  | s => some ([], s)

/-- An optional exponent. -/
def readPower : List Char → Option (Option Int × List Char)
  | [] => some (none, [])
  | c :: r =>
    if c = 'e' ∨ c = 'E' then
      let (sign, r) := Reading.splitSign r
      let digits := r.takeWhile Char.isDigit
      let size : Int := Reading.naturalValue digits
      if digits.isEmpty then none
      else some (some (if sign = some true then -size else size), r.dropWhile Char.isDigit)
    else some (none, c :: r)

/-- A numeral at the front of a text, and the text after it. -/
def read (s : List Char) : Option (Numeral × List Char) := do
  let (negative, s) := match s with
    | '-' :: r => (true, r)
    | s => (false, s)
  let (whole, s) ← readWhole s
  let (fraction, s) ← readFraction s
  let (power, s) ← readPower s
  return (⟨negative, whole, fraction, power⟩, s)

/-- Append digits to a number while it fits an unsigned 64-bit word. The result is the
number and the digits that are left. -/
def appendDigits (n : Nat) : List Char → Nat × List Char
  | [] => (n, [])
  | c :: r =>
    let next := 10 * n + (c.toNat - '0'.toNat)
    if next < UInt64.size then appendDigits next r else (n, c :: r)

/-- The floating-point number of a numeral, unless it is too large. Digits of the fraction
are tried again after digits of the integer part were left. -/
def float? (n : Numeral) : Option Binary64 :=
  let (kept, excess) := appendDigits 0 n.whole
  let (kept, ignored) := appendDigits kept n.fraction
  let places : Int := (n.fraction.length : Int) - ignored.length
  let scaled := (Binary64.ofInt kept).scaleByTens? (n.power.getD 0 + excess.length - places)
  scaled.map fun x => .ofMagnitude n.negative x.magnitude

/-- The integer of a numeral without fraction and exponent, if it fits 64 bits. Minus zero
is no integer. -/
def integer? (n : Numeral) : Option Int :=
  let size := Reading.naturalValue n.whole
  if !n.fraction.isEmpty || n.power.isSome then none
  else if !n.negative then (unsigned64? size).map fun _ => (size : Int)
  else if size = 0 then none
  else (signed64? (-(size : Int))).map fun _ => -(size : Int)

/-- The number that a numeral stands for, unless it is too large. -/
def value? (n : Numeral) : Option Json :=
  match n.integer? with
  | some i => some (integer i)
  | none => n.float?.map float

end Numeral

end Json

end RecordQuery
