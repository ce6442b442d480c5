import RecordQuery.Number.Rounding

/-!
# 64-Bit Floating-Point Numbers

A floating-point number is the 64 bits that store it: a sign, eleven bits of exponent and
fifty-two of fraction. Order, rounding and conversion are defined on the bits in integer
arithmetic.

## Main Definitions

* `Binary64` — the 64 bits
* `Binary64.order?` — the numeric order, in which a NaN has no place
* `Binary64.totalOrder` — an order of all bit patterns that refines it
* `Binary64.ofRatio`, `Binary64.ofInt` — rounding to nearest
* `Binary64.mul`, `Binary64.div` — products and quotients, each rounded once
* `Binary64.narrow` — rounding to the 32-bit format
* `Binary64.integer?` — the integer a number is equal to
-/

namespace RecordQuery

/-- A 64-bit floating-point number. -/
structure Binary64 where
  bits : UInt64
  deriving DecidableEq, Inhabited

namespace Binary64

/-- The value of the sign bit. -/
def signBit : Nat := 0x8000000000000000

/-- The sign bit is set. -/
def negative (x : Binary64) : Bool :=
  signBit ≤ x.bits.toNat

/-- The bits without the sign. -/
def magnitude (x : Binary64) : Nat :=
  x.bits.toNat % signBit

/-- The magnitude of the infinities. -/
def infiniteMagnitude : Nat := 0x7FF0000000000000

/-- No number. -/
def isNaN (x : Binary64) : Bool :=
  infiniteMagnitude < x.magnitude

/-- A number that is not infinite. -/
def isFinite (x : Binary64) : Bool :=
  x.magnitude < infiniteMagnitude

/-- Bits from a sign and a magnitude. -/
def ofMagnitude (negative : Bool) (m : Nat) : Binary64 :=
  ⟨UInt64.ofNat (m + if negative then signBit else 0)⟩

/-- Positive zero. -/
def zero : Binary64 := ofMagnitude false 0

/-- An infinity. -/
def infinity (negative : Bool) : Binary64 :=
  ofMagnitude negative infiniteMagnitude

/-- The quiet NaN without payload. -/
def nan (negative : Bool) : Binary64 :=
  ofMagnitude negative 0x7FF8000000000000

/-- The place of a number in the numeric order; both zeros have place 0. -/
def rank (x : Binary64) : Int :=
  if x.negative then -(x.magnitude : Int) else x.magnitude

/-- The place of a bit pattern in the total order: negative patterns come first, the greater
magnitudes before the smaller. -/
def totalRank (x : Binary64) : Int :=
  if x.negative then -(x.magnitude : Int) - 1 else x.magnitude

/-- Numeric order; a NaN is not comparable. -/
def order? (x y : Binary64) : Option Ordering :=
  if x.isNaN || y.isNaN then none else some (compare x.rank y.rank)

/-- Total order of the bit patterns: NaNs lie at the two ends, by their sign. -/
def totalOrder (x y : Binary64) : Ordering :=
  compare x.totalRank y.totalRank

/-- Numeric equality: the zeros are equal, a NaN is not equal to itself. -/
def sameNumber (x y : Binary64) : Bool :=
  x.order? y == some .eq

/-- The number of fractions of one exponent. -/
def fractions : Nat := 0x10000000000000

/-- The stored exponent. -/
def exponentField (x : Binary64) : Nat :=
  x.magnitude / fractions

/-- The integer that a finite number is a multiple of a power of two of. -/
def significand (x : Binary64) : Nat :=
  if x.exponentField = 0 then x.magnitude % fractions
  else fractions + x.magnitude % fractions

/-- The power of two that scales the significand, counted from `2 ^ (-1074)`. -/
def scale (x : Binary64) : Nat :=
  x.exponentField - 1

/-- The size of a finite number as a multiple of `2 ^ (-1074)`. -/
def units (x : Binary64) : Nat :=
  x.significand * Nat.pow 2 x.scale

/-- The number 1 as a multiple of `2 ^ (-1074)`. -/
def unitsOfOne : Nat := Nat.pow 2 1074

/-- The number `± m * 2 ^ s`, for `m < 2 ^ 53` and `-1074 ≤ s`. -/
def ofScaled (negative : Bool) (m : Nat) (s : Int) : Binary64 :=
  let above := (s + 1074).toNat
  let shift := min above (52 - Nat.log2 m)
  let m := m * Nat.pow 2 shift
  if m < fractions then ofMagnitude negative m
  else ofMagnitude negative ((above - shift) * fractions + m)

/-- The number of a format nearest to `± n / d`; an infinity when that is too large. -/
def roundTo (f : BinaryFormat) (negative : Bool) (n d : Nat) : Binary64 :=
  match f.round n d with
  | some (m, s) => ofScaled negative m s
  | none => infinity negative

/-- The number nearest to `± n / d`. -/
def ofRatio (negative : Bool) (n d : Nat) : Binary64 :=
  roundTo .double negative n d

/-- The number nearest to an integer. -/
def ofInt (n : Int) : Binary64 :=
  ofRatio (n < 0) n.natAbs 1

/-- The product of two finite numbers, rounded to nearest. -/
def mul (x y : Binary64) : Binary64 :=
  ofRatio (x.negative != y.negative) (x.units * y.units) (unitsOfOne * unitsOfOne)

/-- The quotient of two finite numbers, of which the second is not zero, rounded to
nearest. -/
def div (x y : Binary64) : Binary64 :=
  ofRatio (x.negative != y.negative) x.units y.units

/-- The nearest number of the 32-bit format, again as 64 bits. -/
def narrow (x : Binary64) : Binary64 :=
  if x.isFinite then roundTo .single x.negative x.units unitsOfOne else x

/-- The integer that a finite number is equal to, if it is one. -/
def integer? (x : Binary64) : Option Int :=
  if x.isFinite && x.units % unitsOfOne == 0 then
    let n : Int := x.units / unitsOfOne
    some (if x.negative then -n else n)
  else none

end Binary64

end RecordQuery
