import RecordQuery.Number.Binary64
import RecordQuery.Number.Layout

/-!
# Numbers

A number is a signed or an unsigned 64-bit integer or a floating-point number. Integers of
both kinds compare as integers; as soon as one side is a floating-point number, the other
is first rounded to one.

## Main Definitions

* `Number` — the three kinds
* `Number.order?` — numeric order across the kinds
* `Number.integral?` — the integer a number stands for exactly
* `Number.text` — decimal text without exponent
-/

namespace RecordQuery

/-- A number of one of the three stored kinds. -/
inductive Number
  | signed (n : Int64)
  | unsigned (n : UInt64)
  | float (x : Binary64)
  deriving DecidableEq

namespace Number

/-- The floating-point number nearest to a number. -/
def toFloat : Number → Binary64
  | signed n => .ofInt n.toInt
  | unsigned n => .ofInt n.toNat
  | float x => x

/-- Numeric order; only a NaN is not comparable. -/
def order? : Number → Number → Option Ordering
  | signed a, signed b => some (compare a.toInt b.toInt)
  | signed a, unsigned b => some (compare a.toInt (b.toNat : Int))
  | unsigned a, signed b => some (compare (a.toNat : Int) b.toInt)
  | unsigned a, unsigned b => some (compare (a.toNat : Int) (b.toNat : Int))
  | a, b => a.toFloat.order? b.toFloat

/-- Equality of two numbers of one kind; numbers of different kinds differ. -/
def identical : Number → Number → Bool
  | signed a, signed b => a == b
  | unsigned a, unsigned b => a == b
  | float x, float y => x.sameNumber y
  | _, _ => false

/-- Bound below which the integer value of a floating-point number is used. -/
def floatIntegerBound : Nat := 9300000000000000000

/-- The integer that a number stands for. A floating-point number stands for one when it is
equal to it and lies below the bound. -/
def integral? : Number → Option Int
  | signed n => some n.toInt
  | unsigned n => some n.toNat
  | float x =>
    match x.integer? with
    | some n => if n.natAbs < floatIntegerBound then some n else none
    | none => none

/-- Floating-point numbers as numbers write them: never with an exponent, and without a
fraction when there is none. -/
def layout : DecimalLayout where
  isPlain _ := true
  wholePoint := false
  tieUp := true
  nanText := "NaN"
  infinityText := "inf"

/-- The decimal text of a number. -/
def text : Number → String
  | signed n => toString n.toInt
  | unsigned n => toString n.toNat
  | float x => layout.text x

end Number

end RecordQuery
