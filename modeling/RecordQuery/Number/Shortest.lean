import RecordQuery.Number.Binary64

/-!
# Shortest Decimals

Among the decimals that read back as a given floating-point number, the ones with the
fewest digits, and of those the nearest. A decimal reads back when it lies between the
midpoints to the two neighbouring numbers; the midpoints themselves belong to the number
whose significand is even.

## Main Definitions

* `Decimal` — an integer times a power of ten
* `Binary64.shortest` — the shortest decimal that reads back
-/

namespace RecordQuery

/-- The number `digits * 10 ^ exponent`. -/
structure Decimal where
  digits : Nat
  exponent : Int
  deriving DecidableEq

/-- The number of decimal digits of a positive number. -/
def decimalLength (n : Nat) : Nat :=
  (Nat.toDigits 10 n).length

/-- The greatest `k` with `10 ^ k ≤ n / d`, for positive `n` and `d`. -/
def floorLog10 (n d : Nat) : Int :=
  if d ≤ n then (decimalLength (n / d) : Int) - 1 else -(decimalLength ((d - 1) / n) : Int)

/-- The ratio of a number to a power of ten. -/
def divideByTenPow (n d : Nat) : Int → Nat × Nat
  | .ofNat e => (n, d * Nat.pow 10 e)
  | .negSucc e => (n * Nat.pow 10 (e + 1), d)

namespace Decimal

/-- The same number without trailing zeros in its digits. -/
def trimZeros (d : Decimal) : Decimal :=
  go (decimalLength d.digits) d
where
  go : Nat → Decimal → Decimal
    | 0, d => d
    | fuel + 1, d =>
      if d.digits ≠ 0 ∧ d.digits % 10 = 0 then go fuel ⟨d.digits / 10, d.exponent + 1⟩ else d

end Decimal

/-- The numbers that round to one floating-point number: the closed or open interval from
`low / unit` to `high / unit` around `mid / unit`. -/
structure RoundingInterval where
  low : Nat
  mid : Nat
  high : Nat
  unit : Nat
  closed : Bool

namespace RoundingInterval

/-- The number `n / d` lies in the interval. -/
def contains (i : RoundingInterval) (n d : Nat) : Bool :=
  if i.closed then i.low * d ≤ n * i.unit && n * i.unit ≤ i.high * d
  else i.low * d < n * i.unit && n * i.unit < i.high * d

/-- The multiple of `10 ^ k` nearest to the middle of the interval among its two neighbours
that lie in the interval. `tieUp` decides between two equally near ones: the greater one, or
else the even one. -/
def nearestOnGrid (i : RoundingInterval) (tieUp : Bool) (k : Int) : Option Nat :=
  let (n, d) := divideByTenPow i.mid i.unit k
  let below := n / d
  let inside (m : Nat) : Bool :=
    match k with
    | .ofNat e => i.contains (m * Nat.pow 10 e) 1
    | .negSucc e => i.contains m (Nat.pow 10 (e + 1))
  let rest := n % d
  let upper := if 2 * rest = d then tieUp || below % 2 == 1 else d < 2 * rest
  match inside below, inside (below + 1) with
  | true, true => some (if upper then below + 1 else below)
  | true, false => some below
  | false, true => some (below + 1)
  | false, false => none

/-- The first grid of `count`, `count + 1`, ... digits that meets the interval, where `top`
is the exponent of the leading digit. -/
def shortestFrom (i : RoundingInterval) (tieUp : Bool) (top : Int) : Nat → Nat → Decimal
  | 0, _ => ⟨i.mid / i.unit, 0⟩
  | fuel + 1, count =>
    let k := top + 1 - count
    match i.nearestOnGrid tieUp k with
    | some m => ⟨m, k⟩
    | none => shortestFrom i tieUp top fuel (count + 1)

/-- The shortest decimal in the interval. Seventeen digits always suffice. -/
def shortest (i : RoundingInterval) (tieUp : Bool) : Decimal :=
  (i.shortestFrom tieUp (floorLog10 i.mid i.unit) 17 1).trimZeros

end RoundingInterval

namespace Binary64

/-- The numbers that round to the size of a finite positive number. The gap below a power
of two is half the gap above it. -/
def roundingInterval (x : Binary64) : RoundingInterval :=
  let m := x.significand
  let (step, unit) :=
    if 1074 ≤ x.scale then (Nat.pow 2 (x.scale - 1074), 4)
    else (1, 4 * Nat.pow 2 (1074 - x.scale))
  let gapBelow := if m = fractions ∧ 0 < x.scale then step else 2 * step
  { low := 4 * m * step - gapBelow
    mid := 4 * m * step
    high := 4 * m * step + 2 * step
    unit
    closed := m % 2 == 0 }

/-- The shortest decimal that reads back as the size of a finite number. -/
def shortest (x : Binary64) (tieUp : Bool) : Decimal :=
  if x.magnitude = 0 then ⟨0, 0⟩ else x.roundingInterval.shortest tieUp

end Binary64

end RecordQuery
