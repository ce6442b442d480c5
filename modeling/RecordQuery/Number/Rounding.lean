/-!
# Rounding to a Binary Format

A non-negative ratio is rounded to the nearest multiple of a power of two that has a
limited number of binary digits; a ratio half-way between two of them goes to the even one.
Everything is exact arithmetic on natural numbers.

## Main Definitions

* `BinaryFormat` — number of digits and range of scales
* `roundHalfEven` — the integer nearest to a ratio
* `BinaryFormat.round` — the nearest number of a format, unless the ratio is too large
-/

namespace RecordQuery

/-- The integer nearest to `n / d`; of two equally near the even one. -/
def roundHalfEven (n d : Nat) : Nat :=
  let q := n / d
  let r := n % d
  if 2 * r < d then q
  else if d < 2 * r then q + 1
  else if q % 2 = 0 then q
  else q + 1

/-- A ratio divided by a power of two. -/
def divideByPow (n d : Nat) : Int → Nat × Nat
  | .ofNat e => (n, d * Nat.pow 2 e)
  | .negSucc e => (n * Nat.pow 2 (e + 1), d)

/-- The greatest `k` with `2 ^ k ≤ n / d`, for positive `n` and `d`. -/
def floorLog2 (n d : Nat) : Int :=
  let k : Int := (Nat.log2 n : Int) - Nat.log2 d
  let (n', d') := divideByPow n d k
  if d' ≤ n' then k else k - 1

/-- Numbers `m * 2 ^ s` with `m < 2 ^ precision` and `leastScale ≤ s ≤ greatestScale`. -/
structure BinaryFormat where
  precision : Nat
  leastScale : Int
  greatestScale : Int

namespace BinaryFormat

/-- The 64-bit format. -/
def double : BinaryFormat := ⟨53, -1074, 971⟩

/-- The 32-bit format. -/
def single : BinaryFormat := ⟨24, -149, 104⟩

/-- The number `m * 2 ^ s` of the format nearest to `n / d`, as the pair of `m` and `s`.
There is none when the rounded ratio needs a greater scale than the format has. -/
def round (f : BinaryFormat) (n d : Nat) : Option (Nat × Int) :=
  let scale := max f.leastScale (floorLog2 n d - ((f.precision : Int) - 1))
  let (n', d') := divideByPow n d scale
  let m := roundHalfEven n' d'
  let (m, scale) := if m = Nat.pow 2 f.precision then (m / 2, scale + 1) else (m, scale)
  if f.greatestScale < scale then none else some (m, scale)

end BinaryFormat

end RecordQuery
