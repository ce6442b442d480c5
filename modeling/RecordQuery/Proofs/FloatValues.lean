import Mathlib.Algebra.Field.Rat
import Mathlib.Tactic.FieldSimp
import Mathlib.Tactic.Positivity
import RecordQuery.Number

/-!
# Exact values of numbers

A finite floating-point number stands for a rational number: its significand times a
power of two, with its sign.  The definitions of the library compute in integers
instead, as multiples of the least positive number.  `Binary64.value?` is the rational
number, and `Binary64.integer?_eq_some_iff` says that the integer which is found by
division is the value itself, whenever that is an integer.

A number of any kind counts as an integer when its value is one, except that
floating-point numbers do not count from a bound on (`Number.integral?_eq_some_iff`).
-/

namespace RecordQuery

namespace Binary64

/-- The rational number that the bits stand for; infinities and NaNs stand for none. -/
def value? (x : Binary64) : Option ℚ :=
  if x.isFinite then
    some ((if x.negative then -1 else 1) * (x.significand * 2 ^ ((x.scale : ℤ) - 1074)))
  else none

theorem pow_two_pos (k : ℕ) : 0 < Nat.pow 2 k :=
  Nat.two_pow_pos k

theorem cast_pow_two (k : ℕ) : (Nat.pow 2 k : ℚ) = 2 ^ k :=
  Nat.cast_pow 2 k

theorem unitsOfOne_pos : 0 < unitsOfOne := by
  unfold unitsOfOne
  generalize 1074 = k
  exact pow_two_pos k

theorem cast_unitsOfOne : (unitsOfOne : ℚ) = 2 ^ 1074 := by
  unfold unitsOfOne
  generalize 1074 = k
  exact cast_pow_two k

/-- The size of a number, counted in the units of the integer definitions. -/
theorem significand_mul_zpow (x : Binary64) :
    (x.significand * 2 ^ ((x.scale : ℤ) - 1074) : ℚ) = x.units / unitsOfOne := by
  have hscale : (2 : ℚ) ^ ((x.scale : ℤ) - 1074) = 2 ^ x.scale / 2 ^ 1074 :=
    zpow_natCast_sub_natCast₀ two_ne_zero x.scale 1074
  rw [hscale, cast_unitsOfOne, units, Nat.cast_mul, cast_pow_two, mul_div_assoc]

/-- A finite number is a multiple of the least positive one, with a sign. -/
theorem value?_of_isFinite {x : Binary64} (h : x.isFinite) :
    x.value? = some (if x.negative then -(x.units / unitsOfOne : ℚ) else x.units / unitsOfOne) := by
  rw [value?, if_pos h, significand_mul_zpow]
  split
  · rw [neg_one_mul]
  · rw [one_mul]

/-- A ratio is an integer exactly when the division comes out even. -/
theorem div_eq_intCast_iff {n d : ℕ} (hd : 0 < d) {i : ℤ} :
    (n / d : ℚ) = i ↔ n % d = 0 ∧ ((n / d : ℕ) : ℤ) = i := by
  have hd' : (d : ℚ) ≠ 0 := Nat.cast_ne_zero.mpr hd.ne'
  rw [div_eq_iff hd']
  constructor
  · intro h
    have hmul : (n : ℤ) = i * d := by exact_mod_cast h
    have hdvd : d ∣ n := Int.natCast_dvd_natCast.mp ⟨i, by rw [hmul, mul_comm]⟩
    refine ⟨Nat.mod_eq_zero_of_dvd hdvd, ?_⟩
    rw [Int.natCast_div, hmul, Int.mul_ediv_cancel _ (Int.natCast_ne_zero.mpr hd.ne')]
  · rintro ⟨hmod, rfl⟩
    exact_mod_cast (Nat.div_mul_cancel (Nat.dvd_of_mod_eq_zero hmod)).symm

/-- **The integer that a number is equal to is its exact value.** -/
theorem integer?_eq_some_iff {x : Binary64} {i : ℤ} :
    x.integer? = some i ↔ x.value? = some (i : ℚ) := by
  by_cases hfinite : x.isFinite
  · rw [value?_of_isFinite hfinite, integer?, hfinite, Option.some.injEq]
    have hsize : ∀ j : ℤ, (x.units / unitsOfOne : ℚ) = j ↔
        x.units % unitsOfOne = 0 ∧ ((x.units / unitsOfOne : ℕ) : ℤ) = j := fun j =>
      div_eq_intCast_iff unitsOfOne_pos
    generalize unitsOfOne = d at hsize ⊢
    cases x.negative with
    | false => simpa using (hsize i).symm
    | true =>
        have hneg := hsize (-i)
        rw [Int.cast_neg, ← neg_eq_iff_eq_neg, ← neg_eq_iff_eq_neg] at hneg
        simpa using hneg.symm
  · simp [integer?, value?, hfinite]

end Binary64

namespace Number

/-- A number of the floating-point kind. -/
def isFloat : Number → Bool
  | float _ => true
  | _ => false

/-- The exact value of a number; infinities and NaNs have none. -/
def value? : Number → Option ℚ
  | signed n => some n.toInt
  | unsigned n => some n.toNat
  | float x => x.value?

/-- A floating-point number counts as an integer if it is one and of a size below the bound.
-/
theorem integral?_float_eq_some_iff {x : Binary64} {i : ℤ} :
    (float x).integral? = some i ↔ x.integer? = some i ∧ i.natAbs < floatIntegerBound := by
  rw [integral?]
  cases x.integer? with
  | none => simp
  | some j =>
      simp only [Option.some.injEq, Option.ite_none_right_eq_some]
      constructor
      · rintro ⟨hbound, rfl⟩
        exact ⟨rfl, hbound⟩
      · rintro ⟨rfl, hbound⟩
        exact ⟨hbound, rfl⟩

/-- **A number counts as an integer when its exact value is one**, unless it is a
floating-point number from the bound on. -/
theorem integral?_eq_some_iff {n : Number} {i : ℤ} :
    n.integral? = some i ↔
      n.value? = some (i : ℚ) ∧ (n.isFloat → i.natAbs < floatIntegerBound) := by
  cases n with
  | signed w => simp [integral?, value?, isFloat]
  | unsigned w =>
      have hcast : ((w.toNat : ℕ) : ℚ) = i ↔ (w.toNat : ℤ) = i := by exact_mod_cast Iff.rfl
      simp [integral?, value?, isFloat, hcast]
  | float x =>
      rw [integral?_float_eq_some_iff, value?, Binary64.integer?_eq_some_iff]
      simp [isFloat]

end Number

end RecordQuery
