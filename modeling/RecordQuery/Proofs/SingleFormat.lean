import Mathlib.Data.Int.Log
import Mathlib.Data.Rat.Floor
import RecordQuery.Proofs.Rounding

/-!
# Numbers of the 32-bit format

A format has the multiples of a power of two that its number of digits and its range of scales
allow (`BinaryFormat.Has`).  Rounding to a format gives one of its numbers
(`BinaryFormat.round_bounds`) and leaves a number that it has as it is
(`BinaryFormat.exists_round_of_has`).

Both rest on the scale that a ratio is rounded at.  It is the least one at which the ratio
takes no more digits than there are, so that no number of the format is finer.  For 64-bit
numbers it follows that narrowing gives the numbers of the 32-bit format, and that they are
the ones which it leaves unchanged (`Binary64.narrow_eq_self_iff`).
-/

namespace RecordQuery

/-! ## Ratios -/

section Ratios

variable {n d : ℕ}

/-- A ratio over a power of two is a ratio of natural numbers again. -/
theorem divideByPow_spec (n : ℕ) (hd : 0 < d) (e : ℤ) :
    0 < (divideByPow n d e).2 ∧
      ((divideByPow n d e).1 / (divideByPow n d e).2 : ℚ) = n / d / 2 ^ e := by
  cases e with
  | ofNat e =>
      refine ⟨Nat.mul_pos hd (Binary64.pow_two_pos e), ?_⟩
      rw [Int.ofNat_eq_natCast, zpow_natCast, div_div, divideByPow_natCast, Nat.cast_mul,
        Binary64.cast_pow_two]
  | negSucc e =>
      refine ⟨hd, ?_⟩
      simp only [divideByPow]
      rw [zpow_negSucc, div_inv_eq_mul, Nat.cast_mul, Binary64.cast_pow_two, mul_div_right_comm]

/-- The exponent of the power of two that a ratio reaches. -/
theorem floorLog2_eq_log (hn : 0 < n) (hd : 0 < d) :
    floorLog2 n d = Int.log 2 (n / d : ℚ) := by
  have hn' : (0 : ℚ) < n := Nat.cast_pos.mpr hn
  have hd' : (0 : ℚ) < d := Nat.cast_pos.mpr hd
  have hratio : (0 : ℚ) < n / d := div_pos hn' hd'
  have hbelow : ∀ {x : ℕ}, 0 < x → (2 : ℚ) ^ (Nat.log2 x : ℤ) ≤ x := fun hx => by
    exact_mod_cast Nat.log2_self_le hx.ne'
  have habove : ∀ x : ℕ, (x : ℚ) < 2 ^ ((Nat.log2 x : ℤ) + 1) := fun x => by
    exact_mod_cast Nat.lt_log2_self (n := x)
  obtain ⟨hpos, hvalue⟩ := divideByPow_spec n hd ((Nat.log2 n : ℤ) - Nat.log2 d)
  unfold floorLog2
  generalize hk : (Nat.log2 n : ℤ) - Nat.log2 d = k at hpos hvalue ⊢
  -- The digits of numerator and denominator give the exponent or the one above it.
  have hlow : (2 : ℚ) ^ (k - 1) ≤ n / d := by
    rw [le_div_iff₀ hd']
    calc
      (2 : ℚ) ^ (k - 1) * d ≤ 2 ^ (k - 1) * 2 ^ ((Nat.log2 d : ℤ) + 1) :=
        mul_le_mul_of_nonneg_left (habove d).le (zpow_nonneg zero_le_two _)
      _ = 2 ^ (Nat.log2 n : ℤ) := by
        rw [← zpow_add₀ two_ne_zero]
        congr 1
        omega
      _ ≤ n := hbelow hn
  have hhigh : (n / d : ℚ) < 2 ^ (k + 1) := by
    rw [div_lt_iff₀ hd']
    calc
      (n : ℚ) < 2 ^ ((Nat.log2 n : ℤ) + 1) := habove n
      _ = 2 ^ (k + 1) * 2 ^ (Nat.log2 d : ℤ) := by
        rw [← zpow_add₀ two_ne_zero]
        congr 1
        omega
      _ ≤ 2 ^ (k + 1) * d := mul_le_mul_of_nonneg_left (hbelow hd) (zpow_nonneg zero_le_two _)
  have hreached : (divideByPow n d k).2 ≤ (divideByPow n d k).1 ↔ (2 : ℚ) ^ k ≤ n / d := by
    have hk' : (0 : ℚ) < 2 ^ k := zpow_pos two_pos k
    rw [← one_le_div hk', ← hvalue, one_le_div (Nat.cast_pos.mpr hpos), Nat.cast_le]
  have hlog : ∀ j : ℤ, (2 : ℚ) ^ j ≤ n / d → (n / d : ℚ) < 2 ^ (j + 1) →
      j = Int.log 2 (n / d : ℚ) := fun j hle hlt =>
    le_antisymm ((Int.zpow_le_iff_le_log one_lt_two hratio).mp (by exact_mod_cast hle))
      (Int.lt_add_one_iff.mp
        ((Int.lt_zpow_iff_log_lt one_lt_two hratio).mp (by exact_mod_cast hlt)))
  dsimp only
  split
  next h => exact hlog k (hreached.mp h) hhigh
  next h =>
    refine hlog (k - 1) hlow ?_
    rw [sub_add_cancel]
    exact not_le.mp fun hle => h (hreached.mpr hle)

/-- A ratio that is an integer is rounded to it. -/
theorem roundHalfEven_of_div_eq {q : ℕ} (hd : 0 < d) (h : (n / d : ℚ) = q) :
    roundHalfEven n d = q := by
  have hn : n = q * d := by
    rw [div_eq_iff (Nat.cast_ne_zero.mpr hd.ne')] at h
    exact_mod_cast h
  have hdiv : q * d / d = q := Nat.mul_div_cancel q hd
  have hmod : q * d % d = 0 := Nat.mul_mod_left q d
  rw [hn, roundHalfEven]
  simp only [hdiv, hmod, Nat.mul_zero, if_pos hd]

end Ratios

/-! ## Formats -/

namespace BinaryFormat

variable {f : BinaryFormat} {n d m : ℕ} {s : ℤ} {q : ℚ}

/-- The numbers of a format, of either sign. -/
def Has (f : BinaryFormat) (q : ℚ) : Prop :=
  ∃ m : ℕ, ∃ s : ℤ, m < 2 ^ f.precision ∧ f.leastScale ≤ s ∧ s ≤ f.greatestScale ∧
    |q| = m * 2 ^ s

/-- The scale at which a ratio is rounded. -/
def scaleOf (f : BinaryFormat) (n d : ℕ) : ℤ :=
  max f.leastScale (floorLog2 n d - ((f.precision : ℤ) - 1))

/-- The ratio rounded at its scale. -/
def stepsOf (f : BinaryFormat) (n d : ℕ) : ℕ :=
  roundHalfEven (divideByPow n d (f.scaleOf n d)).1 (divideByPow n d (f.scaleOf n d)).2

theorem round_eq (f : BinaryFormat) (n d : ℕ) : f.round n d =
    if f.stepsOf n d = 2 ^ f.precision then
      if f.greatestScale < f.scaleOf n d + 1 then none
      else some (f.stepsOf n d / 2, f.scaleOf n d + 1)
    else if f.greatestScale < f.scaleOf n d then none
    else some (f.stepsOf n d, f.scaleOf n d) := by
  unfold round
  change (if f.greatestScale < (if f.stepsOf n d = 2 ^ f.precision then _ else _ : ℕ × ℤ).2 then
    none else some (if f.stepsOf n d = 2 ^ f.precision then _ else _)) = _
  split <;> rfl

/-- At the scale of a ratio there are digits enough for it. -/
theorem ratio_lt (f : BinaryFormat) (n : ℕ) (hd : 0 < d) :
    (n / d / 2 ^ f.scaleOf n d : ℚ) < 2 ^ f.precision := by
  rcases Nat.eq_zero_or_pos n with rfl | hn
  · rw [Nat.cast_zero, zero_div, zero_div]
    exact pow_pos two_pos _
  · have hscale : Int.log 2 (n / d : ℚ) + 1 ≤ f.precision + f.scaleOf n d := by
      have hle : floorLog2 n d - ((f.precision : ℤ) - 1) ≤ f.scaleOf n d := le_max_right _ _
      rw [floorLog2_eq_log hn hd] at hle
      omega
    rw [div_lt_iff₀ (zpow_pos two_pos _), ← zpow_natCast, ← zpow_add₀ two_ne_zero]
    calc
      (n / d : ℚ) < 2 ^ (Int.log 2 (n / d : ℚ) + 1) := by
        exact_mod_cast Int.lt_zpow_succ_log_self one_lt_two (n / d : ℚ)
      _ ≤ 2 ^ (f.precision + f.scaleOf n d) := zpow_le_zpow_right₀ one_le_two hscale

/-- A ratio is rounded to a number of digits that there are, or to the power of two behind
them. -/
theorem stepsOf_le (f : BinaryFormat) (n : ℕ) (hd : 0 < d) :
    f.stepsOf n d ≤ 2 ^ f.precision := by
  obtain ⟨hpos, hvalue⟩ := divideByPow_spec n hd (f.scaleOf n d)
  have hratio := f.ratio_lt n hd
  rw [← hvalue, div_lt_iff₀ (Nat.cast_pos.mpr hpos)] at hratio
  have hlt : (divideByPow n d (f.scaleOf n d)).1 / (divideByPow n d (f.scaleOf n d)).2 <
      2 ^ f.precision := (Nat.div_lt_iff_lt_mul hpos).mpr (by exact_mod_cast hratio)
  exact (roundHalfEven_le ..).trans hlt

/-- **Rounding gives a number of the format.** -/
theorem round_bounds (hd : 0 < d) (h : f.round n d = some (m, s)) :
    m < 2 ^ f.precision ∧ f.leastScale ≤ s ∧ s ≤ f.greatestScale := by
  have hsteps := f.stepsOf_le n hd
  have hscale : f.leastScale ≤ f.scaleOf n d := le_max_left _ _
  rw [round_eq] at h
  split at h
  next hcarry =>
    rw [Option.ite_none_left_eq_some] at h
    obtain ⟨hgreat, heq⟩ := h
    cases heq
    rw [hcarry]
    exact ⟨Nat.div_lt_self (Nat.two_pow_pos _) Nat.one_lt_two, by omega, not_lt.mp hgreat⟩
  next hcarry =>
    rw [Option.ite_none_left_eq_some] at h
    obtain ⟨hgreat, heq⟩ := h
    cases heq
    exact ⟨Nat.lt_of_le_of_ne hsteps hcarry, hscale, not_lt.mp hgreat⟩

/-- **A number of the format is rounded to itself.** -/
theorem exists_round_of_has (hn : 0 < n) (hd : 0 < d) (h : f.Has (n / d)) :
    ∃ m s, f.round n d = some (m, s) ∧ (m * 2 ^ s : ℚ) = n / d := by
  obtain ⟨m, s, hm, hleast, hgreatest, hvalue⟩ := h
  have hratio : (0 : ℚ) < n / d := div_pos (Nat.cast_pos.mpr hn) (Nat.cast_pos.mpr hd)
  rw [abs_of_pos hratio] at hvalue
  -- The scale of the number is at least the one that it is rounded at.
  have hlog : Int.log 2 (n / d : ℚ) < f.precision + s := by
    refine (Int.lt_zpow_iff_log_lt one_lt_two hratio).mp ?_
    rw [hvalue, Nat.cast_two, zpow_add₀ two_ne_zero, zpow_natCast]
    exact mul_lt_mul_of_pos_right (by exact_mod_cast hm) (zpow_pos two_pos s)
  have hscale : f.scaleOf n d ≤ s := by
    rw [scaleOf, floorLog2_eq_log hn hd]
    omega
  obtain ⟨k, hk⟩ := Int.le.dest hscale
  obtain ⟨hpos, hdivided⟩ := divideByPow_spec n hd (f.scaleOf n d)
  have hexact : (n / d / 2 ^ f.scaleOf n d : ℚ) = (m * 2 ^ k : ℕ) := by
    rw [hvalue, ← hk, zpow_add₀ two_ne_zero, zpow_natCast, Nat.cast_mul, Nat.cast_pow,
      Nat.cast_two]
    field_simp
  have hsteps : f.stepsOf n d = m * 2 ^ k :=
    roundHalfEven_of_div_eq hpos (hdivided.trans hexact)
  have hlt : f.stepsOf n d < 2 ^ f.precision := by
    have hbound := f.ratio_lt n hd
    rw [hexact] at hbound
    rw [hsteps]
    exact_mod_cast hbound
  refine ⟨f.stepsOf n d, f.scaleOf n d, ?_, ?_⟩
  · rw [round_eq, if_neg hlt.ne, if_neg (by omega)]
  · rw [hsteps, ← hexact]
    exact div_mul_cancel₀ _ (zpow_ne_zero _ two_ne_zero)

end BinaryFormat

/-! ## 64-bit numbers -/

namespace Binary64

variable {x y : Binary64} {neg : Bool} {size m : ℕ} {s : ℤ}

theorem significand_lt (x : Binary64) : x.significand < 2 * fractions := by
  have hmod : x.magnitude % fractions < fractions := Nat.mod_lt _ (by decide)
  unfold significand
  split <;> omega

/-- The fields hold the magnitude. -/
theorem magnitude_eq (x : Binary64) : x.magnitude = x.scale * fractions + x.significand := by
  have hdiv : x.exponentField * fractions + x.magnitude % fractions = x.magnitude := by
    rw [Nat.mul_comm]
    exact Nat.div_add_mod x.magnitude fractions
  unfold scale significand fractions at *
  split <;> omega

/-- Above the least scale a significand has its leading digit. -/
theorem fractions_le_significand (h : x.scale ≠ 0) : fractions ≤ x.significand := by
  unfold scale at h
  rw [significand, if_neg (by omega)]
  exact Nat.le_add_right _ _

/-- The size of a finite number determines its fields. -/
theorem scale_le_of_units_eq (h : x.units = y.units) : y.scale ≤ x.scale := by
  by_contra hlt
  have hleading : fractions ≤ y.significand := fractions_le_significand (by omega)
  obtain ⟨k, hk⟩ := Nat.exists_eq_add_of_lt (not_le.mp hlt)
  have hpow : Nat.pow 2 y.scale = 2 * Nat.pow 2 k * Nat.pow 2 x.scale := by
    rw [hk]
    change 2 ^ (x.scale + k + 1) = 2 * 2 ^ k * 2 ^ x.scale
    ring
  rw [units, units, hpow, ← Nat.mul_assoc] at h
  have hsig := Nat.eq_of_mul_eq_mul_right (pow_two_pos x.scale) h
  have hbelow := x.significand_lt
  have hk' := pow_two_pos k
  nlinarith

/-- The bits are a sign and a magnitude. -/
theorem ofMagnitude_magnitude (x : Binary64) : ofMagnitude x.negative x.magnitude = x := by
  have hbits : x.magnitude + (if x.negative then signBit else 0) = x.bits.toNat := by
    have hlt := x.bits.toNat_lt
    unfold magnitude negative signBit
    split <;> simp at * <;> omega
  rw [ofMagnitude, hbits, UInt64.ofNat_toNat]

/-- Sign and magnitude make up a number. -/
theorem eq_of_magnitude_eq (hsign : x.negative = y.negative)
    (hmagnitude : x.magnitude = y.magnitude) : x = y := by
  rw [← x.ofMagnitude_magnitude, hsign, hmagnitude, ofMagnitude_magnitude]

/-- A finite number is determined by its sign and size. -/
theorem HasSize.unique (hx : x.HasSize neg size) (hy : y.HasSize neg size) : x = y := by
  have hunits : x.units = y.units := hx.units.trans hy.units.symm
  have hscale : x.scale = y.scale :=
    Nat.le_antisymm (scale_le_of_units_eq hunits.symm) (scale_le_of_units_eq hunits)
  have hsig : x.significand = y.significand := by
    rw [Binary64.units, Binary64.units, hscale] at hunits
    exact Nat.eq_of_mul_eq_mul_right (pow_two_pos _) hunits
  have hmagnitude : x.magnitude = y.magnitude := by
    rw [magnitude_eq, magnitude_eq, hscale, hsig]
  exact eq_of_magnitude_eq (hx.sign.trans hy.sign.symm) hmagnitude

/-- The numbers of the 32-bit format, the infinities among them. -/
def IsSingle (x : Binary64) : Prop :=
  (∃ negative, x = infinity negative) ∨ ∃ q, x.value? = some q ∧ BinaryFormat.single.Has q

theorem eq_infinity_of_not_isFinite (hfinite : ¬ x.isFinite) (hnan : ¬ x.isNaN) :
    x = infinity x.negative := by
  have hmagnitude : x.magnitude = infiniteMagnitude := by
    simp only [isFinite, isNaN, decide_eq_true_iff, not_lt] at hfinite hnan
    exact Nat.le_antisymm hnan hfinite
  rw [infinity, ← hmagnitude, ofMagnitude_magnitude]

theorem not_isFinite_infinity (neg : Bool) : (infinity neg).isFinite = false := by
  cases neg <;> rfl

/-- A size as the rational number that it is. -/
theorem HasSize.abs_value {q : ℚ} (h : x.HasSize neg size) (hq : x.value? = some q) :
    |q| = size / unitsOfOne := by
  have hnonneg : (0 : ℚ) ≤ x.units / unitsOfOne := by positivity
  rw [value?_of_isFinite h.isFinite, Option.some.injEq] at hq
  rw [← hq, ← h.units]
  split
  · rw [abs_neg, abs_of_nonneg hnonneg]
  · rw [abs_of_nonneg hnonneg]

theorem scaled_div_unitsOfOne (m : ℕ) (hs : -1074 ≤ s) :
    ((m * Nat.pow 2 (s + 1074).toNat : ℕ) / unitsOfOne : ℚ) = m * 2 ^ s := by
  have hpow : ((Nat.pow 2 (s + 1074).toNat : ℕ) : ℚ) = 2 ^ s * 2 ^ 1074 := by
    rw [cast_pow_two, ← zpow_natCast, Int.toNat_of_nonneg (by omega), zpow_add₀ two_ne_zero]
    rfl
  rw [Nat.cast_mul, hpow, cast_unitsOfOne, ← mul_assoc, mul_div_cancel_right₀]
  exact pow_ne_zero _ two_ne_zero

/-- **Narrowing gives numbers of the 32-bit format.** -/
theorem isSingle_narrow (hnan : ¬ x.isNaN) : x.narrow.IsSingle := by
  unfold narrow
  split
  next hfinite =>
    unfold roundTo
    split
    next m s hround =>
      obtain ⟨hm, hleast, hgreatest⟩ := BinaryFormat.round_bounds unitsOfOne_pos hround
      have hsize : (ofScaled x.negative m s).HasSize x.negative (m * Nat.pow 2 (s + 1074).toNat) :=
        hasSize_ofScaled (hm.trans (by decide)) (hgreatest.trans (by decide))
      refine .inr ⟨_, value?_of_isFinite hsize.isFinite, m, s, hm, hleast, hgreatest, ?_⟩
      rw [hsize.abs_value (value?_of_isFinite hsize.isFinite)]
      exact scaled_div_unitsOfOne m ((show (-1074 : ℤ) ≤ -149 by decide).trans hleast)
    next => exact .inl ⟨_, rfl⟩
  next hfinite => exact .inl ⟨_, eq_infinity_of_not_isFinite hfinite hnan⟩

theorem round_single_zero : BinaryFormat.single.round 0 unitsOfOne = some (0, -149) := by
  decide +kernel

/-- **A number of the 32-bit format is not changed by narrowing.** -/
theorem narrow_of_isSingle (h : x.IsSingle) : x.narrow = x := by
  obtain ⟨neg, rfl⟩ | ⟨q, hq, hhas⟩ := h
  · rw [narrow, not_isFinite_infinity]
    rfl
  have hfinite : x.isFinite := by
    by_contra hinfinite
    rw [value?, if_neg hinfinite] at hq
    cases hq
  have hself : x.HasSize x.negative x.units := ⟨hfinite, rfl, rfl⟩
  have hround : ∃ m s, BinaryFormat.single.round x.units unitsOfOne = some (m, s) ∧
      (m * 2 ^ s : ℚ) = x.units / unitsOfOne := by
    rcases Nat.eq_zero_or_pos x.units with hzero | hpos
    · rw [hzero]
      refine ⟨0, -149, round_single_zero, ?_⟩
      rw [Nat.cast_zero, zero_mul, zero_div]
    · refine BinaryFormat.exists_round_of_has hpos unitsOfOne_pos ?_
      obtain ⟨m, s, hm, hleast, hgreatest, habs⟩ := hhas
      refine ⟨m, s, hm, hleast, hgreatest, ?_⟩
      rw [← habs, hself.abs_value hq, abs_div, Nat.abs_cast, Nat.abs_cast]
  obtain ⟨m, s, hround, hvalue⟩ := hround
  obtain ⟨hm, hleast, hgreatest⟩ := BinaryFormat.round_bounds unitsOfOne_pos hround
  have hleast' : -1074 ≤ s := (show (-1074 : ℤ) ≤ -149 by decide).trans hleast
  have hsize : (ofScaled x.negative m s).HasSize x.negative (m * Nat.pow 2 (s + 1074).toNat) :=
    hasSize_ofScaled (hm.trans (by decide)) (hgreatest.trans (by decide))
  have hunits : m * Nat.pow 2 (s + 1074).toNat = x.units := by
    rw [← scaled_div_unitsOfOne m hleast',
      div_left_inj' (Nat.cast_ne_zero.mpr unitsOfOne_pos.ne')] at hvalue
    exact_mod_cast hvalue
  rw [narrow, if_pos hfinite, roundTo, hround]
  exact (hunits ▸ hsize).unique hself

/-- **The numbers that narrowing does not change** are the NaNs and the numbers of the 32-bit
format. -/
theorem narrow_eq_self_iff : x.narrow = x ↔ x.isNaN ∨ x.IsSingle := by
  constructor
  · intro h
    by_cases hnan : x.isNaN
    · exact .inl hnan
    · exact .inr (h ▸ isSingle_narrow hnan)
  · rintro (hnan | hsingle)
    · have hinfinite : x.isFinite = false := by
        simp only [isNaN, isFinite, decide_eq_true_iff, decide_eq_false_iff_not] at *
        omega
      rw [narrow, hinfinite]
      rfl
    · exact narrow_of_isSingle hsingle

end Binary64

end RecordQuery
