import Mathlib.Tactic.Ring
import RecordQuery.Proofs.FloatValues

/-!
# Rounding integers

An integer of more than 53 binary digits is rounded to a multiple of a power of two that
leaves it 53 digits.  What is rounded is written into the fields of a floating-point number
without a further loss (`Binary64.hasSize_ofScaled`), so that the number is the rounded
integer, unless that is too large for the format (`Binary64.integer?_ofRatio`).

The leading digit never shrinks: what lies above a power of two is rounded to something at
or above it (`Binary64.pow_le_natAbs_of_integer?_ofRatio`).
-/

namespace RecordQuery

/-! ## Ratios -/

theorem div_le_roundHalfEven (n d : ℕ) : n / d ≤ roundHalfEven n d := by
  simp only [roundHalfEven]
  split_ifs <;> omega

theorem roundHalfEven_le (n d : ℕ) : roundHalfEven n d ≤ n / d + 1 := by
  simp only [roundHalfEven]
  split_ifs <;> omega

/-- A ratio above an even integer is rounded to it up to the half-way point. -/
theorem roundHalfEven_eq_of_even {n d q : ℕ} (hd : 0 < d) (hq : q % 2 = 0) (hle : q * d ≤ n)
    (hhalf : 2 * (n - q * d) ≤ d) : roundHalfEven n d = q := by
  obtain ⟨r, rfl⟩ := Nat.exists_eq_add_of_le' hle
  rw [Nat.add_sub_cancel] at hhalf
  have hr : r < d := by omega
  have hdiv : (r + q * d) / d = q := by
    rw [Nat.add_mul_div_right r q hd, Nat.div_eq_of_lt hr, Nat.zero_add]
  have hmod : (r + q * d) % d = r := by rw [Nat.add_mul_mod_self_right, Nat.mod_eq_of_lt hr]
  simp only [roundHalfEven, hdiv, hmod, hq]
  split_ifs <;> omega

/-- A ratio beyond the half-way point is rounded up. -/
theorem lt_roundHalfEven {n d q : ℕ} (hd : 0 < d) (hle : q * d ≤ n)
    (hhalf : d < 2 * (n - q * d)) : q < roundHalfEven n d := by
  obtain ⟨r, rfl⟩ := Nat.exists_eq_add_of_le' hle
  rw [Nat.add_sub_cancel] at hhalf
  have hdiv : (r + q * d) / d = r / d + q := Nat.add_mul_div_right r q hd
  have hmod : (r + q * d) % d = r % d := Nat.add_mul_mod_self_right ..
  by_cases hr : r < d
  · simp only [roundHalfEven, hdiv, hmod, Nat.div_eq_of_lt hr, Nat.mod_eq_of_lt hr]
    split_ifs <;> omega
  · have hpos : 0 < r / d := Nat.div_pos (Nat.not_lt.mp hr) hd
    have hround := div_le_roundHalfEven (r + q * d) d
    omega

/-! ## Fields -/

namespace Binary64

/-- A finite number with a sign and a size, counted in the units of the integer
definitions. -/
structure HasSize (x : Binary64) (negative : Bool) (size : ℕ) : Prop where
  isFinite : x.isFinite
  sign : x.negative = negative
  units : x.units = size

variable {neg : Bool} {m s : ℕ}

/-- The sign is kept above the magnitude, where no magnitude reaches. -/
theorem toNat_bits_ofMagnitude (hm : m < signBit) :
    (ofMagnitude neg m).bits.toNat = m + if neg then signBit else 0 := by
  rw [ofMagnitude, UInt64.toNat_ofNat']
  refine Nat.mod_eq_of_lt ?_
  unfold signBit at *
  split <;> omega

theorem negative_ofMagnitude (hm : m < signBit) : (ofMagnitude neg m).negative = neg := by
  rw [negative, toNat_bits_ofMagnitude hm]
  cases neg with
  | false => simpa using hm
  | true => simp

theorem magnitude_ofMagnitude (hm : m < signBit) : (ofMagnitude neg m).magnitude = m := by
  rw [magnitude, toNat_bits_ofMagnitude hm]
  unfold signBit at *
  cases neg <;> simp <;> omega

/-- A significand and a scale are found again in the fields.  A significand without the
leading digit has the least scale. -/
theorem hasSize_ofMagnitude (hm : m < 2 * fractions) (hs : s ≤ 2045)
    (hleading : fractions ≤ m ∨ s = 0) :
    HasSize (ofMagnitude neg (s * fractions + m)) neg (m * Nat.pow 2 s) := by
  have hmagnitude : s * fractions + m < signBit := by unfold fractions signBit at *; omega
  refine ⟨?_, negative_ofMagnitude hmagnitude, ?_⟩
  · rw [isFinite, magnitude_ofMagnitude hmagnitude, decide_eq_true_iff]
    unfold fractions infiniteMagnitude at *
    omega
  · rw [units, significand, scale, exponentField, magnitude_ofMagnitude hmagnitude]
    by_cases hnormal : fractions ≤ m
    · have hfield : (s * fractions + m) / fractions = s + 1 := by unfold fractions at *; omega
      have hfraction : (s * fractions + m) % fractions = m - fractions := by
        unfold fractions at *; omega
      rw [hfield, hfraction, if_neg s.succ_ne_zero, Nat.add_sub_cancel, Nat.add_sub_cancel' hnormal]
    · obtain rfl := hleading.resolve_left hnormal
      have hsmall : 0 * fractions + m < fractions := by omega
      rw [Nat.div_eq_of_lt hsmall, Nat.mod_eq_of_lt hsmall, if_pos rfl, Nat.zero_mul, Nat.zero_add]

/-! A significand is shifted to the left until it has its leading digit. -/

theorem fractions_eq : fractions = Nat.pow 2 52 := by decide

/-- The shift leaves a significand in its range. -/
theorem mul_pow_lt_of_shift (hm : m < 2 * fractions) (hs : s ≤ 52 - Nat.log2 m) :
    m * Nat.pow 2 s < 2 * fractions := by
  by_cases hzero : m = 0
  · rw [hzero, Nat.zero_mul]
    decide
  · have hlog : Nat.log2 m < 53 := (Nat.log2_lt hzero).mpr hm
    calc
      m * Nat.pow 2 s < 2 ^ (Nat.log2 m + 1) * Nat.pow 2 s :=
        Nat.mul_lt_mul_of_pos_right Nat.lt_log2_self (pow_two_pos s)
      _ = 2 ^ (Nat.log2 m + 1 + s) := (Nat.pow_add ..).symm
      _ ≤ 2 ^ 53 := Nat.pow_le_pow_right Nat.two_pos (by omega)
      _ = 2 * fractions := by decide

/-- The full shift brings a significand to its leading digit. -/
theorem fractions_le_of_shift (hm : m < 2 * fractions) (hzero : m ≠ 0) :
    fractions ≤ m * Nat.pow 2 (52 - Nat.log2 m) := by
  have hlog : Nat.log2 m < 53 := (Nat.log2_lt hzero).mpr hm
  calc
    fractions = 2 ^ (Nat.log2 m + (52 - Nat.log2 m)) := by
      rw [Nat.add_sub_cancel' (Nat.le_of_lt_succ hlog)]
      decide
    _ = 2 ^ Nat.log2 m * Nat.pow 2 (52 - Nat.log2 m) := Nat.pow_add ..
    _ ≤ m * Nat.pow 2 (52 - Nat.log2 m) := Nat.mul_le_mul_right _ (Nat.log2_self_le hzero)

/-- **A scaled significand is written without loss.** -/
theorem hasSize_ofScaled {scale : ℤ} (hm : m < 2 * fractions) (hscale : scale ≤ 971) :
    HasSize (ofScaled neg m scale) neg (m * Nat.pow 2 (scale + 1074).toNat) := by
  rw [ofScaled]
  generalize habove : (scale + 1074).toNat = above
  generalize hshift : min above (52 - Nat.log2 m) = shift
  have hrange := mul_pow_lt_of_shift hm (hshift ▸ Nat.min_le_right above (52 - Nat.log2 m))
  split
  next hsmall =>
    -- Without the leading digit the shift was cut off by the least scale.
    have hsize : m * Nat.pow 2 above = m * Nat.pow 2 shift := by
      by_cases hzero : m = 0
      · rw [hzero, Nat.zero_mul, Nat.zero_mul]
      · have hfull := fractions_le_of_shift hm hzero
        rcases Nat.le_total above (52 - Nat.log2 m) with h | h
        · rw [← hshift, Nat.min_eq_left h]
        · rw [Nat.min_eq_right h] at hshift
          rw [hshift] at hfull
          exact absurd hsmall (Nat.not_lt.mpr hfull)
    have hwritten : HasSize (ofMagnitude neg (0 * fractions + m * Nat.pow 2 shift)) neg
        (m * Nat.pow 2 shift * Nat.pow 2 0) :=
      hasSize_ofMagnitude hrange (Nat.zero_le 2045) (.inr rfl)
    rw [hsize]
    simpa using hwritten
  next hlarge =>
    have hsize : m * Nat.pow 2 above = m * Nat.pow 2 shift * Nat.pow 2 (above - shift) := by
      rw [Nat.mul_assoc]
      congr 1
      change 2 ^ above = 2 ^ shift * 2 ^ (above - shift)
      rw [← Nat.pow_add, Nat.add_sub_cancel' (by omega)]
    rw [hsize]
    exact hasSize_ofMagnitude hrange (by omega) (.inl (Nat.not_lt.mp hlarge))

end Binary64

/-! ## Integers -/

/-- The integer of a sign and a size. -/
def withSign (negative : Bool) (size : ℕ) : ℤ :=
  if negative then -size else size

@[simp] theorem natAbs_withSign (neg : Bool) (n : ℕ) : (withSign neg n).natAbs = n := by
  cases neg <;> simp [withSign]

variable {n e : ℕ}

theorem divideByPow_natCast (n d e : ℕ) : divideByPow n d e = (n, d * Nat.pow 2 e) := rfl

theorem floorLog2_one (hn : n ≠ 0) : floorLog2 n 1 = Nat.log2 n := by
  have hlog : ((Nat.log2 n : ℤ) - Nat.log2 1) = Nat.log2 n := by
    rw [show Nat.log2 1 = 0 by decide, Int.natCast_zero, Int.sub_zero]
  simp only [floorLog2, hlog, divideByPow_natCast]
  refine if_pos ?_
  rw [Nat.one_mul]
  exact Nat.log2_self_le hn

/-- The integers with `e` digits more than a significand has. -/
structure HasExcess (n e : ℕ) : Prop where
  le : Nat.pow 2 (e + 52) ≤ n
  lt : n < Nat.pow 2 (e + 53)

namespace HasExcess

theorem log2_eq (h : HasExcess n e) : Nat.log2 n = e + 52 := by
  have hn : n ≠ 0 := (Nat.lt_of_lt_of_le (Binary64.pow_two_pos _) h.le).ne'
  exact (Nat.log2_eq_iff hn).mpr ⟨h.le, h.lt⟩

theorem floorLog2_eq (h : HasExcess n e) : floorLog2 n 1 = (e : ℤ) + 52 := by
  have hn : n ≠ 0 := (Nat.lt_of_lt_of_le (Binary64.pow_two_pos _) h.le).ne'
  rw [floorLog2_one hn, h.log2_eq]
  rfl

theorem of_le (h : Nat.pow 2 52 ≤ n) : HasExcess n (Nat.log2 n - 52) := by
  have hn : n ≠ 0 := (Nat.lt_of_lt_of_le (Binary64.pow_two_pos _) h).ne'
  have hlog : Nat.log2 n - 52 + 52 = Nat.log2 n :=
    Nat.sub_add_cancel ((Nat.le_log2 hn).mpr h)
  refine ⟨?_, ?_⟩
  · rw [hlog]
    exact Nat.log2_self_le hn
  · rw [← Nat.add_assoc _ 52 1, hlog]
    exact Nat.lt_log2_self

/-- Rounding leaves the leading digit in its place, or moves it by one. -/
theorem roundHalfEven_bounds (h : HasExcess n e) :
    Binary64.fractions ≤ roundHalfEven n (Nat.pow 2 e) ∧
      roundHalfEven n (Nat.pow 2 e) ≤ 2 * Binary64.fractions := by
  have hpow : ∀ k, Nat.pow 2 (e + k) = Nat.pow 2 k * Nat.pow 2 e := fun k => by
    rw [Nat.mul_comm]
    exact Nat.pow_add 2 e k
  have hle : Binary64.fractions ≤ n / Nat.pow 2 e :=
    (Nat.le_div_iff_mul_le (Binary64.pow_two_pos e)).mpr (hpow 52 ▸ h.le)
  have hlt : n / Nat.pow 2 e < 2 * Binary64.fractions :=
    (Nat.div_lt_iff_lt_mul (Binary64.pow_two_pos e)).mpr (hpow 53 ▸ h.lt)
  exact ⟨hle.trans (div_le_roundHalfEven ..), (roundHalfEven_le ..).trans hlt⟩

/-- A carry out of the significand is taken up by the scale, so that rounding gives a
significand of 53 digits in every case; only the scale can be too large. -/
theorem round_cases (h : HasExcess n e) :
    (BinaryFormat.double.round n 1 = none ∧ 970 < e) ∨
      ∃ m s : ℕ, BinaryFormat.double.round n 1 = some (m, (s : ℤ)) ∧
        m < 2 * Binary64.fractions ∧ s ≤ 971 ∧
        m * Nat.pow 2 s = roundHalfEven n (Nat.pow 2 e) * Nat.pow 2 e := by
  have hscale : max (-1074) (floorLog2 n 1 - ((53 : ℕ) - 1 : ℤ)) = e := by
    rw [h.floorLog2_eq]
    omega
  have hbounds := h.roundHalfEven_bounds
  simp only [BinaryFormat.round, BinaryFormat.double, hscale, divideByPow_natCast, Nat.one_mul]
  generalize roundHalfEven n (Nat.pow 2 e) = m at hbounds ⊢
  by_cases hcarry : m = Nat.pow 2 53
  · rw [if_pos hcarry]
    by_cases hgreat : 971 < (e : ℤ) + 1
    · exact .inl ⟨if_pos hgreat, by omega⟩
    · refine .inr ⟨m / 2, e + 1, if_neg hgreat, ?_, by omega, ?_⟩
      · rw [hcarry]
        decide
      · rw [hcarry]
        change 2 ^ 52 * 2 ^ (e + 1) = 2 ^ 53 * 2 ^ e
        ring
  · rw [if_neg hcarry]
    have hlt : m < 2 * Binary64.fractions := Nat.lt_of_le_of_ne hbounds.2 hcarry
    by_cases hgreat : 971 < (e : ℤ)
    · exact .inl ⟨if_pos hgreat, by omega⟩
    · exact .inr ⟨m, e, if_neg hgreat, hlt, by omega, rfl⟩

end HasExcess

namespace Binary64

variable {x : Binary64} {neg : Bool}

/-- An infinity is no integer. -/
theorem integer?_infinity (neg : Bool) : (infinity neg).integer? = none := by
  cases neg <;> rfl

/-- A number whose size is an integer is that integer. -/
theorem HasSize.integer?_eq (h : HasSize x neg (n * unitsOfOne)) :
    x.integer? = some (withSign neg n) := by
  have hmod : n * unitsOfOne % unitsOfOne = 0 := Nat.mul_mod_left ..
  have hdiv : n * unitsOfOne / unitsOfOne = n := Nat.mul_div_cancel n unitsOfOne_pos
  rw [integer?, h.isFinite, h.sign, h.units, hmod]
  simp only [beq_self_eq_true, Bool.and_self, if_true]
  rw [← Int.natCast_div, hdiv, withSign]

theorem pow_mul_unitsOfOne (k : ℕ) : Nat.pow 2 (k + 1074) = Nat.pow 2 k * unitsOfOne := by
  unfold unitsOfOne
  generalize 1074 = j
  exact Nat.pow_add 2 k j

/-- **An integer is rounded to a multiple of a power of two**, unless the format is too
small for it. -/
theorem integer?_ofRatio (neg : Bool) (h : HasExcess n e) :
    ((ofRatio neg n 1).integer? = none ∧ 970 < e) ∨
      (ofRatio neg n 1).integer? =
        some (withSign neg (roundHalfEven n (Nat.pow 2 e) * Nat.pow 2 e)) := by
  rw [ofRatio, roundTo]
  obtain ⟨hround, he⟩ | ⟨m, s, hround, hm, hs, hvalue⟩ := h.round_cases
  · rw [hround]
    exact .inl ⟨integer?_infinity neg, he⟩
  · rw [hround]
    refine .inr (HasSize.integer?_eq ?_)
    have hsize : HasSize (ofScaled neg m s) neg _ := hasSize_ofScaled hm (Int.ofNat_le.mpr hs)
    have hscale : ((s : ℤ) + 1074).toNat = s + 1074 := by omega
    rwa [hscale, pow_mul_unitsOfOne, ← Nat.mul_assoc, hvalue] at hsize

/-- **What lies above a power of two is not rounded to below it**, since the leading digit of an
integer stays in its place or moves up. -/
theorem pow_le_natAbs_of_integer?_ofRatio {k : ℕ} {i : ℤ} (hk : 52 ≤ k) (hn : Nat.pow 2 k ≤ n)
    (hi : (ofRatio neg n 1).integer? = some i) : Nat.pow 2 k ≤ i.natAbs := by
  have hpos : n ≠ 0 := (Nat.lt_of_lt_of_le (pow_two_pos k) hn).ne'
  have hlog : k ≤ Nat.log2 n := (Nat.le_log2 hpos).mpr hn
  have h : HasExcess n (Nat.log2 n - 52) :=
    HasExcess.of_le (Nat.le_trans (Nat.pow_le_pow_right Nat.two_pos hk) hn)
  have hsize : i.natAbs =
      roundHalfEven n (Nat.pow 2 (Nat.log2 n - 52)) * Nat.pow 2 (Nat.log2 n - 52) := by
    obtain ⟨hnone, -⟩ | hsome := integer?_ofRatio neg h
    · rw [hnone] at hi
      cases hi
    · rw [hsome, Option.some.injEq] at hi
      rw [← hi, natAbs_withSign]
  calc
    Nat.pow 2 k ≤ Nat.pow 2 (52 + (Nat.log2 n - 52)) :=
      Nat.pow_le_pow_right Nat.two_pos (by omega)
    _ = fractions * Nat.pow 2 (Nat.log2 n - 52) := by
      rw [fractions_eq]
      exact Nat.pow_add 2 52 _
    _ ≤ roundHalfEven n (Nat.pow 2 (Nat.log2 n - 52)) * Nat.pow 2 (Nat.log2 n - 52) :=
      Nat.mul_le_mul_right _ h.roundHalfEven_bounds.1
    _ = i.natAbs := hsize.symm

end Binary64

end RecordQuery
