import RecordQuery.Proofs.NearestNumbers
import RecordQuery.Proofs.Numerals

/-!
# Nearest floating-point numbers

The nearest numbers of the two formats, as the bits that they are stored in.  A ratio is
rounded to the nearest number of the format, or to an infinity from the limit of the format on
(`Binary64.roundTo_cases`).  Hence an integer that words can hold becomes the nearest 64-bit
number (`Number.IsInteger.value?_toFloat_iff`), and a 64-bit number the nearest 32-bit one
(`Binary64.narrow_cases`).

The numeric order is the order of exact values (`Binary64.rank_lt_rank_iff`), although it is
read off the bits.
-/

namespace RecordQuery

namespace BinaryFormat

/-- A format whose numbers are among the 64-bit ones. -/
structure Held (f : BinaryFormat) : Prop where
  two_le_precision : 2 ≤ f.precision
  precision_le : f.precision ≤ 53
  leastScale_ge : -1074 ≤ f.leastScale
  leastScale_le : f.leastScale ≤ 0
  greatestScale_nonneg : 0 ≤ f.greatestScale
  greatestScale_le : f.greatestScale ≤ 971

/-- 64-bit numbers are held as they are. -/
theorem held_double : double.Held := by
  constructor <;> decide

/-- 32-bit numbers are held as 64-bit ones. -/
theorem held_single : single.Held := by
  constructor <;> decide

variable {f : BinaryFormat} {d : ℕ}

theorem Held.precision_ne_zero (h : f.Held) : f.precision ≠ 0 :=
  (Nat.zero_lt_of_lt h.two_le_precision).ne'

/-- Zero has a place in every format that is held. -/
theorem Held.has_zero (h : f.Held) : f.Has 0 := by
  refine ⟨0, 0, Nat.two_pow_pos _, h.leastScale_le, h.greatestScale_nonneg, ?_⟩
  rw [abs_zero, Nat.cast_zero, zero_mul]

theorem floorLog2_zero_le (d : ℕ) : floorLog2 0 d ≤ 0 := by
  have hlog : Nat.log2 0 = 0 := by decide
  unfold floorLog2
  dsimp only
  split <;> omega

theorem limit_pos (f : BinaryFormat) : 0 < f.limit := by
  have hdigits : (1 : ℚ) ≤ 2 ^ f.precision := one_le_pow₀ one_le_two
  exact mul_pos (by linarith) (zpow_pos two_pos _)

/-- The powers of two that a format can scale by are within its limit. -/
theorem Held.pow_lt_limit (h : f.Held) {k : ℤ} (hk : k ≤ f.greatestScale) : 2 ^ k < f.limit := by
  have hdigits : (2 ^ 2 : ℚ) ≤ 2 ^ f.precision := pow_le_pow_right₀ one_le_two h.two_le_precision
  calc
    (2 ^ k : ℚ) ≤ 2 ^ f.greatestScale := zpow_le_zpow_right₀ one_le_two hk
    _ < f.limit := lt_mul_of_one_lt_left (zpow_pos two_pos _) (by linarith)

/-- Integers of up to 53 digits are 64-bit numbers. -/
theorem double_has_intCast {i : ℤ} (h : |i| ≤ 2 ^ 53) : double.Has i := by
  have habs : |(i : ℚ)| = i.natAbs := by rw [Nat.cast_natAbs, Int.cast_abs]
  rcases lt_or_eq_of_le h with hlt | heq
  · refine ⟨i.natAbs, 0, ?_, by decide, by decide, by rw [habs, zpow_zero, mul_one]⟩
    rw [Int.abs_eq_natAbs] at hlt
    exact_mod_cast hlt
  · refine ⟨2 ^ 52, 1, by decide, by decide, by decide, ?_⟩
    rw [← Int.cast_abs, heq]
    norm_num

/-- Every ratio below the limit is rounded, zero included. -/
theorem Held.round_eq_none_iff (h : f.Held) (n : ℕ) (hd : 0 < d) :
    f.round n d = none ↔ f.limit ≤ n / d := by
  have hrange := h.leastScale_le.trans h.greatestScale_nonneg
  rcases Nat.eq_zero_or_pos n with rfl | hn
  · have hscale : f.scaleOf 0 d ≤ f.greatestScale := by
      have hlog := floorLog2_zero_le d
      have hdigits := h.two_le_precision
      exact max_le hrange (by have := h.greatestScale_nonneg; omega)
    rw [round_eq, stepsOf_zero hd, if_neg (Nat.two_pow_pos _).ne, if_neg hscale.not_gt,
      Nat.cast_zero, zero_div]
    exact iff_of_false nofun f.limit_pos.not_ge
  · exact BinaryFormat.round_eq_none_iff h.precision_ne_zero hrange hn hd

/-- A number below the limit is a ratio that is rounded. -/
theorem Held.exists_round (h : f.Held) {q : ℚ} (hnonneg : 0 ≤ q) (hq : q < f.limit) :
    ∃ (n d m : ℕ) (s : ℤ), 0 < d ∧ (n / d : ℚ) = q ∧ f.round n d = some (m, s) := by
  have hratio : (q.num.natAbs / q.den : ℚ) = q := by
    rw [Nat.cast_natAbs, abs_of_nonneg (Rat.num_nonneg.mpr hnonneg), Rat.num_div_den]
  cases hround : f.round q.num.natAbs q.den with
  | none =>
      have hle := (h.round_eq_none_iff q.num.natAbs q.den_pos).mp hround
      exact absurd hq (hratio ▸ hle).not_gt
  | some result => exact ⟨_, _, _, _, q.den_pos, hratio, hround⟩

/-- Every number below the limit has a nearest number. -/
theorem Held.exists_isNearest (h : f.Held) {q : ℚ} (hq : |q| < f.limit) :
    ∃ r, f.IsNearest q r := by
  wlog hnonneg : 0 ≤ q generalizing q
  · obtain ⟨r, hr⟩ := this (by rwa [abs_neg]) (neg_nonneg.mpr (le_of_not_ge hnonneg))
    exact ⟨-r, neg_neg q ▸ hr.neg⟩
  obtain ⟨n, d, m, s, hd, rfl, hround⟩ := h.exists_round hnonneg (lt_of_abs_lt hq)
  exact ⟨_, isNearest_of_round h.two_le_precision hd hround⟩

end BinaryFormat

namespace Binary64

variable {f : BinaryFormat} {x y : Binary64} {neg : Bool} {n d m : ℕ} {s : ℤ} {q r : ℚ}

/-! ## Values -/

/-- The number of a sign and a size. -/
def signed (neg : Bool) (size : ℚ) : ℚ :=
  if neg then -size else size

/-- The bits of some size and sign stand for so many units. -/
theorem HasSize.value?_eq {size : ℕ} (h : x.HasSize neg size) :
    x.value? = some (signed neg (size / unitsOfOne)) := by
  rw [value?_of_isFinite h.isFinite, h.sign, h.units]
  rfl

/-- What a significand and a scale are written into has their value. -/
theorem value?_ofScaled (neg : Bool) (hm : m < 2 * fractions) (hleast : -1074 ≤ s)
    (hgreatest : s ≤ 971) : (ofScaled neg m s).value? = some (signed neg (m * 2 ^ s)) := by
  have hsize : (ofScaled neg m s).HasSize neg _ := hasSize_ofScaled hm hgreatest
  rw [hsize.value?_eq, scaled_div_unitsOfOne m hleast]

/-- The signed nearest number is nearest to the signed one. -/
theorem isNearest_signed (neg : Bool) (h : f.IsNearest q r) :
    f.IsNearest (signed neg q) (signed neg r) := by
  cases neg with
  | false => exact h
  | true => exact h.neg

/-- **A ratio is rounded to the nearest number**, or from the limit of the format on to an
infinity. -/
theorem roundTo_cases (hf : f.Held) (neg : Bool) (n : ℕ) (hd : 0 < d) :
    (n / d < f.limit ∧ ∃ r, (roundTo f neg n d).value? = some r ∧
      f.IsNearest (signed neg (n / d)) r) ∨
    (f.limit ≤ n / d ∧ roundTo f neg n d = infinity neg) := by
  unfold roundTo
  split
  next m s hround =>
    obtain ⟨hm, hleast, hgreatest⟩ := BinaryFormat.round_bounds hd hround
    have hvalue := value?_ofScaled neg
      (hm.trans_le (Nat.pow_le_pow_right two_pos hf.precision_le : _ ≤ 2 * fractions))
      (hf.leastScale_ge.trans hleast) (hgreatest.trans hf.greatestScale_le)
    refine .inl ⟨?_, _, hvalue, isNearest_signed neg
      (BinaryFormat.isNearest_of_round hf.two_le_precision hd hround)⟩
    rw [← not_le, ← hf.round_eq_none_iff n hd, hround]
    exact nofun
  next hround => exact .inr ⟨(hf.round_eq_none_iff n hd).mp hround, rfl⟩

theorem signed_natCast_div (neg : Bool) (n : ℕ) : signed neg (n / (1 : ℕ)) = withSign neg n := by
  cases neg <;> simp [signed, withSign]

theorem withSign_natAbs (i : ℤ) : withSign (i < 0) i.natAbs = i := by
  simp only [withSign, decide_eq_true_eq]
  split <;> omega

/-- **An integer becomes the nearest 64-bit number**, unless it is beyond the limit. -/
theorem ofInt_cases (i : ℤ) :
    (|(i : ℚ)| < BinaryFormat.double.limit ∧ ∃ y, (ofInt i).value? = some y ∧
      BinaryFormat.double.IsNearest i y) ∨
    (BinaryFormat.double.limit ≤ |(i : ℚ)| ∧ ofInt i = infinity (i < 0)) := by
  have hsize : ((i.natAbs : ℕ) / (1 : ℕ) : ℚ) = |(i : ℚ)| := by
    rw [Nat.cast_one, div_one, Nat.cast_natAbs, Int.cast_abs]
  have hcases := roundTo_cases BinaryFormat.held_double (i < 0) i.natAbs Nat.one_pos
  rwa [signed_natCast_div, withSign_natAbs, hsize] at hcases

/-- A number has a value when it is finite: its units, with its sign. -/
theorem value?_eq_some_iff : x.value? = some q ↔
    x.isFinite ∧ q = signed x.negative (x.units / unitsOfOne) := by
  by_cases hfinite : x.isFinite
  · rw [value?_of_isFinite hfinite, Option.some.injEq, and_iff_right hfinite, eq_comm]
    rfl
  · rw [value?, if_neg hfinite]
    exact iff_of_false (Option.some_ne_none q).symm fun h => hfinite h.1

/-- Every number that the bits stand for is one of the 64-bit format. -/
theorem has_of_value? (h : x.value? = some q) : BinaryFormat.double.Has q := by
  obtain ⟨hfinite, -⟩ := value?_eq_some_iff.mp h
  rw [value?, if_pos hfinite, Option.some.injEq] at h
  have hscale : x.scale ≤ 2045 := by
    simp only [isFinite, decide_eq_true_eq] at hfinite
    unfold scale exponentField fractions infiniteMagnitude at *
    omega
  refine ⟨x.significand, x.scale - 1074, x.significand_lt, ?_, ?_, ?_⟩
  · exact Int.sub_le_sub_right (Int.natCast_nonneg _) 1074
  · exact Int.sub_le_sub_right (Int.ofNat_le.mpr hscale) 1074
  · have hsign : |if x.negative then -1 else (1 : ℚ)| = 1 := by
      split
      · rw [abs_neg, abs_one]
      · exact abs_one
    rw [← h, abs_mul, hsign, one_mul]
    exact abs_of_nonneg (mul_nonneg (Nat.cast_nonneg _) (zpow_nonneg zero_le_two _))

theorem abs_signed (neg : Bool) (hq : 0 ≤ q) : |signed neg q| = q := by
  cases neg with
  | false => exact abs_of_nonneg hq
  | true => exact (abs_neg q).trans (abs_of_nonneg hq)

theorem decide_signed_neg (hq : 0 < q) : decide (signed neg q < 0) = neg := by
  cases neg with
  | false => exact decide_eq_false hq.not_gt
  | true => exact decide_eq_true (neg_neg_of_pos hq)

/-- **A 64-bit number is narrowed to the nearest 32-bit number**, or from the limit on to an
infinity. -/
theorem narrow_cases (hq : x.value? = some q) :
    (|q| < BinaryFormat.single.limit ∧ ∃ r, x.narrow.value? = some r ∧
      BinaryFormat.single.IsNearest q r) ∨
    (BinaryFormat.single.limit ≤ |q| ∧ x.narrow = infinity (q < 0)) := by
  obtain ⟨hfinite, rfl⟩ := value?_eq_some_iff.mp hq
  have hsize : (0 : ℚ) ≤ x.units / unitsOfOne := by positivity
  rw [abs_signed _ hsize, narrow, if_pos hfinite]
  refine (roundTo_cases BinaryFormat.held_single x.negative x.units unitsOfOne_pos).imp_right ?_
  rintro ⟨hlarge, hinfinity⟩
  rw [decide_signed_neg (BinaryFormat.single.limit_pos.trans_le hlarge)]
  exact ⟨hlarge, hinfinity⟩

/-! ## Order -/

/-- The size grows with the magnitude: a greater scale outweighs the significand. -/
theorem units_lt_units (h : x.magnitude < y.magnitude) : x.units < y.units := by
  have hx := x.significand_lt
  have hy := y.significand_lt
  rw [x.magnitude_eq, y.magnitude_eq] at h
  rcases lt_trichotomy x.scale y.scale with hlt | heq | hgt
  · have hleading : fractions ≤ y.significand := fractions_le_significand (by omega)
    calc
      x.units < 2 * fractions * Nat.pow 2 x.scale :=
        Nat.mul_lt_mul_of_pos_right hx (pow_two_pos _)
      _ = fractions * Nat.pow 2 (x.scale + 1) := by
        rw [Nat.mul_comm 2, Nat.mul_assoc, Nat.mul_comm 2]
        rfl
      _ ≤ y.units := Nat.mul_le_mul hleading (Nat.pow_le_pow_right two_pos hlt)
  · rw [heq, Nat.add_lt_add_iff_left] at h
    rw [units, units, heq]
    exact Nat.mul_lt_mul_of_pos_right h (pow_two_pos _)
  · have hleading : fractions ≤ x.significand := fractions_le_significand (by omega)
    unfold fractions at *
    omega

theorem units_eq_units (h : x.magnitude = y.magnitude) : x.units = y.units := by
  have hfield : x.exponentField = y.exponentField := by rw [exponentField, exponentField, h]
  rw [units, units, significand, significand, scale, scale, hfield, h]

/-- A number has more units than another exactly when its magnitude is greater. -/
theorem units_lt_units_iff : x.units < y.units ↔ x.magnitude < y.magnitude := by
  refine ⟨fun h => ?_, units_lt_units⟩
  by_contra hle
  rcases lt_or_eq_of_le (not_lt.mp hle) with hlt | heq
  · exact (units_lt_units hlt).not_gt h
  · exact h.ne' (units_eq_units heq)

/-- Only the two zeros have no units. -/
theorem units_eq_zero_iff : x.units = 0 ↔ x.magnitude = 0 := by
  have hzero : zero.units = 0 := by decide +kernel
  have hmagnitude : zero.magnitude = 0 := by decide
  have hlt := units_lt_units_iff (x := zero) (y := x)
  rw [hzero, hmagnitude] at hlt
  omega

/-- **The numeric order is the order of exact values**, although it is read off the bits. -/
theorem rank_lt_rank_iff (hq : x.value? = some q) (hr : y.value? = some r) :
    x.rank < y.rank ↔ q < r := by
  obtain ⟨-, rfl⟩ := value?_eq_some_iff.mp hq
  obtain ⟨-, rfl⟩ := value?_eq_some_iff.mp hr
  have hsigned : ∀ z : Binary64, signed z.negative (z.units / unitsOfOne) =
      (withSign z.negative z.units : ℤ) / unitsOfOne := by
    intro z
    cases z.negative with
    | false =>
        rw [signed, withSign, if_neg Bool.false_ne_true, if_neg Bool.false_ne_true,
          Int.cast_natCast]
    | true => rw [signed, withSign, if_pos rfl, if_pos rfl, Int.cast_neg, Int.cast_natCast, neg_div]
  rw [hsigned, hsigned, div_lt_div_iff_of_pos_right (Nat.cast_pos.mpr unitsOfOne_pos), Int.cast_lt]
  have hxy := units_lt_units_iff (x := x) (y := y)
  have hyx := units_lt_units_iff (x := y) (y := x)
  have hx := units_eq_zero_iff (x := x)
  have hy := units_eq_zero_iff (x := y)
  simp only [rank, withSign]
  split <;> split <;> omega

/-- Finite numbers have one rank when they have one value, as the two zeros do. -/
theorem rank_eq_rank_iff (hq : x.value? = some q) (hr : y.value? = some r) :
    x.rank = y.rank ↔ q = r := by
  have hlt := rank_lt_rank_iff hq hr
  have hgt := rank_lt_rank_iff hr hq
  rcases lt_trichotomy q r with h | h | h
  · exact iff_of_false (hlt.mpr h).ne h.ne
  · refine iff_of_true ?_ h
    have hnlt := mt hlt.mp h.not_lt
    have hngt := mt hgt.mp h.not_gt
    omega
  · exact iff_of_false (hgt.mpr h).ne' h.ne'

end Binary64

/-! ## Words -/

namespace Number

variable {n : Number} {i : ℤ} {y : ℚ}

/-- A number is a floating-point one or stands for an integer. -/
theorem isFloat_or_isInteger (n : Number) : n.isFloat ∨ ∃ i, n.IsInteger i := by
  cases n with
  | signed w => exact .inr ⟨_, .signed w⟩
  | unsigned w => exact .inr ⟨_, .unsigned w⟩
  | float x => exact .inl rfl

theorem IsInteger.not_isFloat (h : n.IsInteger i) : ¬ n.isFloat := by
  cases h <;> exact nofun

/-- The value of an integer is the integer, whichever word it is kept in. -/
theorem IsInteger.value?_eq (h : n.IsInteger i) : n.value? = some (i : ℚ) :=
  (integral?_eq_some_iff.mp h.integral?_eq).1

/-- An integer that a word stands for is smaller than there are words. -/
theorem IsInteger.abs_lt_pow (h : n.IsInteger i) : |(i : ℚ)| < 2 ^ (64 : ℤ) := by
  have hword : |i| < 2 ^ 64 := by
    cases h with
    | signed w =>
        have hle := w.le_toInt
        have hlt := w.toInt_lt
        exact abs_lt.mpr ⟨by omega, by omega⟩
    | unsigned w =>
        have hlt := w.toNat_lt
        exact abs_lt.mpr ⟨by omega, by omega⟩
  rw [← Int.cast_abs]
  exact_mod_cast hword

/-- **A word becomes the nearest 64-bit number.** -/
theorem IsInteger.exists_value? (h : n.IsInteger i) :
    ∃ y, n.toFloat.value? = some y ∧ BinaryFormat.double.IsNearest i y := by
  rw [h.toFloat_eq]
  obtain ⟨-, hnearest⟩ | ⟨hlarge, -⟩ := Binary64.ofInt_cases i
  · exact hnearest
  · have hlt := h.abs_lt_pow.trans (BinaryFormat.held_double.pow_lt_limit (by decide))
    exact absurd hlt hlarge.not_gt

/-- The nearest number is the only one that a word becomes. -/
theorem IsInteger.value?_toFloat_iff (h : n.IsInteger i) :
    n.toFloat.value? = some y ↔ BinaryFormat.double.IsNearest i y := by
  obtain ⟨z, hz, hnearest⟩ := h.exists_value?
  rw [hz, Option.some.injEq]
  refine ⟨fun heq => heq ▸ hnearest, fun hy => ?_⟩
  exact hnearest.unique BinaryFormat.held_double.precision_ne_zero hy

end Number

end RecordQuery
