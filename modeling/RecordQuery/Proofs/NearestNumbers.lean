import Mathlib.Algebra.Order.Ring.Abs
import Mathlib.Tactic.Linarith
import RecordQuery.Proofs.SingleFormat

/-!
# Nearest numbers

`BinaryFormat.IsNearest` says which number of a format a rational number is to be rounded to:
one that no other number of the format is nearer than, and where another one is as near, one
with an even significand.  There is no more than one (`BinaryFormat.IsNearest.unique`), and
rounding finds it (`BinaryFormat.isNearest_of_round`) unless the number lies at or beyond the
limit of the format (`BinaryFormat.round_eq_none_iff`).

Rounding a ratio looks at the multiples of one power of two only.  These are all that matters,
since a number of the format that is no such multiple is smaller than a multiple below the
ratio (`BinaryFormat.multiple_or_small`).
-/

namespace RecordQuery

/-! ## Distances -/

section Distances

variable {n d : ℕ} {q r r' u : ℚ} {j k : ℤ} {s s' : ℤ}

/-- The lesser of two numbers is the nearer one up to the half-way point. -/
theorem abs_sub_le_abs_sub_iff (h : r < r') : |q - r| ≤ |q - r'| ↔ 2 * q ≤ r + r' := by
  rcases abs_cases (q - r) with ⟨hr, hsign⟩ | ⟨hr, hsign⟩ <;>
  rcases abs_cases (q - r') with ⟨hr', hsign'⟩ | ⟨hr', hsign'⟩ <;>
  constructor <;> intro hle <;> linarith

/-- The greater of two numbers is the nearer one from the half-way point on. -/
theorem abs_sub_le_abs_sub_iff' (h : r < r') : |q - r'| ≤ |q - r| ↔ r + r' ≤ 2 * q := by
  rcases abs_cases (q - r) with ⟨hr, hsign⟩ | ⟨hr, hsign⟩ <;>
  rcases abs_cases (q - r') with ⟨hr', hsign'⟩ | ⟨hr', hsign'⟩ <;>
  constructor <;> intro hle <;> linarith

/-- Two numbers are equally far from the point half-way between them, and from no other. -/
theorem abs_sub_eq_abs_sub_iff (hne : r ≠ r') : |q - r| = |q - r'| ↔ 2 * q = r + r' := by
  rw [abs_eq_abs, or_iff_right (fun h => hne (sub_right_inj.mp h))]
  constructor <;> intro h <;> linarith

/-- A number within half a step of a multiple is no nearer to another multiple. -/
theorem half_le_abs_sub (hu : 0 < u) (hk : |q - k * u| ≤ u / 2) (hne : j ≠ k) :
    u / 2 ≤ |q - j * u| := by
  have hone : (1 : ℚ) ≤ |(k : ℚ) - j| := by
    exact_mod_cast Int.one_le_abs (sub_ne_zero.mpr hne.symm)
  have hgap : u ≤ |k * u - j * u| := by
    rw [← sub_mul, abs_mul, abs_of_pos hu]
    exact le_mul_of_one_le_left hu.le hone
  have htriangle := abs_sub_le (k * u : ℚ) q (j * u)
  rw [abs_sub_comm (k * u : ℚ) q] at htriangle
  linarith

/-- A power of two is a multiple of the smaller ones. -/
theorem exists_zpow_eq_mul (h : s ≤ s') : ∃ k : ℕ, (2 : ℚ) ^ s' = k * 2 ^ s := by
  obtain ⟨k, rfl⟩ := Int.le.dest h
  refine ⟨2 ^ k, ?_⟩
  rw [zpow_add₀ two_ne_zero, zpow_natCast, mul_comm, Nat.cast_pow, Nat.cast_two]

/-- A ratio is rounded down or up, by the remainder of its division. -/
theorem roundHalfEven_cases (n d : ℕ) :
    (roundHalfEven n d = n / d ∧ 2 * (n % d) ≤ d ∧ (2 * (n % d) = d → Even (n / d))) ∨
      (roundHalfEven n d = n / d + 1 ∧ d ≤ 2 * (n % d) ∧
        (2 * (n % d) = d → Even (n / d + 1))) := by
  simp only [roundHalfEven, Nat.even_iff]
  split_ifs <;> omega

/-- The error of rounding a ratio is one half at most, and one half only for an even result. -/
theorem roundHalfEven_near (hd : 0 < d) :
    |(n / d : ℚ) - roundHalfEven n d| ≤ 1 / 2 ∧
      (|(n / d : ℚ) - roundHalfEven n d| = 1 / 2 → Even (roundHalfEven n d)) := by
  have hd' : (0 : ℚ) < d := Nat.cast_pos.mpr hd
  have hsum : (n / d : ℚ) = (n / d : ℕ) + (n % d : ℕ) / d := by
    rw [add_div' _ _ _ hd'.ne', div_left_inj' hd'.ne']
    exact_mod_cast (Nat.div_add_mod' n d).symm
  have hmod : ((n % d : ℕ) / d : ℚ) ≤ 1 :=
    (div_le_one hd').mpr (Nat.cast_le.mpr (Nat.mod_lt n hd).le)
  have hnonneg : (0 : ℚ) ≤ (n % d : ℕ) / d := by positivity
  have hbelow : ((n % d : ℕ) / d : ℚ) ≤ 1 / 2 ↔ 2 * (n % d) ≤ d := by
    rw [div_le_div_iff₀ hd' two_pos, one_mul, mul_comm]
    exact_mod_cast Iff.rfl
  have habove : (1 / 2 : ℚ) ≤ (n % d : ℕ) / d ↔ d ≤ 2 * (n % d) := by
    rw [div_le_div_iff₀ two_pos hd', one_mul, mul_comm _ (2 : ℚ)]
    exact_mod_cast Iff.rfl
  obtain ⟨hround, hle, heven⟩ | ⟨hround, hle, heven⟩ := roundHalfEven_cases n d
  · rw [hround, hsum, add_sub_cancel_left, abs_of_nonneg hnonneg]
    exact ⟨hbelow.mpr hle, fun h => heven (le_antisymm hle (habove.mp h.ge))⟩
  · have herror : (n / d : ℕ) + (n % d : ℕ) / d - ((n / d + 1 : ℕ) : ℚ) =
        -(1 - (n % d : ℕ) / d) := by
      push_cast
      ring
    rw [hround, hsum, herror, abs_neg, abs_of_nonneg (sub_nonneg.mpr hmod)]
    have hle' := habove.mpr hle
    exact ⟨by linarith, fun h => heven (le_antisymm (hbelow.mp (by linarith)) hle)⟩

end Distances

/-! ## Formats -/

namespace BinaryFormat

variable {f : BinaryFormat} {n d m : ℕ} {s : ℤ} {q q' r r' : ℚ}

/-- The numbers of a format with an even significand. -/
def HasEven (f : BinaryFormat) (q : ℚ) : Prop :=
  ∃ m : ℕ, ∃ s : ℤ, 2 * m < 2 ^ f.precision ∧ f.leastScale ≤ s ∧ s ≤ f.greatestScale ∧
    |q| = 2 * m * 2 ^ s

/-- No number of the format is nearer to `q` than `r` is, and none is as near unless `r` is
even. -/
structure IsNearest (f : BinaryFormat) (q r : ℚ) : Prop where
  has : f.Has r
  le : ∀ {r'}, f.Has r' → |q - r| ≤ |q - r'|
  even : ∀ {r'}, f.Has r' → r' ≠ r → |q - r| = |q - r'| → f.HasEven r

/-- A format has the same numbers on both sides of zero. -/
theorem has_neg : f.Has (-q) ↔ f.Has q := by
  simp only [Has, abs_neg]

theorem hasEven_neg : f.HasEven (-q) ↔ f.HasEven q := by
  simp only [HasEven, abs_neg]

/-- Between two even numbers of a format there is another number of it: the one next to that
of the finer scale. -/
theorem exists_between_of_nonneg (hp : f.precision ≠ 0) (hr : f.HasEven r) (hr' : f.HasEven r')
    (hnonneg : 0 ≤ r) (hlt : r < r') : ∃ z, f.Has z ∧ r < z ∧ z < r' := by
  obtain ⟨m, s, hm, hleast, hgreatest, habs⟩ := hr
  obtain ⟨m', s', hm', hleast', hgreatest', habs'⟩ := hr'
  rw [abs_of_nonneg hnonneg] at habs
  rw [abs_of_pos (hnonneg.trans_lt hlt)] at habs'
  have heven : 2 ^ f.precision % 2 = 0 := Nat.even_iff.mp ((Nat.even_pow' hp).mpr even_two)
  have hodd : ∀ (l : ℕ) (t : ℤ), |((2 * l + 1 : ℕ) * 2 ^ t : ℚ)| = (2 * l + 1 : ℕ) * 2 ^ t :=
    fun l t => abs_of_nonneg (mul_nonneg (Nat.cast_nonneg _) (zpow_nonneg zero_le_two t))
  rcases le_total s s' with hle | hle
  · have hstep : (0 : ℚ) < 2 ^ s := zpow_pos two_pos s
    obtain ⟨k, hk⟩ := exists_zpow_eq_mul hle
    rw [habs, habs', hk] at hlt ⊢
    have hlt' : (m : ℚ) < m' * k := by nlinarith
    have hnext : (m : ℚ) + 1 ≤ m' * k := by exact_mod_cast hlt'
    refine ⟨(2 * m + 1 : ℕ) * 2 ^ s, ⟨2 * m + 1, s, by omega, hleast, hgreatest, hodd m s⟩, ?_, ?_⟩
    all_goals push_cast; nlinarith
  · have hstep : (0 : ℚ) < 2 ^ s' := zpow_pos two_pos s'
    obtain ⟨k, hk⟩ := exists_zpow_eq_mul hle
    rw [habs, habs', hk] at hlt ⊢
    have hlt' : (m : ℚ) * k < m' := by nlinarith
    have hpos : (0 : ℚ) < m' := lt_of_le_of_lt (by positivity) hlt'
    obtain ⟨l, rfl⟩ := Nat.exists_eq_add_one_of_ne_zero (Nat.cast_pos.mp hpos).ne'
    have hnext : (m : ℚ) * k ≤ l := by exact_mod_cast Nat.le_of_lt_succ (by exact_mod_cast hlt')
    refine ⟨(2 * l + 1 : ℕ) * 2 ^ s',
      ⟨2 * l + 1, s', by omega, hleast', hgreatest', hodd l s'⟩, ?_, ?_⟩
    all_goals push_cast; nlinarith

/-- Two even numbers are never neighbours: a number of the format stands between them. -/
theorem exists_between (hp : f.precision ≠ 0) (hr : f.HasEven r) (hr' : f.HasEven r')
    (hlt : r < r') : ∃ z, f.Has z ∧ r < z ∧ z < r' := by
  rcases le_or_gt 0 r with hnonneg | hneg
  · exact exists_between_of_nonneg hp hr hr' hnonneg hlt
  rcases lt_or_ge 0 r' with hpos | hnonpos
  · obtain ⟨m, s, hm, hleast, hgreatest, -⟩ := hr
    refine ⟨0, ⟨0, s, Nat.two_pow_pos _, hleast, hgreatest, ?_⟩, hneg, hpos⟩
    rw [abs_zero, Nat.cast_zero, zero_mul]
  · obtain ⟨z, hz, hleft, hright⟩ := exists_between_of_nonneg hp (hasEven_neg.mpr hr')
      (hasEven_neg.mpr hr) (neg_nonneg.mpr hnonpos) (neg_lt_neg hlt)
    exact ⟨-z, has_neg.mpr hz, lt_neg.mp hright, neg_lt.mp hleft⟩

namespace IsNearest

/-- Rounding is the same on both sides of zero. -/
theorem neg (h : f.IsNearest q r) : f.IsNearest (-q) (-r) where
  has := has_neg.mpr h.has
  le {r'} hr' := by
    have hle := h.le (has_neg.mpr hr')
    rwa [← abs_neg (q - r), ← abs_neg (q - -r'), neg_sub', neg_sub', neg_neg] at hle
  even {r'} hr' hne heq := by
    refine hasEven_neg.mpr (h.even (has_neg.mpr hr') (fun h => hne (neg_eq_iff_eq_neg.mp h)) ?_)
    rwa [← abs_neg (q - r), ← abs_neg (q - -r'), neg_sub', neg_sub', neg_neg]

/-- A number of the format is the nearest to itself. -/
theorem of_has (h : f.Has q) : f.IsNearest q q where
  has := h
  le _ := by
    rw [sub_self, abs_zero]
    exact abs_nonneg _
  even _ hne heq := by
    rw [sub_self, abs_zero] at heq
    exact absurd (sub_eq_zero.mp (abs_eq_zero.mp heq.symm)).symm hne

/-- What a number of the format is rounded to is itself. -/
theorem eq_of_has (h : f.IsNearest q r) (hq : f.Has q) : r = q := by
  have hle := h.le hq
  rw [sub_self, abs_zero] at hle
  exact (sub_eq_zero.mp (abs_nonpos_iff.mp hle)).symm

/-- The nearest number to a greater number is not less. -/
theorem le_of_lt (h : f.IsNearest q r) (h' : f.IsNearest q' r') (hlt : q < q') : r ≤ r' := by
  by_contra hgt
  have hleft := (abs_sub_le_abs_sub_iff' (not_le.mp hgt)).mp (h.le h'.has)
  have hright := (abs_sub_le_abs_sub_iff (not_le.mp hgt)).mp (h'.le h.has)
  linarith

/-- The nearest number is not less than a number of the format that is not greater. -/
theorem has_le (h : f.IsNearest q r) (hr' : f.Has r') (hle : r' ≤ q) : r' ≤ r := by
  by_contra hgt
  have hnear := (abs_sub_le_abs_sub_iff (not_le.mp hgt)).mp (h.le hr')
  linarith

/-- The nearest number is not greater than a number of the format that is not less. -/
theorem le_has (h : f.IsNearest q r) (hr' : f.Has r') (hle : q ≤ r') : r ≤ r' := by
  by_contra hgt
  have hnear := (abs_sub_le_abs_sub_iff' (not_le.mp hgt)).mp (h.le hr')
  linarith

/-- **A number has one nearest number of a format at most.** -/
theorem unique (hp : f.precision ≠ 0) (h : f.IsNearest q r) (h' : f.IsNearest q r') : r = r' := by
  by_contra hne
  wlog hlt : r < r' generalizing r r'
  · exact this h' h (Ne.symm hne) (lt_of_le_of_ne (not_lt.mp hlt) (Ne.symm hne))
  have hequal : |q - r| = |q - r'| := le_antisymm (h.le h'.has) (h'.le h.has)
  obtain ⟨z, hz, hleft, hright⟩ :=
    exists_between hp (h.even h'.has (Ne.symm hne) hequal) (h'.even h.has hne hequal.symm) hlt
  have hmiddle := (abs_sub_le_abs_sub_iff' hlt).mp hequal.ge
  have hcloser := (abs_sub_le_abs_sub_iff hleft).mp (h.le hz)
  linarith

end IsNearest

/-! ## Rounding -/

/-- Above the least scale the leading digit of a ratio is the first of the digits that there
are. -/
theorem leading_le (hn : 0 < n) (hd : 0 < d) (hscale : f.leastScale < f.scaleOf n d) :
    (2 ^ (f.scaleOf n d + (f.precision - 1)) : ℚ) ≤ n / d := by
  have hratio : (0 : ℚ) < n / d := div_pos (Nat.cast_pos.mpr hn) (Nat.cast_pos.mpr hd)
  have hlog : f.scaleOf n d + (f.precision - 1) = Int.log 2 (n / d : ℚ) := by
    unfold scaleOf at *
    rw [floorLog2_eq_log hn hd] at *
    omega
  rw [hlog]
  exact_mod_cast Int.zpow_log_le_self one_lt_two hratio

/-- A number of a format is a multiple of the power of two that a ratio is rounded at, or smaller
than the leading digit of the ratio. -/
theorem multiple_or_small (hn : 0 < n) (hd : 0 < d) (hr : f.Has r) :
    (∃ j : ℤ, r = j * 2 ^ f.scaleOf n d) ∨
      (|r| < 2 ^ (f.scaleOf n d + (f.precision - 1)) ∧
        (2 ^ (f.scaleOf n d + (f.precision - 1)) : ℚ) ≤ n / d) := by
  obtain ⟨m, s, hm, hleast, -, habs⟩ := hr
  rcases le_or_gt (f.scaleOf n d) s with hle | hlt
  · obtain ⟨k, hk⟩ := exists_zpow_eq_mul hle
    rw [hk, ← mul_assoc] at habs
    refine .inl ?_
    rcases abs_choice r with hsign | hsign
    · exact ⟨m * k, by rw [← hsign, habs]; push_cast; rfl⟩
    · exact ⟨-(m * k), by rw [← neg_neg r, ← hsign, habs]; push_cast; ring⟩
  · refine .inr ⟨?_, leading_le hn hd (hleast.trans_lt hlt)⟩
    calc
      |r| = m * 2 ^ s := habs
      _ < 2 ^ f.precision * 2 ^ s :=
        mul_lt_mul_of_pos_right (by exact_mod_cast hm) (zpow_pos two_pos s)
      _ = 2 ^ (f.precision + s) := by rw [zpow_add₀ two_ne_zero, zpow_natCast]
      _ ≤ 2 ^ (f.scaleOf n d + (f.precision - 1)) := zpow_le_zpow_right₀ one_le_two (by omega)

/-- The error of rounding a ratio at its scale. -/
theorem stepsOf_near (f : BinaryFormat) (n : ℕ) (hd : 0 < d) :
    |(n / d : ℚ) - f.stepsOf n d * 2 ^ f.scaleOf n d| ≤ 2 ^ f.scaleOf n d / 2 ∧
      (|(n / d : ℚ) - f.stepsOf n d * 2 ^ f.scaleOf n d| = 2 ^ f.scaleOf n d / 2 →
        Even (f.stepsOf n d)) := by
  obtain ⟨hpos, hvalue⟩ := divideByPow_spec n hd (f.scaleOf n d)
  have hnear := roundHalfEven_near (n := (divideByPow n d (f.scaleOf n d)).1) hpos
  rw [hvalue] at hnear
  change |(n / d / 2 ^ f.scaleOf n d : ℚ) - f.stepsOf n d| ≤ 1 / 2 ∧
    (|(n / d / 2 ^ f.scaleOf n d : ℚ) - f.stepsOf n d| = 1 / 2 → Even (f.stepsOf n d)) at hnear
  have hstep : (0 : ℚ) < 2 ^ f.scaleOf n d := zpow_pos two_pos _
  have hscaled : |(n / d : ℚ) - f.stepsOf n d * 2 ^ f.scaleOf n d| =
      |(n / d / 2 ^ f.scaleOf n d : ℚ) - f.stepsOf n d| * 2 ^ f.scaleOf n d := by
    rw [← abs_of_pos hstep, ← abs_mul, abs_of_pos hstep, sub_mul, div_mul_cancel₀ _ hstep.ne']
  have hhalf : (2 ^ f.scaleOf n d / 2 : ℚ) = 1 / 2 * 2 ^ f.scaleOf n d := by ring
  rw [hscaled, hhalf, mul_le_mul_iff_left₀ hstep, mul_left_inj' hstep.ne']
  exact hnear

theorem stepsOf_zero (hd : 0 < d) : f.stepsOf 0 d = 0 := by
  obtain ⟨hpos, hvalue⟩ := divideByPow_spec 0 hd (f.scaleOf 0 d)
  exact roundHalfEven_of_div_eq hpos (by rw [hvalue, Nat.cast_zero, zero_div, zero_div])

/-- The result of rounding, carry or not, is the ratio rounded at its scale. -/
theorem value_of_round (hp : f.precision ≠ 0) (h : f.round n d = some (m, s)) :
    (m * 2 ^ s : ℚ) = f.stepsOf n d * 2 ^ f.scaleOf n d := by
  rw [round_eq] at h
  split at h
  next hcarry =>
    obtain ⟨p, hp⟩ := Nat.exists_eq_add_one_of_ne_zero hp
    obtain ⟨-, heq⟩ := Option.ite_none_left_eq_some.mp h
    cases heq
    rw [hcarry, hp, pow_succ, Nat.mul_div_cancel _ two_pos, zpow_add_one₀ two_ne_zero]
    push_cast
    ring
  next hcarry =>
    obtain ⟨-, heq⟩ := Option.ite_none_left_eq_some.mp h
    cases heq
    rfl

/-- An even result of rounding has an even significand, also after a carry. -/
theorem hasEven_of_round (hp : 2 ≤ f.precision) (hd : 0 < d) (h : f.round n d = some (m, s))
    (heven : Even (f.stepsOf n d)) : f.HasEven (m * 2 ^ s) := by
  obtain ⟨hm, hleast, hgreatest⟩ := round_bounds hd h
  have hsig : Even m := by
    rw [round_eq] at h
    split at h
    next hcarry =>
      obtain ⟨p, hp⟩ := Nat.exists_eq_add_of_le' hp
      obtain ⟨-, heq⟩ := Option.ite_none_left_eq_some.mp h
      cases heq
      rw [hcarry, hp, pow_succ, Nat.mul_div_cancel _ two_pos, pow_succ]
      exact even_two.mul_left _
    next hcarry =>
      obtain ⟨-, heq⟩ := Option.ite_none_left_eq_some.mp h
      cases heq
      exact heven
  obtain ⟨l, rfl⟩ := hsig.two_dvd
  refine ⟨l, s, hm, hleast, hgreatest, ?_⟩
  rw [abs_of_nonneg (mul_nonneg (Nat.cast_nonneg _) (zpow_nonneg zero_le_two s))]
  push_cast
  rfl

/-- Any other number of the format is at least half a step away, or at least not as near. -/
theorem half_step_le_or_nearer (hp : f.precision ≠ 0) (hn : 0 < n) (hd : 0 < d) (hr : f.Has r)
    (hne : r ≠ f.stepsOf n d * 2 ^ f.scaleOf n d) :
    2 ^ f.scaleOf n d / 2 ≤ |(n / d : ℚ) - r| ∨
      |(n / d : ℚ) - f.stepsOf n d * 2 ^ f.scaleOf n d| < |(n / d : ℚ) - r| := by
  have hstep : (0 : ℚ) < 2 ^ f.scaleOf n d := zpow_pos two_pos _
  have herror := (f.stepsOf_near n hd).1
  rw [← Int.cast_natCast (f.stepsOf n d)] at hne herror ⊢
  obtain ⟨j, rfl⟩ | ⟨hsmall, hbelow⟩ := multiple_or_small hn hd hr
  · exact .inl (half_le_abs_sub hstep herror fun h => hne (by rw [h]))
  · -- The leading digit is a multiple too, and nearer than the number.
    have hscale : f.scaleOf n d ≤ f.scaleOf n d + (f.precision - 1) := by omega
    obtain ⟨j, hj⟩ := exists_zpow_eq_mul hscale
    rw [hj, ← Int.cast_natCast j] at hsmall hbelow
    have hmultiple : |(n / d : ℚ) - (f.stepsOf n d : ℤ) * 2 ^ f.scaleOf n d| ≤
        |(n / d : ℚ) - (j : ℤ) * 2 ^ f.scaleOf n d| := by
      rcases eq_or_ne (j : ℤ) (f.stepsOf n d) with heq | hne
      · rw [heq]
      · exact herror.trans (half_le_abs_sub hstep herror hne)
    refine .inr (hmultiple.trans_lt ?_)
    rw [abs_of_nonneg (sub_nonneg.mpr hbelow)]
    exact (sub_lt_sub_left ((le_abs_self r).trans_lt hsmall) _).trans_le (le_abs_self _)

/-- What a ratio is rounded to, if to anything, is a number of the format. -/
theorem has_of_round (hd : 0 < d) (h : f.round n d = some (m, s)) : f.Has (m * 2 ^ s) := by
  obtain ⟨hm, hleast, hgreatest⟩ := round_bounds hd h
  exact ⟨m, s, hm, hleast, hgreatest,
    abs_of_nonneg (mul_nonneg (Nat.cast_nonneg _) (zpow_nonneg zero_le_two s))⟩

/-- **Rounding finds the nearest number of the format**, and the even one of two. -/
theorem isNearest_of_round (hp : 2 ≤ f.precision) (hd : 0 < d) (h : f.round n d = some (m, s)) :
    f.IsNearest (n / d) (m * 2 ^ s) := by
  have hp' : f.precision ≠ 0 := (Nat.zero_lt_of_lt hp).ne'
  have hvalue := value_of_round hp' h
  have hhas := has_of_round hd h
  obtain ⟨herror, htie⟩ := f.stepsOf_near n hd
  rw [← hvalue] at herror htie
  rcases Nat.eq_zero_or_pos n with rfl | hn
  · have hzero : (m * 2 ^ s : ℚ) = 0 := by rw [hvalue, stepsOf_zero hd, Nat.cast_zero, zero_mul]
    rw [hzero] at hhas ⊢
    rw [Nat.cast_zero, zero_div]
    exact .of_has hhas
  have hother : ∀ {r'}, f.Has r' → r' ≠ m * 2 ^ s → _ := fun hr' hne =>
    half_step_le_or_nearer hp' hn hd hr' (hvalue ▸ hne)
  rw [← hvalue] at hother
  refine ⟨hhas, fun {r'} hr' => ?_, fun {r'} hr' hne heq => ?_⟩
  · rcases eq_or_ne r' (m * 2 ^ s) with rfl | hne
    · exact le_rfl
    · exact (hother hr' hne).elim herror.trans le_of_lt
  · have hhalf := (hother hr' hne).resolve_right heq.not_lt
    exact hasEven_of_round hp hd h (htie (le_antisymm herror (heq ▸ hhalf)))

/-- The first number that rounding to a format refuses: half-way between the greatest number of
the format and the power of two behind it. -/
def limit (f : BinaryFormat) : ℚ :=
  (2 ^ f.precision - 1 / 2) * 2 ^ f.greatestScale

/-- A ratio is rounded up to the power of two behind the digits that there are from half a step
below it. -/
theorem stepsOf_eq_iff (hp : f.precision ≠ 0) (hd : 0 < d) :
    f.stepsOf n d = 2 ^ f.precision ↔
      ((2 ^ f.precision - 1 / 2) * 2 ^ f.scaleOf n d : ℚ) ≤ n / d := by
  have hstep : (0 : ℚ) < 2 ^ f.scaleOf n d := zpow_pos two_pos _
  obtain ⟨herror, htie⟩ := f.stepsOf_near n hd
  constructor
  · intro hsteps
    rw [hsteps, Nat.cast_pow, Nat.cast_two] at herror
    linarith [(abs_le.mp herror).1]
  · intro hle
    by_contra hne
    have hlt : f.stepsOf n d < 2 ^ f.precision := lt_of_le_of_ne (f.stepsOf_le n hd) hne
    have hlast : (f.stepsOf n d : ℚ) + 1 ≤ 2 ^ f.precision := by exact_mod_cast hlt
    have hscaled := mul_le_mul_of_nonneg_right hlast hstep.le
    have habove : (2 ^ f.scaleOf n d / 2 : ℚ) ≤ n / d - f.stepsOf n d * 2 ^ f.scaleOf n d := by
      linarith
    have heven := htie (le_antisymm herror (habove.trans (le_abs_self _)))
    -- The error leaves only the last number below the power of two, and that one is odd.
    have hbelow : (2 ^ f.precision : ℚ) ≤ f.stepsOf n d + 1 :=
      le_of_mul_le_mul_right (by linarith [(abs_le.mp herror).2]) hstep
    have hodd : f.stepsOf n d + 1 = 2 ^ f.precision :=
      le_antisymm hlt (by exact_mod_cast hbelow)
    exact Nat.even_add_one.mp (hodd ▸ (Nat.even_pow' hp).mpr even_two) heven

/-- **Rounding fails from the limit of the format on.** -/
theorem round_eq_none_iff (hp : f.precision ≠ 0) (hrange : f.leastScale ≤ f.greatestScale)
    (hn : 0 < n) (hd : 0 < d) : f.round n d = none ↔ f.limit ≤ n / d := by
  have hdigits : (1 : ℚ) ≤ 2 ^ f.precision := one_le_pow₀ one_le_two
  have hgreat : (0 : ℚ) < 2 ^ f.greatestScale := zpow_pos two_pos _
  rw [round_eq, limit]
  rcases lt_trichotomy (f.scaleOf n d) f.greatestScale with hlt | heq | hgt
  · have hratio := f.ratio_lt n hd
    rw [div_lt_iff₀ (zpow_pos two_pos _)] at hratio
    have hhalf : (2 * 2 ^ f.scaleOf n d : ℚ) ≤ 2 ^ f.greatestScale := by
      rw [← zpow_one_add₀ two_ne_zero]
      exact zpow_le_zpow_right₀ one_le_two (by omega)
    rw [if_neg (not_lt.mpr (Int.add_one_le_of_lt hlt)), if_neg hlt.not_gt]
    refine iff_of_false (by split <;> nofun) (not_le.mpr ?_)
    nlinarith
  · rw [← heq, ← stepsOf_eq_iff hp hd]
    split
    next h => exact iff_of_true (if_pos (lt_add_one _)) h
    next h => exact iff_of_false (by rw [if_neg (lt_irrefl _)]; nofun) h
  · rw [if_pos (hgt.trans (lt_add_one _)), if_pos hgt, ite_self]
    refine iff_of_true rfl ?_
    calc
      ((2 ^ f.precision - 1 / 2) * 2 ^ f.greatestScale : ℚ) ≤
          2 ^ f.precision * 2 ^ f.greatestScale :=
        mul_le_mul_of_nonneg_right (by linarith) hgreat.le
      _ = 2 ^ (f.precision + f.greatestScale) := by rw [zpow_add₀ two_ne_zero, zpow_natCast]
      _ ≤ 2 ^ (f.scaleOf n d + (f.precision - 1)) :=
        zpow_le_zpow_right₀ one_le_two (by omega)
      _ ≤ n / d := leading_le hn hd (hrange.trans_lt hgt)

end BinaryFormat

end RecordQuery
