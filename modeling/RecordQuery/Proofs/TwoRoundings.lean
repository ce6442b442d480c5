import RecordQuery.Proofs.NearestFloats
import RecordQuery.Proofs.IntegerCoercion

/-!
# Numbers for 32-bit fields

A number for a 32-bit field is rounded twice, first to the 64-bit format and then to the 32-bit
one.  The first rounding is exact for floating-point numbers and for integers of up to 53
digits.  For other integers the second one starts from a number that is not the integer.

The half-way points between numbers of the 32-bit format are 64-bit numbers
(`BinaryFormat.Refines.has_intCast_mul`), so that the first rounding does not cross them, but it
may end on one.  Hence the operand is the nearest number, or as far from the half-way point as
that one is (`BinaryFormat.eq_or_halfway`), and `coerce_number_single` says when it is which.
-/

namespace RecordQuery

namespace BinaryFormat

variable {f g : BinaryFormat} {n d m : ℕ} {s : ℤ} {q y r r' : ℚ}

/-- A format with two more digits than another, and a finer scale. -/
structure Refines (g f : BinaryFormat) : Prop where
  precision : f.precision + 2 ≤ g.precision
  leastScale : g.leastScale < f.leastScale
  greatestScale : f.greatestScale ≤ g.greatestScale

theorem double_refines_single : double.Refines single := by
  constructor <;> decide

theorem Refines.has (h : g.Refines f) (hq : f.Has q) : g.Has q := by
  obtain ⟨m, s, hm, hleast, hgreatest, habs⟩ := hq
  have hprecision := h.precision
  have hdigits : 2 ^ f.precision ≤ 2 ^ g.precision := Nat.pow_le_pow_right two_pos (by omega)
  exact ⟨m, s, hm.trans_le hdigits, h.leastScale.le.trans hleast,
    hgreatest.trans h.greatestScale, habs⟩

/-- The finer format has the numbers with two more digits. -/
theorem Refines.has_intCast_mul (h : g.Refines f) {c : ℤ} (hc : c.natAbs < 4 * 2 ^ f.precision)
    (hleast : f.leastScale ≤ s + 1) (hgreatest : s ≤ f.greatestScale) : g.Has (c * 2 ^ s) := by
  have hdigits : 2 ^ (f.precision + 2) ≤ 2 ^ g.precision := Nat.pow_le_pow_right two_pos h.precision
  have hfiner := h.leastScale
  rw [pow_add, mul_comm] at hdigits
  refine ⟨c.natAbs, s, hc.trans_le hdigits, by omega, hgreatest.trans h.greatestScale, ?_⟩
  rw [abs_mul, abs_of_pos (zpow_pos two_pos s : (0 : ℚ) < 2 ^ s), Nat.cast_natAbs, Int.cast_abs]

/-- A power of two needs one digit. -/
theorem has_leading (hp : f.precision ≠ 0) (hleast : f.leastScale ≤ s)
    (hgreatest : s ≤ f.greatestScale) : f.Has (2 ^ (s + (f.precision - 1))) := by
  obtain ⟨p, hp⟩ := Nat.exists_eq_add_one_of_ne_zero hp
  refine ⟨2 ^ p, s, by rw [hp]; exact Nat.pow_lt_pow_right one_lt_two p.lt_succ_self, hleast,
    hgreatest, ?_⟩
  rw [abs_of_pos (zpow_pos two_pos _), hp, Nat.cast_add, Nat.cast_one, add_sub_cancel_right,
    zpow_add₀ two_ne_zero, zpow_natCast, Nat.cast_pow, Nat.cast_two, mul_comm]

theorem scaleOf_le_of_round (h : f.round n d = some (m, s)) : f.scaleOf n d ≤ f.greatestScale := by
  by_contra hgt
  rw [not_le] at hgt
  rw [round_eq, if_pos (hgt.trans (lt_add_one _)), if_pos hgt, ite_self] at h
  cases h

/-- Two roundings of a ratio give a multiple of the power of two that it is rounded at. -/
theorem exists_eq_mul_of_isNearest (hgf : g.Refines f) (hp : f.precision ≠ 0) (hn : 0 < n)
    (hd : 0 < d) (hscale : f.scaleOf n d ≤ f.greatestScale) (hy : g.IsNearest (n / d) y)
    (hr : f.IsNearest y r) : ∃ j : ℤ, r = j * 2 ^ f.scaleOf n d := by
  refine (multiple_or_small hn hd hr.has).resolve_right ?_
  rintro ⟨hsmall, hleading⟩
  have hhas := has_leading hp (le_max_left _ _) hscale
  have hle := hr.has_le hhas (hy.has_le (hgf.has hhas) hleading)
  exact (hle.trans (le_abs_self r)).not_gt hsmall

/-- Two roundings of a ratio end where one does, or as far from the number between them. -/
theorem eq_or_halfway_of_round (hgf : g.Refines f) (hp : f.precision ≠ 0) (hn : 0 < n) (hd : 0 < d)
    (hround : f.round n d = some (m, s)) (hy : g.IsNearest (n / d) y) (hr : f.IsNearest y r) :
    r = m * 2 ^ s ∨ |y - r| = |y - m * 2 ^ s| := by
  have hhas := has_of_round hd hround
  rw [value_of_round hp hround] at hhas ⊢
  have hscale := scaleOf_le_of_round hround
  have hscale' : f.leastScale ≤ f.scaleOf n d := le_max_left _ _
  obtain ⟨j, rfl⟩ := exists_eq_mul_of_isNearest hgf hp hn hd hscale hy hr
  have hsteps := f.stepsOf_le n hd
  have hdigits : 0 < 2 ^ f.precision := Nat.two_pow_pos _
  have herror := abs_le.mp (f.stepsOf_near n hd).1
  -- Everything is counted in half steps, which the finer format has.
  have hhalf : (0 : ℚ) < 2 ^ (f.scaleOf n d - 1) := zpow_pos two_pos _
  have hstep : (2 ^ f.scaleOf n d : ℚ) = 2 * 2 ^ (f.scaleOf n d - 1) := by
    rw [← zpow_one_add₀ two_ne_zero]
    congr 1
    omega
  have hfine : ∀ c : ℤ, c.natAbs < 4 * 2 ^ f.precision → g.Has (c * 2 ^ (f.scaleOf n d - 1)) :=
    fun c hc => hgf.has_intCast_mul hc (by omega) (by omega)
  rw [hstep] at herror hhas hr ⊢
  generalize f.stepsOf n d = k at *
  generalize (2 ^ (f.scaleOf n d - 1) : ℚ) = u at *
  rcases eq_or_ne (j * (2 * u)) (k * (2 * u)) with heq | hne
  · exact .inl heq
  refine .inr ((abs_sub_eq_abs_sub_iff hne).mpr ?_)
  -- The finer number is on the same side of the nearest half-way point as the ratio, so that it
  -- cannot have been rounded across unless it is that point.
  rcases lt_trichotomy j k with hlt | heq | hgt
  · have hnext : (j : ℚ) + 1 ≤ k := by exact_mod_cast hlt
    have hbelow := hy.has_le (hfine (2 * k - 1) (by omega)) (by push_cast; linarith)
    have habove := (abs_sub_le_abs_sub_iff (by nlinarith)).mp (hr.le hhas)
    push_cast at hbelow
    exact le_antisymm habove (by nlinarith)
  · exact absurd (by rw [heq, Int.cast_natCast]) hne
  · have hnext : (k : ℚ) + 1 ≤ j := by exact_mod_cast hgt
    have habove := hy.le_has (hfine (2 * k + 1) (by omega)) (by push_cast; linarith)
    have hbelow := (abs_sub_le_abs_sub_iff' (by nlinarith)).mp (hr.le hhas)
    push_cast at habove
    exact le_antisymm (by nlinarith) (by linarith)

/-- **Rounding by way of a finer format** finds the nearest number, or the one on the other side
of the half-way point that the first rounding ended on. -/
theorem eq_or_halfway (hgf : g.Refines f) (hf : f.Held) (hq : |q| < f.limit)
    (hr' : f.IsNearest q r') (hy : g.IsNearest q y) (hr : f.IsNearest y r) :
    r = r' ∨ |y - r| = |y - r'| := by
  wlog hpos : 0 ≤ q generalizing q y r r'
  · have hneg := this (by rwa [abs_neg]) hr'.neg hy.neg hr.neg
      (neg_nonneg.mpr (le_of_not_ge hpos))
    rwa [neg_inj, neg_sub_neg, neg_sub_neg, abs_sub_comm, abs_sub_comm r'] at hneg
  obtain ⟨n, d, m, s, hd, rfl, hround⟩ := hf.exists_round hpos (lt_of_abs_lt hq)
  have heq := hr'.unique hf.precision_ne_zero (isNearest_of_round hf.two_le_precision hd hround)
  rcases Nat.eq_zero_or_pos n with rfl | hn
  · rw [Nat.cast_zero, zero_div] at hr' hy
    have hzero : f.Has 0 := hf.has_zero
    rw [hy.eq_of_has (hgf.has hzero)] at hr
    exact .inl ((hr.eq_of_has hzero).trans (hr'.eq_of_has hzero).symm)
  · exact heq ▸ eq_or_halfway_of_round hgf hf.precision_ne_zero hn hd hround hy hr

/-- **The result of two roundings is the nearest number** unless the first one ended on a
half-way point and the number on its other side is nearer. -/
theorem isNearest_iff_of_isNearest (hgf : g.Refines f) (hf : f.Held) (hq : |q| < f.limit)
    (hy : g.IsNearest q y) (hr : f.IsNearest y r) :
    f.IsNearest q r ↔ ∀ {r'}, f.Has r' → |y - r'| = |y - r| → |q - r| ≤ |q - r'| := by
  refine ⟨fun h {r'} hr' _ => h.le hr', fun h => ?_⟩
  obtain ⟨r', hr'⟩ := hf.exists_isNearest hq
  rcases eq_or_ne r r' with rfl | hne
  · exact hr'
  have hhalfway := (eq_or_halfway hgf hf hq hr' hy hr).resolve_left hne
  have hequal := le_antisymm (h hr'.has hhalfway.symm) (hr'.le hr.has)
  rw [abs_sub_eq_abs_sub_iff hne] at hhalfway hequal
  have heq : q = y := by linarith
  exact heq ▸ hr

end BinaryFormat

namespace Number

variable {n : Number} {q : ℚ}

/-- **A number with a value becomes the nearest 64-bit number**, which is the number itself
unless it is an integer of more than 53 digits. -/
theorem exists_value?_toFloat (hq : n.value? = some q) :
    ∃ y, n.toFloat.value? = some y ∧ BinaryFormat.double.IsNearest q y ∧
      (n.isFloat ∨ |q| ≤ 2 ^ 53 → y = q) := by
  rcases n.isFloat_or_isInteger with hfloat | ⟨i, hi⟩
  · cases n with
    | signed | unsigned => cases hfloat
    | float x => exact ⟨q, hq, .of_has (Binary64.has_of_value? hq), fun _ => rfl⟩
  · obtain ⟨y, hy, hnearest⟩ := hi.exists_value?
    rw [hi.value?_eq, Option.some.injEq] at hq
    subst hq
    refine ⟨y, hy, hnearest, fun h => hnearest.eq_of_has (BinaryFormat.double_has_intCast ?_)⟩
    have hsmall := h.resolve_left hi.not_isFloat
    rw [← Int.cast_abs] at hsmall
    exact_mod_cast hsmall

/-- The first rounding is exact or stays below the limit of the 32-bit format. -/
theorem eq_or_abs_lt_limit (hq : n.value? = some q) (hy : n.toFloat.value? = some y)
    (hnearest : BinaryFormat.double.IsNearest q y) :
    y = q ∨ |q| < BinaryFormat.single.limit ∧ |y| < BinaryFormat.single.limit := by
  rcases n.isFloat_or_isInteger with hfloat | ⟨i, hi⟩
  · cases n with
    | signed | unsigned => cases hfloat
    | float x => exact .inl (Option.some.inj (hy.symm.trans hq))
  · rw [hi.value?_eq, Option.some.injEq] at hq
    subst hq
    have hword := hi.abs_lt_pow
    have hlimit := BinaryFormat.held_single.pow_lt_limit (k := 64) (by decide)
    have hhas : BinaryFormat.double.Has (2 ^ (64 : ℤ)) :=
      ⟨1, 64, by decide, by decide, by decide, by norm_num⟩
    refine .inr ⟨hword.trans hlimit, lt_of_le_of_lt (abs_le.mpr ⟨?_, ?_⟩) hlimit⟩
    · exact hnearest.has_le (BinaryFormat.has_neg.mpr hhas) (neg_le_of_abs_le hword.le)
    · exact hnearest.le_has hhas (le_of_abs_le hword.le)

end Number

/-- **A number for a 32-bit field becomes the nearest 32-bit number** if it is below the limit of
the format, and an infinity otherwise.  Integers of more than 53 digits are rounded twice: they
become the nearest 32-bit number to the nearest 64-bit number.  That is the nearest one to the
integer too, unless the 64-bit number is the point half-way to another 32-bit number which is
nearer to the integer. -/
theorem coerce_number_single {t : FieldType} {n : Number} {q : ℚ} (hscalar : t.scalar = .single)
    (ht : t.sequence = false) (hq : n.value? = some q) :
    ∃ x, coerce (.number n) t = .ok (.number (.float x)) ∧
      (BinaryFormat.single.limit ≤ |q| → x = .infinity (q < 0)) ∧
      (|q| < BinaryFormat.single.limit → ∃ y r, x.value? = some r ∧
        BinaryFormat.double.IsNearest q y ∧ BinaryFormat.single.IsNearest y r ∧
        (n.isFloat ∨ |q| ≤ 2 ^ 53 → BinaryFormat.single.IsNearest q r) ∧
        (BinaryFormat.single.IsNearest q r ↔ ∀ {r'}, BinaryFormat.single.Has r' →
          |y - r'| = |y - r| → |q - r| ≤ |q - r'|)) := by
  obtain ⟨y, hy, hnearest, hexact⟩ := n.exists_value?_toFloat hq
  refine ⟨n.toFloat.narrow, coerce_eq_ok_of_ofLiteral? rfl ht (by rw [hscalar]; rfl), ?_⟩
  have hcases := n.eq_or_abs_lt_limit hq hy hnearest
  obtain ⟨hsmall, r, hr, hnearest'⟩ | ⟨hlarge, hinfinity⟩ := Binary64.narrow_cases hy
  · have hlt : |q| < BinaryFormat.single.limit := hcases.elim (fun h => h ▸ hsmall) (·.1)
    refine ⟨fun hle => absurd hlt hle.not_gt, fun _ => ⟨y, r, hr, hnearest, hnearest',
      fun h => hexact h ▸ hnearest', ?_⟩⟩
    exact BinaryFormat.isNearest_iff_of_isNearest BinaryFormat.double_refines_single
      BinaryFormat.held_single hlt hnearest hnearest'
  · have heq : y = q := hcases.resolve_right fun h => h.2.not_ge hlarge
    subst heq
    exact ⟨fun _ => hinfinity, fun hlt => absurd hlt hlarge.not_gt⟩

/-- The first integer that needs a 25th digit is rounded to a nearest 32-bit number. -/
theorem coerce_number_single_tie :
    (FieldType.plain .single).scalar = .single ∧ (FieldType.plain .single).sequence = false ∧
      (Number.signed 16777217).value? = some 16777217 ∧
      ∃ x r, coerce (.number (.signed 16777217)) (.plain .single) = .ok (.number (.float x)) ∧
        x.value? = some r ∧ BinaryFormat.single.IsNearest 16777217 r := by
  have hvalue : (Number.signed 16777217).value? = some 16777217 := rfl
  have hlimit : |(16777217 : ℚ)| < BinaryFormat.single.limit := by
    norm_num [BinaryFormat.limit, BinaryFormat.single]
  obtain ⟨x, hx, -, hsmall⟩ :=
    coerce_number_single (t := .plain .single) rfl rfl hvalue
  obtain ⟨y, r, hr, -, -, hnearest, -⟩ := hsmall hlimit
  exact ⟨rfl, rfl, hvalue, x, r, hx, hr, hnearest (.inr (by norm_num))⟩

/-- The number `10 ^ 39` becomes an infinity, and the integer `2 ^ 54 + 2 ^ 30 + 1` the 32-bit
number below although the one above is nearer. -/
theorem narrowed_past_nearest :
    ((Number.float ⟨0x48078287F49C4A1D⟩).value? =
        some ((999999999999999939709166371603178586112 : ℤ) : ℚ) ∧
      coerce (.number (.float ⟨0x48078287F49C4A1D⟩)) (.plain .single) =
        .ok (.number (.float (.infinity false)))) ∧
    ∃ x r r', coerce (.number (.signed 18014399583223809)) (.plain .single) =
        .ok (.number (.float x)) ∧
      x.value? = some r ∧ BinaryFormat.single.Has r' ∧
      |(18014399583223809 : ℚ) - r'| < |18014399583223809 - r| := by
  have hnarrow : ∀ {n : Number} {x}, n.toFloat.narrow = x →
      coerce (.number n) (.plain .single) = .ok (.number (.float x)) := fun h => h ▸ rfl
  refine ⟨⟨Binary64.integer?_eq_some_iff.mp (by decide +kernel), hnarrow (by decide +kernel)⟩, ?_⟩
  refine ⟨⟨0x4350000000000000⟩, (18014398509481984 : ℤ), 18014400656965632,
    hnarrow (by decide +kernel), Binary64.integer?_eq_some_iff.mp (by decide +kernel), ?_, ?_⟩
  · exact ⟨8388609, 31, by decide, by decide, by decide, by norm_num⟩
  · norm_num [abs_of_pos, abs_of_neg]

end RecordQuery
