import RecordQuery.Proofs.NearestFloats
import RecordQuery.Proofs.ValueOrder

/-!
# The order of numbers

Integers of both kinds are compared exactly.  As soon as a floating-point number takes part,
the other side is rounded first, and rounding can make different integers equal: a
floating-point number then stands for both of them (`Number.Merges`).

Rounding never inverts an order (`Number.IsInteger.rank_mono`), so every answer fits the order
of the rounded numbers, and that order decides wherever the rounded numbers differ
(`Number.order?_of_rank_lt`).  What is left are numbers that are rounded to the same one.
Among them all that is compared with a floating-point number is equal, and so the order is
lawful on a collection of numbers exactly when none of its floating-point numbers merges two of
its integers (`Number.order?_lawful_iff`).
-/

namespace RecordQuery

namespace Binary64

variable {x y : Binary64} {q : ℚ}

theorem isNaN_of_value? (h : x.value? = some q) : x.isNaN = false := by
  have hfinite := (value?_eq_some_iff.mp h).1
  simp only [isFinite, isNaN, decide_eq_true_eq, decide_eq_false_iff_not] at *
  omega

/-- Numbers in the same place have the same value. -/
theorem value?_of_rank_eq (hq : x.value? = some q) (h : y.rank = x.rank) : y.value? = some q := by
  have hfinite : y.isFinite := by
    have hx := (value?_eq_some_iff.mp hq).1
    simp only [isFinite, rank, decide_eq_true_eq] at *
    split at h <;> split at h <;> omega
  obtain ⟨r, hr⟩ : ∃ r, y.value? = some r := ⟨_, value?_of_isFinite hfinite⟩
  rw [hr, (rank_eq_rank_iff hr hq).mp h]

end Binary64

namespace Number

variable {a b c x : Number} {i j : ℤ} {o o' : Ordering}

/-- A floating-point number that is the nearest one to two different integers. -/
def Merges (x a b : Number) : Prop :=
  ∃ y i j, x.isFloat ∧ x.value? = some y ∧ a.IsInteger i ∧ b.IsInteger j ∧ i ≠ j ∧
    BinaryFormat.double.IsNearest i y ∧ BinaryFormat.double.IsNearest j y

/-- The place of a number, rounded to a floating-point number, in the order of these. -/
def rank (n : Number) : ℤ :=
  n.toFloat.rank

/-- There is a floating-point number among two numbers, or both are integers. -/
theorem isFloat_or_isIntegers (a b : Number) :
    (a.isFloat ∨ b.isFloat) ∨ ∃ i j, a.IsInteger i ∧ b.IsInteger j := by
  rcases a.isFloat_or_isInteger with ha | ⟨i, hi⟩
  · exact .inl (.inl ha)
  · rcases b.isFloat_or_isInteger with hb | ⟨j, hj⟩
    · exact .inl (.inr hb)
    · exact .inr ⟨i, j, hi, hj⟩

theorem IsInteger.isNaN_toFloat (h : a.IsInteger i) : a.toFloat.isNaN = false := by
  obtain ⟨y, hy, -⟩ := h.exists_value?
  exact Binary64.isNaN_of_value? hy

/-- **Rounding does not invert the order of integers.** -/
theorem IsInteger.rank_mono (ha : a.IsInteger i) (hb : b.IsInteger j) (h : i ≤ j) :
    a.rank ≤ b.rank := by
  rcases eq_or_lt_of_le h with rfl | hlt
  · rw [rank, rank, ha.toFloat_eq, hb.toFloat_eq]
  · obtain ⟨y, hy, hnearest⟩ := ha.exists_value?
    obtain ⟨z, hz, hnearest'⟩ := hb.exists_value?
    have hle : y ≤ z := hnearest.le_of_lt hnearest' (Int.cast_lt.mpr hlt)
    exact not_lt.mp fun hgt => hle.not_gt ((Binary64.rank_lt_rank_iff hz hy).mp hgt)

/-! ## Answers -/

/-- Integers of either kind are compared as integers. -/
theorem order?_of_isInteger (ha : a.IsInteger i) (hb : b.IsInteger j) :
    a.order? b = some (compare i j) := by
  cases ha <;> cases hb <;> rfl

/-- A comparison with a floating-point number compares rounded numbers. -/
theorem order?_of_isFloat (h : a.isFloat ∨ b.isFloat) :
    a.order? b = if a.toFloat.isNaN || b.toFloat.isNaN then none
      else some (compare a.rank b.rank) := by
  cases a with
  | float x => rfl
  | signed | unsigned =>
      cases b with
      | float y => rfl
      | signed | unsigned => exact absurd h (by simp [isFloat])

/-- Swapping two numbers swaps the answer, and leaves it out where there was none. -/
theorem order?_swap (a b : Number) : b.order? a = (a.order? b).map Ordering.swap := by
  rcases isFloat_or_isIntegers a b with hfloat | ⟨i, j, hi, hj⟩
  · rw [order?_of_isFloat hfloat, order?_of_isFloat hfloat.symm, Bool.or_comm]
    split
    · rfl
    · exact congrArg some Std.OrientedOrd.eq_swap
  · rw [order?_of_isInteger hi hj, order?_of_isInteger hj hi]
    exact congrArg some Std.OrientedOrd.eq_swap

/-- Numbers that have an order are no NaNs. -/
theorem isNaN_of_order? (h : a.order? b = some o) :
    a.toFloat.isNaN = false ∧ b.toFloat.isNaN = false := by
  rcases isFloat_or_isIntegers a b with hfloat | ⟨i, j, hi, hj⟩
  · rw [order?_of_isFloat hfloat] at h
    split at h
    · cases h
    · next hnan => simpa using hnan
  · exact ⟨hi.isNaN_toFloat, hj.isNaN_toFloat⟩

/-- The order of the rounded numbers decides where they differ. -/
theorem order?_of_rank_lt (ha : a.toFloat.isNaN = false) (hb : b.toFloat.isNaN = false)
    (h : a.rank < b.rank) : a.order? b = some .lt := by
  rcases isFloat_or_isIntegers a b with hfloat | ⟨i, j, hi, hj⟩
  · rw [order?_of_isFloat hfloat, ha, hb, Std.compare_eq_lt.mpr h]
    rfl
  · have hlt : i < j := not_le.mp fun hle => (hj.rank_mono hi hle).not_gt h
    rw [order?_of_isInteger hi hj, Std.compare_eq_lt.mpr hlt]

/-- A floating-point number is equal to whatever is rounded to it. -/
theorem order?_of_rank_eq (ha : a.toFloat.isNaN = false) (hb : b.toFloat.isNaN = false)
    (hfloat : a.isFloat ∨ b.isFloat) (h : a.rank = b.rank) : a.order? b = some .eq := by
  rw [order?_of_isFloat hfloat, ha, hb, Std.compare_eq_iff_eq.mpr h]
  rfl

/-- An answer is never against the order of the rounded numbers. -/
theorem rank_le_of_order? (h : a.order? b = some o) (ho : o ≠ .gt) : a.rank ≤ b.rank := by
  obtain ⟨ha, hb⟩ := isNaN_of_order? h
  by_contra hgt
  have hswap := order?_swap b a
  rw [h, order?_of_rank_lt hb ha (not_le.mp hgt)] at hswap
  exact ho (Option.some.inj hswap)

/-- Equal numbers are rounded to one number. -/
theorem rank_eq_of_order? (h : a.order? b = some .eq) : a.rank = b.rank := by
  have hswap : b.order? a = some .eq := by
    rw [order?_swap, h]
    rfl
  exact le_antisymm (rank_le_of_order? h nofun) (rank_le_of_order? hswap nofun)

/-! ## Merged integers -/

/-- A floating-point number that merges two integers counts as equal to both, and the
integers do not count as equal to each other. -/
theorem Merges.order?_eq (h : x.Merges a b) :
    a.order? x = some .eq ∧ x.order? b = some .eq ∧ a.order? b ≠ some .eq := by
  obtain ⟨y, i, j, hfloat, hx, hi, hj, hne, hnearest, hnearest'⟩ := h
  cases x with
  | signed | unsigned => cases hfloat
  | float z =>
      have hz : (float z).toFloat.value? = some y := hx
      have hrank : ∀ {n : Number} {k : ℤ}, n.IsInteger k → BinaryFormat.double.IsNearest k y →
          n.rank = (float z).rank := fun hn hk =>
        (Binary64.rank_eq_rank_iff (hn.value?_toFloat_iff.mpr hk) hz).mpr rfl
      have hnan := Binary64.isNaN_of_value? hz
      refine ⟨order?_of_rank_eq hi.isNaN_toFloat hnan (.inr rfl) (hrank hi hnearest),
        order?_of_rank_eq hnan hj.isNaN_toFloat (.inl rfl) (hrank hj hnearest').symm, ?_⟩
      rw [order?_of_isInteger hi hj]
      exact fun heq => hne (Std.compare_eq_iff_eq.mp (Option.some.inj heq))

/-- What is rounded to one floating-point number is equal, unless that number merges integers. -/
theorem order?_of_not_merges (h : ¬ x.Merges a b) (hfloat : x.isFloat)
    (hnan : a.toFloat.isNaN = false ∧ b.toFloat.isNaN = false) (ha : x.rank = a.rank)
    (hb : x.rank = b.rank) : a.order? b = some .eq := by
  rcases isFloat_or_isIntegers a b with hab | ⟨i, j, hi, hj⟩
  · exact order?_of_rank_eq hnan.1 hnan.2 hab (ha.symm.trans hb)
  · rw [order?_of_isInteger hi hj]
    refine congrArg some (Std.compare_eq_iff_eq.mpr ?_)
    by_contra hne
    obtain ⟨y, hy, hnearest⟩ := hi.exists_value?
    have hnearest' := hj.value?_toFloat_iff.mp (Binary64.value?_of_rank_eq hy (hb.symm.trans ha))
    have hx : x.toFloat.value? = some y := Binary64.value?_of_rank_eq hy ha
    cases x with
    | signed | unsigned => cases hfloat
    | float z => exact h ⟨y, i, j, hfloat, hx, hi, hj, hne, hnearest, hnearest'⟩

/-- **Answers that lead forward compose** where no integers are merged. -/
theorem order?_trans {S : Number → Prop} (hS : ∀ {x a b}, S x → S a → S b → ¬ x.Merges a b)
    (ha : S a) (hb : S b) (hc : S c) (hab : a.order? b = some o) (hbc : b.order? c = some o')
    (ho : o ≠ .gt) (ho' : o' ≠ .gt) : a.order? c = some (o.then o') := by
  obtain ⟨hnana, hnanb⟩ := isNaN_of_order? hab
  have hnanc := (isNaN_of_order? hbc).2
  have hleft := rank_le_of_order? hab ho
  have hright := rank_le_of_order? hbc ho'
  rcases lt_or_eq_of_le (hleft.trans hright) with hlt | heq
  · -- The ends are rounded to different numbers, so the two steps are not both equalities.
    rw [order?_of_rank_lt hnana hnanc hlt]
    cases o with
    | lt => rfl
    | gt => exact absurd rfl ho
    | eq =>
        refine congrArg some (lt_of_ne_of_ne (fun heq => ?_) ho').symm
        rw [heq] at hbc
        exact hlt.ne ((rank_eq_of_order? hab).trans (rank_eq_of_order? hbc))
  · have hmiddle : a.rank = b.rank := by omega
    by_cases hfloat : ∃ x, S x ∧ x.isFloat ∧ x.rank = a.rank
    · obtain ⟨x, hx, hxfloat, hrank⟩ := hfloat
      have hequal := order?_of_not_merges (hS hx ha hb) hxfloat ⟨hnana, hnanb⟩ hrank
        (hrank.trans hmiddle)
      have hequal' := order?_of_not_merges (hS hx hb hc) hxfloat ⟨hnanb, hnanc⟩
        (hrank.trans hmiddle) (hrank.trans heq)
      rw [hab] at hequal
      rw [hbc] at hequal'
      cases hequal
      cases hequal'
      exact order?_of_not_merges (hS hx ha hc) hxfloat ⟨hnana, hnanc⟩ hrank (hrank.trans heq)
    · have hinteger : ∀ n, S n → n.rank = a.rank → ∃ i, n.IsInteger i := fun n hn hrank =>
        n.isFloat_or_isInteger.resolve_left fun hx => hfloat ⟨n, hn, hx, hrank⟩
      obtain ⟨i, hi⟩ := hinteger a ha rfl
      obtain ⟨j, hj⟩ := hinteger b hb hmiddle.symm
      obtain ⟨k, hk⟩ := hinteger c hc heq.symm
      rw [order?_of_isInteger hi hj] at hab
      rw [order?_of_isInteger hj hk] at hbc
      cases hab
      cases hbc
      rw [order?_of_isInteger hi hk, compare_eq_then ho ho']

/-- A chain of answers with a step forward does not lead back, merged integers or not. -/
theorem order?_ne_gt_of_step (hab : a.order? b = some o) (hbc : b.order? c = some o')
    (ho : o ≠ .gt) (ho' : o' ≠ .gt) (hstep : o.then o' = .lt) :
    ∃ o'', a.order? c = some o'' ∧ o'' ≠ .gt := by
  obtain ⟨hnana, hnanb⟩ := isNaN_of_order? hab
  have hnanc := (isNaN_of_order? hbc).2
  have hleft := rank_le_of_order? hab ho
  have hright := rank_le_of_order? hbc ho'
  rcases lt_or_eq_of_le (hleft.trans hright) with hlt | heq
  · exact ⟨_, order?_of_rank_lt hnana hnanc hlt, nofun⟩
  rcases isFloat_or_isIntegers a c with hfloat | ⟨i, k, hi, hk⟩
  · exact ⟨_, order?_of_rank_eq hnana hnanc hfloat heq, nofun⟩
  rcases b.isFloat_or_isInteger with hfloat | ⟨j, hj⟩
  · -- A floating-point number in the middle would be equal to both ends.
    rw [order?_of_rank_eq hnana hnanb (.inr hfloat) (by omega)] at hab
    rw [order?_of_rank_eq hnanb hnanc (.inl hfloat) (by omega)] at hbc
    cases hab
    cases hbc
    cases hstep
  · rw [order?_of_isInteger hi hj] at hab
    rw [order?_of_isInteger hj hk] at hbc
    cases hab
    cases hbc
    refine ⟨_, order?_of_isInteger hi hk, ?_⟩
    rw [compare_eq_then ho ho', hstep]
    exact nofun

/-- Integers of up to 53 digits are not merged. -/
theorem not_merges_of_abs_le (ha : ∀ {i}, a.IsInteger i → |i| ≤ 2 ^ 53)
    (hb : ∀ {i}, b.IsInteger i → |i| ≤ 2 ^ 53) : ¬ x.Merges a b := by
  rintro ⟨y, i, j, -, -, hi, hj, hne, hnearest, hnearest'⟩
  have heq := (hnearest.eq_of_has (BinaryFormat.double_has_intCast (ha hi))).symm.trans
    (hnearest'.eq_of_has (BinaryFormat.double_has_intCast (hb hj)))
  exact hne (Int.cast_inj.mp heq)

/-- **The order of numbers is lawful where no integers are merged**, and only there.  Swapping
two numbers always swaps the answer, and integers of either kind are always compared as
integers.  Among numbers of which a floating-point number is the nearest one to two different
integers, answers do not compose, and nowhere else.  That takes integers of more than 53
digits, and it can turn a step forward into equality but never into a step back. -/
theorem order?_lawful_iff (S : Number → Prop) :
    (∀ a b : Number, b.order? a = (a.order? b).map Ordering.swap) ∧
    (∀ {a b : Number} {i j}, a.IsInteger i → b.IsInteger j →
      a.order? b = some (compare i j)) ∧
    (LawfulOn S order? ↔ ∀ {x a b}, S x → S a → S b → ¬ x.Merges a b) ∧
    ((∀ {a i}, S a → a.IsInteger i → |i| ≤ 2 ^ 53) → LawfulOn S order?) ∧
    (∀ {a b c : Number} {o o'}, a.order? b = some o → b.order? c = some o' → o ≠ .gt →
      o' ≠ .gt → o.then o' = .lt → ∃ o'', a.order? c = some o'' ∧ o'' ≠ .gt) := by
  have hlawful : (∀ {x a b}, S x → S a → S b → ¬ x.Merges a b) → LawfulOn S order? :=
    fun h => ⟨fun _ _ => order?_swap _ _, order?_trans h⟩
  refine ⟨order?_swap, order?_of_isInteger, ⟨fun h {x a b} hx ha hb hmerges => ?_, hlawful⟩,
    fun h => hlawful fun _ ha hb => not_merges_of_abs_le (h ha) (h hb), order?_ne_gt_of_step⟩
  obtain ⟨hleft, hright, hne⟩ := hmerges.order?_eq
  exact hne (h.trans ha hx hb hleft hright nofun nofun)

/-- **The order of numbers is not transitive**: a floating-point number is equal to two integers
that differ by one. -/
theorem order?_not_transitive :
    (signed 9007199254740993).order? (float ⟨0x4340000000000000⟩) = some .eq ∧
      (float ⟨0x4340000000000000⟩).order? (unsigned 9007199254740992) = some .eq ∧
      (signed 9007199254740993).order? (unsigned 9007199254740992) = some .gt := by
  decide +kernel

end Number

end RecordQuery
