import RecordQuery.Proofs.IntegerCoercion
import RecordQuery.Proofs.TimestampText
import RecordQuery.Proofs.ValueOrder

/-!
# Milliseconds of timestamps

Milliseconds are counted in two steps: the seconds are multiplied, and the part of a second is
added.  Each step stops at the limits of a signed word.  Above, the first stop is final, since
what is added after it is not negative.  Below it is not: the seconds that hold the least word
begin before it, and from them on into the past the part of a second is added to the least word
instead of to the seconds (`Timestamp.toInt_toMillis`).

Outside of the far past the count is therefore the whole milliseconds of the instant, nearest to
them at the limits, and it grows with the instant.  Within it a count is too late by the part of
the second, so that words near the least one do not come back from their timestamps
(`Timestamp.toMillis_exact`).
-/

namespace RecordQuery

/-- Saturating is clamping to the least and the greatest word. -/
theorem toInt_saturate64 (i : ℤ) :
    (saturate64 i).toInt = max leastSigned64 (min greatestSigned64 i) := by
  have hbounds : leastSigned64 ≤ greatestSigned64 := by decide
  exact toInt_ofInt ⟨le_max_left _ _, max_le hbounds (min_le_left _ _)⟩

namespace Timestamp

variable {s t : Timestamp} {m : Int64}

/-- The whole milliseconds since the epoch, toward the past and without limits. -/
def wholeMillis (t : Timestamp) : ℤ :=
  t.instant / 1000000

/-- Whole milliseconds are those of the seconds and those of the rest. -/
theorem wholeMillis_eq (t : Timestamp) :
    t.wholeMillis = t.secs.toInt * 1000 + (t.nanos / 1000000 : ℕ) := by
  unfold wholeMillis instant
  omega

/-- The seconds, in milliseconds, lie below the least signed word. -/
def InFarPast (t : Timestamp) : Prop :=
  t.secs.toInt * 1000 < leastSigned64

instance (t : Timestamp) : Decidable t.InFarPast :=
  inferInstanceAs (Decidable (_ < _))

/-- **The milliseconds of an instant**, as they are counted. -/
theorem toInt_toMillis (t : Timestamp) :
    t.toMillis.toInt =
      if t.InFarPast then leastSigned64 + (t.nanos / 1000000 : ℕ)
      else min greatestSigned64 t.wholeMillis := by
  have hnanos := t.nanos_lt
  rw [toMillis, toInt_saturate64, toInt_saturate64, wholeMillis_eq]
  by_cases hpast : t.InFarPast
  · rw [if_pos hpast]
    unfold InFarPast leastSigned64 greatestSigned64 at *
    omega
  · rw [if_neg hpast]
    unfold InFarPast leastSigned64 greatestSigned64 at *
    omega

/-- Later instants have no fewer milliseconds, except from the far past on. -/
theorem toMillis_le (hpast : ¬ s.InFarPast) (h : s.instant ≤ t.instant) :
    s.toMillis ≤ t.toMillis := by
  have hs := s.nanos_lt
  have hlater : ¬ t.InFarPast := by
    have ht := t.nanos_lt
    unfold InFarPast instant at *
    omega
  have hwhole : s.wholeMillis ≤ t.wholeMillis := Int.ediv_le_ediv (by decide) h
  rw [Int64.le_iff_toInt_le, toInt_toMillis, toInt_toMillis, if_neg hpast, if_neg hlater]
  exact min_le_min_left _ hwhole

/-- The count is the nearest word, unless there is a part of a second to be added in the far
past. -/
theorem toMillis_eq_saturate64_iff :
    t.toMillis = saturate64 t.wholeMillis ↔ ¬ (t.InFarPast ∧ 1000000 ≤ t.nanos) := by
  rw [← Int64.toInt_inj, toInt_toMillis, toInt_saturate64, wholeMillis_eq]
  by_cases hpast : t.InFarPast
  · rw [if_pos hpast]
    unfold InFarPast leastSigned64 greatestSigned64 at *
    omega
  · rw [if_neg hpast]
    unfold InFarPast leastSigned64 greatestSigned64 at *
    omega

/-! ## Words and back -/

/-- The rest of a second is found by the remainder, which is positive before the epoch too.
-/
theorem nanos_ofMillis (m : Int64) :
    (ofMillis m).nanos = (m.toInt % 1000).toNat * 1000000 := by
  have hlt : (m.toInt % 1000).toNat * 1000000 < 1000000000 := by omega
  rw [ofMillis, make_of_lt hlt]

/-- The seconds are found by the quotient, rounded to the past. -/
theorem secs_ofMillis (m : Int64) : (ofMillis m).secs.toInt = m.toInt / 1000 := by
  have hlt : (m.toInt % 1000).toNat * 1000000 < 1000000000 := by omega
  have hleast := leastSigned64_le m
  have hgreatest := le_greatestSigned64 m
  rw [ofMillis, make_of_lt hlt]
  refine toInt_ofInt ?_
  unfold leastSigned64 greatestSigned64 at *
  omega

/-- The timestamp of a word has the milliseconds of the word. -/
theorem wholeMillis_ofMillis (m : Int64) : (ofMillis m).wholeMillis = m.toInt := by
  rw [wholeMillis_eq, secs_ofMillis, nanos_ofMillis]
  omega

/-- Of the words only the 808 least lie too far in the past. -/
theorem inFarPast_ofMillis : (ofMillis m).InFarPast ↔ m.toInt < -9223372036854775000 := by
  rw [InFarPast, secs_ofMillis, leastSigned64]
  omega

/-- The words of the far past come back late. -/
theorem toInt_toMillis_ofMillis (m : Int64) :
    (ofMillis m).toMillis.toInt =
      if m.toInt < -9223372036854775000 then m.toInt + 192 else m.toInt := by
  have hleast := leastSigned64_le m
  have hgreatest := le_greatestSigned64 m
  rw [toInt_toMillis, wholeMillis_ofMillis, nanos_ofMillis]
  by_cases hpast : (ofMillis m).InFarPast
  · rw [if_pos hpast, if_pos (inFarPast_ofMillis.mp hpast)]
    rw [inFarPast_ofMillis] at hpast
    unfold leastSigned64 at *
    omega
  · rw [if_neg hpast, if_neg (inFarPast_ofMillis.not.mp hpast)]
    exact min_eq_right hgreatest

/-- **A number of milliseconds comes back unless it is too far in the past.** -/
theorem toMillis_ofMillis_eq_iff : (ofMillis m).toMillis = m ↔ -9223372036854775000 ≤ m.toInt := by
  rw [← Int64.toInt_inj, toInt_toMillis_ofMillis]
  split <;> omega

end Timestamp

/-! ## Fields -/

/-- The signed 64-bit integers. -/
def IntegerKind.signed64 : IntegerKind := ⟨true, .w64⟩

/-- An integer is coerced to the instant of so many milliseconds. -/
theorem coerce_signed_timestamp (m : Int64) (nullable : Bool) :
    coerce (.number (.signed m)) ⟨.timestamp, nullable, false⟩ =
      .ok (.timestamp (.ofMillis m)) := by
  refine coerce_eq_ok_of_ofLiteral? rfl rfl ?_
  rw [Scalar.ofLiteral?_number]
  simp only [Scalar.ofNumber?, Number.integral?, signed64?_toInt, Option.map_some]

/-- An instant is coerced to its milliseconds. -/
theorem coerce_timestamp_signed (t : Timestamp) (nullable : Bool) :
    coerce (.timestamp t) ⟨.integer .signed64, nullable, false⟩ =
      .ok (.number (.signed t.toMillis)) := by
  refine coerce_eq_ok_of_ofLiteral? rfl rfl ?_
  have hplace : (Number.signed t.toMillis).HasPlace .signed64 t.toMillis.toInt :=
    ⟨rfl, ⟨leastSigned64_le _, le_greatestSigned64 _⟩, nofun⟩
  have hword : IntegerKind.signed64.word t.toMillis.toInt = .number (.signed t.toMillis) := by
    rw [IntegerKind.word, if_pos (show IntegerKind.signed64.signed from rfl), Int64.ofInt_toInt]
  rw [← hword]
  exact hplace.ofNumber?_eq

namespace Timestamp

/-- **Milliseconds are exact except in the far past.**  There a whole millisecond more is
counted for each in the part of the second, so that the count does not grow with the instant,
and a word that is coerced to a timestamp and back is another one. -/
theorem toMillis_exact (s t : Timestamp) (m : Int64) (nullable nullable' : Bool) :
    (t.toMillis = saturate64 t.wholeMillis ↔ ¬ (t.InFarPast ∧ 1000000 ≤ t.nanos)) ∧
    (t.InFarPast → t.toMillis.toInt = leastSigned64 + (t.nanos / 1000000 : ℕ)) ∧
    (s.order t ≠ .gt → ¬ s.InFarPast → s.toMillis ≤ t.toMillis) ∧
    ((ofMillis m).toMillis = m ↔ -9223372036854775000 ≤ m.toInt) ∧
    ∃ u n, coerce (.number (.signed m)) ⟨.timestamp, nullable, false⟩ = .ok (.timestamp u) ∧
      coerce (.timestamp u) ⟨.integer .signed64, nullable', false⟩ = .ok (.number (.signed n)) ∧
      (n = m ↔ -9223372036854775000 ≤ m.toInt) := by
  refine ⟨toMillis_eq_saturate64_iff, fun hpast => ?_, fun horder hpast => ?_,
    toMillis_ofMillis_eq_iff, ?_⟩
  · rw [toInt_toMillis, if_pos hpast]
  · rw [order_eq_compare_instant] at horder
    exact toMillis_le hpast (Std.isLE_compare.mp (Ordering.isLE_iff_ne_gt.mpr horder))
  · exact ⟨ofMillis m, (ofMillis m).toMillis, coerce_signed_timestamp m nullable,
      coerce_timestamp_signed _ nullable', toMillis_ofMillis_eq_iff⟩

/-- **The least word does not come back**, although it is the milliseconds of its timestamp, and
an instant of the far past has more milliseconds than a later one. -/
theorem least_word_comes_back_late :
    let least := ofMillis (-9223372036854775808)
    let s := ofMillis (-9223372036854775001)
    let t := ofMillis (-9223372036854775000)
    saturate64 least.wholeMillis = -9223372036854775808 ∧
      least.toMillis = -9223372036854775616 ∧ s.order t = .lt ∧ t.toMillis < s.toMillis := by
  decide

end Timestamp

end RecordQuery
