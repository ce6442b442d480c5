import Mathlib.Algebra.GroupWithZero.Nat
import RecordQuery.Calendar.Date

/-!
# Dates by their day numbers

The date of a day is found in two steps: the year, guessed from the mean length of
a year, and the month, by counting through the lengths of the months.  Each step
has one fact that the rest follows from.

* The guess is never off by more than a year, so that the day lies in the year
  that is found (`Date.yearOfDay_spec`).
* Counting stops inside a month, and what is counted adds up
  (`Date.monthAndDay_spec`).

Together they say that `Date.ofDayNumber` gives a date that exists and has the day
number it was asked for (`Date.dayNumber_ofDayNumber`).
-/

namespace RecordQuery.Date

/-! ## Years -/

/-- The number of days of a year. -/
def yearLength (year : Int) : Nat :=
  if isLeap year then 366 else 365

/-- A year is as long as the calendar says, before the epoch too. -/
theorem daysBeforeYear_succ (year : Int) :
    daysBeforeYear (year + 1) = daysBeforeYear year + yearLength year := by
  simp only [daysBeforeYear, yearLength, isLeap, Bool.and_eq_true, Bool.or_eq_true, beq_iff_eq,
    bne_iff_ne]
  split <;> omega

/-- The year in which a day lies by the mean length of a year is at most one year
off. -/
theorem guess_near (n : Int) :
    daysBeforeYear (n * 400 / 146097 + 1 - 1) ≤ n ∧
      n < daysBeforeYear (n * 400 / 146097 + 1 + 1 + 1) := by
  dsimp only [daysBeforeYear]
  constructor <;> omega

/-- **The year that is found holds the day.** -/
theorem yearOfDay_spec (n : Int) :
    daysBeforeYear (yearOfDay n) ≤ n ∧ n < daysBeforeYear (yearOfDay n + 1) := by
  obtain ⟨hbefore, hafter⟩ := guess_near n
  unfold yearOfDay
  -- Of the three years near the guess, the last that begins by the day is taken.
  dsimp only
  split
  · next hnext => exact ⟨hnext, hafter⟩
  · next hnext =>
      split
      · next hthis => exact ⟨hthis, Int.not_le.mp hnext⟩
      · next hthis =>
          refine ⟨hbefore, ?_⟩
          rw [Int.sub_add_cancel]
          exact Int.not_le.mp hthis

/-! ## Months -/

/-- The months counted through and the days left over make up what was counted, and
the count stops inside a month. -/
theorem monthAndDay_spec {lengths : List Nat} {month rest : Nat} (h : rest < lengths.sum) :
    ∃ k, (monthAndDay lengths month rest).1 = month + k ∧ k < lengths.length ∧
      1 ≤ (monthAndDay lengths month rest).2 ∧
      (monthAndDay lengths month rest).2 ≤ lengths.getD k 0 ∧
      (lengths.take k).sum + ((monthAndDay lengths month rest).2 - 1) = rest := by
  -- The count passes over one month at a time, with the days before it subtracted.
  induction lengths generalizing month rest with
  | nil => exact absurd h (Nat.not_lt_zero rest)
  | cons length lengths ih =>
      rw [monthAndDay]
      split
      · next hstop => exact ⟨0, rfl, by simp, by simp, hstop, by simp⟩
      · next hstop =>
          rw [List.sum_cons] at h
          have hrest : rest - length < lengths.sum := by omega
          obtain ⟨k, hmonth, hk, hpos, hday, hsum⟩ := @ih (month + 1) (rest - length) hrest
          refine ⟨k + 1, ?_, Nat.succ_lt_succ hk, hpos, hday, ?_⟩
          · rw [hmonth]
            omega
          · rw [List.take_succ_cons, List.sum_cons]
            omega

/-- The months make up the year, leap day included. -/
theorem sum_monthLengths (year : Int) : (monthLengths (isLeap year)).sum = yearLength year := by
  unfold yearLength
  cases isLeap year <;> rfl

theorem monthLength_le (leap : Bool) (k : Nat) : (monthLengths leap).getD k 0 ≤ 31 := by
  have hall : ∀ length ∈ monthLengths leap, length ≤ 31 := by cases leap <;> decide
  rw [List.getD_eq_getElem?_getD]
  cases hk : (monthLengths leap)[k]? with
  | none => exact Nat.zero_le 31
  | some length => exact hall length (List.mem_of_getElem? hk)

/-! ## Days -/

/-- A day by its year, the number of whole months before it, and its place in the
month. -/
theorem ofDayNumber_spec (n : Int) :
    ∃ year k day, ofDayNumber n = ⟨year, 1 + k, day⟩ ∧ k < 12 ∧ 1 ≤ day ∧
      day ≤ (monthLengths (isLeap year)).getD k 0 ∧
      daysBeforeYear year + ((monthLengths (isLeap year)).take k).sum + (day - 1) =
        n + epochDays := by
  obtain ⟨hbefore, hafter⟩ := yearOfDay_spec (n + epochDays)
  rw [daysBeforeYear_succ, ← sum_monthLengths] at hafter
  have hrest : (n + epochDays - daysBeforeYear (yearOfDay (n + epochDays))).toNat <
      (monthLengths (isLeap (yearOfDay (n + epochDays)))).sum := by
    omega
  obtain ⟨k, hmonth, hk, hpos, hday, hsum⟩ := @monthAndDay_spec _ 1 _ hrest
  refine ⟨_, k, _, ?_, hk, hpos, hday, ?_⟩
  · rw [← hmonth]
    rfl
  · omega

theorem daysBeforeMonth_succ (leap : Bool) (k : Nat) :
    daysBeforeMonth leap (1 + k) = ((monthLengths leap).take k).sum := by
  rw [daysBeforeMonth, Nat.add_sub_cancel_left, List.sum_eq_foldl]

/-- **The date of a day has the number of the day.** -/
theorem dayNumber_ofDayNumber (n : Int) : (ofDayNumber n).dayNumber = n := by
  obtain ⟨year, k, day, hdate, -, hpos, -, hsum⟩ := ofDayNumber_spec n
  rw [hdate, dayNumber, daysBeforeMonth_succ]
  dsimp only
  omega

/-- The date of a day exists, and only its year can be out of range. -/
theorem valid_ofDayNumber {n : Int} (hfirst : firstYear ≤ (ofDayNumber n).year)
    (hlast : (ofDayNumber n).year ≤ lastYear) : (ofDayNumber n).Valid := by
  obtain ⟨year, k, day, hdate, hk, hpos, hday, -⟩ := ofDayNumber_spec n
  rw [hdate] at hfirst hlast ⊢
  refine ⟨hfirst, hlast, Nat.le_add_right 1 k, ?_, hpos, ?_⟩
  · dsimp only
    omega
  · rw [Nat.add_sub_cancel_left]
    exact hday

end RecordQuery.Date
