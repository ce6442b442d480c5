import Mathlib.Data.List.TakeWhile
import Mathlib.Tactic.ByContra
import RecordQuery.Proofs.TimestampText

/-!
# Instants that their text names

An instant is read from its own text when its year has four digits, and from no other year
(`Timestamp.parse?_text_eq`).  The text of any other instant begins with a sign, or with more
digits than a year of the form with an offset has, so that this form does not read it.  The
forms without an offset do not read the letter at its end: a character that they have no place
for is left over by each of their fields (`Calendar.Leaves`).
-/

namespace RecordQuery

/-! ## Years -/

namespace Date

/-- Later years begin later. -/
theorem daysBeforeYear_mono {y z : ℤ} (h : y ≤ z) : daysBeforeYear y ≤ daysBeforeYear z := by
  dsimp only [daysBeforeYear]
  omega

/-- A day lies in a year or behind it from the first day of the year on. -/
theorem le_year_iff {y n : ℤ} : y ≤ (ofDayNumber n).year ↔ daysBeforeYear y ≤ n + epochDays := by
  have hyear : (ofDayNumber n).year = yearOfDay (n + epochDays) := rfl
  obtain ⟨hbefore, hafter⟩ := yearOfDay_spec (n + epochDays)
  rw [hyear]
  constructor
  · exact fun h => Int.le_trans (daysBeforeYear_mono h) hbefore
  · intro h
    by_contra hlt
    have hnext := daysBeforeYear_mono (Int.add_one_le_of_lt (Int.not_le.mp hlt))
    omega

end Date

namespace Timestamp

/-- The year in UTC is written with four digits and no sign. -/
def HasFourDigitYear (t : Timestamp) : Prop :=
  0 ≤ t.utcYear ∧ t.utcYear ≤ 9999

instance (t : Timestamp) : Decidable t.HasFourDigitYear :=
  inferInstanceAs (Decidable (_ ∧ _))

/-- The years of four digits are the seconds from the first of the year 0 to the last of the
year 9999. -/
theorem hasFourDigitYear_iff {t : Timestamp} :
    t.HasFourDigitYear ↔ -62167219200 ≤ t.secs.toInt ∧ t.secs.toInt ≤ 253402300799 := by
  have hlast : t.utcYear ≤ 9999 ↔ ¬ 10000 ≤ t.utcYear := by omega
  have hzero : Date.daysBeforeYear 0 = -366 := by decide
  have hmyriad : Date.daysBeforeYear 10000 = 3652059 := by decide
  rw [HasFourDigitYear, hlast, utcYear, Date.le_year_iff, Date.le_year_iff, hzero, hmyriad,
    Date.epochDays]
  omega

end Timestamp

/-! ## Forms without an offset -/

namespace Calendar

/-- The forms without an offset have no place for the character. -/
structure IsForeign (c : Char) : Prop where
  notBlank : Text.isBlank c = false
  notDigit : c.isDigit = false
  notMark : c ∉ ['-', '+', ':', '.', 'T']

/-- A scanner leaves a character of the text over. -/
def Leaves {α : Type} (c : Char) (scan : Scan α) : Prop :=
  ∀ {s a rest}, scan s = some (a, rest) → c ∈ s → c ∈ rest

variable {c : Char}

theorem mem_dropWhile {p : Char → Bool} (hc : p c = false) {s : List Char} (h : c ∈ s) :
    c ∈ s.dropWhile p := by
  rw [← List.takeWhile_append_dropWhile (p := p) (l := s)] at h
  refine (List.mem_append.mp h).resolve_left fun hfront => ?_
  rw [List.mem_takeWhile_imp hfront] at hc
  cases hc

theorem mem_trimStart (hc : Text.isBlank c = false) {s : List Char} (h : c ∈ s) :
    c ∈ Text.trimStart s :=
  mem_dropWhile hc h

/-- What a scanner of a number reads is the digits in front, all of them unless they are more
than it may take. -/
theorem number_eq_some {least most n : ℕ} {s rest : List Char}
    (h : number least most s = some (n, rest)) :
    ∃ digits, s = digits ++ rest ∧ (∀ c ∈ digits, c.isDigit) ∧ least ≤ digits.length ∧
      digits.length ≤ most ∧ Reading.naturalValue digits = n ∧
      (digits.length < most → ∀ c ∈ rest.head?, ¬ c.isDigit) := by
  simp only [number, Option.ite_none_left_eq_some, Option.some.injEq, Prod.mk.injEq] at h
  obtain ⟨hleast, hvalue, rfl⟩ := h
  have hprefix : (s.take most).takeWhile Char.isDigit <+: s :=
    (List.takeWhile_prefix _).trans (List.take_prefix _ _)
  refine ⟨_, ?_, fun c => List.mem_takeWhile_imp, not_lt.mp hleast, ?_, hvalue, ?_⟩
  · exact (List.prefix_iff_eq_append.mp hprefix).symm
  · exact ((List.takeWhile_prefix _).length_le).trans (List.length_take_le _ _)
  · intro hlt c hc hdigit
    -- The first character behind the digits is the one that ends them.
    have hbehind : (s.take most).drop ((s.take most).takeWhile Char.isDigit).length =
        (s.take most).dropWhile Char.isDigit :=
      (congrArg (List.drop _) List.takeWhile_append_dropWhile.symm).trans List.drop_left
    have hnot := List.head?_dropWhile_not Char.isDigit (s.take most)
    rw [← hbehind, List.drop_take, List.head?_take, if_neg (by omega), hc] at hnot
    simp [hdigit] at hnot

/-- Digits are all that is read of a number. -/
theorem leaves_number (hc : c.isDigit = false) (least most : ℕ) : Leaves c (number least most) := by
  intro s n rest h hmem
  obtain ⟨digits, rfl, hdigits, -⟩ := number_eq_some h
  refine (List.mem_append.mp hmem).resolve_left fun hdigit => ?_
  rw [hdigits c hdigit] at hc
  cases hc

/-- An expected mark is the only character that is read there. -/
theorem leaves_expect {d : Char} (hc : c ≠ d) : Leaves c (expect d) := by
  intro s a rest h hmem
  cases s with
  | nil => cases h
  | cons e r =>
      simp only [expect, Option.ite_none_right_eq_some, Option.some.injEq, Prod.mk.injEq,
        true_and] at h
      obtain ⟨rfl, rfl⟩ := h
      exact (List.mem_cons.mp hmem).resolve_left hc

namespace IsForeign

theorem ne (hc : IsForeign c) {d : Char} (hd : d ∈ ['-', '+', ':', '.', 'T']) : c ≠ d :=
  fun heq => hc.notMark (by rwa [heq])

/-- A fraction is a point and digits, neither of which is foreign. -/
theorem leaves_fraction (hc : IsForeign c) : Leaves c fraction := by
  intro s n rest h hmem
  unfold fraction at h
  split at h
  next r =>
    have hr : c ∈ r := (List.mem_cons.mp hmem).resolve_left (hc.ne (by decide))
    split at h
    next nanos rest' hnumber =>
      cases h
      have hleft := leaves_number hc.notDigit 1 9 hnumber hr
      exact mem_dropWhile hc.notDigit hleft
    next => cases h
  next =>
    cases h
    exact hmem

theorem leaves_shortNumber (hc : IsForeign c) : Leaves c shortNumber := fun h hmem =>
  leaves_number hc.notDigit 1 2 h (mem_trimStart hc.notBlank hmem)

/-- A year is blanks, a sign and digits, none of which is foreign. -/
theorem leaves_signedYear (hc : IsForeign c) : Leaves c signedYear := by
  intro s year rest h hmem
  have hnumber : ∀ {least most : ℕ} {sign : ℕ × List Char → ℤ × List Char} {s : List Char},
      (∀ p, (sign p).2 = p.2) → (number least most s).map sign = some (year, rest) →
        c ∈ s → c ∈ rest := by
    intro least most sign s hsign h hmem
    obtain ⟨⟨n, rest'⟩, hread, heq⟩ := Option.map_eq_some_iff.mp h
    have hrest : rest' = rest := (hsign (n, rest')).symm.trans (congrArg Prod.snd heq)
    exact hrest ▸ leaves_number hc.notDigit least most hread hmem
  have htrimmed := mem_trimStart hc.notBlank hmem
  unfold signedYear at h
  split at h
  next r heq =>
    rw [heq] at htrimmed
    exact hnumber (fun _ => rfl) h ((List.mem_cons.mp htrimmed).resolve_left (hc.ne (by decide)))
  next r heq =>
    rw [heq] at htrimmed
    exact hnumber (fun _ => rfl) h ((List.mem_cons.mp htrimmed).resolve_left (hc.ne (by decide)))
  next => exact hnumber (fun _ => rfl) h htrimmed

variable {f : DateTimeForm}

theorem mem_skip (hc : IsForeign c) {s : List Char} (hmem : c ∈ s) : c ∈ f.skip s := by
  unfold DateTimeForm.skip
  split
  · exact mem_trimStart hc.notBlank hmem
  · exact hmem

theorem leaves_separator (hc : IsForeign c) {d : Char} (hd : d ∈ ['-', '+', ':', '.', 'T']) :
    Leaves c (f.separator d) := fun h hmem =>
  leaves_expect (hc.ne hd) h (hc.mem_skip hmem)

/-- Date and time are kept apart by blanks or the letter, in the forms that are read without
an offset. -/
theorem leaves_between (hc : IsForeign c) (hf : f.mark = some 'T' ∨ f.mark = none) :
    Leaves c f.between := by
  intro s a rest h hmem
  unfold DateTimeForm.between at h
  rcases hf with hmark | hmark
  · rw [hmark] at h
    exact hc.leaves_separator (by decide) h hmem
  · rw [hmark] at h
    cases h
    exact mem_trimStart hc.notBlank hmem

/-- **A date leaves a foreign character over**, wherever in the text it stands. -/
theorem leaves_date (hc : IsForeign c) : Leaves c f.date := by
  intro s fields rest h hmem
  simp only [DateTimeForm.date, Option.bind_eq_bind, Option.bind_eq_some_iff, Prod.exists] at h
  obtain ⟨year, s₁, hyear, _, s₂, hmark, month, s₃, hmonth, _, s₄, hmark', day, s₅, hday, heq⟩ := h
  cases heq
  have hmonth' := hc.leaves_separator (by decide) hmark (hc.leaves_signedYear hyear hmem)
  have hday' := hc.leaves_separator (by decide) hmark' (hc.leaves_shortNumber hmonth hmonth')
  exact hc.leaves_shortNumber hday hday'

/-- **A date and time without an offset holds no foreign character.** -/
theorem readDateTime_eq_none (hc : IsForeign c) (hf : f.mark = some 'T' ∨ f.mark = none)
    {s : List Char} (hmem : c ∈ s) : readDateTime f s = none := by
  refine Option.eq_none_iff_forall_ne_some.mpr fun t h => ?_
  simp only [readDateTime, Option.bind_eq_bind, Option.bind_eq_some_iff, Prod.exists] at h
  obtain ⟨year, month, day, s₁, hdate, _, s₂, hbetween, hour, s₃, hhour, _, s₄, hmark, minute, s₅,
    hminute, _, s₆, hmark', second, s₇, hsecond, nanos, s₈, hfraction, date, -, time, -, hend⟩ := h
  have hhour' := hc.leaves_between hf hbetween (hc.leaves_date hdate hmem)
  have hminute' := hc.leaves_separator (by decide) hmark (hc.leaves_shortNumber hhour hhour')
  have hsecond' := hc.leaves_separator (by decide) hmark' (hc.leaves_shortNumber hminute hminute')
  have hleft := hc.leaves_fraction hfraction (hc.leaves_shortNumber hsecond hsecond')
  rw [if_neg] at hend
  · cases hend
  · exact List.isEmpty_iff.not.mpr (List.ne_nil_of_mem (hc.mem_skip hleft))

/-- **A date alone holds no foreign character.** -/
theorem readDate_eq_none (hc : IsForeign c) {s : List Char} (hmem : c ∈ s) :
    readDate s = none := by
  refine Option.eq_none_iff_forall_ne_some.mpr fun d h => ?_
  simp only [readDate, Option.bind_eq_bind, Option.bind_eq_some_iff, Prod.exists] at h
  obtain ⟨year, month, day, s₁, hdate, date, -, hend⟩ := h
  rw [if_neg] at hend
  · cases hend
  · exact List.isEmpty_iff.not.mpr (List.ne_nil_of_mem (hc.leaves_date hdate hmem))

end IsForeign

/-! ## The form with an offset -/

/-- The form with an offset reads texts that begin with four digits, and no more. -/
theorem length_takeWhile_of_readOffsetForm {s : List Char} {t : Timestamp}
    (h : readOffsetForm s = some t) : (s.takeWhile Char.isDigit).length = 4 := by
  unfold readOffsetForm at h
  obtain ⟨⟨year, s₁⟩, hyear, h⟩ := Option.bind_eq_some_iff.mp h
  obtain ⟨⟨_, s₂⟩, hmark, -⟩ := Option.bind_eq_some_iff.mp h
  obtain ⟨digits, rfl, hdigits, hleast, hmost, -⟩ := number_eq_some hyear
  have hstop : s₁.takeWhile Char.isDigit = [] := by
    cases s₁ with
    | nil => cases hmark
    | cons d r =>
        simp only [expect, Option.ite_none_right_eq_some] at hmark
        rw [hmark.1]
        rfl
  rw [List.takeWhile_append_of_pos hdigits, hstop, List.append_nil]
  omega

end Calendar

/-! ## Texts -/

namespace Timestamp

variable {t : Timestamp}

/-- Neither form reads a text that begins with more or fewer than four digits and holds a
foreign character. -/
theorem parse?_eq_none {text : String} (hblank : ∀ c ∈ text.toList, Text.isBlank c = false)
    (hdigits : (text.toList.takeWhile Char.isDigit).length ≠ 4) {c : Char}
    (hc : Calendar.IsForeign c) (hmem : c ∈ text.toList) : parse? text = none := by
  have hoffset : Calendar.readOffsetForm text.toList = none :=
    Option.eq_none_iff_forall_ne_some.mpr fun t h =>
      hdigits (Calendar.length_takeWhile_of_readOffsetForm h)
  rw [parse?, Text.trim_eq_self hblank, hoffset, hc.readDateTime_eq_none (.inl rfl) hmem,
    hc.readDateTime_eq_none (.inr rfl) hmem, hc.readDate_eq_none hmem]
  rfl

/-- The year is written behind a sign. -/
def HasSignedYear (t : Timestamp) : Prop :=
  ∃ sign ∈ ['+', '-'], ∃ rest,
    t.text.toList = sign :: (Date.padded 4 t.utcYear.natAbs ++ '-' :: (rest ++ ['Z']))

/-- The seconds are written instead of a date. -/
def HasNoDate (t : Timestamp) : Prop :=
  t.text.toList = (toString t.secs.toInt).toList ++ '.' :: (Date.padded 9 t.nanos ++ ['s'])

/-- A valid date outside the years of four digits is written with a sign. -/
theorem hasSignedYear_of_valid (hvalid : t.civil.date.Valid) (hyear : ¬ t.HasFourDigitYear) :
    t.HasSignedYear := by
  have htext : t.text.toList = t.civil.text ++ ['Z'] := by
    rw [text, toDateTime?_eq_civil hvalid, String.toList_ofList]
  have hsigned : Date.yearText t.civil.date.year =
      (if t.utcYear < 0 then '-' else '+') :: Date.padded 4 t.utcYear.natAbs := if_neg hyear
  refine ⟨if t.utcYear < 0 then '-' else '+', ?_, Date.padded 2 t.civil.date.month ++ '-' ::
    (Date.padded 2 t.civil.date.day ++ 'T' :: t.civil.clockText), ?_⟩
  · split <;> decide
  · simp only [htext, DateTime.text, Date.text, hsigned, List.append_assoc, List.cons_append]

/-- An instant without a valid date is written as its seconds and nanoseconds. -/
theorem hasNoDate_of_not_valid (hvalid : ¬ t.civil.date.Valid) : t.HasNoDate := by
  have hnone : t.toDateTime? = none := if_neg hvalid
  rw [HasNoDate, text, hnone, String.toList_append, String.toList_ofList]
  rfl

/-- Whatever form an instant is written in, there is no blank in it. -/
theorem isBlank_of_mem_text (t : Timestamp) : ∀ c ∈ t.text.toList, Text.isBlank c = false := by
  by_cases hvalid : t.civil.date.Valid
  · rw [text, toDateTime?_eq_civil hvalid, String.toList_ofList]
    exact t.civil.isBlank_of_mem_text
  · rw [hasNoDate_of_not_valid hvalid]
    simp only [List.forall_mem_append, List.forall_mem_cons]
    exact ⟨fun c => RecordQuery.isBlank_of_mem_toString, rfl,
      fun c => Date.isBlank_of_mem_padded, rfl, List.forall_mem_nil _⟩

/-- A signed year is no year to the forms with an offset, and the other forms have no place
for the `Z` at the end. -/
theorem HasSignedYear.parse?_eq_none (h : t.HasSignedYear) : parse? t.text = none := by
  obtain ⟨sign, hsign, rest, htext⟩ := h
  have hdigits : (t.text.toList.takeWhile Char.isDigit).length ≠ 4 := by
    have hnot : sign.isDigit = false := by
      rcases List.mem_cons.mp hsign with rfl | hsign
      · rfl
      · rw [List.mem_singleton.mp hsign]
        rfl
    rw [htext, List.takeWhile_cons_of_neg (by simp [hnot])]
    decide
  refine Timestamp.parse?_eq_none t.isBlank_of_mem_text hdigits (c := 'Z')
    ⟨by decide, by decide, by decide⟩ ?_
  rw [htext]
  simp

/-- So many seconds are no year of four digits, and the forms without an offset have no
place for the `s` at the end. -/
theorem HasNoDate.parse?_eq_none (h : t.HasNoDate) (hyear : ¬ t.HasFourDigitYear) :
    parse? t.text = none := by
  have hdigits : (t.text.toList.takeWhile Char.isDigit).length ≠ 4 := by
    rw [h]
    cases hsecs : t.secs.toInt with
    | ofNat n =>
        have hlarge : ¬ (Nat.toDigits 10 n).length ≤ 4 := by
          rw [Nat.length_toDigits_le_iff (by decide) (by decide)]
          rw [hasFourDigitYear_iff, hsecs, Int.ofNat_eq_natCast] at hyear
          omega
        rw [Int.ofNat_eq_natCast, Reading.toList_toString_natCast,
          List.takeWhile_append_of_pos fun c => Reading.isDigit_of_mem_toDigits, List.length_append]
        omega
    | negSucc n =>
        rw [Reading.toList_toString_negSucc, List.cons_append]
        exact Nat.zero_ne_add_one 3
  refine Timestamp.parse?_eq_none t.isBlank_of_mem_text hdigits (c := 's')
    ⟨by decide, by decide, by decide⟩ ?_
  rw [h]
  simp

/-- The three ways in which an instant is written. -/
theorem written_cases (t : Timestamp) : t.HasFourDigitYear ∨ t.HasSignedYear ∨ t.HasNoDate := by
  refine or_iff_not_imp_left.mpr fun hyear => ?_
  by_cases hvalid : t.civil.date.Valid
  · exact .inl (hasSignedYear_of_valid hvalid hyear)
  · exact .inr (hasNoDate_of_not_valid hvalid)

/-- **An instant is read from its own text just when its year has four digits.**  Otherwise the
text has the year behind a sign, or the seconds instead of a date, and names no instant. -/
theorem parse?_text_eq (t : Timestamp) :
    parse? t.text = (if t.HasFourDigitYear then some t else none) ∧
      (t.HasFourDigitYear ↔ -62167219200 ≤ t.secs.toInt ∧ t.secs.toInt ≤ 253402300799) ∧
      (t.HasFourDigitYear ∨ t.HasSignedYear ∨ t.HasNoDate) := by
  refine ⟨?_, hasFourDigitYear_iff, t.written_cases⟩
  split
  next hyear => exact parse?_text hyear.1 hyear.2
  next hyear =>
    rcases t.written_cases.resolve_left hyear with hsigned | hnoDate
    · exact hsigned.parse?_eq_none
    · exact hnoDate.parse?_eq_none hyear

end Timestamp

end RecordQuery
