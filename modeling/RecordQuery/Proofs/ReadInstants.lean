import RecordQuery.Proofs.WrittenInstants

/-!
# Reading written instants

The converse of `Calendar.exists_names_of_read`: a text that is written in a form is read in it
(`Calendar.Names.read_eq`).  Each scanner stops behind its piece, because what follows the piece
does not begin with a digit, or because the piece has all the digits that the scanner takes.

No text is written in two forms.  The forms differ in the colons and letters that they are
written with, whatever the numbers and blanks between these are (`Calendar.formOf`), so it does
not matter in which order they are tried (`Timestamp.parse?_eq_read`).
-/

namespace RecordQuery

namespace Calendar

variable {least most n : ℕ} {s rest piece digits : List Char}

/-! ## Scanners -/

/-- A number is read up to where its digits end, or to as many of them as it may have. -/
theorem IsNumeral.number_eq (h : IsNumeral least most n digits)
    (hrest : digits.length = most ∨ NoDigitFirst rest) :
    number least most (digits ++ rest) = some (n, rest) := by
  rw [number_append h.digits h.least_le h.le_most, h.value]
  rcases hrest with hfull | hstop
  · rw [hfull, Nat.sub_self]
    rfl
  · cases rest with
    | nil => rw [List.take_nil]; rfl
    | cons c rest =>
        cases most - digits.length with
        | zero => rfl
        | succ k => exact List.takeWhile_cons_of_neg (hstop c rfl)

/-- A number of one width is read whatever follows it. -/
theorem IsNumeral.number_eq_of_width (h : IsNumeral most most n digits) (rest : List Char) :
    number most most (digits ++ rest) = some (n, rest) :=
  h.number_eq (.inl (Nat.le_antisymm h.le_most h.least_le))

theorem dropWhile_append {p : Char → Bool} {front : List Char} (hfront : ∀ c ∈ front, p c)
    (hs : ∀ c ∈ s.head?, ¬ p c) : (front ++ s).dropWhile p = s := by
  rw [List.dropWhile_append_of_pos hfront]
  cases s with
  | nil => rfl
  | cons c s => exact List.dropWhile_cons_of_neg (hs c rfl)

theorem IsNumeral.isDigit_of_head? (h : IsNumeral least most n digits) (hleast : 1 ≤ least)
    {c : Char} (hc : c ∈ (digits ++ rest).head?) : c.isDigit := by
  cases digits with
  | nil => exact absurd (hleast.trans h.least_le) (by decide)
  | cons d digits =>
      cases hc
      exact h.digits c List.mem_cons_self

theorem not_isBlank_of_isDigit {c : Char} (h : c.isDigit) : ¬ Text.isBlank c :=
  Bool.eq_false_iff.mp (Text.isBlank_of_isDigit h)

/-- Blanks in front of a short number are read past. -/
theorem IsShort.shortNumber_eq (h : IsShort least n piece) (hleast : 1 ≤ least)
    (hrest : least = 2 ∨ NoDigitFirst rest) : shortNumber (piece ++ rest) = some (n, rest) := by
  obtain ⟨blanks, digits, rfl, hblanks, hnumeral⟩ := h
  have htrim : Text.trimStart (blanks ++ (digits ++ rest)) = digits ++ rest :=
    dropWhile_append hblanks fun c hc =>
      not_isBlank_of_isDigit (hnumeral.isDigit_of_head? hleast hc)
  rw [shortNumber, List.append_assoc, htrim]
  refine IsNumeral.number_eq { hnumeral with least_le := hleast.trans hnumeral.least_le } ?_
  refine hrest.imp_left fun htwo => ?_
  exact Nat.le_antisymm hnumeral.le_most (htwo ▸ hnumeral.least_le)

/-- A year with a sign, with blanks in front or without either is read as the year it names.
-/
theorem IsLenientYear.signedYear_eq {year : ℤ} (h : IsLenientYear year piece)
    (hrest : NoDigitFirst rest) : signedYear (piece ++ rest) = some (year, rest) := by
  obtain ⟨blanks, piece, rfl, hblanks, hyear⟩ := h
  -- Behind a sign there are as many digits as there are, and no more characters than that.
  have hsigned : ∀ {digits n}, IsNumeral 1 digits.length n digits →
      number 1 (digits ++ rest).length (digits ++ rest) = some (n, rest) := by
    intro digits n hnumeral
    have hmost : digits.length ≤ (digits ++ rest).length := by
      rw [List.length_append]
      exact Nat.le_add_right _ _
    exact IsNumeral.number_eq { hnumeral with le_most := hmost } (.inr hrest)
  have htrim : ∀ {s}, (∀ c ∈ s.head?, ¬ Text.isBlank c) → Text.trimStart (blanks ++ s) = s :=
    dropWhile_append hblanks
  rw [signedYear, List.append_assoc]
  cases hyear with
  | plain hnumeral =>
      have hfirst : ∀ c ∈ (piece ++ rest).head?, c.isDigit := fun c =>
        hnumeral.isDigit_of_head? (Nat.le_refl _)
      rw [htrim fun c hc => not_isBlank_of_isDigit (hfirst c hc)]
      split
      next r heq => exact absurd (hfirst '-' (by rw [heq]; rfl)) (by decide)
      next r heq => exact absurd (hfirst '+' (by rw [heq]; rfl)) (by decide)
      next => rw [hnumeral.number_eq (.inr hrest), Option.map_some]
  | plus hnumeral =>
      rw [htrim fun c hc => by cases hc; decide]
      exact congrArg (Option.map _) (hsigned hnumeral)
  | minus hnumeral =>
      rw [htrim fun c hc => by cases hc; decide]
      exact congrArg (Option.map _) (hsigned hnumeral)

/-- A fraction is read to its last digit, those past the ninth without effect. -/
theorem IsFraction.fraction_eq {nanos : ℕ} (h : IsFraction nanos piece) (hrest : NoDigitFirst rest)
    (hpoint : ∀ c ∈ rest.head?, c ≠ '.') : fraction (piece ++ rest) = some (nanos, rest) := by
  cases h with
  | none =>
      unfold fraction
      split
      next r heq => exact absurd rfl (hpoint '.' (by rw [← List.nil_append rest, heq]; rfl))
      next => rfl
  | @decimals digits hdigits hne =>
      -- The scanner takes nine digits at most and passes over the others.
      have hback : ∀ c ∈ digits.drop 9, c.isDigit := fun c hc => hdigits c (List.mem_of_mem_drop hc)
      have hfull : (digits.take 9).length = 9 ∨ digits.drop 9 = [] := by
        rw [List.length_take, List.drop_eq_nil_iff]
        omega
      have hfront : IsNumeral 1 9 (Reading.naturalValue (digits.take 9)) (digits.take 9) := by
        have hpos := List.length_pos_iff.mpr hne
        refine ⟨fun c hc => hdigits c (List.mem_of_mem_take hc), ?_, ?_, rfl⟩
        · rw [List.length_take]
          omega
        · exact List.length_take_le _ _
      have hstop : (digits.take 9).length = 9 ∨ NoDigitFirst (digits.drop 9 ++ rest) :=
        hfull.imp_right fun hnil => by rwa [hnil, List.nil_append]
      have hread := hfront.number_eq hstop
      have hnanos := nanos_of_decimals hback hfront.le_most hfull
      rw [List.take_append_drop] at hnanos
      rw [← List.append_assoc, List.take_append_drop] at hread
      have hlength : (digits ++ rest).length - (digits.drop 9 ++ rest).length =
          (digits.take 9).length := by
        simp only [List.length_append, List.length_drop, List.length_take]
        omega
      simp only [fraction, List.cons_append, hread, hlength, hnanos,
        dropWhile_append hback hrest]
      rfl

/-- Hours and minutes are read behind either sign. -/
theorem IsHourMinute.offset_eq {seconds sign : ℤ} {c : Char} (h : IsHourMinute seconds s)
    (hsign : offsetSign (c :: s) = some (sign, s)) (hutc : c ≠ 'Z' ∧ c ≠ 'z') :
    offset (c :: s) = some (sign * seconds, []) := by
  obtain ⟨hhours, hminutes, hhour, hminute⟩ := h
  have hend := hminutes.number_eq_of_width []
  rw [List.append_nil] at hend
  unfold offset
  split
  next heq => exact absurd (List.cons.inj heq).1 hutc.1
  next heq => exact absurd (List.cons.inj heq).1 hutc.2
  next =>
    refine bind_of_eq_some hsign ?_
    refine bind_of_eq_some (hhours.number_eq_of_width _) ?_
    refine bind_of_eq_some (expect_cons ':' _) ?_
    refine bind_of_eq_some hend ?_
    exact if_pos ⟨hhour, hminute⟩

/-- An offset is read to the end of the text in all its spellings. -/
theorem IsOffset.offset_eq {seconds : ℤ} (h : IsOffset seconds s) :
    offset s = some (seconds, []) := by
  cases h with
  | utc hc => rcases hc with rfl | rfl <;> rfl
  | ahead h => rw [h.offset_eq rfl (by decide), Int.one_mul]
  | behind hc h =>
      rcases hc with rfl | rfl
      · rw [h.offset_eq rfl (by decide), Int.neg_one_mul]
      · rw [h.offset_eq rfl (by decide), Int.neg_one_mul]

/-! ## Forms -/

theorem noDigitFirst_nil : NoDigitFirst [] := by
  intro c hc
  cases hc

theorem noDigitFirst_cons {c : Char} (hc : c.isDigit = false) (s : List Char) :
    NoDigitFirst (c :: s) := by
  intro d hd
  cases hd
  simp [hc]

theorem IsFraction.noDigitFirst {nanos : ℕ} (h : IsFraction nanos piece)
    (hrest : NoDigitFirst rest) : NoDigitFirst (piece ++ rest) := by
  cases h with
  | none => exact hrest
  | decimals => exact noDigitFirst_cons rfl _

/-- The parts of a time, read one after the other by any scanner of its numbers. -/
theorem IsClock.reads {Part : ℕ → List Char → Prop} {part : Scan ℕ} {f : Fields}
    (h : IsClock Part f piece) (rest : List Char)
    (hpart : ∀ {n piece rest}, Part n piece → NoDigitFirst rest →
      part (piece ++ rest) = some (n, rest))
    (hrest : NoDigitFirst rest) (hpoint : ∀ c ∈ rest.head?, c ≠ '.') :
    ∃ minutes seconds fractions, part (piece ++ rest) = some (f.hour, ':' :: minutes) ∧
      part minutes = some (f.minute, ':' :: seconds) ∧ part seconds = some (f.second, fractions) ∧
      fraction fractions = some (f.nanos, rest) := by
  obtain ⟨hour, minute, second, decimals, rfl, hhour, hminute, hsecond, hfraction⟩ := h
  have hcolon := noDigitFirst_cons (c := ':') rfl
  have hdecimals := hfraction.noDigitFirst hrest
  refine ⟨minute ++ ':' :: (second ++ (decimals ++ rest)), second ++ (decimals ++ rest),
    decimals ++ rest, ?_, hpart hminute (hcolon _), hpart hsecond hdecimals,
    hfraction.fraction_eq hrest hpoint⟩
  simpa using hpart hhour (hcolon (minute ++ ':' :: (second ++ (decimals ++ rest))))

/-- **A date is read back from the year, month and day it names.** -/
theorem IsDate.date_eq {form : DateTimeForm} (hgaps : form.gaps = false) {d : Date}
    (h : IsDate IsLenientYear (IsShort 1) (IsShort least) d piece) (hleast : 1 ≤ least)
    (hrest : least = 2 ∨ NoDigitFirst rest) :
    form.date (piece ++ rest) = some ((d.year, d.month, d.day), rest) := by
  have hhyphen := noDigitFirst_cons (c := '-') rfl
  obtain ⟨year, month, day, rfl, hyear, hmonth, hday⟩ := h
  rw [List.append_assoc, List.cons_append, List.append_assoc, List.cons_append, DateTimeForm.date,
    separator_eq_expect hgaps]
  refine bind_of_eq_some (hyear.signedYear_eq (hhyphen _)) ?_
  refine bind_of_eq_some (expect_cons '-' _) ?_
  refine bind_of_eq_some (hmonth.shortNumber_eq (Nat.le_refl _) (.inr (hhyphen _))) ?_
  refine bind_of_eq_some (expect_cons '-' _) ?_
  exact bind_of_eq_some (hday.shortNumber_eq hleast hrest) rfl

/-- A date-time is read back from the parts that name it. -/
theorem readDateTime_eq {form : DateTimeForm} (hgaps : form.gaps = false) {f : Fields}
    {d : DateTime} {date behind clock : List Char}
    (hdate : IsDate IsLenientYear (IsShort 1) (IsShort least) f.date date) (hleast : 1 ≤ least)
    (hbehind : least = 2 ∨ NoDigitFirst behind) (hbetween : form.between behind = some ((), clock))
    (hclock : IsClock (IsShort 1) f clock) (hshows : f.Shows d) :
    readDateTime form (date ++ behind) = some d := by
  obtain ⟨minutes, seconds, fractions, hhour, hminute, hsecond, hfraction⟩ :=
    hclock.reads []
      (fun h hrest => IsShort.shortNumber_eq h (Nat.le_refl _) (.inr hrest))
      noDigitFirst_nil fun _ hc => by cases hc
  rw [List.append_nil] at hhour
  rw [readDateTime, separator_eq_expect hgaps]
  refine bind_of_eq_some (hdate.date_eq hgaps hleast hbehind) ?_
  refine bind_of_eq_some hbetween ?_
  refine bind_of_eq_some hhour ?_
  refine bind_of_eq_some (expect_cons ':' _) ?_
  refine bind_of_eq_some hminute ?_
  refine bind_of_eq_some (expect_cons ':' _) ?_
  refine bind_of_eq_some hsecond ?_
  refine bind_of_eq_some hfraction ?_
  refine bind_of_eq_some (dateOf_of_valid hshows.date) ?_
  refine bind_of_eq_some hshows.clock ?_
  rw [DateTimeForm.skip, hgaps]
  rfl

/-- An offset can be told from the decimals in front of it. -/
theorem IsOffset.first {seconds : ℤ} (h : IsOffset seconds s) :
    NoDigitFirst s ∧ ∀ c ∈ s.head?, c ≠ '.' := by
  have hfirst : ∀ {c : Char} {s}, c.isDigit = false → c ≠ '.' →
      NoDigitFirst (c :: s) ∧ ∀ d ∈ (c :: s).head?, d ≠ '.' := fun hdigit hpoint =>
    ⟨noDigitFirst_cons hdigit _, fun d hd => by cases hd; exact hpoint⟩
  cases h with
  | utc hc => rcases hc with rfl | rfl <;> exact hfirst rfl (by decide)
  | ahead => exact hfirst rfl (by decide)
  | behind hc => rcases hc with rfl | rfl <;> exact hfirst rfl (by decide)

/-- A time without the blanks in front of it. -/
theorem IsClock.exists_trimmed {f : Fields} (h : IsClock (IsShort 1) f s) :
    ∃ blanks clock, s = blanks ++ clock ∧ (∀ c ∈ blanks, Text.isBlank c) ∧
      IsClock (IsShort 1) f clock ∧ ∀ c ∈ clock.head?, ¬ Text.isBlank c := by
  obtain ⟨_, minute, second, fraction, rfl, ⟨blanks, digits, rfl, hblanks, hhour⟩, hrest⟩ := h
  refine ⟨blanks, _, List.append_assoc _ _ _, hblanks, ⟨digits, minute, second, fraction, rfl,
    ⟨[], digits, rfl, List.forall_mem_nil _, hhour⟩, hrest⟩, fun c hc => ?_⟩
  exact not_isBlank_of_isDigit (hhour.isDigit_of_head? (Nat.le_refl _) hc)

/-- The form with an offset reads the local time and takes the offset off. -/
theorem readOffsetForm_eq {f : Fields} {d : DateTime} {mark : Char} {date clock zone : List Char}
    (hdate : IsDate IsFourDigitYear (IsNumeral 2 2) (IsNumeral 2 2) f.date date)
    (hmark : isDateTimeMark mark) (hclock : IsClock (IsNumeral 2 2) f clock)
    (hzone : IsOffset f.offset zone) (hshows : f.Shows d) :
    readOffsetForm (date ++ mark :: (clock ++ zone)) = some (.ofLocal d f.offset) := by
  obtain ⟨_, month, day, rfl, ⟨n, hn, hyear⟩, hmonth, hday⟩ := hdate
  obtain ⟨hdigit, hpoint⟩ := hzone.first
  obtain ⟨minutes, seconds, fractions, hhour, hminute, hsecond, hfraction⟩ :=
    hclock.reads zone (fun h _ => h.number_eq_of_width _) hdigit hpoint
  rw [List.append_assoc, List.cons_append, List.append_assoc, List.cons_append, readOffsetForm]
  refine bind_of_eq_some (hyear.number_eq_of_width _) ?_
  refine bind_of_eq_some (expect_cons '-' _) ?_
  refine bind_of_eq_some (hmonth.number_eq_of_width _) ?_
  refine bind_of_eq_some (expect_cons '-' _) ?_
  refine bind_of_eq_some (hday.number_eq_of_width _) ?_
  refine (if_pos hmark).trans ?_
  refine bind_of_eq_some rfl ?_
  refine bind_of_eq_some hhour ?_
  refine bind_of_eq_some (expect_cons ':' _) ?_
  refine bind_of_eq_some hminute ?_
  refine bind_of_eq_some (expect_cons ':' _) ?_
  refine bind_of_eq_some hsecond ?_
  refine bind_of_eq_some hfraction ?_
  refine bind_of_eq_some hzone.offset_eq ?_
  refine bind_of_eq_some ((congrArg (dateOf · _ _) hn.symm).trans (dateOf_of_valid hshows.date)) ?_
  exact bind_of_eq_some hshows.clock rfl

/-- **A text that is written in a form is read in it.** -/
theorem Names.read_eq {form : Form} {f : Fields} {d : DateTime} (h : Names form s f)
    (hshows : f.Shows d) : form.read s = some (.ofLocal d f.offset) := by
  cases h with
  | withOffset hdate hmark hclock hzone => exact readOffsetForm_eq hdate hmark hclock hzone hshows
  | marked hdate hclock hoffset =>
      rw [hoffset]
      refine Option.map_eq_some_iff.mpr ⟨d, ?_, rfl⟩
      exact readDateTime_eq rfl hdate (Nat.le_refl _) (.inr (noDigitFirst_cons rfl _))
        (expect_cons 'T' _) hclock hshows
  | @spaced _ _ _ gap _ hleast hdate hgap htwo hclock hoffset =>
      rw [hoffset]
      refine Option.map_eq_some_iff.mpr ⟨d, ?_, rfl⟩
      obtain ⟨blanks, clock, rfl, hblanks, hclock, hfirst⟩ := hclock.exists_trimmed
      have hbetween :
          DateTimeForm.spaced.between (gap ++ (blanks ++ clock)) = some ((), clock) := by
        have htrim := dropWhile_append (List.forall_mem_append.mpr ⟨hgap, hblanks⟩) hfirst
        rw [List.append_assoc] at htrim
        exact congrArg (fun s => some ((), s)) htrim
      refine readDateTime_eq rfl hdate hleast ?_ hbetween hclock hshows
      cases gap with
      | nil => exact .inl (htwo rfl)
      | cons c gap =>
          refine .inr (noDigitFirst_cons (Bool.eq_false_iff.mpr fun hdigit => ?_) _)
          exact not_isBlank_of_isDigit hdigit (hgap c List.mem_cons_self)
  | @dateAlone date _ hdate =>
      have hmidnight : d = .midnight date := by
        have hclock := hshows.clock
        simp [DateTime.atClock] at hclock
        exact hclock.symm
      rw [hmidnight]
      refine Option.map_eq_some_iff.mpr ⟨_, ?_, rfl⟩
      have hread : DateTimeForm.marked.date (s ++ []) = _ :=
        hdate.date_eq rfl (Nat.le_refl _) (.inr noDigitFirst_nil)
      rw [List.append_nil] at hread
      refine bind_of_eq_some hread ?_
      exact bind_of_eq_some (dateOf_of_valid hshows.date) rfl

/-! ## The form of a text -/

/-- The colons and the letters by which the forms differ. -/
def isSign (c : Char) : Bool :=
  c == ':' || c == 'T' || c == 'Z' || c == 'z'

/-- The form that a text can have by its signs. -/
def formOf (s : List Char) : Form :=
  if s.filter isSign = [] then .dateAlone
  else if s.filter isSign = [':', ':'] then .spaced
  else if s.filter isSign = ['T', ':', ':'] then .marked
  else .withOffset

theorem not_isSign {c : Char} (h : c.isDigit ∨ Text.isBlank c) : ¬ isSign c := by
  intro hsign
  simp only [isSign, Bool.or_eq_true, beq_iff_eq, or_assoc] at hsign
  rcases hsign with rfl | rfl | rfl | rfl <;> exact absurd h (by decide)

theorem filter_digits (h : ∀ c ∈ s, c.isDigit) : s.filter isSign = [] :=
  List.filter_eq_nil_iff.mpr fun c hc => not_isSign (.inl (h c hc))

theorem BehindBlanks.filter_eq_nil {Piece : List Char → Prop} (h : BehindBlanks Piece s)
    (hpiece : ∀ {s}, Piece s → s.filter isSign = []) : s.filter isSign = [] := by
  obtain ⟨blanks, piece, rfl, hblanks, hs⟩ := h
  rw [List.filter_append, hpiece hs, List.append_nil]
  exact List.filter_eq_nil_iff.mpr fun c hc => not_isSign (.inr (hblanks c hc))

theorem IsNumeral.filter_eq_nil (h : IsNumeral least most n s) : s.filter isSign = [] :=
  filter_digits h.digits

theorem IsShort.filter_eq_nil (h : IsShort least n s) : s.filter isSign = [] :=
  BehindBlanks.filter_eq_nil h IsNumeral.filter_eq_nil

theorem IsLenientYear.filter_eq_nil {year : ℤ} (h : IsLenientYear year s) :
    s.filter isSign = [] := by
  refine BehindBlanks.filter_eq_nil h fun hyear => ?_
  cases hyear with
  | plain hn => exact hn.filter_eq_nil
  | plus hn => exact (List.filter_cons_of_neg (by decide)).trans hn.filter_eq_nil
  | minus hn => exact (List.filter_cons_of_neg (by decide)).trans hn.filter_eq_nil

theorem IsFraction.filter_eq_nil {nanos : ℕ} (h : IsFraction nanos s) : s.filter isSign = [] := by
  cases h with
  | none => rfl
  | decimals hdigits =>
      exact (List.filter_cons_of_neg (by decide)).trans (filter_digits hdigits)

theorem IsDate.filter_eq_nil {Year : ℤ → List Char → Prop} {Month Day : ℕ → List Char → Prop}
    {d : Date} (h : IsDate Year Month Day d s)
    (hyear : ∀ {year s}, Year year s → s.filter isSign = [])
    (hmonth : ∀ {n s}, Month n s → s.filter isSign = [])
    (hday : ∀ {n s}, Day n s → s.filter isSign = []) : s.filter isSign = [] := by
  obtain ⟨year, month, day, rfl, isYear, isMonth, isDay⟩ := h
  have hhyphen : isSign '-' = false := rfl
  simp [hyear isYear, hmonth isMonth, hday isDay, hhyphen]

/-- A clock time has two signs, the colons between its parts. -/
theorem IsClock.filter_eq {Part : ℕ → List Char → Prop} {f : Fields} (h : IsClock Part f s)
    (hpart : ∀ {n s}, Part n s → s.filter isSign = []) : s.filter isSign = [':', ':'] := by
  obtain ⟨hour, minute, second, fraction, rfl, isHour, isMinute, isSecond, isFraction⟩ := h
  have hcolon : isSign ':' = true := rfl
  simp [hpart isHour, hpart isMinute, hpart isSecond, isFraction.filter_eq_nil, hcolon]

/-- An offset has one sign, its letter or its colon. -/
theorem IsOffset.exists_filter_eq {seconds : ℤ} (h : IsOffset seconds s) :
    ∃ c, s.filter isSign = [c] := by
  have hclock : ∀ {seconds s}, IsHourMinute seconds s → s.filter isSign = [':'] := by
    rintro _ _ ⟨hhours, hminutes, -, -⟩
    have hcolon : isSign ':' = true := rfl
    simp [hhours.filter_eq_nil, hminutes.filter_eq_nil, hcolon]
  cases h with
  | utc hc =>
      rcases hc with rfl | rfl
      · exact ⟨'Z', rfl⟩
      · exact ⟨'z', rfl⟩
  | ahead h => exact ⟨':', (List.filter_cons_of_neg (by decide)).trans (hclock h)⟩
  | behind hc h =>
      refine ⟨':', (List.filter_cons_of_neg ?_).trans (hclock h)⟩
      rcases hc with rfl | rfl <;> decide

/-- **A text is written in one form at most.** -/
theorem Names.formOf_eq {form : Form} {f : Fields} (h : Names form s f) : formOf s = form := by
  have hlenient : ∀ {d : Date} {least s}, IsDate IsLenientYear (IsShort 1) (IsShort least) d s →
      s.filter isSign = [] := fun h =>
    h.filter_eq_nil IsLenientYear.filter_eq_nil IsShort.filter_eq_nil IsShort.filter_eq_nil
  have hclock : ∀ {f s}, IsClock (IsShort 1) f s → s.filter isSign = [':', ':'] := fun h =>
    h.filter_eq IsShort.filter_eq_nil
  unfold formOf
  cases h with
  | withOffset isDate hmark isClock isOffset =>
      obtain ⟨c, hzone⟩ := isOffset.exists_filter_eq
      have hdate := isDate.filter_eq_nil (fun ⟨_, _, h⟩ => h.filter_eq_nil)
        IsNumeral.filter_eq_nil IsNumeral.filter_eq_nil
      simp only [isDateTimeMark, Bool.or_eq_true, beq_iff_eq, or_assoc] at hmark
      simp only [List.filter_append, List.filter_cons, hdate, hzone,
        isClock.filter_eq IsNumeral.filter_eq_nil]
      rcases hmark with rfl | rfl | rfl <;> simp [isSign]
  | marked isDate isClock =>
      have hsigns : isSign 'T' = true := rfl
      rw [List.filter_append, List.filter_cons, hlenient isDate, hclock isClock, hsigns]
      rfl
  | spaced _ isDate hgap _ isClock =>
      have hblanks := List.filter_eq_nil_iff.mpr fun c hc => not_isSign (.inr (hgap c hc))
      rw [List.filter_append, List.filter_append, hlenient isDate, hblanks, hclock isClock]
      rfl
  | dateAlone isDate =>
      rw [hlenient isDate]
      rfl

end Calendar

namespace Timestamp

variable {text : String} {t : Timestamp}

/-- A text is read in its own form: the others do not read it, so they may be tried in any
order. -/
theorem parse?_eq_read (text : String) :
    parse? text = (Calendar.formOf (Text.trim text.toList)).read (Text.trim text.toList) := by
  generalize hs : Text.trim text.toList = s
  have hother : ∀ {form : Calendar.Form}, Calendar.formOf s ≠ form → form.read s = none := by
    intro form hne
    refine Option.eq_none_iff_forall_ne_some.mpr fun t hread => hne ?_
    obtain ⟨f, d, hnames, -⟩ := Calendar.exists_names_of_read hread
    exact hnames.formOf_eq
  have hparse : parse? text = (Calendar.Form.withOffset.read s).orElse fun _ =>
      (Calendar.Form.marked.read s).orElse fun _ =>
        (Calendar.Form.spaced.read s).orElse fun _ => Calendar.Form.dateAlone.read s := by
    rw [← hs]
    rfl
  rw [hparse]
  cases hform : Calendar.formOf s <;> simp [hother, hform]

/-- **The texts that are read as instants** are those that are written in one of the forms, and
the instant is that of the date-time that the fields show, with their offset. -/
theorem parse?_eq_some_iff :
    parse? text = some t ↔ ∃ form f d, Calendar.Names form (Text.trim text.toList) f ∧
      f.Shows d ∧ t = ofLocal d f.offset := by
  rw [parse?_eq_read]
  constructor
  · exact fun hread => ⟨_, Calendar.exists_names_of_read hread⟩
  · rintro ⟨form, f, d, hnames, hshows, rfl⟩
    rw [hnames.formOf_eq]
    exact hnames.read_eq hshows

end Timestamp

end RecordQuery
