import RecordQuery.Proofs.InstantTexts

/-!
# Written instants

What a text that is read as an instant looks like.  `Calendar.Names` has one case for each form:
fields of fixed width with an offset, a date and a time of lenient width with a mark or blanks
between them, and a date alone.

A scanner that succeeds has read a piece of the text in front of what it leaves
(`Calendar.Reads`).  So the text is the pieces one after the other, and the fields are what the
pieces stand for (`Calendar.exists_names_of_read`).  Digits are read as far as they go, which
matters where nothing stands between the day and the hour: the day then has two digits.
-/

namespace RecordQuery

/-! ## Decimals -/

namespace Reading

/-- Digits behind others count as in a numeral. -/
theorem naturalValue_append (front back : List Char) :
    naturalValue (front ++ back) =
      naturalValue front * 10 ^ back.length + naturalValue back := by
  calc naturalValue (front ++ back)
      = Nat.ofDigitChars 10 back (naturalValue front) := Nat.ofDigitChars_append 0
    _ = 10 ^ back.length * naturalValue front + naturalValue back :=
        Nat.ofDigitChars_eq_ofDigitChars_zero
    _ = naturalValue front * 10 ^ back.length + naturalValue back := by rw [Nat.mul_comm]

/-- A number is less than the power of ten with as many zeros as it has digits. -/
theorem naturalValue_lt {s : List Char} (h : ∀ c ∈ s, c.isDigit) :
    naturalValue s < 10 ^ s.length := by
  induction s with
  | nil => exact Nat.one_pos
  | cons c rest ih =>
      obtain ⟨hc, hrest⟩ := List.forall_mem_cons.mp h
      have hdigit : naturalValue [c] < 10 := by
        have hrange : 48 ≤ c.toNat ∧ c.toNat ≤ 57 := Char.isDigit_iff_toNat.mp hc
        have hvalue : naturalValue [c] = c.toNat - 48 := by simp [naturalValue]
        omega
      have happend := naturalValue_append [c] rest
      have hlt := ih hrest
      rw [List.singleton_append] at happend
      rw [happend, List.length_cons, Nat.pow_succ]
      have hle := Nat.mul_le_mul_right (10 ^ rest.length) (Nat.le_of_lt_succ hdigit)
      omega

end Reading

namespace Calendar

/-- Decimals behind the ninth do not change the nanoseconds. -/
theorem nanos_of_decimals {front back : List Char} (hback : ∀ c ∈ back, c.isDigit)
    (hmost : front.length ≤ 9) (hfull : front.length = 9 ∨ back = []) :
    Reading.naturalValue (front ++ back) * 1000000000 / 10 ^ (front ++ back).length =
      Reading.naturalValue front * 10 ^ (9 - front.length) := by
  rcases hfull with hnine | rfl
  · have hlt := Reading.naturalValue_lt hback
    have hpower : 10 ^ (front ++ back).length = 10 ^ back.length * 1000000000 := by
      rw [List.length_append, hnine, Nat.add_comm, Nat.pow_add]
    rw [hpower, Nat.mul_div_mul_right _ _ (by decide), Reading.naturalValue_append,
      Nat.mul_comm _ (10 ^ back.length), Nat.mul_add_div (Nat.pow_pos (by decide)),
      Nat.div_eq_of_lt hlt, hnine, Nat.add_zero, Nat.sub_self, Nat.pow_zero, Nat.mul_one]
  · have hpower : 1000000000 = 10 ^ (9 - front.length) * 10 ^ front.length := by
      rw [← Nat.pow_add, Nat.sub_add_cancel hmost]
    rw [List.append_nil, hpower, ← Nat.mul_assoc, Nat.mul_div_cancel _ (Nat.pow_pos (by decide))]

/-! ## Pieces of a text -/

/-- The text does not begin with a digit. -/
def NoDigitFirst (s : List Char) : Prop :=
  ∀ c ∈ s.head?, ¬ c.isDigit

/-- A number in decimal digits, of which there are from `least` to `most`. -/
structure IsNumeral (least most n : ℕ) (s : List Char) : Prop where
  digits : ∀ c ∈ s, c.isDigit
  least_le : least ≤ s.length
  le_most : s.length ≤ most
  value : Reading.naturalValue s = n

/-- A piece behind blanks. -/
def BehindBlanks (Piece : List Char → Prop) (s : List Char) : Prop :=
  ∃ blanks piece, s = blanks ++ piece ∧ (∀ c ∈ blanks, Text.isBlank c) ∧ Piece piece

/-- A number behind blanks, of at least `least` digits and at most two. -/
def IsShort (least n : ℕ) : List Char → Prop :=
  BehindBlanks (IsNumeral least 2 n)

/-- A year of four digits. -/
def IsFourDigitYear (year : ℤ) (s : List Char) : Prop :=
  ∃ n : ℕ, year = n ∧ IsNumeral 4 4 n s

/-- A year of up to four digits, or of any number of digits behind a sign. -/
inductive IsSignedYear : ℤ → List Char → Prop
  | plain {n s} : IsNumeral 1 4 n s → IsSignedYear n s
  | plus {n s} : IsNumeral 1 s.length n s → IsSignedYear n ('+' :: s)
  | minus {n s} : IsNumeral 1 s.length n s → IsSignedYear (-n) ('-' :: s)

/-- A year with or without a sign, behind blanks. -/
def IsLenientYear (year : ℤ) : List Char → Prop :=
  BehindBlanks (IsSignedYear year)

/-- Nothing, or a point and decimals, for their value in nanoseconds rounded down. -/
inductive IsFraction : ℕ → List Char → Prop
  | none : IsFraction 0 []
  | decimals {s} : (∀ c ∈ s, c.isDigit) → s ≠ [] →
      IsFraction (Reading.naturalValue s * 1000000000 / 10 ^ s.length) ('.' :: s)

/-- Hours and minutes, for their number of seconds. -/
inductive IsHourMinute : ℤ → List Char → Prop
  | intro {hours minutes s t} : IsNumeral 2 2 hours s → IsNumeral 2 2 minutes t → hours < 24 →
      minutes < 60 → IsHourMinute (hours * 3600 + minutes * 60) (s ++ ':' :: t)

/-- The mark of UTC, or hours and minutes that the clock is ahead of UTC or behind it. -/
inductive IsOffset : ℤ → List Char → Prop
  | utc {c} : c = 'Z' ∨ c = 'z' → IsOffset 0 [c]
  | ahead {seconds s} : IsHourMinute seconds s → IsOffset seconds ('+' :: s)
  | behind {seconds c s} : c = '-' ∨ c = '\u2212' → IsHourMinute seconds s →
      IsOffset (-seconds) (c :: s)

/-- Year, month and day with hyphens between them. -/
def IsDate (Year : ℤ → List Char → Prop) (Month Day : ℕ → List Char → Prop) (d : Date)
    (s : List Char) : Prop :=
  ∃ year month day, s = year ++ '-' :: (month ++ '-' :: day) ∧ Year d.year year ∧
    Month d.month month ∧ Day d.day day

/-- The fields of a written instant. -/
structure Fields where
  date : Date
  hour : ℕ
  minute : ℕ
  second : ℕ
  nanos : ℕ
  offset : ℤ

/-- Hour, minute and second with colons between them, and a fraction. -/
def IsClock (Part : ℕ → List Char → Prop) (f : Fields) (s : List Char) : Prop :=
  ∃ hour minute second fraction,
    s = hour ++ ':' :: (minute ++ ':' :: (second ++ fraction)) ∧ Part f.hour hour ∧
      Part f.minute minute ∧ Part f.second second ∧ IsFraction f.nanos fraction

/-- The forms of a written instant. -/
inductive Form
  | withOffset
  | marked
  | spaced
  | dateAlone

/-- The text is written with the fields in a form. -/
inductive Names : Form → List Char → Fields → Prop
  | withOffset {f date mark clock zone} :
      IsDate IsFourDigitYear (IsNumeral 2 2) (IsNumeral 2 2) f.date date → isDateTimeMark mark →
      IsClock (IsNumeral 2 2) f clock → IsOffset f.offset zone →
      Names .withOffset (date ++ mark :: (clock ++ zone)) f
  | marked {f date clock} :
      IsDate IsLenientYear (IsShort 1) (IsShort 1) f.date date →
      IsClock (IsShort 1) f clock → f.offset = 0 → Names .marked (date ++ 'T' :: clock) f
  | spaced {f least date gap clock} : 1 ≤ least →
      IsDate IsLenientYear (IsShort 1) (IsShort least) f.date date →
      (∀ c ∈ gap, Text.isBlank c) → (gap = [] → least = 2) →
      IsClock (IsShort 1) f clock → f.offset = 0 → Names .spaced (date ++ (gap ++ clock)) f
  | dateAlone {d s} : IsDate IsLenientYear (IsShort 1) (IsShort 1) d s →
      Names .dateAlone s ⟨d, 0, 0, 0, 0, 0⟩

/-- The date-time is the one that the fields show, and their offset is less than a day. -/
structure Fields.Shows (f : Fields) (d : DateTime) : Prop where
  date : f.date.Valid
  clock : DateTime.atClock f.date f.hour f.minute f.second f.nanos = some d
  nanos : f.nanos < DateTime.nanosPerSecond
  offset : f.offset.natAbs < DateTime.secondsPerDay

/-! ## Scanners -/

/-- What a scanner reads is a piece in front of what it leaves. -/
def Reads {α : Type} (scan : Scan α) (Piece : α → List Char → Prop) : Prop :=
  ∀ {s a rest}, scan s = some (a, rest) → ∃ piece, s = piece ++ rest ∧ Piece a piece

variable {least most n : ℕ} {s rest : List Char}

theorem exists_blanks (s : List Char) :
    ∃ blanks, s = blanks ++ Text.trimStart s ∧ ∀ c ∈ blanks, Text.isBlank c :=
  ⟨s.takeWhile Text.isBlank, List.takeWhile_append_dropWhile.symm,
    fun _ => List.mem_takeWhile_imp⟩

/-- What is read as a number is a numeral. -/
theorem reads_number (least most : ℕ) : Reads (number least most) (IsNumeral least most) := by
  intro s n rest h
  obtain ⟨digits, rfl, hdigits, hleast, hmost, hvalue, -⟩ := number_eq_some h
  exact ⟨digits, rfl, hdigits, hleast, hmost, hvalue⟩

theorem reads_expect (c : Char) : Reads (expect c) fun _ piece => piece = [c] := by
  intro s a rest h
  cases s with
  | nil => cases h
  | cons d r =>
      simp only [expect, Option.ite_none_right_eq_some, Option.some.injEq, Prod.mk.injEq,
        true_and] at h
      obtain ⟨rfl, rfl⟩ := h
      exact ⟨[d], rfl, rfl⟩

/-- A short number has two digits when a digit follows it. -/
theorem reads_shortNumber (h : shortNumber s = some (n, rest)) :
    ∃ least piece, s = piece ++ rest ∧ 1 ≤ least ∧ IsShort least n piece ∧
      (least = 2 ∨ NoDigitFirst rest) := by
  obtain ⟨blanks, hs, hblanks⟩ := exists_blanks s
  obtain ⟨digits, hdigits, hdigit, hleast, hmost, hvalue, hlast⟩ := number_eq_some h
  refine ⟨digits.length, blanks ++ digits, ?_, hleast, ⟨blanks, digits, rfl, hblanks, ?_⟩, ?_⟩
  · rw [List.append_assoc, ← hdigits]
    exact hs
  · exact ⟨hdigit, Nat.le_refl _, hmost, hvalue⟩
  · exact hmost.eq_or_lt.imp_right hlast

theorem IsShort.one (h : IsShort least n s) (hleast : 1 ≤ least) : IsShort 1 n s := by
  obtain ⟨blanks, digits, hs, hblanks, hnumeral⟩ := h
  exact ⟨blanks, digits, hs, hblanks,
    { hnumeral with least_le := hleast.trans hnumeral.least_le }⟩

theorem reads_short : Reads shortNumber (IsShort 1) := by
  intro s n rest h
  obtain ⟨least, piece, hs, hleast, hshort, -⟩ := reads_shortNumber h
  exact ⟨piece, hs, hshort.one hleast⟩

/-- What is read as a year may have blanks and a sign in front. -/
theorem reads_signedYear : Reads signedYear IsLenientYear := by
  intro s year rest h
  obtain ⟨blanks, hs, hblanks⟩ := exists_blanks s
  have hbehind : ∀ {piece}, Text.trimStart s = piece ++ rest → IsSignedYear year piece →
      ∃ piece, s = piece ++ rest ∧ IsLenientYear year piece := by
    intro piece htrim hyear
    refine ⟨blanks ++ piece, ?_, blanks, piece, rfl, hblanks, hyear⟩
    rw [List.append_assoc, ← htrim]
    exact hs
  unfold signedYear at h
  split at h
  next r heq =>
    obtain ⟨⟨n, rest'⟩, hread, hyear⟩ := Option.map_eq_some_iff.mp h
    cases hyear
    obtain ⟨digits, rfl, hnumeral⟩ := reads_number _ _ hread
    exact hbehind heq (.minus { hnumeral with le_most := Nat.le_refl _ })
  next r heq =>
    obtain ⟨⟨n, rest'⟩, hread, hyear⟩ := Option.map_eq_some_iff.mp h
    cases hyear
    obtain ⟨digits, rfl, hnumeral⟩ := reads_number _ _ hread
    exact hbehind heq (.plus { hnumeral with le_most := Nat.le_refl _ })
  next =>
    obtain ⟨⟨n, rest'⟩, hread, hyear⟩ := Option.map_eq_some_iff.mp h
    cases hyear
    obtain ⟨digits, htrim, hnumeral⟩ := reads_number _ _ hread
    exact hbehind htrim (.plain hnumeral)

/-- What is read as a fraction is a point and digits, or nothing at all. -/
theorem reads_fraction : Reads fraction IsFraction := by
  intro s nanos rest h
  unfold fraction at h
  split at h
  next r =>
    split at h
    next n rest' hnumber =>
      obtain ⟨digits, rfl, hdigits, hleast, hmost, hvalue, hlast⟩ := number_eq_some hnumber
      cases h
      have hmore : ∀ c ∈ rest'.takeWhile Char.isDigit, c.isDigit :=
        fun c => List.mem_takeWhile_imp
      have hfull : digits.length = 9 ∨ rest'.takeWhile Char.isDigit = [] := by
        refine hmost.eq_or_lt.imp_right fun hlt => ?_
        have hstop := hlast hlt
        cases rest' with
        | nil => rfl
        | cons c r => exact List.takeWhile_cons_of_neg (hstop c rfl)
      refine ⟨'.' :: (digits ++ rest'.takeWhile Char.isDigit), ?_, ?_⟩
      · rw [List.cons_append, List.append_assoc, List.takeWhile_append_dropWhile]
      · have hlength : (digits ++ rest').length - rest'.length = digits.length := by
          rw [List.length_append, Nat.add_sub_cancel]
        have hnanos := nanos_of_decimals hmore hmost hfull
        rw [hvalue] at hnanos
        rw [hlength, Nat.pow_eq, ← hnanos]
        refine .decimals (List.forall_mem_append.mpr ⟨hdigits, hmore⟩) fun hnil => ?_
        rw [(List.append_eq_nil_iff.mp hnil).1] at hleast
        exact absurd hleast (by decide)
    next => cases h
  next =>
    cases h
    exact ⟨[], rfl, .none⟩

theorem reads_offsetSign : Reads offsetSign fun sign piece =>
    sign = 1 ∧ piece = ['+'] ∨ sign = -1 ∧ (piece = ['-'] ∨ piece = ['\u2212']) := by
  intro s sign rest h
  unfold offsetSign at h
  split at h
  next r => cases h; exact ⟨_, rfl, .inl ⟨rfl, rfl⟩⟩
  next r => cases h; exact ⟨_, rfl, .inr ⟨rfl, .inl rfl⟩⟩
  next r => cases h; exact ⟨_, rfl, .inr ⟨rfl, .inr rfl⟩⟩
  next => cases h

/-- What is read as an offset is less than a day. -/
theorem reads_offset :
    Reads offset fun seconds piece => IsOffset seconds piece ∧ seconds.natAbs < 86400 := by
  intro s seconds rest h
  unfold offset at h
  split at h
  next r => cases h; exact ⟨_, rfl, .utc (.inl rfl), by decide⟩
  next r => cases h; exact ⟨_, rfl, .utc (.inr rfl), by decide⟩
  next =>
    simp only [Option.bind_eq_bind, Option.bind_eq_some_iff, Prod.exists,
      Option.ite_none_right_eq_some] at h
    obtain ⟨sign, s₁, hsign, hours, s₂, hhours, _, s₃, hcolon, minutes, s₄, hminutes, hvalid,
      heq⟩ := h
    cases heq
    obtain ⟨mark, rfl, hmark⟩ := reads_offsetSign hsign
    obtain ⟨hourDigits, rfl, hhour⟩ := reads_number 2 2 hhours
    obtain ⟨_, rfl, rfl⟩ := reads_expect ':' hcolon
    obtain ⟨minuteDigits, rfl, hminute⟩ := reads_number 2 2 hminutes
    have hclock := IsHourMinute.intro hhour hminute hvalid.1 hvalid.2
    refine ⟨mark ++ (hourDigits ++ ':' :: minuteDigits), by simp, ?_⟩
    rcases hmark with ⟨rfl, rfl⟩ | ⟨rfl, rfl | rfl⟩
    · rw [Int.one_mul]
      exact ⟨.ahead hclock, by omega⟩
    · rw [Int.neg_one_mul]
      exact ⟨.behind (.inl rfl) hclock, by omega⟩
    · rw [Int.neg_one_mul]
      exact ⟨.behind (.inr rfl) hclock, by omega⟩

/-! ## Dates and clocks -/

section Parts

variable {s₁ s₂ s₃ s₄ s₅ s₆ : List Char} {u u' : Unit}

/-- A date is read part by part. -/
theorem exists_isDate {Year : ℤ → List Char → Prop} {Month Day : ℕ → List Char → Prop} {d : Date}
    (hyear : ∃ piece, s = piece ++ s₁ ∧ Year d.year piece) (hmark : expect '-' s₁ = some (u, s₂))
    (hmonth : ∃ piece, s₂ = piece ++ s₃ ∧ Month d.month piece)
    (hmark' : expect '-' s₃ = some (u', s₄)) (hday : ∃ piece, s₄ = piece ++ s₅ ∧ Day d.day piece) :
    ∃ piece, s = piece ++ s₅ ∧ IsDate Year Month Day d piece := by
  obtain ⟨year, rfl, hyear⟩ := hyear
  obtain ⟨_, rfl, rfl⟩ := reads_expect '-' hmark
  obtain ⟨month, rfl, hmonth⟩ := hmonth
  obtain ⟨_, rfl, rfl⟩ := reads_expect '-' hmark'
  obtain ⟨day, rfl, hday⟩ := hday
  exact ⟨year ++ '-' :: (month ++ '-' :: day), by simp, year, month, day, rfl, hyear, hmonth, hday⟩

/-- A clock is read part by part. -/
theorem exists_isClock {part : Scan ℕ} {Part : ℕ → List Char → Prop} (hpart : Reads part Part)
    {f : Fields} (hhour : part s = some (f.hour, s₁)) (hmark : expect ':' s₁ = some (u, s₂))
    (hminute : part s₂ = some (f.minute, s₃)) (hmark' : expect ':' s₃ = some (u', s₄))
    (hsecond : part s₄ = some (f.second, s₅)) (hfraction : fraction s₅ = some (f.nanos, s₆)) :
    ∃ clock, s = clock ++ s₆ ∧ IsClock Part f clock := by
  obtain ⟨hour, rfl, isHour⟩ := hpart hhour
  obtain ⟨_, rfl, rfl⟩ := reads_expect ':' hmark
  obtain ⟨minute, rfl, isMinute⟩ := hpart hminute
  obtain ⟨_, rfl, rfl⟩ := reads_expect ':' hmark'
  obtain ⟨second, rfl, isSecond⟩ := hpart hsecond
  obtain ⟨fraction, rfl, isFraction⟩ := reads_fraction hfraction
  exact ⟨hour ++ ':' :: (minute ++ ':' :: (second ++ fraction)), by simp, hour, minute, second,
    fraction, rfl, isHour, isMinute, isSecond, isFraction⟩

end Parts

theorem IsFraction.lt {nanos : ℕ} (h : IsFraction nanos s) : nanos < DateTime.nanosPerSecond := by
  cases h with
  | none => decide
  | decimals hdigits hne =>
      rw [Nat.div_lt_iff_lt_mul (Nat.pow_pos (by decide)), Nat.mul_comm]
      exact Nat.mul_lt_mul_of_pos_left (Reading.naturalValue_lt hdigits) (by decide)

theorem IsClock.nanos_lt {Part : ℕ → List Char → Prop} {f : Fields} (h : IsClock Part f s) :
    f.nanos < DateTime.nanosPerSecond := by
  obtain ⟨_, _, _, _, -, -, -, -, hfraction⟩ := h
  exact hfraction.lt

theorem dateOf_eq_some {year : ℤ} {month day : ℕ} {d : Date} :
    dateOf year month day = some d ↔ d.Valid ∧ d = ⟨year, month, day⟩ := by
  simp only [dateOf, Option.ite_none_right_eq_some, Option.some.injEq]
  constructor
  · rintro ⟨hvalid, rfl⟩
    exact ⟨hvalid, rfl⟩
  · rintro ⟨hvalid, rfl⟩
    exact ⟨hvalid, rfl⟩

/-! ## Forms -/

/-- **The form with an offset reads only texts that name an instant so.** -/
theorem exists_names_of_readOffsetForm {t : Timestamp} (h : readOffsetForm s = some t) :
    ∃ f d, Names .withOffset s f ∧ f.Shows d ∧ t = .ofLocal d f.offset := by
  -- Each scanner has read one part and left the text of the next.
  obtain ⟨⟨year, s₁⟩, hyear, h⟩ := Option.bind_eq_some_iff.mp h
  obtain ⟨⟨_, s₂⟩, hhyphen, h⟩ := Option.bind_eq_some_iff.mp h
  obtain ⟨⟨month, s₃⟩, hmonth, h⟩ := Option.bind_eq_some_iff.mp h
  obtain ⟨⟨_, s₄⟩, hhyphen', h⟩ := Option.bind_eq_some_iff.mp h
  obtain ⟨⟨day, s₅⟩, hday, h⟩ := Option.bind_eq_some_iff.mp h
  cases s₅ with
  | nil => cases h
  | cons mark s₆ =>
      dsimp only at h
      split at h
      next hmark =>
        obtain ⟨_, ⟨⟩, h⟩ := Option.bind_eq_some_iff.mp h
        obtain ⟨⟨hour, s₇⟩, hhour, h⟩ := Option.bind_eq_some_iff.mp h
        obtain ⟨⟨_, s₈⟩, hcolon, h⟩ := Option.bind_eq_some_iff.mp h
        obtain ⟨⟨minute, s₉⟩, hminute, h⟩ := Option.bind_eq_some_iff.mp h
        obtain ⟨⟨_, s₁₀⟩, hcolon', h⟩ := Option.bind_eq_some_iff.mp h
        obtain ⟨⟨second, s₁₁⟩, hsecond, h⟩ := Option.bind_eq_some_iff.mp h
        obtain ⟨⟨nanos, s₁₂⟩, hfraction, h⟩ := Option.bind_eq_some_iff.mp h
        obtain ⟨⟨seconds, s₁₃⟩, hoffset, h⟩ := Option.bind_eq_some_iff.mp h
        obtain ⟨date, hdate, h⟩ := Option.bind_eq_some_iff.mp h
        obtain ⟨d, hclock, h⟩ := Option.bind_eq_some_iff.mp h
        simp only [Option.ite_none_right_eq_some, Option.some.injEq, List.isEmpty_iff] at h
        obtain ⟨rfl, rfl⟩ := h
        obtain ⟨hvalid, rfl⟩ := dateOf_eq_some.mp hdate
        let f : Fields := ⟨⟨year, month, day⟩, hour, minute, second, nanos, seconds⟩
        have isYear : ∃ piece, s = piece ++ s₁ ∧ IsFourDigitYear f.date.year piece := by
          obtain ⟨piece, hpiece, hnumeral⟩ := reads_number 4 4 hyear
          exact ⟨piece, hpiece, year, rfl, hnumeral⟩
        obtain ⟨datePiece, rfl, isDate⟩ := exists_isDate isYear hhyphen (reads_number 2 2 hmonth)
          hhyphen' (reads_number 2 2 hday)
        obtain ⟨clockPiece, rfl, isClock⟩ := exists_isClock (f := f) (reads_number 2 2) hhour hcolon
          hminute hcolon' hsecond hfraction
        obtain ⟨zone, rfl, isOffset, hday⟩ := reads_offset hoffset
        refine ⟨f, d, ?_, ⟨hvalid, hclock, isClock.nanos_lt, hday⟩, rfl⟩
        rw [List.append_nil]
        exact .withOffset isDate hmark isClock isOffset
      next => cases h

theorem IsDate.one {Year : ℤ → List Char → Prop} {Month : ℕ → List Char → Prop} {d : Date}
    (h : IsDate Year Month (IsShort least) d s) (hleast : 1 ≤ least) :
    IsDate Year Month (IsShort 1) d s := by
  obtain ⟨year, month, day, hs, hyear, hmonth, hday⟩ := h
  exact ⟨year, month, day, hs, hyear, hmonth, hday.one hleast⟩

/-- Without blanks in front of separators each of these is one character. -/
theorem separator_eq_expect {form : DateTimeForm} (hgaps : form.gaps = false) (c : Char) :
    form.separator c = expect c := by
  funext s
  simp only [DateTimeForm.separator, DateTimeForm.skip, hgaps, Bool.false_eq_true, if_false]

/-- A lenient date, whose day has two digits when a digit follows it. -/
theorem exists_isDate_of_date {form : DateTimeForm} (hgaps : form.gaps = false) {year : ℤ}
    {month day : ℕ} (h : form.date s = some ((year, month, day), rest)) :
    ∃ least piece, s = piece ++ rest ∧ 1 ≤ least ∧
      IsDate IsLenientYear (IsShort 1) (IsShort least) ⟨year, month, day⟩ piece ∧
      (least = 2 ∨ NoDigitFirst rest) := by
  simp only [DateTimeForm.date, separator_eq_expect hgaps, Option.bind_eq_bind,
    Option.bind_eq_some_iff, Prod.exists] at h
  obtain ⟨year, s₁, hyear, _, s₂, hhyphen, month, s₃, hmonth, _, s₄, hhyphen', day, s₅, hday,
    heq⟩ := h
  cases heq
  obtain ⟨least, piece, hpiece, hleast, hshort, hfull⟩ := reads_shortNumber hday
  obtain ⟨datePiece, hs, isDate⟩ := exists_isDate (d := ⟨year, month, day⟩)
    (reads_signedYear hyear) hhyphen (reads_short hmonth) hhyphen' ⟨piece, hpiece, hshort⟩
  exact ⟨least, datePiece, hs, hleast, isDate, hfull⟩

/-- A date and a time without an offset, with what stands between them. -/
theorem exists_parts_of_readDateTime {form : DateTimeForm} (hgaps : form.gaps = false)
    {d : DateTime} (h : readDateTime form s = some d) :
    ∃ f least date behind clock, s = date ++ behind ∧ 1 ≤ least ∧
      IsDate IsLenientYear (IsShort 1) (IsShort least) f.date date ∧
      (least = 2 ∨ NoDigitFirst behind) ∧ form.between behind = some ((), clock) ∧
      IsClock (IsShort 1) f clock ∧ f.Shows d ∧ f.offset = 0 := by
  obtain ⟨⟨⟨year, month, day⟩, s₁⟩, hdate, h⟩ := Option.bind_eq_some_iff.mp h
  obtain ⟨⟨_, s₂⟩, hbetween, h⟩ := Option.bind_eq_some_iff.mp h
  obtain ⟨⟨hour, s₃⟩, hhour, h⟩ := Option.bind_eq_some_iff.mp h
  obtain ⟨⟨_, s₄⟩, hcolon, h⟩ := Option.bind_eq_some_iff.mp h
  obtain ⟨⟨minute, s₅⟩, hminute, h⟩ := Option.bind_eq_some_iff.mp h
  obtain ⟨⟨_, s₆⟩, hcolon', h⟩ := Option.bind_eq_some_iff.mp h
  obtain ⟨⟨second, s₇⟩, hsecond, h⟩ := Option.bind_eq_some_iff.mp h
  obtain ⟨⟨nanos, s₈⟩, hfraction, h⟩ := Option.bind_eq_some_iff.mp h
  obtain ⟨date, hvalid, h⟩ := Option.bind_eq_some_iff.mp h
  obtain ⟨d, hclock, h⟩ := Option.bind_eq_some_iff.mp h
  rw [separator_eq_expect hgaps] at hcolon hcolon'
  simp only [DateTimeForm.skip, hgaps, Bool.false_eq_true, if_false,
    Option.ite_none_right_eq_some, Option.some.injEq, List.isEmpty_iff] at h
  obtain ⟨rfl, rfl⟩ := h
  obtain ⟨hvalid, rfl⟩ := dateOf_eq_some.mp hvalid
  let f : Fields := ⟨⟨year, month, day⟩, hour, minute, second, nanos, 0⟩
  obtain ⟨least, datePiece, hs, hleast, isDate, hfull⟩ := exists_isDate_of_date hgaps hdate
  obtain ⟨clockPiece, hs₂, isClock⟩ := exists_isClock (f := f) reads_short hhour hcolon hminute
    hcolon' hsecond hfraction
  rw [List.append_nil] at hs₂
  obtain rfl : s₂ = clockPiece := hs₂
  exact ⟨f, least, datePiece, s₁, s₂, hs, hleast, isDate, hfull, hbetween, isClock,
    ⟨hvalid, hclock, isClock.nanos_lt, Nat.zero_lt_succ _⟩, rfl⟩

/-- The form with the mark `T` reads only texts that name a date-time with one. -/
theorem exists_names_of_readMarked {d : DateTime} (h : readDateTime .marked s = some d) :
    ∃ f, Names .marked s f ∧ f.Shows d ∧ f.offset = 0 := by
  obtain ⟨f, least, date, behind, clock, rfl, hleast, isDate, -, hbetween, isClock, hshows,
    hoffset⟩ := exists_parts_of_readDateTime rfl h
  obtain ⟨_, rfl, rfl⟩ := reads_expect 'T' hbetween
  exact ⟨f, .marked (isDate.one hleast) isClock hoffset, hshows, hoffset⟩

/-- Without blanks in front of it a time begins with a digit. -/
theorem IsClock.exists_isDigit {f : Fields} (h : IsClock (IsShort 1) f (Text.trimStart s)) :
    ∃ c ∈ (Text.trimStart s).head?, c.isDigit := by
  obtain ⟨_, minute, second, fraction, hs, ⟨blanks, digits, rfl, hblanks, hnumeral⟩, -⟩ := h
  cases blanks with
  | cons c blanks =>
      -- The blanks in front have been passed over before.
      have hnot := List.head?_dropWhile_not Text.isBlank s
      rw [show s.dropWhile Text.isBlank = _ from hs] at hnot
      exact absurd (hblanks c List.mem_cons_self) (Bool.eq_false_iff.mp hnot)
  | nil =>
      cases digits with
      | nil => exact absurd hnumeral.least_le (by decide)
      | cons c digits => exact ⟨c, by rw [hs]; rfl, hnumeral.digits c List.mem_cons_self⟩

/-- The form with blanks reads only texts that name a date-time with a gap, which may be
empty behind a day of two digits. -/
theorem exists_names_of_readSpaced {d : DateTime} (h : readDateTime .spaced s = some d) :
    ∃ f, Names .spaced s f ∧ f.Shows d ∧ f.offset = 0 := by
  obtain ⟨f, least, date, behind, clock, rfl, hleast, isDate, hfull, hbetween, isClock, hshows,
    hoffset⟩ := exists_parts_of_readDateTime rfl h
  cases hbetween
  obtain ⟨gap, hbehind, hgap⟩ := exists_blanks behind
  -- A day of one digit ends in front of no digit, as the hour would begin with.
  have htwo : gap = [] → least = 2 := by
    rintro rfl
    obtain ⟨c, hc, hdigit⟩ := isClock.exists_isDigit
    rw [List.nil_append] at hbehind
    rw [← hbehind] at hc
    exact hfull.resolve_right fun hstop => hstop c hc hdigit
  rw [hbehind]
  exact ⟨f, .spaced hleast isDate hgap htwo isClock hoffset, hshows, hoffset⟩

/-- The form without a time reads only texts that name a date. -/
theorem exists_names_of_readDate {date : Date} (h : readDate s = some date) :
    ∃ f, Names .dateAlone s f ∧ f.Shows (.midnight date) ∧ f.offset = 0 := by
  simp only [readDate, Option.bind_eq_bind, Option.bind_eq_some_iff, Prod.exists,
    Option.ite_none_right_eq_some, Option.some.injEq, List.isEmpty_iff] at h
  obtain ⟨year, month, day, s₁, hdate, date, hvalid, rfl, rfl⟩ := h
  obtain ⟨hvalid, rfl⟩ := dateOf_eq_some.mp hvalid
  obtain ⟨least, datePiece, rfl, hleast, isDate, -⟩ := exists_isDate_of_date rfl hdate
  rw [List.append_nil]
  exact ⟨⟨_, 0, 0, 0, 0, 0⟩, .dateAlone (isDate.one hleast),
    ⟨hvalid, by simp [DateTime.atClock, DateTime.midnight], Nat.zero_lt_succ _,
      Nat.zero_lt_succ _⟩, rfl⟩

/-- A text as an instant in one of the forms. -/
def Form.read (s : List Char) : Form → Option Timestamp
  | withOffset => readOffsetForm s
  | marked => (readDateTime .marked s).map .ofDateTime
  | spaced => (readDateTime .spaced s).map .ofDateTime
  | dateAlone => (readDate s).map fun d => .ofDateTime (.midnight d)

/-- **A text that is read in a form is written in it**, and the instant is that of the date-time
that the fields show, with their offset. -/
theorem exists_names_of_read {form : Form} {t : Timestamp} (h : form.read s = some t) :
    ∃ f d, Names form s f ∧ f.Shows d ∧ t = .ofLocal d f.offset := by
  have hlenient : ∀ {f d}, Names form s f ∧ f.Shows d ∧ f.offset = 0 →
      ∃ f d', Names form s f ∧ f.Shows d' ∧ Timestamp.ofDateTime d = .ofLocal d' f.offset := by
    rintro f d ⟨hnames, hshows, hoffset⟩
    exact ⟨f, d, hnames, hshows, by rw [hoffset]; rfl⟩
  cases form with
  | withOffset => exact exists_names_of_readOffsetForm h
  | marked =>
      obtain ⟨d, hread, rfl⟩ := Option.map_eq_some_iff.mp h
      obtain ⟨f, hf⟩ := exists_names_of_readMarked hread
      exact hlenient hf
  | spaced =>
      obtain ⟨d, hread, rfl⟩ := Option.map_eq_some_iff.mp h
      obtain ⟨f, hf⟩ := exists_names_of_readSpaced hread
      exact hlenient hf
  | dateAlone =>
      obtain ⟨date, hread, rfl⟩ := Option.map_eq_some_iff.mp h
      obtain ⟨f, hf⟩ := exists_names_of_readDate hread
      exact hlenient hf

end Calendar

end RecordQuery
