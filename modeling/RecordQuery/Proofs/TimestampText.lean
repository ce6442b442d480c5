import RecordQuery.Proofs.Calendar
import RecordQuery.Proofs.Numerals

/-!
# Timestamps by their text

The text of a timestamp whose year has four digits is the one form that is read
first: fields of fixed width with an offset.  Reading follows the text field by
field (`Calendar.readOffsetForm_text`) and gives back the day, the second of the
day and the nanoseconds that were written; the day number of the date and the
carry of the nanoseconds then add up to the instant (`Timestamp.parse?_text`).
-/

namespace RecordQuery

/-! ## Instants -/

namespace Timestamp

/-- Less than a second is not carried. -/
theorem make_of_lt {secs : Int64} {nanos : Nat} (h : nanos < 1000000000) :
    make secs nanos = ⟨secs, nanos, h⟩ := by
  have hcarry : saturate64 (secs.toInt + (nanos / 1000000000 : Nat)) = secs := by
    rw [Nat.div_eq_of_lt h, Int.natCast_zero, Int.add_zero, saturate64_toInt]
  simp only [make, hcarry, Nat.mod_eq_of_lt h]

/-- The year in UTC. -/
def utcYear (t : Timestamp) : Int :=
  (Date.ofDayNumber (t.secs.toInt / 86400)).year

/-- The civil date-time in UTC. -/
def civil (t : Timestamp) : DateTime :=
  ⟨Date.ofDayNumber (t.secs.toInt / 86400), (t.secs.toInt % 86400).toNat, t.nanos⟩

theorem toDateTime?_eq_civil {t : Timestamp} (h : t.civil.date.Valid) :
    t.toDateTime? = some t.civil :=
  if_pos h

/-- An instant is that of its civil date-time. -/
theorem ofDateTime_civil (t : Timestamp) : ofDateTime t.civil = t := by
  have hsecs : t.civil.date.dayNumber * 86400 + t.civil.secondOfDay - 0 = t.secs.toInt := by
    rw [civil, Date.dayNumber_ofDayNumber]
    dsimp only
    omega
  rw [ofDateTime, ofLocal, hsecs, Int64.ofInt_toInt]
  exact make_of_lt t.nanos_lt

end Timestamp

/-! ## Reading fields -/

namespace Calendar

/-- A scan that succeeds hands its result on. -/
theorem bind_of_eq_some {α β : Type} {x : Option α} {f : α → Option β} {a : α} {y : Option β}
    (hx : x = some a) (hf : f a = y) : (x >>= f) = y := by
  rw [hx]
  exact hf

theorem expect_cons (c : Char) (rest : List Char) : expect c (c :: rest) = some ((), rest) :=
  if_pos rfl

theorem offset_utc : offset ['Z'] = some (0, []) := rfl

theorem fraction_padded {width n : Nat} (hwidth : 0 < width) (hnine : width ≤ 9)
    (h : n < 10 ^ width) (rest : List Char) :
    fraction ('.' :: (Date.padded width n ++ 'Z' :: rest)) =
      some (n * 10 ^ (9 - width), 'Z' :: rest) := by
  have hlength := Date.length_padded hwidth h
  have hstop : (('Z' :: rest).take (9 - (Date.padded width n).length)).takeWhile
      Char.isDigit = [] := by
    cases 9 - (Date.padded width n).length <;> rfl
  have hnumber : number 1 9 (Date.padded width n ++ 'Z' :: rest) = some (n, 'Z' :: rest) := by
    rw [number_append (fun c => Date.isDigit_of_mem_padded) (by omega) (by omega) hstop,
      Date.naturalValue_padded]
  have hread : (Date.padded width n ++ 'Z' :: rest).length - ('Z' :: rest).length = width := by
    rw [List.length_append, hlength, Nat.add_sub_cancel]
  simp only [fraction, hnumber, hread]
  rfl

/-- A fraction is read as the nanoseconds it was written from, in whichever of its
widths. -/
theorem fraction_fractionText {nanos : Nat} (h : nanos < 1000000000) (rest : List Char) :
    fraction (DateTime.fractionText nanos ++ 'Z' :: rest) = some (nanos, 'Z' :: rest) := by
  unfold DateTime.fractionText
  split
  · next hzero =>
      rw [hzero]
      rfl
  · split
    · next hmillis =>
        rw [List.cons_append, fraction_padded (by decide) (by decide) (by omega)]
        congr 2
        omega
    · split
      · next hmicros =>
          rw [List.cons_append, fraction_padded (by decide) (by decide) (by omega)]
          congr 2
          omega
      · rw [List.cons_append, fraction_padded (by decide) (by decide) h]
        congr 2
        exact Nat.mul_one nanos

theorem dateOf_of_valid {d : Date} (h : d.Valid) : dateOf d.year d.month d.day = some d :=
  if_pos h

/-- A second of the day is the hour, minute and second on the clock. -/
theorem atClock_of_second {second : Nat} (h : second < DateTime.secondsPerDay) (date : Date)
    (nanos : Nat) :
    DateTime.atClock date (second / 3600) (second / 60 % 60) (second % 60) nanos =
      some ⟨date, second, nanos⟩ := by
  rw [DateTime.secondsPerDay] at h
  rw [DateTime.atClock, if_pos ⟨by omega, by omega, by omega⟩, if_neg (by omega)]
  congr 2
  omega

/-- The fields of a date-time of a year of four digits, in the order in which they
are read. -/
theorem text_eq_fields {date : Date} {second nanos : Nat} (hfirst : 0 ≤ date.year)
    (hlast : date.year ≤ 9999) (hnanos : nanos < DateTime.nanosPerSecond) :
    DateTime.text ⟨date, second, nanos⟩ ++ ['Z'] =
      Date.padded 4 date.year.toNat ++ '-' :: (Date.padded 2 date.month ++ '-' ::
        (Date.padded 2 date.day ++ 'T' :: (Date.padded 2 (second / 3600) ++ ':' ::
          (Date.padded 2 (second / 60 % 60) ++ ':' :: (Date.padded 2 (second % 60) ++
            (DateTime.fractionText nanos ++ ['Z'])))))) := by
  simp only [DateTime.text, Date.text, Date.yearText, DateTime.clockText,
    if_pos (And.intro hfirst hlast), if_neg (Nat.not_le.mpr hnanos), List.append_assoc,
    List.cons_append]

/-- **A date-time of a year of four digits is read from its text**, as an instant in
UTC. -/
theorem readOffsetForm_text {date : Date} {second nanos : Nat} (hdate : date.Valid)
    (hfirst : 0 ≤ date.year) (hlast : date.year ≤ 9999)
    (hsecond : second < DateTime.secondsPerDay) (hnanos : nanos < DateTime.nanosPerSecond) :
    readOffsetForm (DateTime.text ⟨date, second, nanos⟩ ++ ['Z']) =
      some (.ofDateTime ⟨date, second, nanos⟩) := by
  have hmonth : date.month < 10 ^ 2 := by
    have := hdate.2.2.2.1
    omega
  have hday : date.day < 10 ^ 2 := by
    have := Date.monthLength_le (Date.isLeap date.year) (date.month - 1)
    have := hdate.2.2.2.2.2
    omega
  have hhour : second / 3600 < 10 ^ 2 := by
    rw [DateTime.secondsPerDay] at hsecond
    omega
  have hminute : second / 60 % 60 < 10 ^ 2 := by omega
  have hsixty : second % 60 < 10 ^ 2 := by omega
  have htwo : ∀ {n : Nat} (rest : List Char), n < 10 ^ 2 →
      number 2 2 (Date.padded 2 n ++ rest) = some (n, rest) :=
    fun rest h => number_padded (by decide) h rest
  have hdateOf : dateOf date.year.toNat date.month date.day = some date := by
    rw [Int.toNat_of_nonneg hfirst, dateOf_of_valid hdate]
  -- Each field stands in front of what the scanner of the field before it leaves.
  rw [text_eq_fields hfirst hlast hnanos, readOffsetForm]
  refine bind_of_eq_some (number_padded (by decide) (by omega) _) ?_
  refine bind_of_eq_some (expect_cons '-' _) ?_
  refine bind_of_eq_some (htwo _ hmonth) ?_
  refine bind_of_eq_some (expect_cons '-' _) ?_
  refine bind_of_eq_some (htwo _ hday) ?_
  refine (if_pos (rfl : isDateTimeMark 'T' = true)).trans ?_
  refine bind_of_eq_some rfl ?_
  refine bind_of_eq_some (htwo _ hhour) ?_
  refine bind_of_eq_some (expect_cons ':' _) ?_
  refine bind_of_eq_some (htwo _ hminute) ?_
  refine bind_of_eq_some (expect_cons ':' _) ?_
  refine bind_of_eq_some (htwo _ hsixty) ?_
  refine bind_of_eq_some (fraction_fractionText hnanos []) ?_
  refine bind_of_eq_some offset_utc ?_
  refine bind_of_eq_some hdateOf ?_
  exact bind_of_eq_some (atClock_of_second hsecond date nanos) rfl

end Calendar

/-! ## Texts -/

theorem Date.isBlank_of_mem_padded {width n : Nat} {c : Char} (h : c ∈ padded width n) :
    Text.isBlank c = false :=
  Text.isBlank_of_isDigit (isDigit_of_mem_padded h)

namespace DateTime

theorem isBlank_of_mem_fractionText (nanos : Nat) :
    ∀ c ∈ fractionText nanos, Text.isBlank c = false := by
  have hpoint : ∀ width n, ∀ c ∈ '.' :: Date.padded width n, Text.isBlank c = false :=
    fun width n => List.forall_mem_cons.mpr ⟨rfl, fun c => Date.isBlank_of_mem_padded⟩
  unfold fractionText
  split
  · exact nofun
  · split
    · exact hpoint _ _
    · split
      · exact hpoint _ _
      · exact hpoint _ _

theorem isBlank_of_mem_yearText (year : Int) :
    ∀ c ∈ Date.yearText year, Text.isBlank c = false := by
  have hpadded : ∀ width n, ∀ c ∈ Date.padded width n, Text.isBlank c = false :=
    fun width n c => Date.isBlank_of_mem_padded
  unfold Date.yearText
  split
  · exact hpadded _ _
  · split
    · exact List.forall_mem_cons.mpr ⟨rfl, hpadded _ _⟩
    · exact List.forall_mem_cons.mpr ⟨rfl, hpadded _ _⟩

/-- No blank is written in a date-time. -/
theorem isBlank_of_mem_text (d : DateTime) : ∀ c ∈ d.text ++ ['Z'], Text.isBlank c = false := by
  have hpadded : ∀ width n, ∀ c ∈ Date.padded width n, Text.isBlank c = false :=
    fun width n c => Date.isBlank_of_mem_padded
  have hclock : ∀ c ∈ d.clockText, Text.isBlank c = false := by
    unfold clockText
    split
    simp only [List.forall_mem_append, List.forall_mem_cons]
    exact ⟨⟨⟨hpadded _ _, rfl, hpadded _ _⟩, rfl, hpadded _ _⟩, isBlank_of_mem_fractionText _⟩
  simp only [text, Date.text, List.forall_mem_append, List.forall_mem_cons]
  exact ⟨⟨⟨⟨isBlank_of_mem_yearText _, rfl, hpadded _ _⟩, rfl, hpadded _ _⟩, rfl, hclock⟩, rfl,
    nofun⟩

end DateTime

namespace Timestamp

/-- **An instant of a year of four digits is read from its own text.** -/
theorem parse?_text {t : Timestamp} (hfirst : 0 ≤ t.utcYear) (hlast : t.utcYear ≤ 9999) :
    parse? t.text = some t := by
  have hvalid : t.civil.date.Valid :=
    Date.valid_ofDayNumber (Int.le_trans (by decide) hfirst) (Int.le_trans hlast (by decide))
  have hsecond : t.civil.secondOfDay < DateTime.secondsPerDay := by
    simp only [civil, DateTime.secondsPerDay]
    omega
  have htext : t.text = String.ofList (t.civil.text ++ ['Z']) := by
    rw [text, toDateTime?_eq_civil hvalid]
  have htrim : Text.trim (t.civil.text ++ ['Z']) = t.civil.text ++ ['Z'] :=
    Text.trim_eq_self (DateTime.isBlank_of_mem_text t.civil)
  have hread : Calendar.readOffsetForm (t.civil.text ++ ['Z']) = some (ofDateTime t.civil) :=
    Calendar.readOffsetForm_text hvalid hfirst hlast hsecond t.nanos_lt
  rw [parse?, htext, String.toList_ofList, htrim, hread, ofDateTime_civil]
  rfl

end Timestamp

end RecordQuery
