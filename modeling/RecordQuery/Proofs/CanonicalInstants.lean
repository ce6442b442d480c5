import RecordQuery.Proofs.Comparisons
import RecordQuery.Proofs.Milliseconds
import RecordQuery.Proofs.ReadInstants

/-!
# Canonical instants

Seconds and nanoseconds are compared one after the other, which is chronological only if no
timestamp has a whole second among its nanoseconds.  Each way to make a timestamp ends in the
carry of `Timestamp.make`, and the carry keeps the instant unless the seconds stop at the
greatest one (`Timestamp.instant_make_iff`).  So what is left to see for each of them is the
sum that is carried: milliseconds are divided toward the past, the second 60 is another second
of nanoseconds, and the seconds of a supported date are far from the limits.

`Timestamp.constructions_canonical` puts these together.  For a text the instant is that of the
fields it is written with (`Calendar.Fields.instant`).
-/

namespace RecordQuery

/-! ## Days -/

namespace Date

/-- The days of the supported years, with room to spare. -/
theorem dayNumber_bounds {d : Date} (h : d.Valid) :
    -100000000 < d.dayNumber ∧ d.dayNumber < 100000000 := by
  obtain ⟨hfirst, hlast, -, hmonth, -, hday⟩ := h
  have hbefore := daysBeforeYear_mono hfirst
  have hafter := daysBeforeYear_mono hlast
  have hfirstDay : daysBeforeYear firstYear = -95746130 := by decide
  have hlastDay : daysBeforeYear lastYear = 95745034 := by decide
  have hmonths : ∀ leap, ∀ month : Fin 13, daysBeforeMonth leap month ≤ 366 := by decide
  have hmonthDays := hmonths (isLeap d.year) ⟨d.month, Nat.lt_succ_of_le hmonth⟩
  have hdays := monthLength_le (isLeap d.year) (d.month - 1)
  dsimp only at hmonthDays
  unfold dayNumber epochDays
  omega

end Date

namespace DateTime

/-- A date-time that exists, in which a second can be prolonged by another one. -/
structure Valid (d : DateTime) : Prop where
  date : d.date.Valid
  secondOfDay : d.secondOfDay < secondsPerDay
  nanos : d.nanos < 2 * nanosPerSecond

/-- The nanoseconds from the start of 1970 to a date-time in UTC. -/
def instant (d : DateTime) : ℤ :=
  (d.date.dayNumber * 86400 + d.secondOfDay) * 1000000000 + d.nanos

/-- The time of a date-time is the one on the clock, and its second can be prolonged by the
second 60. -/
theorem atClock_eq_some {date : Date} {hour minute second nanos : ℕ} {d : DateTime}
    (h : atClock date hour minute second nanos = some d) :
    hour < 24 ∧ minute < 60 ∧ second ≤ 60 ∧ d.date = date ∧ d.secondOfDay < secondsPerDay ∧
      d.nanos ≤ 1000000000 + nanos ∧
      d.secondOfDay * 1000000000 + d.nanos =
        (hour * 3600 + minute * 60 + second) * 1000000000 + nanos := by
  unfold atClock at h
  unfold secondsPerDay
  split at h
  next hrange =>
    split at h
    next hsixty =>
      cases h
      refine ⟨hrange.1, hrange.2.1, hrange.2.2, rfl, ?_⟩
      unfold nanosPerSecond
      dsimp only
      omega
    next hsixty =>
      cases h
      refine ⟨hrange.1, hrange.2.1, hrange.2.2, rfl, ?_⟩
      dsimp only
      omega
  next => cases h

end DateTime

namespace Timestamp

/-! ## Equality and order -/

/-- Seconds and nanoseconds are the instant, divided toward the past. -/
theorem secs_nanos_eq (t : Timestamp) :
    t.secs.toInt = t.instant / 1000000000 ∧ (t.nanos : ℤ) = t.instant % 1000000000 := by
  have hnanos := t.nanos_lt
  unfold instant
  omega

/-- **An instant determines its timestamp**: there is one pair of seconds and nanoseconds
for it. -/
theorem eq_iff_instant {s t : Timestamp} : s = t ↔ s.instant = t.instant := by
  rw [← order_eq_eq_iff, order_eq_compare_instant, Std.compare_eq_iff_eq]

/-! ## The carry -/

variable {secs : Int64} {nanos : ℕ}

/-- Nanoseconds past a second are carried, so that less than one remains. -/
theorem nanos_make (secs : Int64) (nanos : ℕ) :
    ((make secs nanos).nanos : ℤ) = (secs.toInt * 1000000000 + nanos) % 1000000000 := by
  rw [make]
  dsimp only
  omega

/-- The seconds take what is carried, up to the greatest of 64 bits. -/
theorem secs_make (secs : Int64) (nanos : ℕ) :
    (make secs nanos).secs.toInt =
      min greatestSigned64 ((secs.toInt * 1000000000 + nanos) / 1000000000) := by
  have hleast := leastSigned64_le secs
  rw [make, toInt_saturate64]
  unfold leastSigned64 greatestSigned64 at *
  omega

/-- The carry is exact unless the seconds stop at the greatest one. -/
theorem instant_make_iff :
    (make secs nanos).instant = secs.toInt * 1000000000 + nanos ↔
      (secs.toInt * 1000000000 + nanos) / 1000000000 ≤ greatestSigned64 := by
  have hnanos := nanos_make secs nanos
  have hsecs := secs_make secs nanos
  unfold instant
  omega

/-! ## Constructions -/

/-- No number of milliseconds is too large: its instant is exact. -/
theorem instant_ofMillis (millis : Int64) :
    (ofMillis millis).instant = millis.toInt * 1000000 := by
  rw [instant, secs_ofMillis, nanos_ofMillis]
  omega

/-- The instant of a civil date-time is exact: its seconds are far from the limits. -/
theorem instant_ofLocal {d : DateTime} (hd : d.Valid) {offset : ℤ}
    (hoffset : offset.natAbs < 86400) :
    (ofLocal d offset).instant = d.instant - offset * 1000000000 := by
  obtain ⟨hfirst, hlast⟩ := Date.dayNumber_bounds hd.date
  have hsecond := hd.secondOfDay
  have hnanos := hd.nanos
  have hsecs : (Int64.ofInt (d.date.dayNumber * 86400 + d.secondOfDay - offset)).toInt =
      d.date.dayNumber * 86400 + d.secondOfDay - offset := by
    refine toInt_ofInt ?_
    unfold leastSigned64 greatestSigned64 DateTime.secondsPerDay at *
    omega
  rw [ofLocal, instant_make_iff.mpr, hsecs, DateTime.instant]
  · omega
  · rw [hsecs]
    unfold greatestSigned64 DateTime.secondsPerDay DateTime.nanosPerSecond at *
    omega

/-- A valid date-time becomes the timestamp of its own instant, a leap second that of the
second after it. -/
theorem instant_ofDateTime {d : DateTime} (hd : d.Valid) : (ofDateTime d).instant = d.instant := by
  rw [ofDateTime, instant_ofLocal hd (by decide)]
  omega

theorem instant_midnight {date : Date} (hdate : date.Valid) :
    (ofDateTime (.midnight date)).instant = date.dayNumber * 86400 * 1000000000 := by
  rw [instant_ofDateTime ⟨hdate, Nat.zero_lt_succ _, Nat.zero_lt_succ _⟩]
  simp [DateTime.instant, DateTime.midnight]

end Timestamp

/-! ## Written instants -/

namespace Calendar.Fields

variable {f : Fields} {d : DateTime}

/-- The date exists, the clock shows the time, with a second 60 at most, and the offset is less
than a day. -/
structure Valid (f : Fields) : Prop where
  date : f.date.Valid
  hour : f.hour < 24
  minute : f.minute < 60
  second : f.second ≤ 60
  nanos : f.nanos < 1000000000
  offset : f.offset.natAbs < 86400

/-- The nanoseconds from the start of 1970 in UTC to the time on a clock with an offset. -/
def instant (f : Fields) : ℤ :=
  (f.date.dayNumber * 86400 + f.hour * 3600 + f.minute * 60 + f.second - f.offset) * 1000000000 +
    f.nanos

theorem Shows.valid (h : f.Shows d) : f.Valid := by
  obtain ⟨hhour, hminute, hsecond, -⟩ := DateTime.atClock_eq_some h.clock
  exact ⟨h.date, hhour, hminute, hsecond, h.nanos, h.offset⟩

/-- Valid fields show a date-time. -/
theorem Valid.exists_shows (h : f.Valid) : ∃ d, f.Shows d := by
  have hclock : ∃ d, DateTime.atClock f.date f.hour f.minute f.second f.nanos = some d := by
    rw [DateTime.atClock, if_pos ⟨h.hour, h.minute, h.second⟩]
    split
    · exact ⟨_, rfl⟩
    · exact ⟨_, rfl⟩
  obtain ⟨d, hd⟩ := hclock
  exact ⟨d, h.date, hd, h.nanos, h.offset⟩

/-- The instant of the date-time that fields show is theirs, less the offset. -/
theorem Shows.instant_ofLocal (h : f.Shows d) :
    (Timestamp.ofLocal d f.offset).instant = f.instant := by
  obtain ⟨-, -, -, hdate, hday, hnanos, hsum⟩ := DateTime.atClock_eq_some h.clock
  have hlt := h.nanos
  unfold DateTime.nanosPerSecond at hlt
  have hvalid : d.Valid := by
    refine ⟨by rw [hdate]; exact h.date, hday, ?_⟩
    unfold DateTime.nanosPerSecond
    omega
  rw [Timestamp.instant_ofLocal hvalid h.offset, DateTime.instant, instant, hdate]
  omega

end Calendar.Fields

namespace Timestamp

/-- A text is read as the instant of the fields that it is written with. -/
theorem parse?_eq_some_iff_instant {text : String} {t : Timestamp} :
    parse? text = some t ↔ ∃ form f, Calendar.Names form (Text.trim text.toList) f ∧ f.Valid ∧
      t.instant = f.instant := by
  rw [parse?_eq_some_iff]
  constructor
  · rintro ⟨form, f, d, hnames, hshows, rfl⟩
    exact ⟨form, f, hnames, hshows.valid, hshows.instant_ofLocal⟩
  · rintro ⟨form, f, hnames, hvalid, hinstant⟩
    obtain ⟨d, hshows⟩ := hvalid.exists_shows
    exact ⟨form, f, d, hnames, hshows,
      eq_iff_instant.mpr (hinstant.trans hshows.instant_ofLocal.symm)⟩

/-- **Timestamps are canonical.**  However one is made, it has the instant that it is made of,
in nanoseconds since 1970, which may lie before: a second with any nanoseconds unless the
seconds stop at the greatest one, milliseconds, a date-time with a prolonged second or without,
a date, and a text, whose fields may show the second 60.  The seconds and nanoseconds of a
timestamp are its instant divided toward the past, so it is equal to another one exactly when
their instants are, and they have the order of the instants. -/
theorem constructions_canonical :
    (∀ (secs : Int64) (nanos : ℕ),
      let i := secs.toInt * 1000000000 + nanos
      let t := make secs nanos
      t.secs.toInt = min greatestSigned64 (i / 1000000000) ∧ (t.nanos : ℤ) = i % 1000000000 ∧
        (t.instant = i ↔ i / 1000000000 ≤ greatestSigned64)) ∧
    (∀ millis : Int64, (ofMillis millis).instant = millis.toInt * 1000000) ∧
    (∀ d : DateTime, d.Valid → (ofDateTime d).instant = d.instant) ∧
    (∀ date : Date, date.Valid →
      (ofDateTime (.midnight date)).instant = date.dayNumber * 86400 * 1000000000) ∧
    (∀ text t, parse? text = some t ↔
      ∃ form f, Calendar.Names form (Text.trim text.toList) f ∧ f.Valid ∧ t.instant = f.instant) ∧
    (∀ t : Timestamp, t.nanos < 1000000000 ∧ t.secs.toInt = t.instant / 1000000000 ∧
      (t.nanos : ℤ) = t.instant % 1000000000) ∧
    ∀ s t : Timestamp, (s = t ↔ s.instant = t.instant) ∧
      s.order t = compare s.instant t.instant :=
  ⟨fun secs nanos => ⟨secs_make secs nanos, nanos_make secs nanos, instant_make_iff⟩,
    instant_ofMillis, fun _ => instant_ofDateTime, fun _ => instant_midnight,
    fun _ _ => parse?_eq_some_iff_instant, fun t => ⟨t.nanos_lt, t.secs_nanos_eq⟩,
    fun s t => ⟨eq_iff_instant, s.order_eq_compare_instant t⟩⟩

/-- A quarter of a second behind the second 60, an hour ahead of UTC, before 1970. -/
theorem constructions_canonical_leapSecond :
    let text := "1969-12-31T23:59:60.25+01:00"
    let t : Timestamp := { secs := -3600, nanos := 250000000 }
    let d : DateTime := ⟨⟨1969, 12, 31⟩, 82799, 1250000000⟩
    parse? text = some t ∧ d.Valid ∧ ofDateTime d = t ∧ make (-3601) 1250000000 = t ∧
      ofMillis (-3599750) = t ∧
      ∃ form f, Calendar.Names form (Text.trim text.toList) f ∧ f.Valid ∧
        f.instant = -3599750000000 := by
  intro text t d
  obtain ⟨hmake, hmillis, hdateTime, -, hparse, -, hequal⟩ := constructions_canonical
  have hread : parse? text = some t := by decide +kernel
  have hvalid : d.Valid := ⟨by decide, by decide, by decide⟩
  have hinstant : t.instant = -3599750000000 := by decide
  obtain ⟨form, f, hnames, hf, heq⟩ := (hparse text t).mp hread
  refine ⟨hread, hvalid, (hequal _ t).1.mpr ?_, (hequal _ t).1.mpr ?_, (hequal _ t).1.mpr ?_,
    form, f, hnames, hf, heq.symm.trans hinstant⟩
  · rw [hdateTime d hvalid, hinstant]
    decide
  · rw [(hmake (-3601) 1250000000).2.2.mpr (by decide), hinstant]
    decide
  · rw [hmillis, hinstant]
    decide

end Timestamp

end RecordQuery
