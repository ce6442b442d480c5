import Mathlib.Data.List.TakeWhile
import RecordQuery.Proofs.IntegerCoercion
import RecordQuery.Proofs.Rounding

/-!
# Texts of integers

An integer is spelled with digits behind an optional sign, and may have blanks around it
(`IntegerText`).  A text that spells an integer is read as a signed word, else as an unsigned
one, and only an integer beyond both kinds of words is read as a floating-point number.

What the rounding does there is seen from the two ends of the words:

* from `2 ^ 64` on, and below `-2 ^ 64`, no integer is rounded to one of a word, since its
  leading digit stays where it is;
* below the least signed word the gap between two floating-point numbers is 2048, and the
  upper half of the gap is rounded to the least signed word itself.

So a text is converted to the integer it spells, or refused, except in that half of one gap,
where the signed 64-bit types have their least integer (`coerce_integerText`,
`below_least_signed_accepted`).
-/

namespace RecordQuery

/-! ## Spelling -/

/-- The sign of a number as it is spelled; `true` is the minus sign. -/
def signText : Option Bool → List Char
  | none => []
  | some false => ['+']
  | some true => ['-']

/-- A text that spells an integer: digits, with an optional sign in front and blanks on both
sides. -/
structure IntegerText where
  before : List Char
  sign : Option Bool
  digits : List Char
  after : List Char
  isBlank_before : ∀ c ∈ before, Text.isBlank c
  isBlank_after : ∀ c ∈ after, Text.isBlank c
  isDigit_digits : ∀ c ∈ digits, c.isDigit
  digits_ne_nil : digits ≠ []

namespace IntegerText

/-- The sign and the digits. -/
def numeral (s : IntegerText) : List Char :=
  signText s.sign ++ s.digits

/-- The whole text. -/
def text (s : IntegerText) : String :=
  String.ofList (s.before ++ s.numeral ++ s.after)

/-- The number that the digits spell. -/
def size (s : IntegerText) : ℕ :=
  Nat.ofDigitChars 10 s.digits 0

/-- The number is less than zero, or spelled as if it were. -/
def negative (s : IntegerText) : Bool :=
  s.sign.getD false

/-- The integer that the text spells. -/
def value (s : IntegerText) : ℤ :=
  withSign s.negative s.size

end IntegerText

namespace Text

theorem trimStart_append {s r : List Char} (h : ∀ c ∈ s, isBlank c) :
    trimStart (s ++ r) = trimStart r :=
  List.dropWhile_append_of_pos h

/-- Only what has a blank at an end is changed by trimming. -/
theorem trimStart_append_of_ne_nil {s r : List Char} (hs : s ≠ [])
    (h : ∀ c ∈ s, isBlank c = false) : trimStart (s ++ r) = s ++ r := by
  cases s with
  | nil => exact absurd rfl hs
  | cons c s =>
      rw [trimStart, List.cons_append, List.dropWhile_cons_of_neg]
      rw [h c List.mem_cons_self]
      exact Bool.false_ne_true

/-- Blanks on both sides of a text without blanks are what is trimmed. -/
theorem trim_append {before s after : List Char} (hs : s ≠ [])
    (hbefore : ∀ c ∈ before, isBlank c) (h : ∀ c ∈ s, isBlank c = false)
    (hafter : ∀ c ∈ after, isBlank c) : trim (before ++ s ++ after) = s := by
  have hreverse : ∀ c ∈ s.reverse, isBlank c = false := fun c hc => h c (List.mem_reverse.mp hc)
  rw [trim, List.append_assoc, trimStart_append hbefore, trimStart_append_of_ne_nil hs h,
    List.reverse_append, trimStart_append fun c hc => hafter c (List.mem_reverse.mp hc),
    trimStart_eq_self hreverse, List.reverse_reverse]

end Text

/-! ## Reading -/

namespace Reading

variable {digits : List Char}

/-- Digits do not look like a sign, so that the sign is read off as it was written. -/
theorem splitSign_signText (sign : Option Bool) (h : ∀ c ∈ digits, c.isDigit) :
    splitSign (signText sign ++ digits) = (sign, digits) := by
  match sign with
  | none => exact splitSign_of_isDigit h
  | some false => rfl
  | some true => rfl

/-- **A sign and digits are read as the integer they are written for**, leading zeros
included. -/
theorem readInteger_signText (sign : Option Bool) (hne : digits ≠ [])
    (h : ∀ c ∈ digits, c.isDigit) :
    readInteger (signText sign ++ digits) =
      some (withSign (sign.getD false) (naturalValue digits)) := by
  rw [readInteger, splitSign_signText sign h]
  rcases sign with _ | _ | _ <;> simp [readNatural_of_isDigit hne h, withSign]

/-- A minus refuses every unsigned word, that of minus zero too. -/
theorem readUnsigned_signText (sign : Option Bool) (hne : digits ≠ [])
    (h : ∀ c ∈ digits, c.isDigit) :
    readUnsigned (signText sign ++ digits) =
      if sign.getD false then none else unsigned64? (naturalValue digits) := by
  rw [readUnsigned, splitSign_signText sign h]
  rcases sign with _ | _ | _ <;> simp [readNatural_of_isDigit hne h]

/-- A text of digits is a decimal without a fraction. -/
theorem readDecimal_of_isDigit (hne : digits ≠ []) (h : ∀ c ∈ digits, c.isDigit) :
    readDecimal digits = some ⟨naturalValue digits, 0⟩ := by
  have hwhole : digits.takeWhile Char.isDigit = digits := List.takeWhile_eq_self_iff.mpr h
  have hrest : digits.dropWhile Char.isDigit = [] := List.dropWhile_eq_nil_iff.mpr h
  have hmantissa : readMantissa digits = some (⟨naturalValue digits, 0⟩, []) := by
    simp only [readMantissa, hwhole, hrest, List.isEmpty_eq_false_iff.mpr hne, Bool.false_eq_true,
      if_false]
  rw [readDecimal, hmantissa]
  rfl

theorem toLower_of_isDigit {c : Char} (h : c.isDigit) : c.toLower = c := by
  have hdigit : c.toNat ≤ 57 := (Char.isDigit_iff_toNat.mp h).2
  refine dif_neg fun hcapital => ?_
  have hletter : 65 ≤ c.toNat := UInt32.le_iff_toNat_le.mp hcapital.1
  omega

/-- Digits are none of the words that stand for special numbers, since these all have an `n`. -/
theorem readFloat_signText (sign : Option Bool) (hne : digits ≠ [])
    (h : ∀ c ∈ digits, c.isDigit) :
    readFloat (signText sign ++ digits) =
      some (nearest .double (sign.getD false) ⟨naturalValue digits, 0⟩) := by
  have hword : 'n' ∉ digits.map Char.toLower := by
    intro hmem
    obtain ⟨c, hc, hn⟩ := List.mem_map.mp hmem
    rw [toLower_of_isDigit (h c hc)] at hn
    exact absurd (hn ▸ h c hc) (by decide)
  simp only [readFloat, readFloatAs, splitSign_signText sign h, readDecimal_of_isDigit hne h]
  rw [if_neg, if_neg]
  · rfl
  · intro hnan
    rw [hnan] at hword
    exact hword (by decide)
  · rintro (hinf | hinf) <;> rw [hinf] at hword <;> exact hword (by decide)

/-- An integer of no more than 400 digits is rounded as a ratio; a longer one is too large for
the format. -/
theorem nearest_natural (neg : Bool) {n : ℕ} (hn : n ≠ 0) :
    nearest .double neg ⟨n, 0⟩ =
      if 400 < decimalLength n then .infinity neg else .ofRatio neg n 1 := by
  have htop : ¬ ((0 : ℤ) + decimalLength n < -400) := by omega
  have hgreat : (400 < (0 : ℤ) + decimalLength n) ↔ 400 < decimalLength n := by omega
  have hone : n * Nat.pow 10 0 = n := Nat.mul_one n
  simp only [nearest, if_neg hn, hgreat, if_neg htop]
  split
  · rfl
  · change Binary64.roundTo .double neg (n * Nat.pow 10 0) 1 = _
    rw [hone, Binary64.ofRatio]

end Reading

namespace IntegerText

variable (s : IntegerText)

theorem isBlank_of_mem_numeral {c : Char} (hc : c ∈ s.numeral) : Text.isBlank c = false := by
  have hsign : ∀ sign, ∀ c ∈ signText sign, Text.isBlank c = false := by
    rintro (_ | _ | _) c hc
    · cases hc
    · rw [List.mem_singleton.mp hc]
      rfl
    · rw [List.mem_singleton.mp hc]
      rfl
  rcases List.mem_append.mp hc with h | h
  · exact hsign s.sign c h
  · exact Text.isBlank_of_isDigit (s.isDigit_digits c h)

/-- What stands around an integer is blank and read past. -/
theorem trim_text : Text.trim s.text.toList = s.numeral := by
  have hne : s.numeral ≠ [] := List.append_ne_nil_of_right_ne_nil _ s.digits_ne_nil
  rw [text, String.toList_ofList]
  exact Text.trim_append hne s.isBlank_before (fun c => s.isBlank_of_mem_numeral) s.isBlank_after

/-- As a signed word the text is its integer, if the word can hold it. -/
theorem readSigned_numeral : Reading.readSigned s.numeral = signed64? s.value := by
  have hread : Reading.readInteger s.numeral = some s.value :=
    Reading.readInteger_signText s.sign s.digits_ne_nil s.isDigit_digits
  rw [Reading.readSigned, hread]

/-- As an unsigned word the text is its integer, if there is no minus and the word can hold
it. -/
theorem readUnsigned_numeral :
    Reading.readUnsigned s.numeral = if s.negative then none else unsigned64? s.size :=
  Reading.readUnsigned_signText s.sign s.digits_ne_nil s.isDigit_digits

/-- As a floating-point number the text is what is nearest to its integer. -/
theorem readFloat_numeral :
    Reading.readFloat s.numeral = some (Reading.nearest .double s.negative ⟨s.size, 0⟩) :=
  Reading.readFloat_signText s.sign s.digits_ne_nil s.isDigit_digits

end IntegerText

/-! ## Beyond the words -/

/-- The integers below the least signed word that floating point does not tell from it. -/
def RoundsToLeast (i : ℤ) : Prop :=
  leastSigned64 - 1024 ≤ i ∧ i < leastSigned64

instance (i : ℤ) : Decidable (RoundsToLeast i) :=
  inferInstanceAs (Decidable (_ ∧ _))

/-- The integers that a signed or an unsigned word has. -/
def InWords (i : ℤ) : Prop :=
  leastSigned64 ≤ i ∧ i < UInt64.size

instance (i : ℤ) : Decidable (InWords i) :=
  inferInstanceAs (Decidable (_ ∧ _))

section Rounding

variable {m : ℕ}

/-- No integer of more than 64 digits is rounded to one below the bound. -/
theorem integral?_nearest_of_size_le (neg : Bool) (hm : UInt64.size ≤ m) :
    (Number.float (Reading.nearest .double neg ⟨m, 0⟩)).integral? = none := by
  rw [Option.eq_none_iff_forall_ne_some]
  intro j hj
  obtain ⟨hinteger, hbound⟩ := Number.integral?_float_eq_some_iff.mp hj
  rw [Reading.nearest_natural neg (by unfold UInt64.size at hm; omega)] at hinteger
  split at hinteger
  · rw [Binary64.integer?_infinity] at hinteger
    cases hinteger
  · have hlarge : Nat.pow 2 64 ≤ j.natAbs :=
      Binary64.pow_le_natAbs_of_integer?_ofRatio (by decide) hm hinteger
    exact absurd (Nat.lt_of_le_of_lt hlarge hbound) (by decide)

/-- An integer of 64 digits is rounded to a multiple of 2048. -/
theorem integer?_nearest_of_lt_size (neg : Bool) (hleast : Nat.pow 2 63 ≤ m)
    (hm : m < UInt64.size) :
    (Reading.nearest .double neg ⟨m, 0⟩).integer? =
      some (withSign neg (roundHalfEven m 2048 * 2048)) := by
  have hexcess : HasExcess m 11 := ⟨hleast, hm⟩
  have hlength : decimalLength m ≤ 20 :=
    (Nat.length_toDigits_le_iff (by decide) (by decide)).mpr (Nat.lt_trans hm (by decide))
  rw [Reading.nearest_natural neg (Nat.lt_of_lt_of_le (by decide) hleast).ne', if_neg (by omega)]
  obtain ⟨-, habsurd⟩ | hsome := Binary64.integer?_ofRatio neg hexcess
  · exact absurd habsurd (by decide)
  · exact hsome

end Rounding

/-- What a number counts as that was read from the text of an integer. -/
structure Number.IsReadingOf (n : Number) (i : ℤ) : Prop where
  integral?_of_inWords : InWords i → n.integral? = some i
  integral?_of_roundsToLeast : RoundsToLeast i → n.integral? = some leastSigned64
  not_inWords : ¬ InWords i → ¬ RoundsToLeast i → ∀ j, n.integral? = some j → ¬ InWords j

namespace Number

variable {i : ℤ} {m : ℕ} {neg : Bool}

/-- A number that is the integer itself counts as such. -/
theorem isReadingOf_of_inWords {n : Number} (h : n.IsInteger i) (hi : InWords i) :
    n.IsReadingOf i where
  integral?_of_inWords _ := h.integral?_eq
  integral?_of_roundsToLeast hleast := absurd hi.1 (Int.not_le.mpr hleast.2)
  not_inWords hnot := absurd hi hnot

theorem isReadingOf_signed (h : leastSigned64 ≤ i ∧ i ≤ greatestSigned64) :
    (Number.signed (.ofInt i)).IsReadingOf i := by
  have hinteger := IsInteger.signed (.ofInt i)
  rw [toInt_ofInt h] at hinteger
  exact isReadingOf_of_inWords hinteger ⟨h.1, Int.lt_of_le_of_lt h.2 (by decide)⟩

theorem isReadingOf_unsigned (hm : m < UInt64.size) :
    (Number.unsigned (.ofNat m)).IsReadingOf m := by
  have hinteger := IsInteger.unsigned (.ofNat m)
  rw [UInt64.toNat_ofNat_of_lt' hm] at hinteger
  have hleast : leastSigned64 ≤ m := Int.le_trans (by decide) (Int.natCast_nonneg m)
  exact isReadingOf_of_inWords hinteger ⟨hleast, Int.ofNat_lt.mpr hm⟩

/-- From the size of the words on the nearest floating-point number counts as no integer. -/
theorem isReadingOf_nearest_of_size_le (hm : UInt64.size ≤ m) :
    (Number.float (Reading.nearest .double neg ⟨m, 0⟩)).IsReadingOf (withSign neg m) := by
  have hnone := integral?_nearest_of_size_le neg hm
  have houtside : ¬ InWords (withSign neg m) ∧ ¬ RoundsToLeast (withSign neg m) := by
    unfold InWords RoundsToLeast leastSigned64 withSign
    unfold UInt64.size at *
    cases neg <;> simp <;> omega
  exact
    { integral?_of_inWords := fun h => absurd h houtside.1
      integral?_of_roundsToLeast := fun h => absurd h houtside.2
      not_inWords := fun _ _ j hj => by rw [hnone] at hj; cases hj }

/-- Half of the gap below the least signed word is rounded to it, and the rest to the other end
of the gap or below. -/
theorem isReadingOf_nearest_of_lt_size (hleast : Nat.pow 2 63 < m) (hm : m < UInt64.size) :
    (Number.float (Reading.nearest .double true ⟨m, 0⟩)).IsReadingOf (withSign true m) := by
  have hvalue : withSign true m = -(m : ℤ) := rfl
  have hleading : Nat.pow 2 63 = 4503599627370496 * 2048 := by decide
  have hword : leastSigned64 = -(Nat.pow 2 63 : ℤ) := by decide
  have hinteger := integer?_nearest_of_lt_size true hleast.le hm
  refine ⟨fun h => ?_, fun h => ?_, fun _ hround j hj => ?_⟩
  · have hle := h.1
    omega
  · have hle := h.1
    have hhalf : roundHalfEven m 2048 = 4503599627370496 :=
      roundHalfEven_eq_of_even (by decide) (by decide) (by omega) (by omega)
    rw [hhalf] at hinteger
    exact integral?_float_eq_some_iff.mpr ⟨hinteger, by decide⟩
  · have hhalf : 4503599627370496 < roundHalfEven m 2048 := by
      unfold RoundsToLeast at hround
      exact lt_roundHalfEven (by decide) (by omega) (by omega)
    rw [integral?_float_eq_some_iff, hinteger, Option.some.injEq, withSign, if_pos rfl] at hj
    rintro ⟨hle, -⟩
    omega

end Number

namespace IntegerText

/-- A text below the signed words is read as a floating-point number. -/
theorem readNumber?_numeral_of_negative (s : IntegerText) (hneg : s.negative)
    (h : signed64? s.value = none) :
    Scalar.readNumber? s.numeral = some (.float (Reading.nearest .double true ⟨s.size, 0⟩)) := by
  rw [Scalar.readNumber?, s.readSigned_numeral, h, s.readUnsigned_numeral, if_pos hneg,
    s.readFloat_numeral, hneg]
  rfl

/-- A text above the signed words is read as an unsigned word, if there is one. -/
theorem readNumber?_numeral_of_not_negative (s : IntegerText) (hneg : s.negative = false)
    (h : signed64? s.value = none) :
    Scalar.readNumber? s.numeral =
      some (if s.size < UInt64.size then .unsigned (.ofNat s.size)
        else .float (Reading.nearest .double false ⟨s.size, 0⟩)) := by
  have hbounds : (0 ≤ (s.size : ℤ) ∧ (s.size : ℤ) < UInt64.size) ↔ s.size < UInt64.size := by omega
  rw [Scalar.readNumber?, s.readSigned_numeral, h, s.readUnsigned_numeral, hneg,
    if_neg Bool.false_ne_true, unsigned64?, s.readFloat_numeral, hneg]
  simp only [hbounds, Int.toNat_natCast]
  by_cases hsize : s.size < UInt64.size
  · rw [if_pos hsize, if_pos hsize]
  · rw [if_neg hsize, if_neg hsize]
    rfl

/-- **The text of an integer is read as a number that counts as this integer**, as far as the
words go. -/
theorem exists_readNumber? (s : IntegerText) :
    ∃ n, Scalar.readNumber? s.numeral = some n ∧ n.IsReadingOf s.value := by
  by_cases hsigned : leastSigned64 ≤ s.value ∧ s.value ≤ greatestSigned64
  · refine ⟨.signed (.ofInt s.value), ?_, Number.isReadingOf_signed hsigned⟩
    rw [Scalar.readNumber?, s.readSigned_numeral, signed64?, if_pos hsigned]
  have hread : signed64? s.value = none := if_neg hsigned
  cases hneg : s.negative with
  | true =>
      have hvalue : s.value = withSign true s.size := by rw [value, hneg]
      refine ⟨_, s.readNumber?_numeral_of_negative hneg hread, ?_⟩
      rw [hvalue] at hsigned ⊢
      rcases Nat.lt_or_ge s.size UInt64.size with hlt | hge
      · refine Number.isReadingOf_nearest_of_lt_size ?_ hlt
        have hpow : Nat.pow 2 63 = 9223372036854775808 := rfl
        unfold leastSigned64 greatestSigned64 withSign at hsigned
        rw [if_pos rfl] at hsigned
        omega
      · exact Number.isReadingOf_nearest_of_size_le hge
  | false =>
      have hvalue : s.value = withSign false s.size := by rw [value, hneg]
      refine ⟨_, s.readNumber?_numeral_of_not_negative hneg hread, ?_⟩
      rw [hvalue]
      split
      next hlt => exact Number.isReadingOf_unsigned hlt
      next hge => exact Number.isReadingOf_nearest_of_size_le (Nat.not_lt.mp hge)

end IntegerText

/-! ## Coercion -/

namespace IntegerKind

variable {k : IntegerKind} {i : ℤ}

/-- The integers of every type are integers of some word. -/
theorem inWords_of_contains (h : k.Contains i) : InWords i := by
  by_cases hsigned : k.signed
  · obtain ⟨hleast, hgreatest⟩ := bounds_of_signed hsigned h
    exact ⟨hleast, Int.lt_of_le_of_lt hgreatest (by decide)⟩
  · obtain ⟨hnonneg, hlt⟩ := bounds_of_unsigned hsigned h
    exact ⟨Int.le_trans (by decide) hnonneg, hlt⟩

/-- The least signed word belongs to the types that have it as their least integer. -/
theorem contains_leastSigned64_iff : k.Contains leastSigned64 ↔ k.least = leastSigned64 := by
  constructor
  · intro h
    exact Int.le_antisymm h.1 (inWords_of_contains k.contains_least).1
  · intro h
    exact h ▸ k.contains_least

end IntegerKind

namespace Number

variable {k : IntegerKind} {n : Number} {i : ℤ}

/-- What was read from an integer of the type becomes its word. -/
theorem IsReadingOf.ofNumber?_of_contains (h : n.IsReadingOf i) (hi : k.Contains i) :
    (Scalar.integer k).ofNumber? n = some (k.word i) := by
  rw [Scalar.ofNumber?_integer (h.integral?_of_inWords (IntegerKind.inWords_of_contains hi)),
    if_pos hi]

/-- What was rounded to the least signed word becomes that word, in the types that have it.
-/
theorem IsReadingOf.ofNumber?_of_roundsToLeast (h : n.IsReadingOf i) (hround : RoundsToLeast i)
    (hk : k.least = leastSigned64) :
    (Scalar.integer k).ofNumber? n = some (k.word leastSigned64) := by
  rw [Scalar.ofNumber?_integer (h.integral?_of_roundsToLeast hround),
    if_pos (IntegerKind.contains_leastSigned64_iff.mpr hk)]

/-- Nothing else becomes a word of the type. -/
theorem IsReadingOf.ofNumber?_eq_none (h : n.IsReadingOf i) (hi : ¬ k.Contains i)
    (hround : ¬ (RoundsToLeast i ∧ k.least = leastSigned64)) :
    (Scalar.integer k).ofNumber? n = none := by
  cases hn : n.integral? with
  | none => exact Scalar.ofNumber?_integer_eq_none hn
  | some j =>
      rw [Scalar.ofNumber?_integer hn, if_neg]
      intro hj
      by_cases hwords : InWords i
      · rw [h.integral?_of_inWords hwords, Option.some.injEq] at hn
        exact hi (hn ▸ hj)
      by_cases hleast : RoundsToLeast i
      · rw [h.integral?_of_roundsToLeast hleast, Option.some.injEq] at hn
        exact hround ⟨hleast, IntegerKind.contains_leastSigned64_iff.mp (hn ▸ hj)⟩
      · exact h.not_inWords hwords hleast j hn (IntegerKind.inWords_of_contains hj)

end Number

/-- An integer field takes the number that it reads between the blanks. -/
theorem IntegerText.exists_ofText? (s : IntegerText) (k : IntegerKind) :
    ∃ n, n.IsReadingOf s.value ∧
      (Scalar.integer k).ofText? s.text = (Scalar.integer k).ofNumber? n := by
  obtain ⟨n, hread, hn⟩ := s.exists_readNumber?
  refine ⟨n, hn, ?_⟩
  change (Scalar.readNumber? (Text.trim s.text.toList)).bind (Scalar.integer k).ofNumber? = _
  rw [s.trim_text, hread, Option.bind_some]

/-- **The text of an integer becomes this integer in every type that has it**, and has no
counterpart in the others.  The exception are the integers just below the signed words, which
become the least of them. -/
theorem coerce_integerText {k : IntegerKind} {t : FieldType} {value : Literal} (s : IntegerText)
    (hvalue : value = .string s.text ∨ value = .json (.string s.text))
    (hscalar : t.scalar = .integer k) (ht : t.sequence = false) :
    (k.Contains s.value → ∃ v, coerce value t = .ok v ∧ k.Stores v s.value) ∧
      (RoundsToLeast s.value ∧ k.least = leastSigned64 →
        ∃ v, coerce value t = .ok v ∧ k.Stores v leastSigned64) ∧
      (¬ k.Contains s.value → ¬ (RoundsToLeast s.value ∧ k.least = leastSigned64) →
        coerce value t = .error (.coercion value (.integer k))) := by
  obtain ⟨n, hn, htext⟩ := s.exists_ofText? k
  have hnull : value.isNull = false := by rcases hvalue with rfl | rfl <;> rfl
  have hliteral : t.scalar.ofLiteral? value = (Scalar.integer k).ofNumber? n := by
    rw [hscalar, ← htext]
    rcases hvalue with rfl | rfl <;> rfl
  refine ⟨fun hi => ⟨k.word s.value, ?_, IntegerKind.stores_word hi⟩, ?_, fun hi hround => ?_⟩
  · exact coerce_eq_ok_of_ofLiteral? hnull ht (hliteral.trans (hn.ofNumber?_of_contains hi))
  · rintro ⟨hround, hk⟩
    have hleast := IntegerKind.contains_leastSigned64_iff.mpr hk
    exact ⟨k.word leastSigned64,
      coerce_eq_ok_of_ofLiteral? hnull ht (hliteral.trans (hn.ofNumber?_of_roundsToLeast hround hk)),
      IntegerKind.stores_word hleast⟩
  · rw [← hscalar]
    exact coerce_eq_error_of_ofLiteral? hnull ht (hliteral.trans (hn.ofNumber?_eq_none hi hround))

/-- The least signed byte, with zeros and blanks that do not count. -/
def paddedLeastByte : IntegerText where
  before := ['\t']
  sign := some true
  digits := ['0', '0', '1', '2', '8']
  after := [' ', '\n']
  isBlank_before := List.all_eq_true.mp (by decide)
  isBlank_after := List.all_eq_true.mp (by decide)
  isDigit_digits := List.all_eq_true.mp (by decide)
  digits_ne_nil := by decide

/-- The padded text becomes the least integer of a nullable field of bytes. -/
theorem coerce_integerText_paddedLeastByte :
    (FieldType.plain (.integer ⟨true, .w8⟩)).asNullable.scalar = .integer ⟨true, .w8⟩ ∧
      (FieldType.plain (.integer ⟨true, .w8⟩)).asNullable.sequence = false ∧
      ∃ v, coerce (.json (.string paddedLeastByte.text))
          (FieldType.plain (.integer ⟨true, .w8⟩)).asNullable = .ok v ∧
        IntegerKind.Stores ⟨true, .w8⟩ v (-128) :=
  ⟨rfl, rfl, (coerce_integerText paddedLeastByte (.inr rfl) rfl rfl).1 (by decide)⟩

/-- The integer one below the least signed word. -/
def oneBelowLeast : IntegerText where
  before := []
  sign := some true
  digits := ['9', '2', '2', '3', '3', '7', '2', '0', '3', '6', '8', '5', '4', '7', '7', '5', '8',
    '0', '9']
  after := []
  isBlank_before := List.all_eq_true.mp (by decide)
  isBlank_after := List.all_eq_true.mp (by decide)
  isDigit_digits := List.all_eq_true.mp (by decide)
  digits_ne_nil := by decide

/-- The integer one below the least signed word is none of the signed words, and its text becomes
the least of them. -/
theorem below_least_signed_accepted :
    oneBelowLeast.text = "-9223372036854775809" ∧
      oneBelowLeast.value = -9223372036854775809 ∧
      ¬ IntegerKind.Contains ⟨true, .w64⟩ oneBelowLeast.value ∧
      coerce (.string oneBelowLeast.text) (.plain (.integer ⟨true, .w64⟩)) =
        .ok (.number (.signed (.ofInt (-9223372036854775808)))) := by
  refine ⟨rfl, by decide, by decide, ?_⟩
  obtain ⟨n, hn, htext⟩ := oneBelowLeast.exists_ofText? ⟨true, .w64⟩
  refine coerce_eq_ok_of_ofLiteral? rfl rfl (htext.trans ?_)
  exact hn.ofNumber?_of_roundsToLeast (by decide) rfl

end RecordQuery
