import Mathlib.Algebra.GroupWithZero.Nat
import RecordQuery.Calendar.Reading
import RecordQuery.Coercion

/-!
# Numerals

Numbers are written in decimal in two ways: as plain integers and, in dates, as
digits padded to a width.  Both are read back as what they were written from.

* A plain integer is read by trying the signed words first, so that an unsigned
  word may come back as a signed one.  Nothing that a literal is converted to
  tells the two apart (`Number.exists_readNumber?_text`).
* A padded number is read by a scanner of the same width, which stops where its
  digits end (`Calendar.number_padded`).
-/

namespace RecordQuery

/-! ## Blanks -/

namespace Text

/-- Text without blanks is left as it is. -/
theorem trimStart_eq_self {s : List Char} (h : ∀ c ∈ s, isBlank c = false) :
    trimStart s = s := by
  cases s with
  | nil => rfl
  | cons c s =>
      rw [trimStart, List.dropWhile_cons_of_neg]
      rw [h c List.mem_cons_self]
      exact Bool.false_ne_true

theorem trim_eq_self {s : List Char} (h : ∀ c ∈ s, isBlank c = false) : trim s = s := by
  have hreverse : ∀ c ∈ s.reverse, isBlank c = false := fun c hc => h c (List.mem_reverse.mp hc)
  rw [trim, trimStart_eq_self h, trimStart_eq_self hreverse, List.reverse_reverse]

/-- Digits are no blanks. -/
theorem isBlank_of_isDigit {c : Char} (h : c.isDigit) : isBlank c = false := by
  have hrange : 48 ≤ c.toNat ∧ c.toNat ≤ 57 := by
    simpa [Char.isDigit, UInt32.le_iff_toNat_le] using h
  simp only [isBlank, Bool.or_eq_false_iff, Bool.and_eq_false_iff, decide_eq_false_iff_not,
    beq_eq_false_iff_ne]
  omega

end Text

/-! ## Plain integers -/

namespace Reading

/-- Digits that were written for a number have it as their value. -/
theorem naturalValue_toDigits (n : Nat) : naturalValue (Nat.toDigits 10 n) = n :=
  Nat.ofDigitChars_ten_toDigits

theorem isDigit_of_mem_toDigits {n : Nat} {c : Char} (h : c ∈ Nat.toDigits 10 n) : c.isDigit :=
  Nat.isDigit_of_mem_toDigits (by decide) (by decide) h

/-- Digits are read as their value, if there are any. -/
theorem readNatural_of_isDigit {s : List Char} (hne : s ≠ []) (h : ∀ c ∈ s, c.isDigit) :
    readNatural s = some (naturalValue s) := by
  have hdigits : s.all Char.isDigit := List.all_eq_true.mpr h
  rw [readNatural, hdigits, List.isEmpty_eq_false_iff.mpr hne]
  rfl

/-- **A natural number is read back from its digits.** -/
theorem readNatural_toDigits (n : Nat) : readNatural (Nat.toDigits 10 n) = some n := by
  rw [readNatural_of_isDigit Nat.toDigits_ne_nil fun c => isDigit_of_mem_toDigits,
    naturalValue_toDigits]

/-- Digits begin with no sign. -/
theorem splitSign_of_isDigit {s : List Char} (h : ∀ c ∈ s, c.isDigit) :
    splitSign s = (none, s) := by
  unfold splitSign
  split
  · exact absurd (h _ List.mem_cons_self) (by decide)
  · exact absurd (h _ List.mem_cons_self) (by decide)
  · rfl

/-- Digits are read without a sign. -/
theorem splitSign_toDigits (n : Nat) :
    splitSign (Nat.toDigits 10 n) = (none, Nat.toDigits 10 n) :=
  splitSign_of_isDigit fun _ => isDigit_of_mem_toDigits

theorem toList_toString_natCast (n : Nat) : (toString (n : Int)).toList = Nat.toDigits 10 n := by
  rw [Int.toString_eq_repr, Int.repr_eq_if, if_pos (Int.natCast_nonneg n), Int.toNat_natCast,
    Nat.toList_repr]

theorem toList_toString_negSucc (n : Nat) :
    (toString (Int.negSucc n)).toList = '-' :: Nat.toDigits 10 (n + 1) := by
  rw [Int.toString_eq_repr, Int.repr_eq_if, if_neg (Int.not_le.mpr (Int.negSucc_lt_zero n)),
    String.toList_append, Nat.toList_repr]
  rfl

/-- **An integer is read from its own text.** -/
theorem readInteger_toString (n : Int) : readInteger (toString n).toList = some n := by
  cases n with
  | ofNat n =>
      rw [Int.ofNat_eq_natCast, toList_toString_natCast, readInteger, splitSign_toDigits]
      simp only [readNatural_toDigits]
      rfl
  | negSucc n =>
      rw [toList_toString_negSucc, readInteger, splitSign]
      simp only [readNatural_toDigits]
      rfl

/-- An integer is read back from its text as a signed word, if it is one. -/
theorem readSigned_toString (n : Int) : readSigned (toString n).toList = signed64? n := by
  rw [readSigned, readInteger_toString]

/-- A natural number is read back from its text as an unsigned word, if it is one. -/
theorem readUnsigned_toString_natCast (n : Nat) :
    readUnsigned (toString (n : Int)).toList = unsigned64? n := by
  rw [toList_toString_natCast, readUnsigned, splitSign_toDigits]
  simp only [readNatural_toDigits]

end Reading

/-- There are no blanks in the text of an integer. -/
theorem isBlank_of_mem_toString {n : Int} {c : Char} (h : c ∈ (toString n).toList) :
    Text.isBlank c = false := by
  cases n with
  | ofNat n =>
      rw [Int.ofNat_eq_natCast, Reading.toList_toString_natCast] at h
      exact Text.isBlank_of_isDigit (Reading.isDigit_of_mem_toDigits h)
  | negSucc n =>
      rw [Reading.toList_toString_negSucc] at h
      rcases List.mem_cons.mp h with rfl | h
      · decide
      · exact Text.isBlank_of_isDigit (Reading.isDigit_of_mem_toDigits h)

/-! ## Padded numbers -/

namespace Date

variable {width n : Nat}

theorem isDigit_of_mem_padded {c : Char} (h : c ∈ padded width n) : c.isDigit := by
  rcases List.mem_append.mp h with h | h
  · rw [List.eq_of_mem_replicate h]
    rfl
  · exact Reading.isDigit_of_mem_toDigits h

/-- Padding makes a number as wide as it should be, unless it is wider. -/
theorem length_padded (hwidth : 0 < width) (h : n < 10 ^ width) :
    (padded width n).length = width := by
  have hle : (Nat.toDigits 10 n).length ≤ width :=
    (Nat.length_toDigits_le_iff (by decide) hwidth).mpr h
  rw [padded, List.length_append, List.length_replicate, Nat.sub_add_cancel hle]

/-- The zeros in front do not count. -/
theorem naturalValue_padded (width n : Nat) : Reading.naturalValue (padded width n) = n := by
  change Nat.ofDigitChars 10 (padded width n) 0 = n
  rw [padded, Nat.ofDigitChars_append, Nat.ofDigitChars_replicate_zero, Nat.mul_zero,
    Nat.ofDigitChars_ten_toDigits]

end Date

namespace Calendar

/-- A scanner takes all the digits in front of a text, unless they are more than it
may take. -/
theorem number_append {least most : Nat} {digits rest : List Char}
    (hdigits : ∀ c ∈ digits, c.isDigit) (hleast : least ≤ digits.length)
    (hmost : digits.length ≤ most)
    (hrest : (rest.take (most - digits.length)).takeWhile Char.isDigit = []) :
    number least most (digits ++ rest) = some (Reading.naturalValue digits, rest) := by
  have hfront : ((digits ++ rest).take most).takeWhile Char.isDigit = digits := by
    rw [List.take_append, List.take_of_length_le hmost, List.takeWhile_append_of_pos hdigits,
      hrest, List.append_nil]
  simp only [number, hfront]
  rw [if_neg (Nat.not_lt.mpr hleast), List.drop_left]
  rfl

/-- **A padded number is read by a scanner of its width.** -/
theorem number_padded {width n : Nat} (hwidth : 0 < width) (h : n < 10 ^ width)
    (rest : List Char) : number width width (Date.padded width n ++ rest) = some (n, rest) := by
  have hlength := Date.length_padded hwidth h
  have hstop : (rest.take (width - (Date.padded width n).length)).takeWhile Char.isDigit = [] := by
    rw [hlength, Nat.sub_self]
    rfl
  rw [number_append (fun c => Date.isDigit_of_mem_padded) (Nat.le_of_eq hlength.symm)
    (Nat.le_of_eq hlength) hstop, Date.naturalValue_padded]

end Calendar

/-! ## Words -/

theorem leastSigned64_le (n : Int64) : leastSigned64 ≤ n.toInt :=
  Int64.le_toInt n

theorem le_greatestSigned64 (n : Int64) : n.toInt ≤ greatestSigned64 :=
  Int.le_of_lt_add_one (Int64.toInt_lt n)

theorem signed64?_toInt (n : Int64) : signed64? n.toInt = some n := by
  rw [signed64?, if_pos ⟨leastSigned64_le n, le_greatestSigned64 n⟩, Int64.ofInt_toInt]

/-- A word is not changed by saturating. -/
theorem saturate64_toInt (n : Int64) : saturate64 n.toInt = n := by
  rw [saturate64, Int.min_eq_right (le_greatestSigned64 n), Int.max_eq_right (leastSigned64_le n),
    Int64.ofInt_toInt]

/-- A word that an integer fits into stands for the integer. -/
theorem toInt_of_signed64?_eq_some {i : Int} {n : Int64} (h : signed64? i = some n) :
    n.toInt = i := by
  unfold signed64? at h
  split at h
  · next hbounds =>
      cases h
      exact Int64.toInt_ofInt_of_le hbounds.1 (Int.lt_add_one_of_le hbounds.2)
  · cases h

theorem unsigned64?_toNat (n : UInt64) : unsigned64? n.toNat = some n := by
  rw [unsigned64?, if_pos ⟨Int.natCast_nonneg _, Int.ofNat_lt.mpr n.toNat_lt⟩, Int.toNat_natCast,
    UInt64.ofNat_toNat]

namespace Number

/-- A number of an integer kind and its value. -/
inductive IsInteger : Number → Int → Prop
  | signed (n : Int64) : IsInteger (.signed n) n.toInt
  | unsigned (n : UInt64) : IsInteger (.unsigned n) n.toNat

variable {n n' : Number} {i : Int}

/-- A number that stands for an integer counts as it. -/
theorem IsInteger.integral?_eq (h : n.IsInteger i) : n.integral? = some i := by
  cases h <;> rfl

theorem IsInteger.toFloat_eq (h : n.IsInteger i) : n.toFloat = .ofInt i := by
  cases h <;> rfl

/-- The text of a number that stands for an integer is that of the integer. -/
theorem IsInteger.text_eq (h : n.IsInteger i) : n.text = toString i := by
  cases h with
  | signed n => rfl
  | unsigned n => rfl

/-- Its JSON form is that of the integer, too, and does not tell words apart. -/
theorem IsInteger.toJson_eq (h : n.IsInteger i) : n.toJson = .integer i := by
  cases h <;> rfl

/-- Numbers of both integer kinds are read from the text of an integer, the signed
kind first. -/
theorem IsInteger.exists_readNumber? (h : n.IsInteger i) :
    ∃ n', Scalar.readNumber? (toString i).toList = some n' ∧ n'.IsInteger i := by
  unfold Scalar.readNumber?
  rw [Reading.readSigned_toString]
  cases h with
  | signed n =>
      rw [signed64?_toInt]
      exact ⟨_, rfl, .signed n⟩
  | unsigned n =>
      rw [Reading.readUnsigned_toString_natCast, unsigned64?_toNat]
      cases hsigned : signed64? n.toNat with
      | none => exact ⟨_, rfl, .unsigned n⟩
      | some m =>
          refine ⟨_, rfl, ?_⟩
          rw [← toInt_of_signed64?_eq_some hsigned]
          exact .signed m

end Number

/-- No scalar type tells a signed number from an unsigned one of the same value. -/
theorem Scalar.ofNumber?_congr {n n' : Number} {i : Int} (s : Scalar) (h : n.IsInteger i)
    (h' : n'.IsInteger i) : s.ofNumber? n = s.ofNumber? n' := by
  unfold ofNumber?
  rw [h.integral?_eq, h'.integral?_eq, h.toFloat_eq, h'.toFloat_eq, h.text_eq, h'.text_eq]

end RecordQuery
