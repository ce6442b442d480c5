import RecordQuery.Coercion
import RecordQuery.Proofs.FloatValues
import RecordQuery.Proofs.Numerals

/-!
# Numbers for integer fields

A number is converted to an integer type when its exact value is one of the integers of the
type, and the result is that integer, stored as a signed or an unsigned word
(`coerce_number_integer`).  `IntegerKind.Stores` relates the values of a type to the integers
they hold.  Each integer of the type has a value, since the bounds of every type lie within the
words that it is stored as (`IntegerKind.stores_word`).

Floating-point numbers from the bound on are the exception.  They are integers, but are not
converted, so that the upper half of the unsigned words is out of their reach
(`ten_to_nineteen_refused`).
-/

namespace RecordQuery

/-! ## Integer types -/

theorem Width.count_le (w : Width) : w.count ≤ UInt64.size := by
  cases w <;> decide

theorem Width.two_le_count (w : Width) : 2 ≤ w.count := by
  cases w <;> decide

theorem toInt_ofInt {i : ℤ} (hi : leastSigned64 ≤ i ∧ i ≤ greatestSigned64) :
    (Int64.ofInt i).toInt = i :=
  Int64.toInt_ofInt_of_le hi.1 (Int.lt_add_one_of_le hi.2)

namespace IntegerKind

variable {k : IntegerKind} {i : ℤ}

/-- The integers of the type. -/
def Contains (k : IntegerKind) (i : ℤ) : Prop :=
  k.least ≤ i ∧ i ≤ k.greatest

instance (k : IntegerKind) (i : ℤ) : Decidable (k.Contains i) :=
  inferInstanceAs (Decidable (_ ∧ _))

/-- The values that integer types have, with the integers they hold: signed words for signed
types, unsigned words for the others. -/
inductive Stores (k : IntegerKind) : Value → ℤ → Prop
  | signed (h : k.signed) (w : Int64) : Stores k (.number (.signed w)) w.toInt
  | unsigned (h : ¬ k.signed) (w : UInt64) : Stores k (.number (.unsigned w)) w.toNat

/-- The word for an integer. -/
def word (k : IntegerKind) (i : ℤ) : Value :=
  .number (if k.signed then .signed (.ofInt i) else .unsigned (.ofNat i.toNat))

/-- The integers of a signed type are those of signed words or fewer. -/
theorem bounds_of_signed (h : k.signed) (hi : k.Contains i) :
    leastSigned64 ≤ i ∧ i ≤ greatestSigned64 := by
  have hcount := k.width.count_le
  unfold UInt64.size at *
  obtain ⟨hleast, hgreatest⟩ := hi
  rw [least, if_pos h] at hleast
  rw [greatest, if_pos h] at hgreatest
  unfold leastSigned64 greatestSigned64
  omega

/-- The integers of an unsigned type are those of unsigned words or fewer. -/
theorem bounds_of_unsigned (h : ¬ k.signed) (hi : k.Contains i) :
    0 ≤ i ∧ i < UInt64.size := by
  have hcount := k.width.count_le
  unfold UInt64.size at *
  obtain ⟨hleast, hgreatest⟩ := hi
  rw [least, if_neg h] at hleast
  rw [greatest, if_neg h] at hgreatest
  omega

/-- Every integer of a type is held by its word. -/
theorem stores_word (hi : k.Contains i) : k.Stores (k.word i) i := by
  unfold word
  split
  next hsigned =>
    have hstores := Stores.signed hsigned (.ofInt i)
    rwa [toInt_ofInt (bounds_of_signed hsigned hi)] at hstores
  next hunsigned =>
    obtain ⟨hnonneg, hlt⟩ := bounds_of_unsigned hunsigned hi
    have hstores := Stores.unsigned hunsigned (.ofNat i.toNat)
    rwa [UInt64.toNat_ofNat_of_lt' ((Int.toNat_lt hnonneg).mpr hlt),
      Int.toNat_of_nonneg hnonneg] at hstores

theorem contains_least (k : IntegerKind) : k.Contains k.least := by
  have hcount := k.width.two_le_count
  refine ⟨Int.le_refl _, ?_⟩
  unfold least greatest
  split <;> omega

end IntegerKind

/-! ## Numbers -/

namespace Scalar

variable {k : IntegerKind} {n : Number} {i : ℤ}

/-- A number that counts as an integer becomes the word for it, if the type has it. -/
theorem ofNumber?_integer (hn : n.integral? = some i) :
    (integer k).ofNumber? n = if k.Contains i then some (k.word i) else none := by
  simp only [ofNumber?, hn]
  rfl

theorem ofNumber?_integer_eq_none (hn : n.integral? = none) :
    (integer k).ofNumber? n = none := by
  simp only [ofNumber?, hn]

end Scalar

/-- A number is equal to an integer of a type, and not a floating-point number from the bound
on. -/
structure Number.HasPlace (n : Number) (k : IntegerKind) (i : ℤ) : Prop where
  value?_eq : n.value? = some (i : ℚ)
  contains : k.Contains i
  lt_bound : n.isFloat → i.natAbs < Number.floatIntegerBound

namespace Number

variable {k : IntegerKind} {n : Number} {i : ℤ}

/-- A number that is equal to an integer of the type becomes its word. -/
theorem HasPlace.ofNumber?_eq (h : n.HasPlace k i) :
    (Scalar.integer k).ofNumber? n = some (k.word i) := by
  have hintegral : n.integral? = some i := integral?_eq_some_iff.mpr ⟨h.value?_eq, h.lt_bound⟩
  rw [Scalar.ofNumber?_integer hintegral, if_pos h.contains]

/-- A number that is equal to none is refused, however near it is. -/
theorem ofNumber?_eq_none (h : ∀ i, ¬ n.HasPlace k i) :
    (Scalar.integer k).ofNumber? n = none := by
  cases hintegral : n.integral? with
  | none => exact Scalar.ofNumber?_integer_eq_none hintegral
  | some i =>
      obtain ⟨hvalue, hbound⟩ := integral?_eq_some_iff.mp hintegral
      rw [Scalar.ofNumber?_integer hintegral, if_neg fun hcontains => h i ⟨hvalue, hcontains, hbound⟩]

end Number

/-! ## Coercion -/

section Coercion

variable {value : Literal} {t : FieldType} {v : Value}

theorem Scalar.ofLiteral?_number (s : Scalar) (n : Number) :
    s.ofLiteral? (.number n) = s.ofNumber? n := rfl

/-- A value that is not missing is coerced to a single type as a scalar. -/
theorem coerce_eq_coerceScalar (hnull : value.isNull = false) (ht : t.sequence = false) :
    coerce value t = coerceScalar value t.scalar := by
  simp only [coerce, hnull, ht, Bool.false_eq_true, if_false]

theorem coerce_eq_ok_of_ofLiteral? (hnull : value.isNull = false) (ht : t.sequence = false)
    (hv : t.scalar.ofLiteral? value = some v) : coerce value t = .ok v := by
  rw [coerce_eq_coerceScalar hnull ht, coerceScalar, hv]

theorem coerce_eq_error_of_ofLiteral? (hnull : value.isNull = false) (ht : t.sequence = false)
    (hv : t.scalar.ofLiteral? value = none) :
    coerce value t = .error (.coercion value t.scalar) := by
  rw [coerce_eq_coerceScalar hnull ht, coerceScalar, hv]

end Coercion

/-- **A number becomes the integer of a type that it is equal to**, and has no counterpart
otherwise.  Floating-point numbers from the bound on have none. -/
theorem coerce_number_integer {k : IntegerKind} {t : FieldType} (n : Number)
    (hscalar : t.scalar = .integer k) (ht : t.sequence = false) :
    (∀ i, n.HasPlace k i → ∃ v, coerce (.number n) t = .ok v ∧ k.Stores v i) ∧
      ((∀ i, ¬ n.HasPlace k i) →
        coerce (.number n) t = .error (.coercion (.number n) (.integer k))) := by
  have hnull : (Literal.number n).isNull = false := rfl
  rw [← hscalar]
  constructor
  · intro i h
    refine ⟨k.word i, coerce_eq_ok_of_ofLiteral? hnull ht ?_, IntegerKind.stores_word h.contains⟩
    rw [hscalar, Scalar.ofLiteral?_number, h.ofNumber?_eq]
  · intro h
    refine coerce_eq_error_of_ofLiteral? hnull ht ?_
    rw [hscalar, Scalar.ofLiteral?_number, Number.ofNumber?_eq_none h]

/-- The unsigned 64-bit integers. -/
def IntegerKind.unsigned64 : IntegerKind := ⟨false, .w64⟩

/-- The floating-point number `2 ^ 63` is the first one that only unsigned fields can hold. -/
theorem coerce_number_integer_halfway :
    (FieldType.plain (.integer .unsigned64)).scalar = .integer .unsigned64 ∧
      (FieldType.plain (.integer .unsigned64)).sequence = false ∧
      ∃ v, coerce (.number (.float ⟨0x43E0000000000000⟩)) (.plain (.integer .unsigned64)) = .ok v ∧
        IntegerKind.unsigned64.Stores v 9223372036854775808 := by
  refine ⟨rfl, rfl, (coerce_number_integer _ rfl rfl).1 _ ⟨?_, by decide, fun _ => by decide⟩⟩
  exact Binary64.integer?_eq_some_iff.mp (by decide +kernel)

/-- The number `10 ^ 19` is an unsigned word, and the floating-point number that is equal to it
is refused. -/
theorem ten_to_nineteen_refused :
    (Number.float ⟨0x43E158E460913D00⟩).value? = some ((10000000000000000000 : ℤ) : ℚ) ∧
      IntegerKind.unsigned64.Contains 10000000000000000000 ∧
      coerce (.number (.float ⟨0x43E158E460913D00⟩)) (.plain (.integer .unsigned64)) =
        .error (.coercion (.number (.float ⟨0x43E158E460913D00⟩)) (.integer .unsigned64)) := by
  refine ⟨Binary64.integer?_eq_some_iff.mp (by decide +kernel), by decide, ?_⟩
  refine coerce_eq_error_of_ofLiteral? rfl rfl ?_
  rw [Scalar.ofLiteral?_number]
  exact Scalar.ofNumber?_integer_eq_none (by decide +kernel)

end RecordQuery
