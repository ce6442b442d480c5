import RecordQuery.Proofs.IntegerCoercion
import RecordQuery.Proofs.Kinds
import RecordQuery.Proofs.SingleFormat

/-!
# Operands of a type

Whatever a literal is converted to is a value of the type that was asked for
(`coerce_hasType`): integers within the bounds of the type and stored as its words, numbers
of the 32-bit format for 32-bit fields, variants that the table has, and for a sequence a list
of as many items as the literal.  `Value.hasScalar_of_gives` goes through the values that
conversions give.  The only one that may have no type is the zero of an enumeration without
variants.

Null is always converted, and a sequence fails with the first of its items that does.
-/

namespace RecordQuery

/-! ## Scalars -/

namespace Value

variable {v : Value} {k : IntegerKind} {i : ℤ}

/-- The values of 32-bit fields are NaNs and the numbers of the 32-bit format. -/
theorem hasScalar_single_iff :
    v.HasScalar .single ↔ ∃ x, v = .number (.float x) ∧ (x.isNaN ∨ x.IsSingle) := by
  have hself : ∀ x : Binary64, x.isNaN ∨ x.narrow = x ↔ x.isNaN ∨ x.IsSingle := fun x => by
    rw [Binary64.narrow_eq_self_iff, ← or_assoc, or_self]
  constructor
  · intro h
    cases isKind_of_hasScalar h with
    | float x => exact ⟨x, rfl, (hself x).mp h⟩
  · rintro ⟨x, rfl, hx⟩
    exact (hself x).mpr hx

theorem hasScalar_narrow (x : Binary64) : (number (.float x.narrow)).HasScalar .single := by
  refine hasScalar_single_iff.mpr ⟨x.narrow, rfl, ?_⟩
  by_cases hnan : x.isNaN
  · rw [Binary64.narrow_eq_self_iff.mpr (.inl hnan)]
    exact .inl hnan
  · exact .inr (Binary64.isSingle_narrow hnan)

/-- The word for an integer of a type is a value of the type. -/
theorem hasScalar_word (hi : k.Contains i) : (k.word i).HasScalar (.integer k) := by
  unfold IntegerKind.word
  split
  next hsigned =>
    have hword := toInt_ofInt (IntegerKind.bounds_of_signed hsigned hi)
    exact ⟨hsigned, by rw [hword]; exact hi⟩
  next hunsigned =>
    obtain ⟨hnonneg, hlt⟩ := IntegerKind.bounds_of_unsigned hunsigned hi
    refine ⟨hunsigned, ?_⟩
    rw [UInt64.toNat_ofNat_of_lt' ((Int.toNat_lt hnonneg).mpr hlt), Int.toNat_of_nonneg hnonneg]
    exact hi.2

end Value

/-- Every type holds the integer 0. -/
theorem IntegerKind.contains_zero (k : IntegerKind) : k.Contains 0 := by
  have hcount := k.width.two_le_count
  unfold Contains least greatest
  split <;> omega

namespace Value

variable {v : Value} {s : Scalar}

/-- The value for a missing one has the type, if the type has values. -/
theorem hasScalar_zero (hs : s ≠ .enum []) : s.zero.HasScalar s := by
  cases s with
  | integer k => exact hasScalar_word k.contains_zero
  | single =>
      have hzero : Binary64.zero.narrow = .zero := by decide +kernel
      exact .inr hzero
  | enum variants =>
      cases variants with
      | nil => exact absurd rfl hs
      | cons w rest => exact ⟨w, List.mem_cons_self, rfl⟩
  | bool | double | string | timestamp => trivial

/-- Conversions give values of the type. -/
theorem hasScalar_of_gives (hs : s ≠ .enum []) (h : s.Gives v) : v.HasScalar s := by
  cases h with
  | zero => exact hasScalar_zero hs
  | integer hi => exact hasScalar_word hi
  | single x => exact hasScalar_narrow x
  | enum hw => exact ⟨_, hw, rfl⟩
  | bool | double | string | timestamp => trivial

end Value

/-! ## Literals -/

variable {value : Literal} {t : FieldType} {v : Value}

/-- A single value is coerced as one element. -/
theorem coerce_of_single (ht : ¬ t.sequence) : coerce value t = coerceElement t value := by
  have helement : t.element = t := by
    rw [FieldType.element, ← Bool.eq_false_of_not_eq_true ht]
  rw [coerceElement, coerce, if_neg ht, helement]

/-- A sequence has an item for each item of an array, and none for any other literal. -/
theorem coerce_of_sequence (ht : t.sequence) :
    coerce value t = ((value.items?.getD []).mapM (coerceElement t)).map .list := by
  have hzero : t.zero = .list [] := if_pos ht
  rw [coerce, if_pos ht]
  split
  next hnull =>
    have hnone : value.items? = none := by
      cases value with
      | json j => cases j <;> trivial
      | _ => trivial
    rw [hzero, hnone]
    rfl
  next => cases value.items? <;> rfl

theorem coerceElement_hasElement (ht : t.scalar ≠ .enum []) {item : Literal}
    (h : coerceElement t item = .ok v) : v.HasElement t := by
  unfold coerceElement at h
  split at h
  next =>
    cases h
    unfold FieldType.zero
    rw [if_neg (by simp [FieldType.element])]
    split
    next hnullable => exact .inl ⟨rfl, hnullable⟩
    next => exact .inr (Value.hasScalar_zero ht)
  next =>
    have hgives := Scalar.gives_of_ofLiteral? (coerceScalar_eq_ok.mp h)
    exact .inr (Value.hasScalar_of_gives ht hgives)

/-- Null is converted to every type. -/
theorem exists_coerce_of_isNull (t : FieldType) (hnull : value.isNull) :
    ∃ v, coerce value t = .ok v :=
  ⟨t.zero, if_pos hnull⟩

/-- A sequence fails with the first of its items that does. -/
theorem error?_coerce_of_sequence (ht : t.sequence) :
    Outcome.error? (coerce value t) =
      (value.items?.getD []).findSome? fun item => Outcome.error? (coerce item t.element) := by
  rw [coerce_of_sequence ht, Outcome.error?_map, Outcome.error?_mapM]
  rfl

/-- **A literal is converted to a value of the type.**  For a sequence that is a list with an
item for each item of the literal, of which there are none unless it is an array.  Null is
always converted, and a sequence fails with the first of its items that does. -/
theorem coerce_hasType (value : Literal) (ht : t.scalar ≠ .enum []) :
    (∀ v, coerce value t = .ok v → v.HasType t ∧
      ∀ items, v = .list items → items.length = (value.items?.getD []).length) ∧
    (∀ v : Value, v.HasScalar .single ↔ ∃ x, v = .number (.float x) ∧ (x.isNaN ∨ x.IsSingle)) ∧
    (value.isNull → ∃ v, coerce value t = .ok v) ∧
    (t.sequence → Outcome.error? (coerce value t) =
      (value.items?.getD []).findSome? fun item => Outcome.error? (coerce item t.element)) := by
  refine ⟨fun v hv => ?_, fun v => Value.hasScalar_single_iff, exists_coerce_of_isNull t,
    error?_coerce_of_sequence⟩
  unfold Value.HasType
  by_cases hseq : t.sequence
  · rw [coerce_of_sequence hseq] at hv
    obtain ⟨items, hitems, rfl⟩ := Outcome.map_eq_ok.mp hv
    rw [if_pos hseq]
    refine ⟨⟨items, rfl, fun item hmem => ?_⟩, ?_⟩
    · obtain ⟨literal, -, hitem⟩ := Outcome.exists_of_mem_mapM hitems hmem
      exact coerceElement_hasElement ht hitem
    · rintro items' heq
      cases heq
      exact (Outcome.mapM_eq_ok.mp hitems).length_eq.symm
  · rw [coerce_of_single hseq] at hv
    have helement := coerceElement_hasElement ht hv
    rw [if_neg hseq]
    refine ⟨helement, ?_⟩
    rintro items rfl
    rcases helement with ⟨hnull, -⟩ | hscalar
    · cases hnull
    · cases Value.isKind_of_hasScalar hscalar

/-- Levels by name, by number and by default. -/
theorem coerce_hasType_levels :
    let t : FieldType := ⟨.enum [⟨"Low", 0⟩, ⟨"High", 10⟩], false, true⟩
    let value : Literal := .array [.string " high", .json .null, .number (.unsigned 10)]
    t.scalar ≠ .enum [] ∧ coerce value t = .ok (.list [.enum 10, .enum 0, .enum 10]) ∧
      (Value.list [.enum 10, .enum 0, .enum 10]).HasType t := by
  intro t value
  have ht : t.scalar ≠ .enum [] := by decide
  have hv : coerce value t = .ok (.list [.enum 10, .enum 0, .enum 10]) := rfl
  exact ⟨ht, hv, ((coerce_hasType value ht).1 _ hv).1⟩

end RecordQuery
