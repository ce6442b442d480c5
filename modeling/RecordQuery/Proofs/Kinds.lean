import RecordQuery.Proofs.Conversions
import RecordQuery.Proofs.Outcome

/-!
# Kinds of values

The comparison of two values first asks which constructors they have, and for
numbers which of the three stored forms.  The *kind* of a scalar value is that
much of it, and the kind of a scalar type is the one that its values have.  A
value has the *shape* of a field type when it is null or of the type's kind, or
for a sequence a list of such items.

Shapes forget ranges and variants.  That is what makes them the common ground of
the two sides of a comparison: a record cell of a type has its shape
(`hasShape_of_hasType`), and so has every operand that a literal is converted to
(`coerce_hasShape`), including the zero of an enumeration without variants, which
is no value of that type.
-/

namespace RecordQuery

/-- The constructor of a scalar value; numbers are told apart by their form. -/
inductive Kind
  | bool
  | signed
  | unsigned
  | float
  | string
  | timestamp
  | enum
  deriving DecidableEq

/-- The kind of a scalar type's values. -/
def Scalar.kind : Scalar → Kind
  | bool => .bool
  | integer k => if k.signed then .signed else .unsigned
  | single | double => .float
  | string => .string
  | timestamp => .timestamp
  | enum _ => .enum

namespace Value

/-- The scalar values of a kind. -/
inductive IsKind : Value → Kind → Prop
  | bool (b : Bool) : IsKind (.bool b) .bool
  | signed (n : Int64) : IsKind (.number (.signed n)) .signed
  | unsigned (n : UInt64) : IsKind (.number (.unsigned n)) .unsigned
  | float (x : Binary64) : IsKind (.number (.float x)) .float
  | string (s : String) : IsKind (.string s) .string
  | timestamp (t : Timestamp) : IsKind (.timestamp t) .timestamp
  | enum (d : UInt32) : IsKind (.enum d) .enum

/-- A value has one kind at most. -/
theorem IsKind.unique {v : Value} {k l : Kind} (hk : v.IsKind k) (hl : v.IsKind l) : k = l := by
  cases hk <;> cases hl <;> rfl

theorem isNull_iff {v : Value} : v.isNull ↔ v = null := by
  cases v <;> simp [isNull]

/-- A floating-point number that is no number. -/
def isNaN : Value → Bool
  | number (.float x) => x.isNaN
  | _ => false

/-- Null, or a scalar value of some kind. -/
def HasItemShape (v : Value) (k : Kind) : Prop :=
  v = null ∨ v.IsKind k

/-- The values that a field of the type can hold as far as kinds tell. -/
def HasShape (v : Value) (t : FieldType) : Prop :=
  if t.sequence then ∃ items, v = list items ∧ ∀ item ∈ items, item.HasItemShape t.scalar.kind
  else v.HasItemShape t.scalar.kind

/-- The values of a sequence are lists of items. -/
theorem hasShape_sequence {v : Value} {t : FieldType} (h : t.sequence) :
    v.HasShape t ↔
      ∃ items, v = list items ∧ ∀ item ∈ items, item.HasItemShape t.scalar.kind := by
  rw [HasShape, if_pos h]

/-- The values of any other type are items themselves. -/
theorem hasShape_single {v : Value} {t : FieldType} (h : ¬ t.sequence) :
    v.HasShape t ↔ v.HasItemShape t.scalar.kind := by
  rw [HasShape, if_neg h]

/-! ## Record cells -/

theorem isKind_signed {n : Int64} {k : IntegerKind} (h : k.signed) :
    IsKind (.number (.signed n)) (Scalar.integer k).kind := by
  rw [Scalar.kind, if_pos h]
  exact .signed n

theorem isKind_unsigned {n : UInt64} {k : IntegerKind} (h : ¬ k.signed) :
    IsKind (.number (.unsigned n)) (Scalar.integer k).kind := by
  rw [Scalar.kind, if_neg h]
  exact .unsigned n

/-- A value of a scalar type has its kind, which forgets about the width of integers and the
names of variants. -/
theorem isKind_of_hasScalar {v : Value} {s : Scalar} (h : v.HasScalar s) :
    v.IsKind s.kind := by
  unfold HasScalar at h
  split at h
  · exact .bool _
  · exact isKind_signed h.1
  · exact isKind_unsigned h.1
  · exact .float _
  · exact .float _
  · exact .string _
  · exact .timestamp _
  · exact .enum _
  · exact h.elim

theorem hasItemShape_of_hasElement {v : Value} {t : FieldType} (h : v.HasElement t) :
    v.HasItemShape t.scalar.kind :=
  h.imp And.left isKind_of_hasScalar

/-- A value of a type has its shape. -/
theorem hasShape_of_hasType {v : Value} {t : FieldType} (h : v.HasType t) : v.HasShape t := by
  by_cases hseq : t.sequence
  · rw [HasType, if_pos hseq] at h
    obtain ⟨items, rfl, hitems⟩ := h
    exact (hasShape_sequence hseq).mpr
      ⟨items, rfl, fun item hmem => hasItemShape_of_hasElement (hitems item hmem)⟩
  · rw [HasType, if_neg hseq] at h
    exact (hasShape_single hseq).mpr (hasItemShape_of_hasElement h)

end Value

/-! ## Operands -/

/-- The default of a scalar type is one of its values. -/
theorem Scalar.isKind_zero (s : Scalar) : s.zero.IsKind s.kind := by
  cases s with
  | integer k =>
      rw [zero]
      split
      · next hk => exact Value.isKind_signed hk
      · next hk => exact Value.isKind_unsigned hk
  | enum variants => cases variants <;> exact .enum _
  | bool | single | double | string | timestamp => constructor

/-- The default of a type is one of its values. -/
theorem FieldType.zero_hasShape (t : FieldType) : t.zero.HasShape t := by
  by_cases hseq : t.sequence
  · rw [Value.hasShape_sequence hseq, zero, if_pos hseq]
    exact ⟨[], rfl, by simp⟩
  · rw [Value.hasShape_single hseq, zero, if_neg hseq]
    split
    · exact Or.inl rfl
    · exact Or.inr t.scalar.isKind_zero

theorem Scalar.isKind_of_gives {s : Scalar} {v : Value} (h : s.Gives v) : v.IsKind s.kind := by
  cases h with
  | zero => exact s.isKind_zero
  | integer =>
      split
      · next hk => exact Value.isKind_signed hk
      · next hk => exact Value.isKind_unsigned hk
  | bool | single | double | string | timestamp | enum => constructor

/-- A literal, typed or JSON, is only ever converted to the kind that was asked
for. -/
theorem Scalar.isKind_of_ofLiteral? {s : Scalar} {l : Literal} {v : Value}
    (h : s.ofLiteral? l = some v) : v.IsKind s.kind :=
  isKind_of_gives (gives_of_ofLiteral? h)

/-- Coercion to a scalar adds only the error to what the literal is read as. -/
theorem coerceScalar_eq_ok {l : Literal} {s : Scalar} {v : Value} :
    coerceScalar l s = .ok v ↔ s.ofLiteral? l = some v := by
  unfold coerceScalar
  split
  · next h => rw [h, Except.ok.injEq, Option.some.injEq]
  · next h => simp [h]

theorem coerceScalar_isKind {l : Literal} {s : Scalar} {v : Value}
    (h : coerceScalar l s = .ok v) : v.IsKind s.kind :=
  Scalar.isKind_of_ofLiteral? (coerceScalar_eq_ok.mp h)

/-- An element is an item: null where it may be, or else a scalar. -/
theorem coerceElement_hasItemShape {l : Literal} {t : FieldType} {v : Value}
    (h : coerceElement t l = .ok v) : v.HasItemShape t.scalar.kind := by
  unfold coerceElement at h
  split at h
  · cases h
    exact (Value.hasShape_single (t := t.element) (by simp [FieldType.element])).mp
      t.element.zero_hasShape
  · exact Or.inr (coerceScalar_isKind h)

/-- **A literal is only ever converted to the shape of the type.** -/
theorem coerce_hasShape {l : Literal} {t : FieldType} {v : Value}
    (h : coerce l t = .ok v) : v.HasShape t := by
  unfold coerce at h
  split at h
  · cases h
    exact t.zero_hasShape
  · split at h
    · next hseq =>
        rw [Value.hasShape_sequence hseq]
        split at h
        · obtain ⟨items, hitems, rfl⟩ := Outcome.map_eq_ok.mp h
          refine ⟨items, rfl, fun item hmem => ?_⟩
          obtain ⟨literal, -, hitem⟩ := Outcome.exists_of_mem_mapM hitems hmem
          exact coerceElement_hasItemShape hitem
        · cases h
          exact ⟨[], rfl, by simp⟩
    · next hseq =>
        exact (Value.hasShape_single hseq).mpr (Or.inr (coerceScalar_isKind h))

end RecordQuery
