import RecordQuery.Proofs.TypedOperands
import RecordQuery.Proofs.VariantNames

/-!
# Coercion repeated

An operand can be written down as a literal again (`Value.toLiteral`).  The literal is converted
on another path than the one that the operand came from: whatever was read from a text the first
time is a typed value now, and a variant is found by its number.  The result is the same
operand.

For that to hold a conversion must leave the values of its type alone.  It does so scalar type
by scalar type (`Scalar.ofLiteral?_toLiteral`) and then for null and for lists.  Since it gives
nothing but values of its type, these are exactly the operands that coercion leaves alone
(`coerce_toLiteral`).
-/

namespace RecordQuery

namespace Value

mutual

/-- An operand as a literal; a variant is written as its number. -/
def toLiteral : Value → Literal
  | null => .null
  | bool b => .bool b
  | number n => .number n
  | string s => .string s
  | timestamp t => .timestamp t
  | enum d => .number (.unsigned d.toUInt64)
  | list items => .array (toLiterals items)

/-- The literals for a list's items. -/
def toLiterals : List Value → List Literal
  | [] => []
  | v :: rest => v.toLiteral :: toLiterals rest

end

theorem toLiterals_eq_map (items : List Value) : toLiterals items = items.map toLiteral := by
  induction items with
  | nil => rfl
  | cons v rest ih => rw [toLiterals, ih, List.map_cons]

/-- A value becomes the missing literal only if it is null. -/
theorem isNull_toLiteral (v : Value) : v.toLiteral.isNull = v.isNull := by
  cases v <;> rfl

theorem isNull_of_hasScalar {v : Value} {s : Scalar} (h : v.HasScalar s) : v.isNull = false := by
  have hkind := isKind_of_hasScalar h
  generalize s.kind = k at hkind
  cases hkind <;> rfl

end Value

/-! ## Scalars -/

namespace Scalar

variable {k : IntegerKind} {s : Scalar} {v : Value}

/-- A signed word of the type is itself its own coercion. -/
theorem ofNumber?_signed {n : Int64} (hsigned : k.signed) (hn : k.Contains n.toInt) :
    (integer k).ofNumber? (.signed n) = some (.number (.signed n)) := by
  rw [ofNumber?_integer rfl, if_pos hn, IntegerKind.word, if_pos hsigned, Int64.ofInt_toInt]

theorem ofNumber?_unsigned {n : UInt64} (hsigned : ¬ k.signed) (hn : k.Contains n.toNat) :
    (integer k).ofNumber? (.unsigned n) = some (.number (.unsigned n)) := by
  rw [ofNumber?_integer rfl, if_pos hn, IntegerKind.word, if_neg hsigned, Int.toNat_natCast,
    UInt64.ofNat_toNat]

theorem ofNumber?_single {x : Binary64} (hx : x.isNaN ∨ x.narrow = x) :
    single.ofNumber? (.float x) = some (.number (.float x)) := by
  have hself : x.narrow = x := hx.elim (fun hnan => Binary64.narrow_eq_self_iff.mpr (.inl hnan)) id
  rw [ofNumber?, Number.toFloat, hself]

/-- **A value of a scalar type is left as it is.** -/
theorem ofLiteral?_toLiteral (h : v.HasScalar s) : s.ofLiteral? v.toLiteral = some v := by
  unfold Value.HasScalar at h
  split at h
  case _ b => rfl
  case _ n k => exact ofNumber?_signed h.1 h.2
  case _ n k =>
    have hnonneg : k.least ≤ (n.toNat : ℤ) := by
      rw [IntegerKind.least, if_neg h.1]
      exact Int.natCast_nonneg _
    exact ofNumber?_unsigned h.1 ⟨hnonneg, h.2⟩
  case _ x => exact ofNumber?_single h
  case _ x => rfl
  case _ text => rfl
  case _ t => rfl
  case _ d variants =>
    rw [Value.toLiteral, ofLiteral?_number, ofNumber?_enum]
    exact ⟨rfl, h⟩
  case _ => exact h.elim

end Scalar

/-! ## Nulls and lists -/

variable {value : Literal} {t : FieldType} {v : Value}

/-- An element is coerced to itself. -/
theorem coerceElement_toLiteral (h : v.HasElement t) : coerceElement t v.toLiteral = .ok v := by
  rcases h with ⟨rfl, hnullable⟩ | hscalar
  · have hzero : t.element.zero = .null := if_pos hnullable
    rw [coerceElement, Value.isNull_toLiteral, if_pos (show Value.null.isNull from rfl), hzero]
  · rw [coerceElement, Value.isNull_toLiteral, Value.isNull_of_hasScalar hscalar]
    exact coerceScalar_eq_ok.mpr (Scalar.ofLiteral?_toLiteral hscalar)

/-- **A value of the type is coerced to itself**, item by item if it is a list. -/
theorem coerce_toLiteral_of_hasType (h : v.HasType t) : coerce v.toLiteral t = .ok v := by
  unfold Value.HasType at h
  split at h
  next hseq =>
    obtain ⟨items, rfl, hitems⟩ := h
    have hcoerced : (items.map Value.toLiteral).mapM (coerceElement t) = .ok items := by
      rw [Outcome.mapM_eq_ok, List.forall₂_map_left_iff, List.forall₂_same]
      exact fun item hmem => coerceElement_toLiteral (hitems item hmem)
    rw [coerce_of_sequence hseq, Value.toLiteral, Literal.items?, Option.getD_some,
      Value.toLiterals_eq_map, hcoerced]
    rfl
  next hseq =>
    rw [coerce_of_single hseq]
    exact coerceElement_toLiteral h

/-- Coercion gives values of the type. -/
theorem hasType_of_coerce (ht : t.scalar ≠ .enum []) (h : coerce value t = .ok v) :
    v.HasType t := by
  unfold Value.HasType
  split
  next hseq =>
    rw [coerce_of_sequence hseq] at h
    obtain ⟨items, hitems, rfl⟩ := Outcome.map_eq_ok.mp h
    refine ⟨items, rfl, fun item hmem => ?_⟩
    obtain ⟨literal, -, hitem⟩ := Outcome.exists_of_mem_mapM hitems hmem
    exact coerceElement_hasElement ht hitem
  next hseq =>
    rw [coerce_of_single hseq] at h
    exact coerceElement_hasElement ht h

/-- **Coercion is idempotent**: an operand that is written as a literal again is converted to
itself.  The operands that are left alone in this way are the values of the type. -/
theorem coerce_toLiteral (ht : t.scalar ≠ .enum []) :
    (∀ value v, coerce value t = .ok v → coerce v.toLiteral t = .ok v) ∧
      ∀ v : Value, coerce v.toLiteral t = .ok v ↔ v.HasType t :=
  ⟨fun _ _ h => coerce_toLiteral_of_hasType (hasType_of_coerce ht h),
    fun _ => ⟨hasType_of_coerce ht, coerce_toLiteral_of_hasType⟩⟩

/-- A level that was given by name is converted by number the second time. -/
theorem coerce_toLiteral_levels :
    let t : FieldType := ⟨.enum [⟨"Low", 0⟩, ⟨"High", 10⟩], true, true⟩
    let v : Value := .list [.enum 10, .null]
    t.scalar ≠ .enum [] ∧ coerce (.array [.string " high", .json .null]) t = .ok v ∧
      v.toLiteral = .array [.number (.unsigned 10), .null] ∧ coerce v.toLiteral t = .ok v := by
  intro t v
  have ht : t.scalar ≠ .enum [] := by decide
  have hv : coerce (.array [.string " high", .json .null]) t = .ok v := rfl
  exact ⟨ht, hv, rfl, (coerce_toLiteral ht).1 _ v hv⟩

end RecordQuery
