import RecordQuery.Proofs.Applicability

/-!
# Fields that may be missing

A condition is compiled for the type of its field, and the type says whether the field may
be missing.  For a literal without null this makes no difference.  Its operands are
converted to the same values for both types (`Operator.convert_asNullable`), and the test
that is made of them sees nothing of the field but what it reads
(`Operator.accepts_test_congr`).  So a record with a value is found in the one table when it
is found in the other (`nullable_transparent`).

A missing value fails every test on values that are not null, and so it passes the three
tests that are negations (`Operator.accepts_test_null`).
-/

namespace RecordQuery

variable {t t' : Table} {f f' : Field} {i i' : Nat} {ref ref' : FieldRef} {op : Operator}
  {name name' : String} {value : Literal} {type : FieldType} {v : Value} {values : List Value}
  {r r' : Record} {s : Scalar}

/-! ## Literals without null -/

namespace Literal

/-- The literal is not null, nor is any item of it. -/
def NullFree (v : Literal) : Prop :=
  ∀ m ∈ v.members, ¬ m.isNull

theorem NullFree.not_isNull (h : value.NullFree) : ¬ value.isNull := by
  intro hnull
  cases hitems : value.items? with
  | some items =>
      rw [not_isNull_of_items? hitems] at hnull
      cases hnull
  | none => exact h value (by simp [members, hitems]) hnull

/-- No operand of a literal without null is null. -/
theorem NullFree.not_isNull_of_mem_operands (h : value.NullFree) {m : Literal}
    (hm : m ∈ op.operands value) : ¬ m.isNull := by
  unfold Operator.operands at hm
  split at hm
  · exact h m hm
  · rw [List.mem_singleton.mp hm]
    exact h.not_isNull

end Literal

/-- A value that is there is coerced alike, whether it might be missing or not. -/
theorem coerce_asNullable (hseq : ¬ type.sequence) (hnull : ¬ value.isNull) :
    coerce value type.asNullable = coerce value type := by
  rw [coerce, coerce, if_neg hnull, if_neg hnull, if_neg hseq]
  exact if_neg hseq

/-- A literal that is not null is not converted to null. -/
theorem ne_null_of_coerce (hseq : ¬ type.sequence) (hnull : ¬ value.isNull)
    (h : coerce value type = .ok v) : v ≠ .null := by
  rw [coerce, if_neg hnull, if_neg hseq] at h
  rintro rfl
  cases coerceScalar_isKind h

namespace Operator

/-- **The operands of a literal without null are converted alike** for fields that may be
missing and for fields that may not. -/
theorem convert_asNullable (hseq : ¬ type.sequence) (hvalue : value.NullFree) :
    op.convert type.asNullable value = op.convert type value := by
  refine Outcome.mapM_congr fun m hm => ?_
  unfold target
  split
  · -- a text test converts to plain text, whatever the type of the field
    rfl
  · exact coerce_asNullable hseq (hvalue.not_isNull_of_mem_operands hm)

/-- The operand of a comparison is not null if its literal is not. -/
theorem operand_ne_null (hseq : ¬ type.sequence) (hvalue : value.NullFree)
    (h : op.convert type value = .ok values) (hfamily : op.family = .comparison) :
    values.head?.getD .null ≠ .null := by
  have hsingle : op.operands value = [value] := by rw [operands, hfamily]
  have htarget : op.target type = type := by rw [target, hfamily]
  have hmap : (op.convert type value).map id = _ := map_convert_of_single hsingle id
  rw [h, htarget] at hmap
  obtain ⟨v, hv, rfl⟩ := Outcome.map_eq_ok.mp hmap.symm
  exact ne_null_of_coerce hseq hvalue.not_isNull hv

/-! ## Tests -/

/-- **A test sees nothing of a record but the value of its field.** -/
theorem accepts_test_congr (h : t.read ref.index r = t'.read ref'.index r') (op : Operator)
    (values : List Value) :
    (op.test ref values).accepts t r = (op.test ref' values).accepts t' r' := by
  cases op <;> simp only [test, Expr.accepts, h]

/-- **A missing value passes the negations alone.** -/
theorem accepts_test_null (hread : t.read ref.index r = .null)
    (hoperand : op.family = .comparison → values.head?.getD .null ≠ .null) :
    (op.test ref values).accepts t r ↔ op = .notEquals ∨ op = .notContains ∨ op = .notIn := by
  cases op with
  | equals | notEquals =>
      have hequal := mt Value.null_equal_iff.mp (hoperand rfl)
      simp [test, Expr.accepts, hread, Comparison.holds, hequal]
  | greaterThan | lessThan | greaterThanOrEqual | lessThanOrEqual =>
      simp [test, Expr.accepts, hread, Comparison.holds, Value.rangeOrder?]
  | startsWith | endsWith | contains | notContains =>
      simp [test, Expr.accepts, hread]
  | isIn | notIn =>
      simp [test, Expr.accepts, hread, Expr.isMember, Value.isNull]

end Operator

namespace Condition

/-- A record is found when the test of the converted operands accepts it. -/
theorem holds_iff_test (hresolve : t.resolve name = .ok (f, i)) :
    holds t ⟨name, op, value⟩ r ↔ op.AppliesTo f.type value ∧
      ∃ values, op.convert f.type value = .ok values ∧
        (op.test (f.ref i) values).accepts t r := by
  simp only [holds_iff, compile_of_resolve hresolve, compileOn_eq_ok_iff]
  constructor
  · rintro ⟨_, ⟨happlies, values, hvalues, rfl⟩, haccepts⟩
    exact ⟨happlies, values, hvalues, haccepts⟩
  · rintro ⟨happlies, values, hvalues, haccepts⟩
    exact ⟨_, ⟨happlies, values, hvalues, rfl⟩, haccepts⟩

/-- A condition compiles exactly when compiling it leaves no error of any kind. -/
theorem compiles_iff (hresolve : t.resolve name = .ok (f, i)) :
    Compiles t ⟨name, op, value⟩ ↔ errorKind? (compileOn f i op value) = none := by
  rw [Compiles, compile_of_resolve hresolve, errorKind?_eq_none_iff]

end Condition

/-- **Conditions do not tell a field that may be missing from one that may not**, as long as
there is no null in them and the field is not missing.  They compile for the one when they do
for the other, and then find the same values.  A missing value is found by the three
operators that are negations and by no other. -/
theorem nullable_transparent (hresolve : t.resolve name = .ok (f, i))
    (hresolve' : t'.resolve name' = .ok (f', i')) (hplain : f.type = .plain s)
    (hnullable : f'.type = (FieldType.plain s).asNullable) (hvalue : value.NullFree)
    (op : Operator) :
    (Condition.Compiles t ⟨name, op, value⟩ ↔ Condition.Compiles t' ⟨name', op, value⟩) ∧
    (∀ r r', t.read i r = t'.read i' r' →
      (Condition.holds t ⟨name, op, value⟩ r ↔ Condition.holds t' ⟨name', op, value⟩ r')) ∧
    (Condition.Compiles t' ⟨name', op, value⟩ → ∀ r', t'.read i' r' = .null →
      (Condition.holds t' ⟨name', op, value⟩ r' ↔
        op = .notEquals ∨ op = .notContains ∨ op = .notIn)) := by
  have hseq : ¬ (FieldType.plain s).sequence := nofun
  have htype : f.type.asNullable = f'.type.asNullable := by
    rw [hplain, hnullable]
    rfl
  have happlies := Operator.appliesTo_congr htype op value
  have hconvert : op.convert f'.type value = op.convert f.type value := by
    rw [hplain, hnullable, Operator.convert_asNullable hseq hvalue]
  refine ⟨?_, fun r r' hread => ?_, fun hcompiles r' hread => ?_⟩
  · rw [Condition.compiles_iff hresolve, Condition.compiles_iff hresolve',
      errorKind?_compileOn_congr htype]
  · have haccepts : ∀ values, (op.test (f.ref i) values).accepts t r =
        (op.test (f'.ref i') values).accepts t' r' := Operator.accepts_test_congr hread op
    simp only [Condition.holds_iff_test hresolve, Condition.holds_iff_test hresolve', happlies,
      hconvert, haccepts]
  · obtain ⟨e, he⟩ := hcompiles
    rw [Condition.holds_of_compile he]
    rw [Condition.compile_of_resolve hresolve', compileOn_eq_ok_iff, hconvert, hplain] at he
    obtain ⟨-, values, hvalues, rfl⟩ := he
    exact Operator.accepts_test_null hread
      (Operator.operand_ne_null hseq hvalue hvalues)

open Samples.Tickets in
/-- A ticket with nothing but a title is asked for its title and for its owner, and the ticket
of that owner is asked as well. -/
theorem nullable_transparent_owner :
    let untaken := ticket 4 "bo" 0 ⟨2024, 3, 1⟩ none [] none ""
    let owned := ticket 3 "Slow search" 1 ⟨2024, 2, 20⟩ none [] (some "bo") ""
    Condition.Compiles table ⟨"owner", .notContains, .string "an"⟩ ∧
      (Condition.holds table ⟨"title", .notContains, .string "an"⟩ untaken ↔
        Condition.holds table ⟨"owner", .notContains, .string "an"⟩ owned) ∧
      Condition.holds table ⟨"owner", .notContains, .string "an"⟩ untaken := by
  intro untaken owned
  have htitle : table.resolve "title" = .ok (⟨"title", .plain .string, 1⟩, 1) := rfl
  have howner :
      table.resolve "owner" = .ok (⟨"owner", (FieldType.plain .string).asNullable, 6⟩, 6) := rfl
  have hvalue : (Literal.string "an").NullFree := by
    intro m hm
    rw [List.mem_singleton.mp hm]
    exact nofun
  obtain ⟨hcompiles, hpresent, hmissing⟩ :=
    nullable_transparent htitle howner rfl rfl hvalue .notContains
  have howned : Condition.Compiles table ⟨"owner", .notContains, .string "an"⟩ :=
    hcompiles.mp ⟨_, rfl⟩
  exact ⟨howned, hpresent untaken owned rfl, (hmissing howned untaken rfl).mpr (.inr (.inl rfl))⟩

end RecordQuery
