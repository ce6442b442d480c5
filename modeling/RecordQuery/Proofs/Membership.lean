import RecordQuery.Proofs.Comparisons
import RecordQuery.Samples.Readings

/-!
# Membership

Membership converts a whole list of literals at once and compares a field with each
of the results, where equality converts one literal to the type of the field.  That
the two agree rests on one equation: the list of a membership test is what its
*members* are converted to one by one (`compileMembership_eq_mapM`).  The members of
an array are its items, and any other literal is its own only member.

So a record is found by membership when its field is equal to one of the members
(`membership_iff_any_equals`).  This is also what becomes of null among them.  A type
without null converts it to its zero, and then the record whose field is zero is found
by a member that was meant to find nothing: leaving out the nulls changes the answer
for that record and for no other (`membership_withoutNulls`).
-/

namespace RecordQuery

variable {t : Table} {f : Field} {i : Nat} {op : Operator} {name : String} {value : Literal}
  {items : List Literal} {record : Record}

/-! ## Members -/

namespace Literal

/-- What a membership test looks for: the items of an array, or the literal alone. -/
def members (v : Literal) : List Literal :=
  v.items?.getD [v]

/-- An array without those of its items that are null; any other literal itself. -/
def withoutNulls : Literal → Literal
  | array items => array (items.filter fun v => !v.isNull)
  | json (.array items) => json (.array (items.filter fun v => !(json v).isNull))
  | v => v

theorem isArray_eq_isSome (v : Literal) : v.isArray = v.items?.isSome := by
  cases v with
  | json v => cases v <;> rfl
  | _ => rfl

theorem not_isNull_of_items? (h : value.items? = some items) : value.isNull = false := by
  cases value with
  | json v => cases v <;> first | rfl | cases h
  | _ => first | rfl | cases h

/-- The members of a list are its items. -/
theorem members_of_items? (h : value.items? = some items) : value.members = items := by
  rw [members, h]
  rfl

/-- A single value is a list of one member. -/
theorem members_of_not_isArray (h : ¬ value.isArray) : value.members = [value] := by
  rw [isArray_eq_isSome, Option.not_isSome_iff_eq_none] at h
  rw [members, h]
  rfl

/-- The items that are left are those that are not null. -/
theorem items?_withoutNulls (v : Literal) :
    v.withoutNulls.items? = v.items?.map (·.filter fun item => !item.isNull) := by
  cases v with
  | json v =>
      cases v with
      | array items =>
          rw [withoutNulls, items?, items?, Option.map_some, List.filter_map]
          rfl
      | _ => rfl
  | _ => rfl

end Literal

/-! ## The list of a membership test -/

/-- The items of a sequence of some type are converted to that type. -/
theorem coerceElement_asSequence {type : FieldType} (h : ¬ type.sequence) (v : Literal) :
    coerceElement type.asSequence v = coerce v type := by
  have helement : type.asSequence.element = type := by
    cases type
    simpa [FieldType.asSequence, FieldType.element, eq_comm] using h
  rw [coerceElement, coerce, helement, if_neg h]
  rfl

/-- **The list of a membership test holds what its members are converted to**, one by
one and with the first error of them. -/
theorem compileMembership_eq_mapM (hseq : ¬ f.type.sequence) (i : Nat) (op : Operator)
    (value : Literal) :
    compileMembership f i op value =
      (value.members.mapM fun m => coerce m f.type).map (.member (f.ref i)) := by
  rw [compileMembership, if_neg hseq, Literal.isArray_eq_isSome, Literal.members]
  cases hitems : value.items? with
  -- An array is converted to the sequence type, item by item; every other literal is
  -- converted alone and then put in a list.
  | some items =>
      have hnull := Literal.not_isNull_of_items? hitems
      have hmembers : items.mapM (coerceElement f.type.asSequence) =
          items.mapM fun m => coerce m f.type := by
        rw [funext (coerceElement_asSequence hseq)]
      have hcoerce : coerce value f.type.asSequence =
          (items.mapM fun m => coerce m f.type).map .list := by
        rw [coerce, hnull, hitems, ← hmembers]
        rfl
      rw [Option.isSome_some, if_pos rfl, hcoerce, Option.getD_some]
      cases items.mapM fun m => coerce m f.type <;> rfl
  | none =>
      rw [Option.isSome_none, if_neg Bool.false_ne_true, Option.getD_none, List.mapM_cons,
        List.mapM_nil]
      cases coerce value f.type <;> rfl

/-! ## Records that membership finds -/

/-- Nothing but null is equal to null, no NaN and no empty list. -/
theorem Value.equal_null_iff {v : Value} : v.equal .null ↔ v = .null := by
  cases v <;> simp [equal]

theorem Value.null_equal_iff {v : Value} : Value.null.equal v ↔ v = .null := by
  cases v <;> simp [equal]

/-- A value is a member when some member is equal to it; null is a member of nothing. -/
theorem Expr.isMember_iff {v : Value} {values : List Value} :
    isMember v values ↔ v ≠ .null ∧ ∃ m ∈ values, v.equal m := by
  have hnull : ∀ m, v ≠ .null → v.equal m → m ≠ .null := by
    rintro m hv hequal rfl
    exact hv (Value.equal_null_iff.mp hequal)
  simp only [isMember, List.any_filter, Bool.and_eq_true, Bool.not_eq_true', List.any_eq_true,
    ← Bool.not_eq_true, Value.isNull_iff]
  exact and_congr_right fun hv => exists_congr fun m => and_congr_right fun _ =>
    ⟨And.right, fun hequal => ⟨hnull m hv hequal, hequal⟩⟩

namespace Condition

/-- A membership test compiles its members one by one, each as a value of the field. -/
theorem compile_isIn (hresolve : t.resolve name = .ok (f, i)) (hseq : ¬ f.type.sequence)
    (value : Literal) : compile t ⟨name, .isIn, value⟩ =
      (value.members.mapM fun m => coerce m f.type).map (.member (f.ref i)) := by
  rw [compile_of_resolve hresolve]
  exact compileMembership_eq_mapM hseq i .isIn value

/-- The opposite test is the opposite of the test, errors included. -/
theorem compile_notIn (hresolve : t.resolve name = .ok (f, i)) (hseq : ¬ f.type.sequence)
    (value : Literal) :
    compile t ⟨name, .notIn, value⟩ = (compile t ⟨name, .isIn, value⟩).map .not := by
  rw [compile_isIn hresolve hseq, compile_of_resolve hresolve]
  exact congrArg (Except.map Expr.not) (compileMembership_eq_mapM hseq i .notIn value)

/-- It compiles when all of them do, so that one bad member fails the test. -/
theorem compiles_isIn_iff (hresolve : t.resolve name = .ok (f, i)) (hseq : ¬ f.type.sequence) :
    Compiles t ⟨name, .isIn, value⟩ ↔ ∀ m ∈ value.members, ∃ v, coerce m f.type = .ok v := by
  rw [Compiles, compile_isIn hresolve hseq, ← Outcome.error?_eq_none, Outcome.error?_map,
    Outcome.error?_eq_none, Outcome.exists_mapM_iff]

/-- Testing for the opposite compiles under the same condition. -/
theorem compiles_notIn_iff (hresolve : t.resolve name = .ok (f, i)) (hseq : ¬ f.type.sequence) :
    Compiles t ⟨name, .notIn, value⟩ ↔ Compiles t ⟨name, .isIn, value⟩ := by
  rw [Compiles, Compiles, compile_notIn hresolve hseq, ← Outcome.error?_eq_none,
    ← Outcome.error?_eq_none, Outcome.error?_map]

/-- A record is found when its field is equal to what one of the members is converted to.
Null is never found. -/
theorem holds_isIn_iff (hresolve : t.resolve name = .ok (f, i)) (hseq : ¬ f.type.sequence)
    (hcompiles : Compiles t ⟨name, .isIn, value⟩) :
    holds t ⟨name, .isIn, value⟩ record ↔ t.read i record ≠ .null ∧
      ∃ m ∈ value.members, ∃ v, coerce m f.type = .ok v ∧ (t.read i record).equal v := by
  obtain ⟨e, he⟩ := hcompiles
  rw [holds_of_compile he]
  rw [compile_isIn hresolve hseq, Outcome.map_eq_ok] at he
  obtain ⟨values, hvalues, rfl⟩ := he
  rw [← Outcome.exists_mem_mapM_iff hvalues]
  exact Expr.isMember_iff

/-- Of tests that compile one holds and the other does not, for records without a value too.
-/
theorem holds_notIn_iff (hresolve : t.resolve name = .ok (f, i)) (hseq : ¬ f.type.sequence)
    (hcompiles : Compiles t ⟨name, .isIn, value⟩) :
    holds t ⟨name, .notIn, value⟩ record ↔ ¬ holds t ⟨name, .isIn, value⟩ record := by
  obtain ⟨e, he⟩ := hcompiles
  have hnot : compile t ⟨name, .notIn, value⟩ = .ok (.not e) := by
    rw [compile_notIn hresolve hseq, he]
    rfl
  rw [holds_of_compile hnot, holds_of_compile he, Expr.accepts, Bool.not_eq_true',
    Bool.not_eq_true]

end Condition

/-- **Membership is a disjunction of equalities.**  On a field that is not repeated, a test
for membership in an array compiles when every item can be converted, and then finds the
records whose field is not null and equal to one of the items, each compared by itself.
A literal that is no array counts as the array of itself, typed or JSON, and the opposite
test compiles for the same literals and finds all other records. -/
theorem membership_iff_any_equals (hresolve : t.resolve name = .ok (f, i))
    (hseq : ¬ f.type.sequence) :
    (∀ value items, value.items? = some items →
      (Condition.Compiles t ⟨name, .isIn, value⟩ ↔
        ∀ item ∈ items, ∃ v, coerce item f.type = .ok v) ∧
      (Condition.Compiles t ⟨name, .isIn, value⟩ → ∀ record,
        (Condition.holds t ⟨name, .isIn, value⟩ record ↔ t.read i record ≠ .null ∧
          ∃ item ∈ items, Condition.holds t ⟨name, .equals, item⟩ record))) ∧
    (∀ value, ¬ value.isArray → Condition.compile t ⟨name, .isIn, value⟩ =
      Condition.compile t ⟨name, .isIn, .array [value]⟩) ∧
    (∀ j, ¬ (Literal.json j).isArray → Condition.compile t ⟨name, .isIn, .json j⟩ =
      Condition.compile t ⟨name, .isIn, .json (.array [j])⟩) ∧
    ∀ value,
      (Condition.Compiles t ⟨name, .notIn, value⟩ ↔
        Condition.Compiles t ⟨name, .isIn, value⟩) ∧
      (Condition.Compiles t ⟨name, .isIn, value⟩ → ∀ record,
        (Condition.holds t ⟨name, .notIn, value⟩ record ↔
          ¬ Condition.holds t ⟨name, .isIn, value⟩ record)) := by
  refine ⟨fun value items hitems => ⟨?_, fun hcompiles record => ?_⟩, fun value harray => ?_,
    fun j harray => ?_, fun value => ⟨Condition.compiles_notIn_iff hresolve hseq,
      fun hcompiles record => Condition.holds_notIn_iff hresolve hseq hcompiles⟩⟩
  · rw [Condition.compiles_isIn_iff hresolve hseq, Literal.members_of_items? hitems]
  · have hequals : ∀ item, Condition.holds t ⟨name, .equals, item⟩ record ↔
        ∃ v, coerce item f.type = .ok v ∧ (t.read i record).equal v := fun item =>
      Condition.holds_operator_iff (c := .eq) hresolve hseq nofun
    rw [Condition.holds_isIn_iff hresolve hseq hcompiles, Literal.members_of_items? hitems]
    simp only [hequals]
  · rw [Condition.compile_isIn hresolve hseq, Condition.compile_isIn hresolve hseq,
      Literal.members_of_not_isArray harray]
    rfl
  · rw [Condition.compile_isIn hresolve hseq, Condition.compile_isIn hresolve hseq,
      Literal.members_of_not_isArray harray]
    rfl

open Samples.Tickets in
/-- Owners, one of whom is missing, among null and one name; and a name that is no array. -/
theorem membership_iff_any_equals_owner :
    (∀ record ∈ records,
      Condition.holds table ⟨"OWNER", .isIn, .array [.null, .string "ana"]⟩ record ↔
        table.read 6 record ≠ .null ∧ ∃ item ∈ [.null, .string "ana"],
          Condition.holds table ⟨"OWNER", .equals, item⟩ record) ∧
    records.map (Condition.holds table ⟨"OWNER", .isIn, .array [.null, .string "ana"]⟩) =
      [true, false, false] ∧
    (∀ record ∈ records,
      Condition.holds table ⟨"OWNER", .notIn, .array [.null, .string "ana"]⟩ record ↔
        ¬ Condition.holds table ⟨"OWNER", .isIn, .array [.null, .string "ana"]⟩ record) ∧
    Condition.compile table ⟨"OWNER", .isIn, .string "bo"⟩ =
      Condition.compile table ⟨"OWNER", .isIn, .array [.string "bo"]⟩ := by
  have howner :
      table.resolve "OWNER" = .ok (⟨"owner", (FieldType.plain .string).asNullable, 6⟩, 6) := rfl
  obtain ⟨harrays, hsingle, -, hnot⟩ := membership_iff_any_equals howner (by decide)
  have hcompiles : Condition.Compiles table ⟨"OWNER", .isIn, .array [.null, .string "ana"]⟩ :=
    ⟨_, rfl⟩
  exact ⟨fun record _ => (harrays _ _ rfl).2 hcompiles record, rfl,
    fun record _ => (hnot _).2 hcompiles record, hsingle (.string "bo") nofun⟩

/-! ## Null members -/

/-- Where values may not be missing the default is a value. -/
theorem FieldType.zero_ne_null {type : FieldType} (hseq : ¬ type.sequence)
    (hnullable : ¬ type.nullable) : type.zero ≠ .null := by
  intro h
  have hkind := type.scalar.isKind_zero
  rw [zero, if_neg hseq, if_neg hnullable] at h
  rw [h] at hkind
  cases hkind

/-- A missing value becomes the default of the type, which is null only where it may be. -/
theorem coerce_of_isNull {type : FieldType} (h : value.isNull) :
    coerce value type = .ok type.zero := by
  rw [coerce, if_pos h]

/-- A value is found by the null members of an array because the type has no null and
they stand for the zero that it is equal to. -/
def FoundByNull (type : FieldType) (items : List Literal) (v : Value) : Prop :=
  ¬ type.nullable ∧ (∃ item ∈ items, item.isNull) ∧ v.equal type.zero

/-- A value other than null is found by the items that are not null, or else by those that
are. -/
theorem exists_item_iff {v : Value} {type : FieldType} (hseq : ¬ type.sequence)
    (hv : v ≠ .null) :
    (∃ m ∈ items, ∃ w, coerce m type = .ok w ∧ v.equal w) ↔
      (∃ m ∈ items.filter (fun m => !m.isNull), ∃ w, coerce m type = .ok w ∧ v.equal w) ∨
        FoundByNull type items v := by
  constructor
  · rintro ⟨m, hm, w, hw, hequal⟩
    by_cases hnull : m.isNull
    · rw [coerce_of_isNull hnull] at hw
      cases hw
      refine .inr ⟨fun hnullable => hv (Value.equal_null_iff.mp ?_), ⟨m, hm, hnull⟩, hequal⟩
      rwa [FieldType.zero, if_neg hseq, if_pos hnullable] at hequal
    · exact .inl ⟨m, List.mem_filter.mpr ⟨hm, by simpa using hnull⟩, w, hw, hequal⟩
  · rintro (⟨m, hm, w, hw, hequal⟩ | ⟨-, ⟨m, hm, hnull⟩, hequal⟩)
    · exact ⟨m, (List.mem_filter.mp hm).1, w, hw, hequal⟩
    · exact ⟨m, hm, type.zero, coerce_of_isNull hnull, hequal⟩

namespace Condition

/-- Leaving out the nulls does not make a test compile, since nulls always do. -/
theorem compiles_isIn_withoutNulls_iff (hresolve : t.resolve name = .ok (f, i))
    (hseq : ¬ f.type.sequence) (hitems : value.items? = some items) :
    Compiles t ⟨name, .isIn, value.withoutNulls⟩ ↔ Compiles t ⟨name, .isIn, value⟩ := by
  have hrest : value.withoutNulls.items? = some (items.filter fun m => !m.isNull) := by
    rw [Literal.items?_withoutNulls, hitems, Option.map_some]
  rw [compiles_isIn_iff hresolve hseq, compiles_isIn_iff hresolve hseq,
    Literal.members_of_items? hitems, Literal.members_of_items? hrest]
  refine ⟨fun h m hm => ?_, fun h m hm => h m (List.mem_filter.mp hm).1⟩
  by_cases hnull : m.isNull
  · exact ⟨f.type.zero, coerce_of_isNull hnull⟩
  · exact h m (List.mem_filter.mpr ⟨hm, by simpa using hnull⟩)

/-- The records that an array finds are those that it finds without its nulls and those
that its nulls find. -/
theorem holds_isIn_iff_withoutNulls (hresolve : t.resolve name = .ok (f, i))
    (hseq : ¬ f.type.sequence) (hitems : value.items? = some items)
    (hcompiles : Compiles t ⟨name, .isIn, value⟩) :
    holds t ⟨name, .isIn, value⟩ record ↔
      holds t ⟨name, .isIn, value.withoutNulls⟩ record ∨
        FoundByNull f.type items (t.read i record) := by
  have hrest : value.withoutNulls.items? = some (items.filter fun m => !m.isNull) := by
    rw [Literal.items?_withoutNulls, hitems, Option.map_some]
  have hzero : FoundByNull f.type items (t.read i record) → t.read i record ≠ .null := by
    rintro ⟨hnullable, -, hequal⟩ hread
    rw [hread, Value.null_equal_iff] at hequal
    exact FieldType.zero_ne_null hseq hnullable hequal
  rw [holds_isIn_iff hresolve hseq hcompiles, holds_isIn_iff hresolve hseq
    ((compiles_isIn_withoutNulls_iff hresolve hseq hitems).mpr hcompiles),
    Literal.members_of_items? hitems, Literal.members_of_items? hrest]
  constructor
  · rintro ⟨hread, hfound⟩
    exact ((exists_item_iff hseq hread).mp hfound).imp_left fun hfound => ⟨hread, hfound⟩
  · rintro (⟨hread, hfound⟩ | hfound)
    · exact ⟨hread, (exists_item_iff hseq hread).mpr (.inl hfound)⟩
    · exact ⟨hzero hfound, (exists_item_iff hseq (hzero hfound)).mpr (.inr hfound)⟩

end Condition

/-- **What the null items of an array change.**  With or without them a membership test on
a field that is not repeated compiles for the same arrays.  Its answers are the same but
for the records that the nulls alone find: the type has no null, so that a null item
stands for the type's zero, and that is what the field is equal to. -/
theorem membership_withoutNulls (hresolve : t.resolve name = .ok (f, i))
    (hseq : ¬ f.type.sequence) (hitems : value.items? = some items)
    (hop : op = .isIn ∨ op = .notIn) :
    (Condition.Compiles t ⟨name, op, value.withoutNulls⟩ ↔
      Condition.Compiles t ⟨name, op, value⟩) ∧
    (Condition.Compiles t ⟨name, op, value⟩ → ∀ record,
      (Condition.holds t ⟨name, op, value.withoutNulls⟩ record =
          Condition.holds t ⟨name, op, value⟩ record ↔
        (FoundByNull f.type items (t.read i record) →
          Condition.holds t ⟨name, .isIn, value.withoutNulls⟩ record))) := by
  have hcompile := Condition.compiles_isIn_withoutNulls_iff hresolve hseq hitems
  rcases hop with rfl | rfl
  · refine ⟨hcompile, fun hcompiles record => ?_⟩
    rw [Bool.eq_iff_iff, Condition.holds_isIn_iff_withoutNulls hresolve hseq hitems hcompiles]
    tauto
  · simp only [Condition.compiles_notIn_iff hresolve hseq]
    refine ⟨hcompile, fun hcompiles record => ?_⟩
    rw [Bool.eq_iff_iff, Condition.holds_notIn_iff hresolve hseq hcompiles,
      Condition.holds_notIn_iff hresolve hseq (hcompile.mpr hcompiles),
      Condition.holds_isIn_iff_withoutNulls hresolve hseq hitems hcompiles]
    tauto

open Samples.Tickets in
/-- Null among the names that an owner is not to have: it finds no missing owner either way. -/
theorem membership_withoutNulls_owner :
    Condition.Compiles table ⟨"owner", .notIn, .json (.array [.string "ana"])⟩ ∧
      ∀ record ∈ records,
        Condition.holds table ⟨"owner", .notIn, .json (.array [.string "ana"])⟩ record =
          Condition.holds table ⟨"owner", .notIn, .json (.array [.null, .string "ana"])⟩ record := by
  have howner :
      table.resolve "owner" = .ok (⟨"owner", (FieldType.plain .string).asNullable, 6⟩, 6) := rfl
  have hitems : (Literal.json (.array [.null, .string "ana"])).items? =
      some [.json .null, .json (.string "ana")] := rfl
  obtain ⟨hcompiles, hsame⟩ := membership_withoutNulls howner (by decide) hitems (.inr rfl)
  have hnotIn :
      Condition.Compiles table ⟨"owner", .notIn, .json (.array [.null, .string "ana"])⟩ :=
    ⟨_, rfl⟩
  exact ⟨hcompiles.mpr hnotIn, fun record _ => (hsame hnotIn record).mpr fun hfound =>
    absurd rfl hfound.1⟩

open Samples.Readings in
/-- **A null member can find a record**: the first reading has the number that null stands
for in a type without null, and is found only as long as the null is there. -/
theorem isIn_null_finds_zero :
    let numbers : Literal := .array [.null, .number (.signed 2)]
    Condition.Compiles table ⟨"seq", .isIn, numbers⟩ ∧
      Condition.Compiles table ⟨"seq", .isIn, numbers.withoutNulls⟩ ∧
      ∃ record ∈ records, table.Fits record ∧
        Condition.holds table ⟨"seq", .isIn, numbers⟩ record = true ∧
        Condition.holds table ⟨"seq", .isIn, numbers.withoutNulls⟩ record = false :=
  ⟨⟨_, rfl⟩, ⟨_, rfl⟩, records[0], List.mem_cons_self, by decide, rfl, rfl⟩

end RecordQuery
