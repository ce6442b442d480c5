import RecordQuery.Proofs.Membership
import RecordQuery.Proofs.Resolution
import RecordQuery.Proofs.TypedOperands

/-!
# Operators and the types they apply to

Which operator applies to which type is spread over three functions that compile the
three kinds of tests.  `Operator.AppliesTo` is the table that they follow, and
`Operator.refusal` the error of an operator that does not apply.

Two equations make a compiled test a decision list.  An operator that does not apply is
refused before its literal is looked at (`compileOn_of_not_appliesTo`), and one that does
apply converts its operands and then makes a test of them, which never fails
(`compileOn_of_appliesTo`).  A literal that cannot be converted to a type cannot be
converted to it with null among its values either (`error?_coerce_asNullable`), so that
what can be missing from a field has no part in this.
-/

namespace RecordQuery

variable {t t' : Table} {f f' : Field} {i i' : Nat} {op : Operator} {name : String}
  {value : Literal} {type type' : FieldType} {c : Condition}

/-! ## The table of the operators -/

namespace Operator

/-- The three kinds of tests that operators ask for. -/
inductive Family
  | comparison
  | text
  | membership

/-- The kind of test that an operator asks for. -/
def family : Operator → Family
  | startsWith | endsWith | contains | notContains => .text
  | isIn | notIn => .membership
  | _ => .comparison

/-- **The table of the operators.**  Text tests are for texts, and membership is for all
that is not repeated.  A comparison compares arrays with sequences alone, and a range test
needs a type that has an order. -/
def AppliesTo (op : Operator) (type : FieldType) (value : Literal) : Prop :=
  match op.family with
  | .text => type.scalar = .string ∧ ¬ type.sequence
  | .membership => ¬ type.sequence
  | .comparison =>
    (value.isArray → type.sequence) ∧ (op.isOrdering → ¬ type.sequence ∧ type.scalar ≠ .bool)

/-- The error of an operator that does not apply. -/
def refusal (op : Operator) (f : Field) (value : Literal) : QueryError :=
  match op.family with
  | .comparison => .unsupportedComparison op f value
  | _ => .unsupportedOperator op f

/-- The literals that an operator converts: for membership the members of the literal. -/
def operands (op : Operator) (value : Literal) : List Literal :=
  match op.family with
  | .membership => value.members
  | _ => [value]

/-- The type that an operator converts its operands to: for a text test plain text. -/
def target (op : Operator) (type : FieldType) : FieldType :=
  match op.family with
  | .text => .plain .string
  | _ => type

/-- All operands can be converted. -/
def Converts (op : Operator) (type : FieldType) (value : Literal) : Prop :=
  ∀ m ∈ op.operands value, ∃ v, coerce m (op.target type) = .ok v

/-- What the operands are converted to, one by one. -/
def convert (op : Operator) (type : FieldType) (value : Literal) : Except QueryError (List Value) :=
  (op.operands value).mapM fun m => coerce m (op.target type)

/-- A value converts when there are operands for it. -/
theorem converts_iff : op.Converts type value ↔ ∃ values, op.convert type value = .ok values :=
  Outcome.exists_mapM_iff.symm

end Operator

/-- The text that a text test looks for. -/
def Value.pattern : Value → String
  | string s => s
  | v => v.text

/-- The test that an operator makes of the values of its operands: all but membership have
one operand. -/
def Operator.test (op : Operator) (ref : FieldRef) (values : List Value) : Expr :=
  let operand := values.head?.getD .null
  match op with
  | equals => .compare ref .eq operand
  | notEquals => .compare ref .ne operand
  | greaterThan => .compare ref .gt operand
  | lessThan => .compare ref .lt operand
  | greaterThanOrEqual => .compare ref .ge operand
  | lessThanOrEqual => .compare ref .le operand
  | startsWith => .text ref .startsWith operand.pattern
  | endsWith => .text ref .endsWith operand.pattern
  | contains => .text ref .contains operand.pattern
  | notContains => .not (.text ref .contains operand.pattern)
  | isIn => .member ref values
  | notIn => .not (.member ref values)

/-! ## The three kinds of tests -/

/-- Text tests are for single texts; a sequence of texts is none. -/
theorem FieldType.isStringLike_iff :
    type.isStringLike ↔ type.scalar = .string ∧ ¬ type.sequence := by
  simp [isStringLike, and_comm]

/-- Range tests are for single values of any type but the booleans. -/
theorem FieldType.isOrdered_iff :
    type.isOrdered ↔ ¬ type.sequence ∧ type.scalar ≠ .bool := by
  rw [isOrdered, Bool.and_eq_true, Bool.not_eq_true', Bool.not_eq_true]
  refine and_congr_right fun _ => ?_
  cases type.scalar <;> simp [Scalar.isOrdered]

section Families

variable {cmp : Comparison} {test : TextTest}

/-- A comparison is refused before its value is looked into: a list needs a sequence, a
range test an ordered type. -/
theorem compileComparison_refused
    (h : ¬ ((value.isArray → f.type.sequence) ∧
      (op.isOrdering → ¬ f.type.sequence ∧ f.type.scalar ≠ .bool))) :
    compileComparison f i cmp op value = .error (.unsupportedComparison op f value) := by
  rw [← FieldType.isOrdered_iff] at h
  unfold compileComparison
  split
  · rfl
  · next harray =>
      refine if_pos ?_
      by_contra hordering
      exact h ⟨by simpa using harray, by simpa using hordering⟩

/-- A comparison that applies fails only where its value is no value of the type. -/
theorem compileComparison_applied
    (h : (value.isArray → f.type.sequence) ∧
      (op.isOrdering → ¬ f.type.sequence ∧ f.type.scalar ≠ .bool)) :
    compileComparison f i cmp op value =
      (coerce value f.type).map (.compare (f.ref i) cmp) := by
  rw [← FieldType.isOrdered_iff] at h
  rw [compileComparison, if_neg (by simpa using h.1), if_neg (by simpa using h.2)]

theorem compileText_refused (h : ¬ (f.type.scalar = .string ∧ ¬ f.type.sequence)) :
    compileText f i test op value = .error (.unsupportedOperator op f) :=
  if_neg (mt FieldType.isStringLike_iff.mp h)

/-- A text test that applies fails only where its value is no text. -/
theorem compileText_applied (h : f.type.scalar = .string ∧ ¬ f.type.sequence) :
    compileText f i test op value =
      (coerce value (.plain .string)).map fun v => .text (f.ref i) test v.pattern := by
  rw [compileText, if_pos (FieldType.isStringLike_iff.mpr h)]
  congr 1
  funext v
  cases v <;> rfl

theorem compileMembership_refused (h : ¬ ¬ f.type.sequence) :
    compileMembership f i op value = .error (.unsupportedOperator op f) :=
  if_pos (not_not.mp h)

end Families

/-- **An operator that does not apply is refused**, whatever its literal could be converted
to. -/
theorem compileOn_of_not_appliesTo (h : ¬ op.AppliesTo f.type value) :
    compileOn f i op value = .error (op.refusal f value) := by
  -- one group of cases for each family: its guard is its line of the table
  cases op with
  | equals | notEquals | greaterThan | lessThan | greaterThanOrEqual | lessThanOrEqual =>
      exact compileComparison_refused h
  | startsWith | endsWith | contains => exact compileText_refused h
  | notContains => exact congrArg (Except.map Expr.not) (compileText_refused h)
  | isIn => exact compileMembership_refused h
  | notIn => exact congrArg (Except.map Expr.not) (compileMembership_refused h)

/-- An operator of one operand converts just the literal. -/
theorem Operator.map_convert_of_single {β : Type} (h : op.operands value = [value])
    (k : List Value → β) :
    (op.convert type value).map k = (coerce value (op.target type)).map fun v => k [v] := by
  rw [convert, h, List.mapM_cons, List.mapM_nil]
  cases coerce value (op.target type) <;> rfl

/-- **An operator that applies makes a test of what its operands are converted to.** -/
theorem compileOn_of_appliesTo (h : op.AppliesTo f.type value) :
    compileOn f i op value = (op.convert f.type value).map (op.test (f.ref i)) := by
  cases op with
  | equals | notEquals | greaterThan | lessThan | greaterThanOrEqual | lessThanOrEqual =>
      rw [Operator.map_convert_of_single rfl]
      exact compileComparison_applied h
  | startsWith | endsWith | contains =>
      rw [Operator.map_convert_of_single rfl]
      exact compileText_applied h
  | notContains =>
      rw [Operator.map_convert_of_single rfl, compileOn, compileText_applied h]
      exact Outcome.map_map _ _ _
  | isIn => exact compileMembership_eq_mapM h i .isIn value
  | notIn =>
      rw [compileOn, compileMembership_eq_mapM h]
      exact Outcome.map_map _ _ _

/-- What a test compiles to. -/
theorem compileOn_eq_ok_iff {e : Expr} :
    compileOn f i op value = .ok e ↔ op.AppliesTo f.type value ∧
      ∃ values, op.convert f.type value = .ok values ∧ op.test (f.ref i) values = e := by
  by_cases happlies : op.AppliesTo f.type value
  · rw [compileOn_of_appliesTo happlies, Outcome.map_eq_ok]
    exact (and_iff_right happlies).symm
  · rw [compileOn_of_not_appliesTo happlies]
    exact iff_of_false nofun fun h => happlies h.1

/-! ## Conversions -/

/-- A scalar can fail in one way. -/
theorem coerceScalar_eq_error {s : Scalar} {e : QueryError} (h : coerceScalar value s = .error e) :
    e = .coercion value s := by
  unfold coerceScalar at h
  split at h <;> cases h
  rfl

/-- The error of an item that cannot be converted names the item. -/
theorem coerceElement_eq_error {e : QueryError} (h : coerceElement type value = .error e) :
    e = .coercion value type.scalar := by
  unfold coerceElement at h
  split at h
  · cases h
  · exact coerceScalar_eq_error h

/-- A literal that cannot be converted is to blame itself or, for a sequence, one of its
items. -/
theorem coerce_eq_error {e : QueryError} (h : coerce value type = .error e) :
    ∃ m, (m = value ∨ m ∈ value.items?.getD []) ∧ e = .coercion m type.scalar := by
  by_cases hseq : type.sequence
  · rw [← Outcome.error?_eq_some, coerce_of_sequence hseq, Outcome.error?_map,
      Outcome.error?_mapM] at h
    obtain ⟨m, hm, he⟩ := List.exists_of_findSome?_eq_some h
    exact ⟨m, .inr hm, coerceElement_eq_error (Outcome.error?_eq_some.mp he)⟩
  · rw [coerce_of_single hseq] at h
    exact ⟨value, .inl rfl, coerceElement_eq_error h⟩

/-- That an element may be missing changes nothing about what is wrong with one that is
there. -/
theorem error?_coerceElement_asNullable :
    Outcome.error? (coerceElement type.asNullable value) =
      Outcome.error? (coerceElement type value) := by
  unfold coerceElement
  split <;> rfl

/-- **What can be converted to a type does not depend on null among its values.** -/
theorem error?_coerce_asNullable (value : Literal) (type : FieldType) :
    Outcome.error? (coerce value type.asNullable) = Outcome.error? (coerce value type) := by
  by_cases hseq : type.sequence
  · rw [coerce_of_sequence hseq, coerce_of_sequence (t := type.asNullable) hseq,
      Outcome.error?_map, Outcome.error?_map, Outcome.error?_mapM, Outcome.error?_mapM]
    simp only [error?_coerceElement_asNullable]
  · rw [coerce_of_single hseq, coerce_of_single (t := type.asNullable) hseq,
      error?_coerceElement_asNullable]

/-! ## Kinds of errors -/

/-- The kinds of errors. -/
inductive ErrorKind
  | unknownField
  | coercion
  | unsupportedOperator
  | unsupportedComparison
  | foreignPredicate
  deriving DecidableEq

/-- The kind of an error. -/
def QueryError.kind : QueryError → ErrorKind
  | unknownField _ => .unknownField
  | coercion _ _ => .coercion
  | unsupportedOperator _ _ => .unsupportedOperator
  | unsupportedComparison _ _ _ => .unsupportedComparison
  | foreignPredicate _ _ => .foreignPredicate

/-- The kind of error that a computation ends in, if it fails. -/
def errorKind? {α : Type} (x : Except QueryError α) : Option ErrorKind :=
  (Outcome.error? x).map QueryError.kind

theorem errorKind?_eq_none_iff {α : Type} {x : Except QueryError α} :
    errorKind? x = none ↔ ∃ a, x = .ok a := by
  rw [errorKind?, Option.map_eq_none_iff, Outcome.error?_eq_none]

namespace Operator

/-- A refusal is neither an unknown name nor a failed conversion. -/
theorem kind_refusal_ne :
    (op.refusal f value).kind ≠ .unknownField ∧ (op.refusal f value).kind ≠ .coercion := by
  unfold refusal
  split <;> simp [QueryError.kind]

/-- The kind of a refusal is that of the operator. -/
theorem kind_refusal_congr : (op.refusal f value).kind = (op.refusal f' value).kind := by
  unfold refusal
  split <;> rfl

/-- Operands that cannot be converted fail with a conversion. -/
theorem errorKind?_convert (h : ¬ op.Converts type value) :
    errorKind? (op.convert type value) = some .coercion := by
  cases hconvert : op.convert type value with
  | ok values => exact absurd (converts_iff.mpr ⟨values, hconvert⟩) h
  | error e =>
      rw [← Outcome.error?_eq_some, convert, Outcome.error?_mapM] at hconvert
      obtain ⟨m, -, hm⟩ := List.exists_of_findSome?_eq_some hconvert
      obtain ⟨m', -, rfl⟩ := coerce_eq_error (Outcome.error?_eq_some.mp hm)
      rfl

end Operator

/-- **The three ways in which a test of a field can end**, each with what it takes. -/
theorem compileOn_cases (f : Field) (i : Nat) (op : Operator) (value : Literal) :
    (¬ op.AppliesTo f.type value ∧ compileOn f i op value = .error (op.refusal f value)) ∨
    (op.AppliesTo f.type value ∧ ¬ op.Converts f.type value ∧
      errorKind? (compileOn f i op value) = some .coercion) ∨
    (op.AppliesTo f.type value ∧ op.Converts f.type value ∧
      errorKind? (compileOn f i op value) = none) := by
  by_cases happlies : op.AppliesTo f.type value
  · have hkind : errorKind? (compileOn f i op value) = errorKind? (op.convert f.type value) := by
      rw [compileOn_of_appliesTo happlies, errorKind?, Outcome.error?_map, errorKind?]
    rw [hkind]
    by_cases hconverts : op.Converts f.type value
    · exact .inr (.inr ⟨happlies, hconverts,
        errorKind?_eq_none_iff.mpr (Operator.converts_iff.mp hconverts)⟩)
    · exact .inr (.inl ⟨happlies, hconverts, Operator.errorKind?_convert hconverts⟩)
  · exact .inl ⟨happlies, compileOn_of_not_appliesTo happlies⟩

/-- **An operator is refused exactly on the types and values it does not apply to**, so that
a refusal is never a failed conversion in disguise. -/
theorem compileOn_eq_refusal_iff (f : Field) (i : Nat) (op : Operator) (value : Literal) :
    compileOn f i op value = .error (op.refusal f value) ↔ ¬ op.AppliesTo f.type value := by
  refine ⟨fun hrefused => ?_, compileOn_of_not_appliesTo⟩
  rcases compileOn_cases f i op value with ⟨hno, -⟩ | ⟨-, -, hkind⟩ | ⟨-, -, hkind⟩
  · exact hno
  · rw [hrefused] at hkind
    exact absurd (Option.some.inj hkind) Operator.kind_refusal_ne.2
  · rw [hrefused] at hkind
    cases hkind

/-- A failed conversion is reported only where the operator applies. -/
theorem errorKind?_compileOn_eq_coercion_iff :
    errorKind? (compileOn f i op value) = some .coercion ↔
      op.AppliesTo f.type value ∧ ¬ op.Converts f.type value := by
  rcases compileOn_cases f i op value with
    ⟨hno, hrefused⟩ | ⟨hyes, hfails, hkind⟩ | ⟨hyes, hall, hkind⟩
  · rw [hrefused]
    exact iff_of_false (fun hkind => Operator.kind_refusal_ne.2 (Option.some.inj hkind))
      fun h => hno h.1
  · exact iff_of_true hkind ⟨hyes, hfails⟩
  · rw [hkind]
    exact iff_of_false nofun fun h => h.2 hall

theorem errorKind?_compileOn_eq_none_iff :
    errorKind? (compileOn f i op value) = none ↔
      op.AppliesTo f.type value ∧ op.Converts f.type value := by
  rcases compileOn_cases f i op value with
    ⟨hno, hrefused⟩ | ⟨hyes, hfails, hkind⟩ | ⟨hyes, hall, hkind⟩
  · rw [hrefused]
    exact iff_of_false nofun fun h => hno h.1
  · rw [hkind]
    exact iff_of_false nofun fun h => hfails h.2
  · exact iff_of_true hkind ⟨hyes, hall⟩

/-! ## What can be missing -/

namespace Operator

/-- Whether an operator applies to a type does not depend on whether values may be missing.
-/
theorem appliesTo_congr (h : type.asNullable = type'.asNullable) (op : Operator)
    (value : Literal) : op.AppliesTo type value ↔ op.AppliesTo type' value := by
  obtain ⟨hscalar, -, hsequence⟩ := FieldType.mk.inj h
  rw [AppliesTo, AppliesTo, hscalar, hsequence]

theorem converts_congr (h : type.asNullable = type'.asNullable) (op : Operator)
    (value : Literal) : op.Converts type value ↔ op.Converts type' value := by
  have herror : ∀ m, Outcome.error? (coerce m (op.target type)) =
      Outcome.error? (coerce m (op.target type')) := by
    intro m
    unfold target
    split
    · rfl
    · rw [← error?_coerce_asNullable, h, error?_coerce_asNullable]
  simp only [Converts, ← Outcome.error?_eq_none, herror]

end Operator

/-- **A test ends alike on fields that differ in what can be missing from them.** -/
theorem errorKind?_compileOn_congr (h : f.type.asNullable = f'.type.asNullable) (op : Operator)
    (value : Literal) :
    errorKind? (compileOn f i op value) = errorKind? (compileOn f' i' op value) := by
  have happlies := Operator.appliesTo_congr h op value
  have hconverts := Operator.converts_congr h op value
  rcases compileOn_cases f i op value with
    ⟨hno, hrefused⟩ | ⟨hyes, hfails, hkind⟩ | ⟨hyes, hall, hkind⟩
  · rw [hrefused, compileOn_of_not_appliesTo (mt happlies.mpr hno)]
    exact congrArg some Operator.kind_refusal_congr
  · rw [hkind, errorKind?_compileOn_eq_coercion_iff.mpr
      ⟨happlies.mp hyes, mt hconverts.mpr hfails⟩]
  · rw [hkind, errorKind?_compileOn_eq_none_iff.mpr ⟨happlies.mp hyes, hconverts.mp hall⟩]

namespace Table

/-- The columns of a table as if something could be missing from each. -/
def nullableColumns (t : Table) : List (String × FieldType) :=
  t.fields.map fun f => (f.name, f.type.asNullable)

/-- A table with the same columns has a field of the same name in the same position, and of
the same type but for what can be missing. -/
theorem exists_getElem?_of_nullableColumns (h : t.nullableColumns = t'.nullableColumns)
    (hfield : t.fields[i]? = some f) :
    ∃ f', t'.fields[i]? = some f' ∧ f'.name = f.name ∧
      f.type.asNullable = f'.type.asNullable := by
  have hcolumn : t.nullableColumns[i]? = some (f.name, f.type.asNullable) := by
    rw [nullableColumns, List.getElem?_map, hfield, Option.map_some]
  rw [h, nullableColumns, List.getElem?_map, Option.map_eq_some_iff] at hcolumn
  obtain ⟨f', hfield', hcolumn'⟩ := hcolumn
  obtain ⟨hname, htype⟩ := Prod.mk.inj hcolumn'
  exact ⟨f', hfield', hname, htype.symm⟩

/-- Names are resolved to the same positions of two tables with the same columns. -/
theorem resolve_of_nullableColumns (h : t.nullableColumns = t'.nullableColumns)
    (hresolve : t.resolve name = .ok (f, i)) :
    ∃ f', t'.resolve name = .ok (f', i) ∧ f.type.asNullable = f'.type.asNullable := by
  obtain ⟨hfield, hmatch, honly⟩ := find?_eq_some_iff.mp (resolve_eq_ok.mp hresolve)
  obtain ⟨f', hfield', hname, htype⟩ := exists_getElem?_of_nullableColumns h hfield
  refine ⟨f', resolve_eq_ok.mpr (find?_eq_some_iff.mpr
    ⟨hfield', hname.symm ▸ hmatch, fun j g' hg' hgmatch => ?_⟩), htype⟩
  obtain ⟨g, hg, hgname, -⟩ := exists_getElem?_of_nullableColumns h.symm hg'
  exact honly j g hg (hgname.symm ▸ hgmatch)

end Table

/-! ## Conditions -/

namespace Condition

/-- What becomes of a condition whose name is resolved is up to the field. -/
theorem compile_eq_compileOn (h : t.resolve c.field = .ok (f, i)) :
    c.compile t = compileOn f i c.operator c.value :=
  compile_of_resolve h c.operator c.value

/-- A name that does not match exactly one field is reported as it was written. -/
theorem compile_of_not_matches (h : ¬ ∃! i, t.Matches c.field i) :
    c.compile t = .error (.unknownField c.field) := by
  have hnone : t.find? c.field = none := by
    by_contra hsome
    obtain ⟨found, hfound⟩ := Option.ne_none_iff_exists'.mp hsome
    exact h (Table.exists_resolve_iff.mp ⟨found, Table.resolve_eq_ok.mpr hfound⟩)
  rw [compile, Table.resolve_eq_error.mpr ⟨hnone, rfl⟩]

/-- A name is unknown when it matches no field or several, and only then. -/
theorem compile_eq_unknownField_iff :
    c.compile t = .error (.unknownField c.field) ↔ ¬ ∃! i, t.Matches c.field i := by
  refine ⟨fun hunknown hmatch => ?_, compile_of_not_matches⟩
  obtain ⟨⟨f, i⟩, hresolve⟩ := Table.exists_resolve_iff.mpr hmatch
  rw [compile_eq_compileOn hresolve] at hunknown
  rcases compileOn_cases f i c.operator c.value with ⟨-, h⟩ | ⟨-, -, h⟩ | ⟨-, -, h⟩
  · rw [hunknown] at h
    exact Operator.kind_refusal_ne.1 (congrArg QueryError.kind (Except.error.inj h)).symm
  · rw [hunknown] at h
    cases h
  · rw [hunknown] at h
    cases h

/-- **A condition ends alike on tables that differ in what can be missing.** -/
theorem errorKind?_compile_congr (h : t.nullableColumns = t'.nullableColumns) (c : Condition) :
    errorKind? (c.compile t) = errorKind? (c.compile t') := by
  by_cases hunique : ∃! i, t.Matches c.field i
  · obtain ⟨⟨f, i⟩, hresolve⟩ := Table.exists_resolve_iff.mpr hunique
    obtain ⟨f', hresolve', htype⟩ := Table.resolve_of_nullableColumns h hresolve
    rw [compile_eq_compileOn hresolve, compile_eq_compileOn hresolve',
      errorKind?_compileOn_congr htype]
  · have hunique' : ¬ ∃! i, t'.Matches c.field i := by
      intro hmatch
      obtain ⟨⟨f', i⟩, hresolve'⟩ := Table.exists_resolve_iff.mpr hmatch
      obtain ⟨f, hresolve, -⟩ := Table.resolve_of_nullableColumns h.symm hresolve'
      exact hunique (Table.exists_resolve_iff.mp ⟨_, hresolve⟩)
    rw [compile_of_not_matches hunique, compile_of_not_matches hunique']

end Condition

/-- **Operators apply as the table of the operators says.**  A name that does not match
exactly one field is unknown.  On the field of a name a text test is refused unless the field
is a text, membership if the field is repeated, and a comparison if its literal is an array
and the field is not repeated, or if it is a range test and the field has no order.  What is
not refused compiles, unless there is an operand that cannot be converted, and then that is
the error.  None of this depends on what can be missing from the fields. -/
theorem compile_outcome (t : Table) (c : Condition) :
    (c.compile t = .error (.unknownField c.field) ↔ ¬ ∃! i, t.Matches c.field i) ∧
    (∀ f i, t.resolve c.field = .ok (f, i) →
      (c.operator.family = .text →
        (c.compile t = .error (.unsupportedOperator c.operator f) ↔
          ¬ (f.type.scalar = .string ∧ ¬ f.type.sequence))) ∧
      (c.operator.family = .membership →
        (c.compile t = .error (.unsupportedOperator c.operator f) ↔ f.type.sequence)) ∧
      (c.operator.family = .comparison →
        (c.compile t = .error (.unsupportedComparison c.operator f c.value) ↔
          c.value.isArray ∧ ¬ f.type.sequence ∨
            c.operator.isOrdering ∧ (f.type.sequence ∨ f.type.scalar = .bool))) ∧
      (errorKind? (c.compile t) = some .coercion ↔
        c.operator.AppliesTo f.type c.value ∧ ¬ c.operator.Converts f.type c.value) ∧
      ((∃ e, c.compile t = .ok e) ↔
        c.operator.AppliesTo f.type c.value ∧ c.operator.Converts f.type c.value)) ∧
    ∀ t', t.nullableColumns = t'.nullableColumns →
      errorKind? (c.compile t) = errorKind? (c.compile t') := by
  refine ⟨Condition.compile_eq_unknownField_iff, fun f i hresolve => ?_,
    fun t' hcolumns => Condition.errorKind?_compile_congr hcolumns c⟩
  have hrefused := compileOn_eq_refusal_iff f i c.operator c.value
  rw [← errorKind?_eq_none_iff, Condition.compile_eq_compileOn hresolve]
  refine ⟨fun hfamily => ?_, fun hfamily => ?_, fun hfamily => ?_,
    errorKind?_compileOn_eq_coercion_iff, errorKind?_compileOn_eq_none_iff⟩
  · simpa [Operator.refusal, Operator.AppliesTo, hfamily] using hrefused
  · simpa [Operator.refusal, Operator.AppliesTo, hfamily] using hrefused
  · simp only [Operator.refusal, Operator.AppliesTo, hfamily] at hrefused
    rw [hrefused]
    tauto

open Samples.Tickets in
/-- Tickets have no field for notes, their tags are not looked up in a list, and a word is no
number of a ticket, not even if its number can be missing. -/
theorem compile_outcome_tickets :
    let sparse : Table :=
      { table with fields := table.fields.map fun f => { f with type := f.type.asNullable } }
    Condition.compile table ⟨"note", .equals, .null⟩ = .error (.unknownField "note") ∧
      Condition.compile table ⟨"TAGS", .isIn, .string "ui"⟩ =
        .error (.unsupportedOperator .isIn ⟨"tags", (FieldType.plain .string).asSequence, 5⟩) ∧
      errorKind? (Condition.compile table ⟨"id", .lessThan, .string "one"⟩) = some .coercion ∧
      errorKind? (Condition.compile sparse ⟨"id", .lessThan, .string "one"⟩) = some .coercion := by
  intro sparse
  have htags : table.resolve "TAGS" =
      .ok (⟨"tags", (FieldType.plain .string).asSequence, 5⟩, 5) := rfl
  have hid : table.resolve "id" = .ok (⟨"id", .plain (.integer ⟨false, .w64⟩), 0⟩, 0) := rfl
  have hnumber : errorKind? (Condition.compile table ⟨"id", .lessThan, .string "one"⟩) =
      some .coercion := by
    obtain ⟨-, -, -, hcoercion, -⟩ :=
      (compile_outcome table ⟨"id", .lessThan, .string "one"⟩).2.1 _ _ hid
    refine hcoercion.mpr ⟨⟨nofun, fun _ => ⟨nofun, nofun⟩⟩, fun hconverts => ?_⟩
    obtain ⟨v, hv⟩ := hconverts _ List.mem_cons_self
    cases hv
  refine ⟨?_, ?_, hnumber, ?_⟩
  · refine (compile_outcome table ⟨"note", .equals, .null⟩).1.mpr fun hmatch => ?_
    obtain ⟨found, hfound⟩ := Table.exists_resolve_iff.mpr hmatch
    cases hfound
  · exact (((compile_outcome table ⟨"TAGS", .isIn, .string "ui"⟩).2.1 _ _ htags).2.1 rfl).mpr rfl
  · rw [← hnumber]
    exact ((compile_outcome table ⟨"id", .lessThan, .string "one"⟩).2.2 sparse rfl).symm

end RecordQuery
