import RecordQuery.Proofs.Comparable
import RecordQuery.Proofs.Compilation
import RecordQuery.Samples.Tickets

/-!
# Type safety of compiled filters

The evaluation of a filter always has an answer: a position past the end of the
table reads null, values of different kinds are unequal and have no order, and a
text test of anything but text fails.  None of this is ever needed.

`Expr.WellTyped` says what compilation establishes about an expression: every
reference is to a field of the table, and every operand has the shape of its
field.  Compilation of a condition yields such expressions (`Condition.compile_wellTyped`)
and their conjunction keeps the property.  For a record that fits the table it
follows in two ways that nothing falls through.  `Expr.steps` lists what the
leaves of an expression compare, and every step is sound; `Expr.strict` is an
evaluator that stops with a fault instead of falling through, and it never stops.
-/

namespace RecordQuery

variable {t : Table} {r : Request} {o : Options} {p : Plan} {record : Record}

/-- The reference is to a field of the table, by its position, name and type. -/
def FieldRef.Resolved (t : Table) (f : FieldRef) : Prop :=
  ∃ field, t.fields[f.index]? = some field ∧ field.name = f.name ∧ field.type = f.type

/-- What the evaluation of a filter does to the values that it reads. -/
inductive Step
  /-- A test for equality, also with one member of a list. -/
  | equality (value operand : Value)
  /-- A range test. -/
  | range (value operand : Value)
  /-- A text test. -/
  | text (value : Value)

/-- The step has a rule of its own. -/
def Step.Sound : Step → Prop
  | equality value operand => value.Comparable operand
  | range value operand =>
    value.Comparable operand ∧
      (value.rangeOrder? operand = none → value.MayBeUnordered operand)
  | text value => value = .null ∨ ∃ s, value = .string s

/-- The value of a referenced field, if there is such a field. -/
def Table.strictRead (t : Table) (f : FieldRef) (record : Record) : Except Fault Value :=
  match t.fields[f.index]? with
  | some field => .ok (record.read field.slot)
  | none => .error .missingField

namespace Expr

/-- The references are resolved, the operands have the shapes of their fields, range
tests are of types with an order and text tests of texts. -/
def WellTyped (t : Table) : Expr → Prop
  | compare f op value =>
    f.Resolved t ∧ value.HasShape f.type ∧ (¬ op.isEquality → f.type.isOrdered)
  | text f _ _ => f.Resolved t ∧ f.type.isStringLike
  | member f values =>
    f.Resolved t ∧ ¬ f.type.sequence ∧ ∀ v ∈ values, v.HasItemShape f.type.scalar.kind
  | and l r => l.WellTyped t ∧ r.WellTyped t
  | not e => e.WellTyped t

/-- All steps that the evaluation may take, also those that it can spare. -/
def steps (t : Table) (record : Record) : Expr → List Step
  | compare f op value =>
    if op.isEquality then [.equality (t.read f.index record) value]
    else [.range (t.read f.index record) value]
  | text f _ _ => [.text (t.read f.index record)]
  | member f values => values.map (.equality (t.read f.index record))
  | and l r => l.steps t record ++ r.steps t record
  | not e => e.steps t record

/-- The truth of the expression by an evaluation that takes all steps and falls
through nowhere. -/
def strict (t : Table) (record : Record) : Expr → Except Fault Bool
  | compare f op value => do
    let v ← t.strictRead f record
    op.strictHolds v value
  | text f test pattern => do
    match ← t.strictRead f record with
    | .string s => return test.holds s pattern
    | .null => return false
    | _ => throw .notText
  | member f values => do
    let v ← t.strictRead f record
    if v.isNull then return false
    let answers ← (values.filter fun m => !m.isNull).mapM v.strictEqual
    return answers.any id
  | and l r => do
    let left ← l.strict t record
    let right ← r.strict t record
    return left && right
  | not e => do
    let inner ← e.strict t record
    return !inner

end Expr

/-! ## Reading -/

theorem Table.read_hasType {f : Field} {i : Nat} (h : t.fields[i]? = some f)
    (hfits : t.Fits record) : (t.read i record).HasType f.type := by
  simp only [read, h]
  exact hfits f (List.mem_of_getElem? h)

namespace FieldRef.Resolved

variable {f : FieldRef}

/-- A resolved reference reads a value without falling back on null. -/
theorem strictRead (h : f.Resolved t) : t.strictRead f record = .ok (t.read f.index record) := by
  obtain ⟨field, hfield, -, -⟩ := h
  simp only [Table.strictRead, Table.read, hfield]

/-- What is read from a record that fits has the shape of the field. -/
theorem read_hasShape (h : f.Resolved t) (hfits : t.Fits record) :
    (t.read f.index record).HasShape f.type := by
  obtain ⟨field, hfield, -, htype⟩ := h
  rw [← htype]
  exact Value.hasShape_of_hasType (Table.read_hasType hfield hfits)

theorem read_hasItemShape (h : f.Resolved t) (hfits : t.Fits record)
    (hseq : ¬ f.type.sequence) :
    (t.read f.index record).HasItemShape f.type.scalar.kind :=
  (Value.hasShape_single hseq).mp (h.read_hasShape hfits)

/-- What a text test reads is text or null. -/
theorem read_text (h : f.Resolved t) (hfits : t.Fits record)
    (hstring : f.type.isStringLike) :
    t.read f.index record = .null ∨ ∃ s, t.read f.index record = .string s := by
  obtain ⟨hseq, hscalar⟩ := Bool.and_eq_true_iff.mp hstring
  have hshape := h.read_hasItemShape hfits (by simpa using hseq)
  rw [beq_iff_eq.mp hscalar] at hshape
  refine hshape.imp id fun hkind => ?_
  generalize t.read f.index record = v at hkind
  cases hkind with
  | string s => exact ⟨s, rfl⟩

end FieldRef.Resolved

/-- A type with an order is not repeated and not of truth values. -/
theorem FieldType.single_of_isOrdered {type : FieldType} (h : type.isOrdered) :
    ¬ type.sequence ∧ type.scalar.kind ≠ .bool := by
  obtain ⟨hseq, hordered⟩ := Bool.and_eq_true_iff.mp h
  refine ⟨by simpa using hseq, fun hkind => ?_⟩
  cases hscalar : type.scalar with
  | bool => simp [hscalar, Scalar.isOrdered] at hordered
  | integer k => cases hk : k.signed <;> simp [hscalar, Scalar.kind, hk] at hkind
  | single | double | string | timestamp | enum => simp [hscalar, Scalar.kind] at hkind

/-! ## Evaluation -/

namespace Expr

/-- **Every step of a well-typed expression is sound** on a record that fits. -/
theorem sound_of_mem_steps {e : Expr} (h : e.WellTyped t) (hfits : t.Fits record) :
    ∀ step ∈ e.steps t record, step.Sound := by
  induction e with
  | compare f op value =>
      obtain ⟨hf, hvalue, hordered⟩ := h
      have hcomparable := Value.comparable_of_hasShape (hf.read_hasShape hfits) hvalue
      rw [steps]
      split
      · exact List.forall_mem_singleton.mpr hcomparable
      · next hop =>
          -- a range test has no rule for lists and truth values, and meets none
          obtain ⟨hseq, hkind⟩ := FieldType.single_of_isOrdered (hordered hop)
          exact List.forall_mem_singleton.mpr ⟨hcomparable,
            Value.mayBeUnordered_of_rangeOrder?_eq_none hkind
              (hf.read_hasItemShape hfits hseq) ((Value.hasShape_single hseq).mp hvalue)⟩
  | text f test pattern => exact List.forall_mem_singleton.mpr (h.1.read_text hfits h.2)
  | member f values =>
      obtain ⟨hf, hseq, hvalues⟩ := h
      intro step hstep
      obtain ⟨v, hv, rfl⟩ := List.mem_map.mp hstep
      exact Value.comparable_of_hasItemShape (hf.read_hasItemShape hfits hseq) (hvalues v hv)
  | and l r ihl ihr =>
      intro step hstep
      rcases List.mem_append.mp hstep with hstep | hstep
      · exact ihl h.1 step hstep
      · exact ihr h.2 step hstep
  | not e ih => exact ih h

/-- **The evaluation of a well-typed expression never falls through** on a record
that fits: the strict evaluator has the same answers. -/
theorem strict_eq_accepts {e : Expr} (h : e.WellTyped t) (hfits : t.Fits record) :
    e.strict t record = .ok (e.accepts t record) := by
  induction e with
  | compare f op value =>
      obtain ⟨hf, hvalue, hordered⟩ := h
      have hread := hf.read_hasShape hfits
      rw [strict, hf.strictRead, accepts]
      by_cases hop : op.isEquality
      · exact Comparison.strictHolds_of_isEquality hop
          (Value.comparable_of_hasShape hread hvalue)
      · obtain ⟨hseq, hkind⟩ := FieldType.single_of_isOrdered (hordered hop)
        exact Comparison.strictHolds_of_hasItemShape hop hkind
          ((Value.hasShape_single hseq).mp hread) ((Value.hasShape_single hseq).mp hvalue)
  | text f test pattern =>
      rw [strict, h.1.strictRead, accepts]
      rcases h.1.read_text hfits h.2 with hnull | ⟨s, hs⟩
      · rw [hnull]; rfl
      · rw [hs]; rfl
  | member f values =>
      obtain ⟨hf, hseq, hvalues⟩ := h
      have hread := hf.read_hasItemShape hfits hseq
      have hanswers : (values.filter fun m => !m.isNull).mapM
          (t.read f.index record).strictEqual =
            .ok ((values.filter fun m => !m.isNull).map (t.read f.index record).equal) :=
        Outcome.mapM_eq_ok_map fun m hm => Value.strictEqual_of_comparable
          (Value.comparable_of_hasItemShape hread (hvalues m (List.mem_filter.mp hm).1))
      rw [strict, hf.strictRead, accepts, isMember]
      cases hnull : (t.read f.index record).isNull with
      | true => simp [bind, Except.bind, pure, Except.pure, hnull]
      | false => simp [bind, Except.bind, pure, Except.pure, hnull, hanswers]
  | and l r ihl ihr => rw [strict, ihl h.1, ihr h.2]; rfl
  | not e ih => rw [strict, ih h]; rfl

end Expr

/-! ## Compilation -/

theorem Field.ref_resolved {f : Field} {i : Nat} (h : t.fields[i]? = some f) :
    (f.ref i).Resolved t :=
  ⟨f, h, rfl, rfl⟩

section Operators

variable {f : Field} {i : Nat} {op : Operator} {value : Literal} {e : Expr}

theorem compileComparison_wellTyped (hf : t.fields[i]? = some f) {cmp : Comparison}
    (hop : ¬ cmp.isEquality → op.isOrdering)
    (h : compileComparison f i cmp op value = .ok e) : e.WellTyped t := by
  unfold compileComparison at h
  split at h
  · cases h
  · split at h
    · cases h
    · next hordered =>
        obtain ⟨v, hv, rfl⟩ := Outcome.map_eq_ok.mp h
        refine ⟨f.ref_resolved hf, coerce_hasShape hv, fun hcmp => ?_⟩
        show f.type.isOrdered
        simpa [hop hcmp] using hordered

/-- A text test compiles to one on a field of texts. -/
theorem compileText_wellTyped (hf : t.fields[i]? = some f) {test : TextTest}
    (h : compileText f i test op value = .ok e) : e.WellTyped t := by
  unfold compileText at h
  split at h
  · next hstring =>
      obtain ⟨v, -, rfl⟩ := Outcome.map_eq_ok.mp h
      cases v <;> exact ⟨f.ref_resolved hf, hstring⟩
  · cases h

/-- A membership test compiles to one on a single field. -/
theorem compileMembership_wellTyped (hf : t.fields[i]? = some f)
    (h : compileMembership f i op value = .ok e) : e.WellTyped t := by
  unfold compileMembership at h
  split at h
  · cases h
  · next hseq =>
      split at h
      · obtain ⟨v, hv, rfl⟩ := Outcome.map_eq_ok.mp h
        obtain ⟨items, rfl, hitems⟩ := (Value.hasShape_sequence rfl).mp (coerce_hasShape hv)
        exact ⟨f.ref_resolved hf, hseq, hitems⟩
      · obtain ⟨v, hv, rfl⟩ := Outcome.map_eq_ok.mp h
        exact ⟨f.ref_resolved hf, hseq, List.forall_mem_singleton.mpr
          ((Value.hasShape_single hseq).mp (coerce_hasShape hv))⟩

/-- **What an operator compiles to is well-typed.** -/
theorem compileOn_wellTyped (hf : t.fields[i]? = some f)
    (h : compileOn f i op value = .ok e) : e.WellTyped t := by
  cases op with
  | equals | notEquals => exact compileComparison_wellTyped hf (absurd rfl) h
  | greaterThan | greaterThanOrEqual | lessThan | lessThanOrEqual =>
      exact compileComparison_wellTyped hf (fun _ => rfl) h
  | startsWith | endsWith | contains => exact compileText_wellTyped hf h
  | notContains =>
      obtain ⟨inner, hinner, rfl⟩ := Outcome.map_eq_ok.mp h
      exact compileText_wellTyped (e := inner) hf hinner
  | isIn => exact compileMembership_wellTyped hf h
  | notIn =>
      obtain ⟨inner, hinner, rfl⟩ := Outcome.map_eq_ok.mp h
      exact compileMembership_wellTyped (e := inner) hf hinner

end Operators

/-- A condition compiles to a well-typed expression or not at all. -/
theorem Condition.compile_wellTyped {c : Condition} {e : Expr} (h : c.compile t = .ok e) :
    e.WellTyped t := by
  unfold compile at h
  split at h
  · next f i hresolve => exact compileOn_wellTyped (Table.getElem?_of_resolve hresolve) h
  · cases h

namespace Expr

theorem foldl_and_wellTyped {e : Expr} {rest : List Expr} (he : e.WellTyped t)
    (hrest : ∀ e' ∈ rest, e'.WellTyped t) : (rest.foldl and e).WellTyped t := by
  induction rest generalizing e with
  | nil => exact he
  | cons e' rest ih =>
      exact ih ⟨he, hrest e' List.mem_cons_self⟩
        fun e'' hmem => hrest e'' (List.mem_cons_of_mem e' hmem)

theorem conjunction_wellTyped {es : List Expr} (h : ∀ e ∈ es, e.WellTyped t) {e : Expr}
    (he : conjunction es = some e) : e.WellTyped t := by
  cases es with
  | nil => cases he
  | cons first rest =>
      cases he
      exact foldl_and_wellTyped (h first List.mem_cons_self)
        fun e' hmem => h e' (List.mem_cons_of_mem first hmem)

theorem resolved_of_mem_fields {e : Expr} (h : e.WellTyped t) :
    ∀ f ∈ e.fields, f.Resolved t := by
  induction e with
  | compare f | text f | member f => exact List.forall_mem_singleton.mpr h.1
  | and l r ihl ihr =>
      intro f hf
      rcases List.mem_append.mp hf with hf | hf
      · exact ihl h.1 f hf
      · exact ihr h.2 f hf
  | not e ih => exact ih h

end Expr

/-- The filter of a plan is well-typed, since all its conditions are. -/
theorem Plan.filter_wellTyped (h : compile t r o = .ok p) {e : Expr}
    (he : p.filter = some e) : e.WellTyped t := by
  obtain ⟨conditions, _, _, _, hconditions, -, -, -, rfl⟩ := compile_eq_ok.mp h
  refine Expr.conjunction_wellTyped (fun e' hmem => ?_) he
  obtain ⟨c, -, hc⟩ := Outcome.exists_of_mem_mapM hconditions hmem
  exact Condition.compile_wellTyped hc

/-- **A compiled filter is type-safe.**  Its references are to fields of the table
with their own names and types, and on every record that fits the table each step
of its evaluation has a rule of its own: nothing reads past the end of the table,
compares values of different kinds, tests anything but text as text, or lacks an
order except for null and NaN. -/
theorem compiled_filter_typeSafe (h : Plan.compile t r o = .ok p) {e : Expr}
    (he : p.filter = some e) :
    (∀ f ∈ e.fields, ∃ field, t.fields[f.index]? = some field ∧
      field.name = f.name ∧ field.type = f.type) ∧
    ∀ record, t.Fits record →
      (∀ step ∈ e.steps t record, step.Sound) ∧
      e.strict t record = .ok (e.accepts t record) := by
  have htyped := Plan.filter_wellTyped h he
  exact ⟨Expr.resolved_of_mem_fields htyped, fun record hfits =>
    ⟨Expr.sound_of_mem_steps htyped hfits, Expr.strict_eq_accepts htyped hfits⟩⟩

open Samples.Tickets in
/-- Tests of an enumeration, of a membership with null on both sides and of a text. -/
theorem compiled_filter_typeSafe_secondByOwner :
    ∃ p e, Plan.compile table secondByOwner {} = .ok p ∧ p.filter = some e ∧
      ∀ record ∈ records, table.Fits record ∧ (∀ step ∈ e.steps table record, step.Sound) ∧
        e.strict table record = .ok (e.accepts table record) := by
  have hfits : ∀ record ∈ records, table.Fits record := by decide
  obtain ⟨-, hsafe⟩ := compiled_filter_typeSafe (t := table) (r := secondByOwner) (o := {})
    rfl rfl
  exact ⟨_, _, rfl, rfl, fun record hmem =>
    ⟨hfits record hmem, hsafe record (hfits record hmem)⟩⟩

end RecordQuery
