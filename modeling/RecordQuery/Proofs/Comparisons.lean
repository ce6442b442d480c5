import RecordQuery.Proofs.Numerals
import RecordQuery.Proofs.TypeSafety

/-!
# Comparison operators

Equality is decided by one function and the four range tests by another, three of the
six operators are negations, and a literal reaches all of them through its conversion
to the type of the field.  Together they are the comparisons of one order.

Equality is the answer "equal" of the order that sorts (`Value.equal_iff_order?_eq`),
and where range tests have an order it is that one.  So whenever there is an order of
two values, each operator reads its answer off it (`Comparison.holds_eq_ofOrdering`);
there is none exactly when null or a NaN is among them.  `Comparison.Consistent` is
what follows for the six answers, and `comparisons_consistent` says it of conditions
on a field.
-/

namespace RecordQuery

variable {t : Table} {f : Field} {i : Nat} {op : Operator} {name : String} {value : Literal}
  {operand : Value} {record : Record}

/-! ## Equality and order -/

/-- Two timestamps compare as equal only if they are the same. -/
theorem Timestamp.order_eq_eq_iff {s t : Timestamp} : s.order t = .eq ↔ s = t := by
  rw [order_eq_compare_instant, Std.compare_eq_iff_eq]
  refine ⟨fun h => ?_, congrArg instant⟩
  have hs := s.nanos_lt
  have ht := t.nanos_lt
  have hsecs : s.secs.toInt = t.secs.toInt := by unfold instant at h; omega
  have hnanos : s.nanos = t.nanos := by unfold instant at h; omega
  cases s
  cases t
  simp_all [Int64.toInt_inj]

namespace Value

mutual

/-- **Equality is what the sorting order calls equal**, for values of any kinds. -/
theorem equal_iff_order?_eq : ∀ a b : Value, a.equal b ↔ a.order? b = some .eq
  | list as, list bs => by
      rw [equal, order?]
      exact equalLists_iff_orderLists?_eq as bs
  | null, b => by cases b <;> simp [equal, order?]
  | number a, b => by cases b <;> simp [equal, order?]
  | string a, b => by
      cases b with
      | string b =>
          have horder : textOrder a b = compare a b := rfl
          simp [equal, order?, horder]
      | _ => simp [equal, order?]
  | timestamp a, b => by cases b <;> simp [equal, order?, Timestamp.order_eq_eq_iff]
  | enum a, b => by cases b <;> simp [equal, order?, UInt32.toNat_inj]
  | bool a, b => by
      cases b with
      | bool b => cases a <;> cases b <;> simp [equal, order?, boolOrder]
      | _ => simp [equal, order?]
  | list as, null | list as, bool _ | list as, number _ | list as, string _
  | list as, timestamp _ | list as, enum _ => by simp [equal, order?]

theorem equalLists_iff_orderLists?_eq :
    ∀ as bs : List Value, equalLists as bs ↔ orderLists? as bs = some .eq
  | [], bs => by cases bs <;> simp [equalLists, orderLists?]
  | a :: as, [] => by simp [equalLists, orderLists?]
  | a :: as, b :: bs => by
      rw [equalLists, Bool.and_eq_true, equal_iff_order?_eq a b,
        equalLists_iff_orderLists?_eq as bs, orderLists?_cons_eq_some]
      simp

end

/-- The order of range tests is the sorting order where it has an answer. -/
theorem order?_of_rangeOrder? {a b : Value} {o : Ordering} (h : a.rangeOrder? b = some o) :
    a.order? b = some o := by
  cases a <;> cases b <;> first | exact h | cases h

/-- Null and NaN have no order. -/
theorem rangeOrder?_of_mayBeUnordered {a b : Value} (h : a.MayBeUnordered b) :
    a.rangeOrder? b = none := by
  have hnumber : ∀ {m n : Number}, (number m).isNaN ∨ (number n).isNaN → m.order? n = none := by
    intro m n hnan
    cases m <;> cases n <;>
      simp_all [isNaN, Number.order?, Number.toFloat, Binary64.order?]
  cases a <;> cases b <;> first
    | rfl
    | exact hnumber (by simpa [MayBeUnordered, isNull] using h)
    | simp [MayBeUnordered, isNull, isNaN] at h

/-- A range test lacks an order only where null or NaN takes part. -/
theorem exists_rangeOrder? {a b : Value} {k : Kind} (hk : k ≠ .bool) (ha : a.HasItemShape k)
    (hb : b.HasItemShape k) (h : ¬ a.MayBeUnordered b) : ∃ o, a.rangeOrder? b = some o :=
  Option.ne_none_iff_exists'.mp fun hnone =>
    h (mayBeUnordered_of_rangeOrder?_eq_none hk ha hb hnone)

/-- Of two values that range tests cannot order, only two nulls are equal. -/
theorem equal_iff_of_mayBeUnordered {a b : Value} {k : Kind} (hk : k ≠ .bool)
    (ha : a.HasItemShape k) (hb : b.HasItemShape k) (h : a.MayBeUnordered b) :
    a.equal b ↔ a = null ∧ b = null := by
  rw [equal_iff_order?_eq]
  -- In the sorting order null comes before everything else, so only two nulls are equal
  -- in it; without null there is a NaN, and the order is that of range tests.
  rcases ha with rfl | ha
  · rcases hb with rfl | hb
    · exact iff_of_true rfl ⟨rfl, rfl⟩
    · rw [order?_null_left hb]
      refine iff_of_false (by decide) fun hnull => ?_
      cases hb <;> cases hnull.2
  · refine iff_of_false ?_ fun hnull => by cases ha <;> cases hnull.1
    rcases hb with rfl | hb
    · rw [order?_null_right ha]
      decide
    · rw [← rangeOrder?_of_isKind hk ha hb, rangeOrder?_of_mayBeUnordered h]
      decide

/-- The value is a number of an integer kind with a mathematical value. -/
def IsInteger (v : Value) (m : Int) : Prop :=
  ∃ n : Number, v = number n ∧ n.IsInteger m

/-- Of integers a range test asks for the order of the integers they stand for, whichever
words hold them. -/
theorem rangeOrder?_of_isInteger {a b : Value} {m n : Int} (ha : a.IsInteger m)
    (hb : b.IsInteger n) : a.rangeOrder? b = some (compare m n) := by
  obtain ⟨a, rfl, ha⟩ := ha
  obtain ⟨b, rfl, hb⟩ := hb
  cases ha <;> cases hb <;> rfl

theorem exists_isInteger {v : Value} {kind : IntegerKind}
    (h : v.HasItemShape (Scalar.integer kind).kind) (hnull : v ≠ null) : ∃ m, v.IsInteger m := by
  have hkind := h.resolve_left hnull
  rw [Scalar.kind] at hkind
  split at hkind <;> cases hkind
  · exact ⟨_, _, rfl, .signed _⟩
  · exact ⟨_, _, rfl, .unsigned _⟩

end Value

/-! ## Comparisons of one order -/

namespace Comparison

/-- The operator that asks for a comparison. -/
def operator : Comparison → Operator
  | eq => .equals
  | ne => .notEquals
  | gt => .greaterThan
  | ge => .greaterThanOrEqual
  | lt => .lessThan
  | le => .lessThanOrEqual

/-- The comparison of two integers. -/
def Relates : Comparison → Int → Int → Prop
  | eq, m, n => m = n
  | ne, m, n => m ≠ n
  | gt, m, n => n < m
  | ge, m, n => n ≤ m
  | lt, m, n => m < n
  | le, m, n => m ≤ n

/-- The answers to the six comparisons of two values are those of one order, in which
neither null nor NaN has a place. -/
structure Consistent (answer : Comparison → Bool) (a b : Value) : Prop where
  /-- Inequality is the opposite of equality, also for null and NaN. -/
  ne_iff : answer .ne ↔ ¬ answer .eq
  /-- Values with an order are less, equal or greater, and only one of these. -/
  exactlyOne : ¬ a.MayBeUnordered b → [answer .lt, answer .eq, answer .gt].count true = 1
  le_iff : ¬ a.MayBeUnordered b → (answer .le ↔ answer .lt ∨ answer .eq)
  ge_iff : ¬ a.MayBeUnordered b → (answer .ge ↔ answer .gt ∨ answer .eq)
  /-- Values without an order pass no range test. -/
  unordered : a.MayBeUnordered b → ∀ c : Comparison, ¬ c.isEquality → ¬ answer c
  /-- The only equal ones among them are two nulls. -/
  nulls : a.MayBeUnordered b → (answer .eq ↔ a = .null ∧ b = .null)

/-- **Every comparison of two values with an order reads its answer off the order.** -/
theorem holds_eq_ofOrdering {a b : Value} {o : Ordering} (h : a.rangeOrder? b = some o)
    (c : Comparison) : c.holds a b = c.ofOrdering o := by
  have hequal : a.equal b = (o == .eq) := by
    rw [Bool.eq_iff_iff, Value.equal_iff_order?_eq, Value.order?_of_rangeOrder? h,
      Option.some.injEq, beq_iff_eq]
  cases c with
  | eq => exact hequal
  | ne => exact congrArg (!·) hequal
  | gt | ge | lt | le => simp [holds, h]

/-- The six answers for values of a kind with an order are consistent. -/
theorem holds_consistent {a b : Value} {k : Kind} (hk : k ≠ .bool) (ha : a.HasItemShape k)
    (hb : b.HasItemShape k) : Consistent (·.holds a b) a b where
  ne_iff := by simp [holds]
  exactlyOne h := by
    obtain ⟨o, ho⟩ := Value.exists_rangeOrder? hk ha hb h
    simp only [holds_eq_ofOrdering ho]
    cases o <;> rfl
  le_iff h := by
    obtain ⟨o, ho⟩ := Value.exists_rangeOrder? hk ha hb h
    simp only [holds_eq_ofOrdering ho]
    cases o <;> decide
  ge_iff h := by
    obtain ⟨o, ho⟩ := Value.exists_rangeOrder? hk ha hb h
    simp only [holds_eq_ofOrdering ho]
    cases o <;> decide
  unordered h c hc := by
    have hnone := Value.rangeOrder?_of_mayBeUnordered h
    cases c with
    | eq | ne => exact absurd rfl hc
    | gt | ge | lt | le => simp [holds, hnone]
  nulls h := Value.equal_iff_of_mayBeUnordered hk ha hb h

/-- The answer of a comparison to an order of integers is the relation that its sign stands
for. -/
theorem ofOrdering_compare (c : Comparison) (m n : Int) :
    c.ofOrdering (compare m n) ↔ c.Relates m n := by
  rcases Int.lt_trichotomy m n with hlt | rfl | hgt
  · rw [Std.compare_eq_lt.mpr hlt]
    cases c <;> simp [ofOrdering, Relates] <;> omega
  · rw [Std.compare_self]
    cases c <;> simp [ofOrdering, Relates]
  · rw [Std.compare_eq_gt.mpr hgt]
    cases c <;> simp [ofOrdering, Relates] <;> omega

/-- Integers of either kind are compared as integers. -/
theorem holds_iff_relates {a b : Value} {m n : Int} (ha : a.IsInteger m) (hb : b.IsInteger n)
    (c : Comparison) : c.holds a b ↔ c.Relates m n := by
  rw [holds_eq_ofOrdering (Value.rangeOrder?_of_isInteger ha hb), ofOrdering_compare]

end Comparison

/-! ## Conditions -/

/-- An array is converted to no type but sequences. -/
theorem not_isArray_of_coerce {type : FieldType} {v : Value} (hseq : ¬ type.sequence)
    (h : coerce value type = .ok v) : ¬ value.isArray := by
  intro harray
  rw [coerce, if_neg hseq] at h
  cases value with
  | array items => cases h
  | json j =>
      cases j with
      | array items => cases h
      | _ => cases harray
  | _ => cases harray

/-- A comparison with a field that is not repeated compiles when its literal can be
converted. -/
theorem compileComparison_eq_ok {c : Comparison} {e : Expr} (hseq : ¬ f.type.sequence)
    (hop : op.isOrdering → f.type.isOrdered) :
    compileComparison f i c op value = .ok e ↔
      ∃ v, coerce value f.type = .ok v ∧ .compare (f.ref i) c v = e := by
  have hordered : (op.isOrdering && !f.type.isOrdered) = false := by
    cases hcase : op.isOrdering with
    | true => rw [hop hcase]; rfl
    | false => rfl
  rw [compileComparison, hordered]
  by_cases harray : value.isArray
  · rw [if_pos (by simp [harray, hseq])]
    refine ⟨nofun, ?_⟩
    rintro ⟨v, hv, -⟩
    exact absurd harray (not_isArray_of_coerce hseq hv)
  · rw [if_neg (by simp [harray]), if_neg Bool.false_ne_true, Outcome.map_eq_ok]

theorem compileOn_operator (c : Comparison) :
    compileOn f i c.operator value = compileComparison f i c c.operator value := by
  cases c <;> rfl

namespace Condition

/-- A comparison of a field that is not repeated holds when its literal can be converted
and what it is converted to compares so. -/
theorem holds_operator_iff {c : Comparison} (hresolve : t.resolve name = .ok (f, i))
    (hseq : ¬ f.type.sequence) (hop : c.operator.isOrdering → f.type.isOrdered) :
    holds t ⟨name, c.operator, value⟩ record ↔
      ∃ v, coerce value f.type = .ok v ∧ c.holds (t.read i record) v := by
  simp only [holds_iff, compile_of_resolve hresolve, compileOn_operator,
    compileComparison_eq_ok hseq hop]
  constructor
  · rintro ⟨_, ⟨v, hv, rfl⟩, haccepts⟩
    exact ⟨v, hv, haccepts⟩
  · rintro ⟨v, hv, hholds⟩
    exact ⟨_, ⟨v, hv, rfl⟩, hholds⟩

end Condition

/-- **The six comparison operators form one consistent order.**  On a field of a type with
an order all six compile against a literal that can be converted, and on every record
that fits the table their answers are those of one order of the field's value and the
converted literal; between integers it is the order of the integers. -/
theorem comparisons_consistent (hresolve : t.resolve name = .ok (f, i))
    (hordered : f.type.isOrdered) (hvalue : coerce value f.type = .ok operand)
    (hfits : t.Fits record) :
    let answer (c : Comparison) := Condition.holds t ⟨name, c.operator, value⟩ record
    (∀ c : Comparison, Condition.Compiles t ⟨name, c.operator, value⟩) ∧
      Comparison.Consistent answer (t.read i record) operand ∧
      ∀ kind, f.type.scalar = .integer kind → t.read i record ≠ .null → operand ≠ .null →
        ∃ m n, (t.read i record).IsInteger m ∧ operand.IsInteger n ∧
          ∀ c, answer c ↔ c.Relates m n := by
  intro answer
  obtain ⟨hseq, hkind⟩ := FieldType.single_of_isOrdered hordered
  have hanswer : ∀ c : Comparison, answer c = c.holds (t.read i record) operand := by
    intro c
    rw [Bool.eq_iff_iff, Condition.holds_operator_iff hresolve hseq fun _ => hordered]
    simp [hvalue]
  have hread := (f.ref_resolved (Table.getElem?_of_resolve hresolve)).read_hasItemShape hfits hseq
  have hoperand := (Value.hasShape_single hseq).mp (coerce_hasShape hvalue)
  refine ⟨fun c => ?_, ?_, fun kind hscalar hleft hright => ?_⟩
  · rw [Condition.Compiles, Condition.compile_of_resolve hresolve, compileOn_operator]
    exact ⟨_, (compileComparison_eq_ok hseq fun _ => hordered).mpr ⟨operand, hvalue, rfl⟩⟩
  · rw [funext hanswer]
    exact Comparison.holds_consistent hkind hread hoperand
  · obtain ⟨m, hm⟩ := Value.exists_isInteger (hscalar ▸ hread) hleft
    obtain ⟨n, hn⟩ := Value.exists_isInteger (hscalar ▸ hoperand) hright
    refine ⟨m, n, hm, hn, fun c => ?_⟩
    rw [hanswer]
    exact Comparison.holds_iff_relates hm hn c

open Samples.Tickets in
/-- Owners, one of whom is missing, compared with a name, and numbers with a text that is
read as one of them. -/
theorem comparisons_consistent_tickets :
    (∀ record ∈ records, Comparison.Consistent
      (fun c => Condition.holds table ⟨"OWNER", c.operator, .string "bo"⟩ record)
      (table.read 6 record) (.string "bo")) ∧
    ∀ record ∈ records, ∃ m n, (table.read 0 record).IsInteger m ∧
      (Value.number (.unsigned 2)).IsInteger n ∧
      ∀ c : Comparison, Condition.holds table ⟨"id", c.operator, .json (.string " +02")⟩ record ↔
        c.Relates m n := by
  have howner :
      table.resolve "OWNER" = .ok (⟨"owner", (FieldType.plain .string).asNullable, 6⟩, 6) := rfl
  have hid :
      table.resolve "id" = .ok (⟨"id", .plain (.integer ⟨false, .w64⟩), 0⟩, 0) := rfl
  have hnumber : coerce (.json (.string " +02")) (.plain (.integer ⟨false, .w64⟩)) =
      .ok (.number (.unsigned 2)) := rfl
  have hfits : ∀ record ∈ records, table.Fits record := by decide
  have hread : ∀ record ∈ records, ¬ (table.read 0 record).isNull := by decide
  refine ⟨fun record hmem => ?_, fun record hmem => ?_⟩
  · exact (comparisons_consistent howner rfl rfl (hfits record hmem)).2.1
  · obtain ⟨-, -, hintegers⟩ := comparisons_consistent hid rfl hnumber (hfits record hmem)
    exact hintegers ⟨false, .w64⟩ rfl (mt Value.isNull_iff.mpr (hread record hmem)) nofun

end RecordQuery
