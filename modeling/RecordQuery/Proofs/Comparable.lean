import RecordQuery.Expr
import RecordQuery.Proofs.ValueOrder

/-!
# Comparable values

Equality and the order of range tests end in a rule for everything else: values
that no other rule covers are unequal, and have no order.  That rule is right for
null.  For values of different kinds it would hide a mistake, because a test that
compares a text with a number is simply never true.

`Value.Comparable` is what the two sides of a comparison have to be for that rule
never to be reached.  `Value.strictEqual` and `Comparison.strictHolds` are the
comparisons without it: they refuse with a `Fault` what they do not cover.  On
comparable values nothing is refused and the answers are the same
(`Value.strictEqual_of_comparable`, `Comparison.strictHolds_of_hasItemShape`).
-/

namespace RecordQuery

/-- What the evaluation of a filter gives an answer to without having one. -/
inductive Fault
  /-- A position past the end of the table. -/
  | missingField
  /-- Two values of different kinds. -/
  | mismatch
  /-- A text test of something other than text. -/
  | notText
  /-- A range test without an order, although neither side is null or a NaN. -/
  | unordered
  deriving DecidableEq

/-- The numbers are stored in the same form. -/
def Number.sameForm : Number → Number → Bool
  | signed _, signed _ => true
  | unsigned _, unsigned _ => true
  | float _, float _ => true
  | _, _ => false

namespace Value

/-- The values are of one kind, one of them is null, or they are lists whose items
are comparable as far as they stand opposite each other. -/
inductive Comparable : Value → Value → Prop
  | nullLeft (v : Value) : Comparable null v
  | nullRight (v : Value) : Comparable v null
  | scalars {a b : Value} {k : Kind} (ha : a.IsKind k) (hb : b.IsKind k) : Comparable a b
  | lists {as bs : List Value} (h : ∀ pair ∈ as.zip bs, Comparable pair.1 pair.2) :
      Comparable (list as) (list bs)

mutual

/-- Equality that refuses values of different kinds. -/
def strictEqual : Value → Value → Except Fault Bool
  | null, null => .ok true
  | null, _ => .ok false
  | _, null => .ok false
  | bool a, bool b => .ok (a == b)
  | number a, number b =>
    if a.sameForm b then .ok (a.order? b == some .eq) else .error .mismatch
  | string a, string b => .ok (a == b)
  | timestamp a, timestamp b => .ok (a == b)
  | enum a, enum b => .ok (a == b)
  | list as, list bs => strictEqualLists as bs
  | _, _ => .error .mismatch

/-- Equality of lists that refuses items of different kinds, wherever they stand. -/
def strictEqualLists : List Value → List Value → Except Fault Bool
  | [], [] => .ok true
  | a :: as, b :: bs => do
    let head ← a.strictEqual b
    let rest ← strictEqualLists as bs
    return head && rest
  | _, _ => .ok false

end

/-- The order of range tests that refuses values of different kinds. -/
def strictRange? : Value → Value → Except Fault (Option Ordering)
  | null, _ => .ok none
  | _, null => .ok none
  | number a, number b => if a.sameForm b then .ok (a.order? b) else .error .mismatch
  | string a, string b => .ok (some (textOrder a b))
  | timestamp a, timestamp b => .ok (some (a.order b))
  | enum a, enum b => .ok (some (compare a.toNat b.toNat))
  | _, _ => .error .mismatch

/-- One of the values is null or a NaN, so that they need not have an order. -/
def MayBeUnordered (a b : Value) : Prop :=
  a.isNull ∨ b.isNull ∨ a.isNaN ∨ b.isNaN

instance (a b : Value) : Decidable (a.MayBeUnordered b) :=
  inferInstanceAs (Decidable (_ ∨ _ ∨ _ ∨ _))

end Value

/-- The truth of a comparison that refuses values of different kinds, and a range
test of values that have no order for no reason. -/
def Comparison.strictHolds : Comparison → Value → Value → Except Fault Bool
  | eq, a, b => a.strictEqual b
  | ne, a, b => (a.strictEqual b).map (!·)
  | op, a, b =>
    match a.strictRange? b with
    | .ok (some o) => .ok (op.ofOrdering o)
    | .ok none => if a.MayBeUnordered b then .ok false else .error .unordered
    | .error fault => .error fault

/-! ## Values of one shape -/

namespace Value

/-- Two items of one kind, or nulls, can be compared. -/
theorem comparable_of_hasItemShape {a b : Value} {k : Kind} (ha : a.HasItemShape k)
    (hb : b.HasItemShape k) : a.Comparable b := by
  rcases ha with rfl | ha
  · exact .nullLeft b
  · rcases hb with rfl | hb
    · exact .nullRight a
    · exact .scalars ha hb

/-- Two values of one type can be compared, item by item if they are lists. -/
theorem comparable_of_hasShape {a b : Value} {t : FieldType} (ha : a.HasShape t)
    (hb : b.HasShape t) : a.Comparable b := by
  by_cases hseq : t.sequence
  · obtain ⟨as, rfl, has⟩ := (hasShape_sequence hseq).mp ha
    obtain ⟨bs, rfl, hbs⟩ := (hasShape_sequence hseq).mp hb
    refine .lists fun pair hpair => ?_
    have hmem := List.of_mem_zip hpair
    exact comparable_of_hasItemShape (has _ hmem.1) (hbs _ hmem.2)
  · exact comparable_of_hasItemShape ((hasShape_single hseq).mp ha)
      ((hasShape_single hseq).mp hb)

/-- Lists are compared strictly without an error if their common items are; what one list
has more is never looked at. -/
theorem strictEqualLists_of_zip {as bs : List Value}
    (h : ∀ pair ∈ as.zip bs, pair.1.strictEqual pair.2 = .ok (pair.1.equal pair.2)) :
    strictEqualLists as bs = .ok (equalLists as bs) := by
  induction as generalizing bs with
  | nil => cases bs <;> rfl
  | cons a as ih =>
      cases bs with
      | nil => rfl
      | cons b bs =>
          have hhead := h (a, b) List.mem_cons_self
          have hrest := ih fun pair hpair => h pair (List.mem_cons_of_mem _ hpair)
          rw [strictEqualLists, hhead, hrest]
          rfl

/-- **Comparable values are never refused**, and equality is what it is anyway. -/
theorem strictEqual_of_comparable {a b : Value} (h : a.Comparable b) :
    a.strictEqual b = .ok (a.equal b) := by
  induction h with
  | nullLeft v => cases v <;> rfl
  | nullRight v => cases v <;> rfl
  | scalars ha hb => cases ha <;> cases hb <;> rfl
  | lists _ ih => exact strictEqualLists_of_zip ih

/-- Range tests of values that have an order type see values of one kind. -/
theorem strictRange?_of_hasItemShape {a b : Value} {k : Kind} (hk : k ≠ .bool)
    (ha : a.HasItemShape k) (hb : b.HasItemShape k) :
    a.strictRange? b = .ok (a.rangeOrder? b) := by
  rcases ha with rfl | ha
  · cases b <;> rfl
  · rcases hb with rfl | hb
    · cases a <;> rfl
    · cases ha with
      | bool => exact absurd rfl hk
      | signed | unsigned | float | string | timestamp | enum => cases hb; rfl

/-- Between values of one kind a range test is decided by the order of the values. -/
theorem rangeOrder?_of_isKind {a b : Value} {k : Kind} (hk : k ≠ .bool) (ha : a.IsKind k)
    (hb : b.IsKind k) : a.rangeOrder? b = a.order? b := by
  cases ha with
  | bool => exact absurd rfl hk
  | signed | unsigned | float | string | timestamp | enum => cases hb; rfl

/-- Only null and NaN leave a range test without an order. -/
theorem mayBeUnordered_of_rangeOrder?_eq_none {a b : Value} {k : Kind} (hk : k ≠ .bool)
    (ha : a.HasItemShape k) (hb : b.HasItemShape k) (h : a.rangeOrder? b = none) :
    a.MayBeUnordered b := by
  rcases ha with rfl | ha
  · exact .inl rfl
  · rcases hb with rfl | hb
    · exact .inr (.inl rfl)
    · rw [rangeOrder?_of_isKind hk ha hb] at h
      by_cases hstring : k = .string
      · subst hstring
        rw [order?_of_isString ha hb] at h
        cases h
      · rw [order?_of_isKind ha hb hstring] at h
        split at h
        · next hnan => exact .inr (.inr (Bool.or_eq_true_iff.mp hnan))
        · cases h

end Value

/-- The equality tests. -/
def Comparison.isEquality : Comparison → Bool
  | eq | ne => true
  | _ => false

/-- A test for equality never falls back on an answer between values that can be compared.
-/
theorem Comparison.strictHolds_of_isEquality {op : Comparison} (hop : op.isEquality)
    {a b : Value} (h : a.Comparable b) : op.strictHolds a b = .ok (op.holds a b) := by
  cases op with
  | eq => exact Value.strictEqual_of_comparable h
  | ne =>
      rw [strictHolds, Value.strictEqual_of_comparable h]
      rfl
  | gt | ge | lt | le => cases hop

/-- Nor does a range test between items of an ordered kind. -/
theorem Comparison.strictHolds_of_hasItemShape {op : Comparison} (hop : ¬ op.isEquality)
    {a b : Value} {k : Kind} (hk : k ≠ .bool) (ha : a.HasItemShape k)
    (hb : b.HasItemShape k) : op.strictHolds a b = .ok (op.holds a b) := by
  have hrange := Value.strictRange?_of_hasItemShape hk ha hb
  have hnone := Value.mayBeUnordered_of_rangeOrder?_eq_none hk ha hb
  cases op with
  | eq | ne => exact absurd rfl hop
  | gt | ge | lt | le =>
      simp only [strictHolds, holds, hrange]
      cases horder : a.rangeOrder? b with
      | some o => rfl
      | none => simp only [if_pos (hnone horder)]

end RecordQuery
