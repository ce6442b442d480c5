import RecordQuery.Proofs.Comparisons

/-!
# The sorting order as a strict order

Of the three relations of values the sorting order is the finest: equality is one of its
answers, and the order of range tests is its part for the kinds that have one.  On lists both
equality and the sorting order are loops over the pairs of items.  Equality asks for all pairs,
and the sorting order stops at the first pair that is not equal (`orderLists?_eq_find?`), so
the two agree (`equal_and_rangeOrder?_agree`) whatever stands behind that pair.

On the values of a type it is a strict order: a NaN may leave it without an answer, but the
answers that there are compose, and equal values are in one place.  This is what `LawfulOn`
says of each pair of answers (`LawfulOn.strictOrderOn`).  A list and a longer one that it begins
are compared item by item with themselves, so the shorter one is before the other exactly when
none of its items is a NaN (`orderLists?_eq_lt_iff_of_prefix`).
-/

namespace RecordQuery

namespace Value

/-! ## Pairs of items -/

/-- A value with a place in range tests, as neither null nor a truth value nor a list has. -/
def isRanged : Value → Bool
  | null | bool _ | list _ => false
  | number _ | string _ | timestamp _ | enum _ => true

/-- Lists are equal when they have one length and each pair of items is equal. -/
theorem equalLists_eq_all (as bs : List Value) :
    equalLists as bs =
      (as.length == bs.length && (as.zip bs).all fun pair => pair.1.equal pair.2) := by
  induction as generalizing bs with
  | nil => cases bs <;> rfl
  | cons a as ih =>
      cases bs with
      | nil => rfl
      | cons b bs =>
          have hlength : ((a :: as).length == (b :: bs).length) = (as.length == bs.length) := by
            simp
          rw [equalLists, ih, List.zip_cons_cons, List.all_cons, hlength, Bool.and_left_comm]

/-- The first pair of items that are not equal decides the order of lists, and without one
their lengths do. -/
theorem orderLists?_eq_find? (as bs : List Value) :
    orderLists? as bs =
      ((as.zip bs).find? fun pair => pair.1.order? pair.2 != some .eq).elim
        (some (compare as.length bs.length)) fun pair => pair.1.order? pair.2 := by
  induction as generalizing bs with
  | nil => cases bs <;> rfl
  | cons a as ih =>
      cases bs with
      | nil => rfl
      | cons b bs =>
          have hlength : compare (a :: as).length (b :: bs).length =
              compare as.length bs.length := by
            simp [Nat.compare_eq_ite_lt]
          rw [orderLists?, List.zip_cons_cons, hlength]
          split
          · next heq => rw [ih, List.find?_cons_of_neg (by simp [heq])]
          · next hne => rw [List.find?_cons_of_pos (by simpa using hne), Option.elim_some]

/-- A range test orders values as sorting does, if both are of a ranged type, and no others.
-/
theorem rangeOrder?_eq_ite (a b : Value) :
    a.rangeOrder? b = if a.isRanged && b.isRanged then a.order? b else none := by
  cases a <;> cases b <;> rfl

/-- **Equality and the order of range tests are parts of the sorting order.**  Values of any
kinds are equal exactly when the sorting order calls them equal, and between values with a
place in range tests its answer, or the lack of one, is theirs.  For lists, equality asks for
the same length and for all pairs of items, while the sorting order takes the first pair that
is not equal and only then the lengths. -/
theorem equal_and_rangeOrder?_agree (a b : Value) (as bs : List Value) :
    (a.equal b ↔ a.order? b = some .eq) ∧
    (a.rangeOrder? b = if a.isRanged && b.isRanged then a.order? b else none) ∧
    ((list as).equal (list bs) =
      (as.length == bs.length && (as.zip bs).all fun pair => pair.1.equal pair.2)) ∧
    (list as).order? (list bs) =
      ((as.zip bs).find? fun pair => pair.1.order? pair.2 != some .eq).elim
        (some (compare as.length bs.length)) fun pair => pair.1.order? pair.2 := by
  rw [equal, order?]
  exact ⟨equal_iff_order?_eq a b, rangeOrder?_eq_ite a b, equalLists_eq_all as bs,
    orderLists?_eq_find? as bs⟩

end Value

/-! ## Strict order -/

variable {α : Type} {S S' : α → Prop} {cmp : α → α → Option Ordering}

/-- A comparison that need not have an answer is a strict order of the items with a property,
and its equality respects it. -/
structure StrictOrderOn (S : α → Prop) (cmp : α → α → Option Ordering) : Prop where
  /-- The other way around the answer is the reverse; there is none both ways or neither. -/
  swap : ∀ {a b}, S a → S b → cmp b a = (cmp a b).map Ordering.swap
  lt_trans : ∀ {a b c}, S a → S b → S c → cmp a b = some .lt → cmp b c = some .lt →
    cmp a c = some .lt
  lt_of_lt_of_eq : ∀ {a b c}, S a → S b → S c → cmp a b = some .lt → cmp b c = some .eq →
    cmp a c = some .lt
  lt_of_eq_of_lt : ∀ {a b c}, S a → S b → S c → cmp a b = some .eq → cmp b c = some .lt →
    cmp a c = some .lt
  eq_trans : ∀ {a b c}, S a → S b → S c → cmp a b = some .eq → cmp b c = some .eq →
    cmp a c = some .eq

theorem LawfulOn.mono (h : LawfulOn S cmp) (hS : ∀ {a}, S' a → S a) : LawfulOn S' cmp where
  swap ha hb := h.swap (hS ha) (hS hb)
  trans ha hb hc := h.trans (hS ha) (hS hb) (hS hc)

/-- A lawful comparison is a strict order: its four laws are the ways in which two answers can
lead forward. -/
theorem LawfulOn.strictOrderOn (h : LawfulOn S cmp) : StrictOrderOn S cmp where
  swap := h.swap
  lt_trans ha hb hc hab hbc := h.trans ha hb hc hab hbc (by decide) (by decide)
  lt_of_lt_of_eq ha hb hc hab hbc := h.trans ha hb hc hab hbc (by decide) (by decide)
  lt_of_eq_of_lt ha hb hc hab hbc := h.trans ha hb hc hab hbc (by decide) (by decide)
  eq_trans ha hb hc hab hbc := h.trans ha hb hc hab hbc (by decide) (by decide)

/-- Nothing is before itself. -/
theorem StrictOrderOn.irrefl (h : StrictOrderOn S cmp) {a : α} (ha : S a) :
    cmp a a ≠ some .lt := by
  intro hlt
  have hswap := h.swap ha ha
  rw [hlt] at hswap
  cases hswap

namespace Value

variable {as bs : List Value} {t : FieldType}

theorem order?_null_eq_lt_iff (v : Value) : null.order? v = some .lt ↔ v ≠ null := by
  cases v <;> simp [order?]

/-- A list is before one that it begins exactly when its items are equal to themselves. -/
theorem orderLists?_eq_lt_iff_of_prefix (hirrefl : ∀ a ∈ as, a.order? a ≠ some .lt)
    (hbegins : as <+: bs) (hne : as ≠ bs) :
    orderLists? as bs = some .lt ↔ ∀ a ∈ as, a.order? a = some .eq := by
  obtain ⟨rest, rfl⟩ := hbegins
  induction as with
  | nil =>
      cases rest with
      | nil => exact absurd rfl hne
      | cons b rest => exact iff_of_true rfl nofun
  | cons a as ih =>
      obtain ⟨ha, has⟩ := List.forall_mem_cons.mp hirrefl
      have htail := ih has fun heq => hne (congrArg (a :: ·) heq)
      rw [List.cons_append, orderLists?_cons_eq_some, htail, List.forall_mem_cons]
      exact or_iff_left fun hlt => ha hlt.1

/-- Only sequences have lists as values. -/
theorem hasItemShape_of_hasType_list (h : (list bs).HasType t) :
    ∀ b ∈ bs, b.HasItemShape t.scalar.kind := by
  have hshape := hasShape_of_hasType h
  by_cases hseq : t.sequence
  · obtain ⟨items, heq, hitems⟩ := (hasShape_sequence hseq).mp hshape
    cases heq
    exact hitems
  · rcases (hasShape_single hseq).mp hshape with hnull | hkind
    · cases hnull
    · cases hkind

/-- **The sorting order is a strict order of the values of a type**, sequences of
floating-point numbers and null among them: it is reversed with its sides, and what is before
or equal composes.  Null is before all other values, and a list is before each longer one that
it begins exactly when its items are equal to themselves, as all but NaNs are. -/
theorem order?_strictOrderOn (t : FieldType) :
    StrictOrderOn (·.HasType t) order? ∧
    (∀ v : Value, null.order? v = some .lt ↔ v ≠ null) ∧
    ∀ as bs : List Value, (list bs).HasType t → as <+: bs → as ≠ bs →
      ((list as).order? (list bs) = some .lt ↔ ∀ a ∈ as, a.order? a = some .eq) := by
  refine ⟨((hasShape_order?_lawful t).mono hasShape_of_hasType).strictOrderOn,
    order?_null_eq_lt_iff, fun as bs htype hbegins hne => ?_⟩
  have hitems := hasItemShape_of_hasType_list htype
  have hstrict := (hasItemShape_order?_lawful t.scalar.kind).strictOrderOn
  rw [order?]
  exact orderLists?_eq_lt_iff_of_prefix
    (fun a ha => hstrict.irrefl (hitems a (hbegins.subset ha))) hbegins hne

/-- Among sequences of numbers that may be missing, a list is before the same one with a NaN
behind its items, and so before all that the longer one is before. -/
theorem order?_strictOrderOn_samples :
    let t : FieldType := ⟨.double, true, true⟩
    let front := [number (.float (.ofInt 1)), null]
    let longer := front ++ [number (.float (.nan false))]
    let greater := [number (.float (.ofInt 2)), number (.float (.nan false))]
    (list front).HasType t ∧ (list longer).HasType t ∧ (list greater).HasType t ∧
      (list front).order? (list longer) = some .lt ∧
      (list front).order? (list greater) = some .lt ∧
      (list longer).order? (list longer) = none := by
  intro t front longer greater
  have hfront : (list front).HasType t := by decide
  have hlonger : (list longer).HasType t := by decide
  have hgreater : (list greater).HasType t := by decide
  have hne : front ≠ longer := fun heq => absurd (congrArg List.length heq) (by decide)
  obtain ⟨hstrict, -, hbegins⟩ := order?_strictOrderOn t
  have hlt : (list front).order? (list longer) = some .lt :=
    (hbegins front longer hlonger (List.prefix_append _ _) hne).mpr (by decide)
  refine ⟨hfront, hlonger, hgreater, hlt, ?_, by decide⟩
  exact hstrict.lt_trans hfront hlonger hgreater hlt (by decide)

end Value

end RecordQuery
