import RecordQuery.Proofs.Sorting

/-!
# Sorting by sequences of floating-point numbers

A floating-point field is sorted by the total order of the bits, in which a NaN
has a place.  The items of a sequence are compared by `Value.order?` instead, and
there a NaN leaves two lists without an order; they then count as equal.

Nothing is lost of the first law of a total preorder: swapping two records always
swaps the answer.  Transitivity is lost.  A list with a NaN in front counts as equal
to every other list, so it can stand between two lists that are in the wrong order
(`SortKey.compare_not_transitive`).  `SortKey.compare_lawful` says that this is all
that is lost: transitivity holds for every field type as long as both steps are
decided by an order, and only a list that holds a NaN leaves one undecided.
-/

namespace RecordQuery

variable {t : Table} {key : SortKey}

namespace Value

/-- A list with a NaN among its items. -/
def hasNaNItem : Value → Bool
  | list items => items.any isNaN
  | _ => false

/-- The values have an order to be sorted by, so that they are not equal for lack of
one. -/
def hasSortingOrder (a b : Value) : Bool :=
  match a, b with
  | number (.float _), number (.float _) => true
  | a, b => (a.order? b).isSome

/-! ## Values without an order -/

/-- A list has none of the kinds of single values. -/
theorem not_isKind_list (items : List Value) (k : Kind) : ¬ (list items).IsKind k := by
  rintro ⟨⟩

/-- Apart from two floating-point numbers values need an answer of `order?`. -/
theorem hasSortingOrder_eq_isSome {a b : Value}
    (h : ¬ a.IsKind .float ∨ ¬ b.IsKind .float) :
    a.hasSortingOrder b = (a.order? b).isSome := by
  unfold hasSortingOrder
  split
  · next x y => exact h.elim (absurd (.float x)) (absurd (.float y))
  · rfl

/-- Whether two values have an order does not depend on which comes first. -/
theorem hasSortingOrder_comm {a b : Value} {t : FieldType} (ha : a.HasShape t)
    (hb : b.HasShape t) : b.hasSortingOrder a = a.hasSortingOrder b := by
  by_cases hfloat : a.IsKind .float ∧ b.IsKind .float
  · obtain ⟨⟨⟩, ⟨⟩⟩ := hfloat
    rfl
  · rw [not_and_or] at hfloat
    rw [hasSortingOrder_eq_isSome hfloat, hasSortingOrder_eq_isSome hfloat.symm,
      (hasShape_order?_lawful t).swap ha hb, Option.isSome_map]

/-- Of two items without a NaN an order can always be told, nulls included. -/
theorem order?_isSome_of_not_isNaN {a b : Value} {k : Kind} (ha : a.HasItemShape k)
    (hb : b.HasItemShape k) (hna : a.isNaN = false) (hnb : b.isNaN = false) :
    (a.order? b).isSome := by
  rcases ha with rfl | ha <;> rcases hb with rfl | hb
  · rfl
  · rw [order?_null_left hb]; rfl
  · rw [order?_null_right ha]; rfl
  · by_cases hstring : k = .string
    · subst hstring
      rw [order?_of_isString ha hb]; rfl
    · rw [order?_of_isKind ha hb hstring, hna, hnb]; rfl

/-- **Only a NaN inside a list leaves two values of one type without an order.** -/
theorem hasSortingOrder_of_not_hasNaNItem {a b : Value} {t : FieldType} (ha : a.HasShape t)
    (hb : b.HasShape t) (hna : ¬ a.hasNaNItem) (hnb : ¬ b.hasNaNItem) :
    a.hasSortingOrder b := by
  by_cases hfloat : a.IsKind .float ∧ b.IsKind .float
  · obtain ⟨⟨⟩, ⟨⟩⟩ := hfloat
    rfl
  · rw [hasSortingOrder_eq_isSome (not_and_or.mp hfloat)]
    by_cases hseq : t.sequence
    · obtain ⟨as, rfl, has⟩ := (hasShape_sequence hseq).mp ha
      obtain ⟨bs, rfl, hbs⟩ := (hasShape_sequence hseq).mp hb
      have hnas : ∀ x ∈ as, x.isNaN = false := by simpa [hasNaNItem] using hna
      have hnbs : ∀ y ∈ bs, y.isNaN = false := by simpa [hasNaNItem] using hnb
      exact orderLists?_isSome fun x hx y hy =>
        order?_isSome_of_not_isNaN (has x hx) (hbs y hy) (hnas x hx) (hnbs y hy)
    · -- outside a list a NaN has been dealt with: null on one side decides
      rcases (hasShape_single hseq).mp ha with rfl | hka
      · rcases (hasShape_single hseq).mp hb with rfl | hkb
        · rfl
        · rw [order?_null_left hkb]; rfl
      · rcases (hasShape_single hseq).mp hb with rfl | hkb
        · rw [order?_null_right hka]; rfl
        · have hk : t.scalar.kind ≠ .float := fun hk => hfloat ⟨hk ▸ hka, hk ▸ hkb⟩
          exact order?_isSome_of_hasItemShape hk (.inr hka) (.inr hkb)

end Value

/-! ## The order that sorts -/

/-- On all values of one type, lists with a NaN among them, swapping the sides swaps
the answer. -/
theorem sortingOrder_swap {t : FieldType} {a b : Value} (ha : a.HasShape t)
    (hb : b.HasShape t) : sortingOrder b a = (sortingOrder a b).swap := by
  by_cases hsequence : t.isFloatSequence
  · obtain ⟨hseq, -⟩ := Bool.and_eq_true_iff.mp hsequence
    obtain ⟨as, rfl, -⟩ := (Value.hasShape_sequence hseq).mp ha
    obtain ⟨bs, rfl, -⟩ := (Value.hasShape_sequence hseq).mp hb
    rw [sortingOrder_eq_getD (.inl (Value.not_isKind_list bs _)),
      sortingOrder_eq_getD (.inl (Value.not_isKind_list as _)),
      (Value.hasShape_order?_lawful t).swap ha hb]
    cases (Value.list as).order? (.list bs) <;> rfl
  · exact (sortingOrder_preorderOn hsequence).swap ha hb

/-- Two steps that an order decides make one that leads forward. -/
theorem sortingOrder_trans {t : FieldType} {a b c : Value} (ha : a.HasShape t)
    (hb : b.HasShape t) (hc : c.HasShape t) (hdab : a.hasSortingOrder b)
    (hdbc : b.hasSortingOrder c) (hab : sortingOrder a b ≠ .gt)
    (hbc : sortingOrder b c ≠ .gt) : sortingOrder a c ≠ .gt := by
  by_cases hsequence : t.isFloatSequence
  · obtain ⟨hseq, -⟩ := Bool.and_eq_true_iff.mp hsequence
    have hlawful := Value.hasShape_order?_lawful t
    obtain ⟨as, rfl, -⟩ := (Value.hasShape_sequence hseq).mp ha
    obtain ⟨bs, rfl, -⟩ := (Value.hasShape_sequence hseq).mp hb
    obtain ⟨o, ho⟩ := Option.isSome_iff_exists.mp hdab
    obtain ⟨o', ho'⟩ := Option.isSome_iff_exists.mp hdbc
    rw [sortingOrder_eq_getD (.inl (Value.not_isKind_list as _)), ho] at hab
    rw [sortingOrder_eq_getD (.inl (Value.not_isKind_list bs _)), ho'] at hbc
    rw [sortingOrder_eq_getD (.inl (Value.not_isKind_list as _)),
      hlawful.trans ha hb hc ho ho' hab hbc]
    exact fun hgt => (Ordering.then_eq_gt.mp hgt).elim hab fun hgt => hbc hgt.2
  · exact (sortingOrder_preorderOn hsequence).trans ha hb hc hab hbc

/-! ## Records -/

namespace SortKey

/-- The key does not call two records equal for lack of an order. -/
def decides (key : SortKey) (a b : Record) : Bool :=
  (a.read key.field.slot).hasSortingOrder (b.read key.field.slot)

/-- The key reads a list with a NaN among its items. -/
def readsNaNItem (key : SortKey) (record : Record) : Bool :=
  (record.read key.field.slot).hasNaNItem

/-- **Swapping two records swaps the answer**, whatever the field and the direction are. -/
theorem compare_swap (hfield : key.field ∈ t.fields) {a b : Record} (ha : t.Fits a)
    (hb : t.Fits b) : key.compare b a = (key.compare a b).swap := by
  rw [compare, compare, sortingOrder_swap (Value.hasShape_of_hasType (ha _ hfield))
    (Value.hasShape_of_hasType (hb _ hfield))]
  cases key.direction <;> rfl

theorem decides_comm (hfield : key.field ∈ t.fields) {a b : Record} (ha : t.Fits a)
    (hb : t.Fits b) : key.decides b a = key.decides a b :=
  Value.hasSortingOrder_comm (Value.hasShape_of_hasType (ha _ hfield))
    (Value.hasShape_of_hasType (hb _ hfield))

/-- Two steps that an order decides make one, in descending order just as in ascending. -/
theorem compare_trans (hfield : key.field ∈ t.fields) {a b c : Record} (ha : t.Fits a)
    (hb : t.Fits b) (hc : t.Fits c) (hdab : key.decides a b) (hdbc : key.decides b c)
    (hab : key.compare a b ≠ .gt) (hbc : key.compare b c ≠ .gt) :
    key.compare a c ≠ .gt := by
  have hshape : ∀ {r : Record}, t.Fits r → (r.read key.field.slot).HasShape key.field.type :=
    fun hr => Value.hasShape_of_hasType (hr _ hfield)
  cases hdir : key.direction with
  | ascending =>
      rw [compare, hdir] at hab hbc ⊢
      exact sortingOrder_trans (hshape ha) (hshape hb) (hshape hc) hdab hdbc hab hbc
  | descending =>
      -- seen from the other end the same steps lead from `c` to `a`
      rw [← decides_comm hfield ha hb] at hdab
      rw [← decides_comm hfield hb hc] at hdbc
      rw [compare, hdir, Direction.apply, ← sortingOrder_swap (hshape ha) (hshape hb)] at hab
      rw [compare, hdir, Direction.apply, ← sortingOrder_swap (hshape hb) (hshape hc)] at hbc
      rw [compare, hdir, Direction.apply, ← sortingOrder_swap (hshape ha) (hshape hc)]
      exact sortingOrder_trans (hshape hc) (hshape hb) (hshape ha) hdbc hdab hbc hab

/-- An order decides between records whose lists hold no NaN. -/
theorem decides_of_not_readsNaNItem (hfield : key.field ∈ t.fields) {a b : Record}
    (ha : t.Fits a) (hb : t.Fits b) (hna : ¬ key.readsNaNItem a)
    (hnb : ¬ key.readsNaNItem b) : key.decides a b :=
  Value.hasSortingOrder_of_not_hasNaNItem (Value.hasShape_of_hasType (ha _ hfield))
    (Value.hasShape_of_hasType (hb _ hfield)) hna hnb

/-- **Records of a table compare lawfully by every field**, sequences of
floating-point numbers included, apart from lists that hold a NaN.  Swapping two
records always swaps the answer; two steps that an order decides make one; and an
order decides between any two records whose lists hold no NaN. -/
theorem compare_lawful (hfield : key.field ∈ t.fields) {a b c : Record} (ha : t.Fits a)
    (hb : t.Fits b) (hc : t.Fits c) :
    key.compare b a = (key.compare a b).swap ∧
      (key.decides a b → key.decides b c → key.compare a b ≠ .gt →
        key.compare b c ≠ .gt → key.compare a c ≠ .gt) ∧
      (¬ key.readsNaNItem a → ¬ key.readsNaNItem b → key.decides a b) :=
  ⟨compare_swap hfield ha hb,
    fun hdab hdbc hab hbc => compare_trans hfield ha hb hc hdab hdbc hab hbc,
    fun hna hnb => decides_of_not_readsNaNItem hfield ha hb hna hnb⟩

/-- A table with one field, a sequence of floating-point numbers. -/
def waveTable : Table :=
  .ofColumns "Wave" [("samples", ⟨.double, false, true⟩)]

/-- Waves from the least to the greatest. -/
def byWave : SortKey :=
  ⟨⟨"samples", ⟨.double, false, true⟩, 0⟩, .ascending⟩

/-- The record of one wave. -/
def wave (samples : List Binary64) : Record :=
  [.value (.list (samples.map fun x => .number (.float x)))]

/-- Three waves in order, of which the second has a NaN behind a sample that decides. -/
theorem compare_lawful_waves :
    let low := wave [.ofInt 1]
    let middle := wave [.ofInt 3, .nan false]
    let high := wave [.ofInt 4]
    byWave.field ∈ waveTable.fields ∧
      waveTable.Fits low ∧ waveTable.Fits middle ∧ waveTable.Fits high ∧
      byWave.readsNaNItem middle ∧ byWave.compare middle low = .gt ∧
      byWave.compare low high ≠ .gt := by
  intro low middle high
  have hfield : byWave.field ∈ waveTable.fields := by decide
  have hlow : waveTable.Fits low := by decide
  have hmiddle : waveTable.Fits middle := by decide
  have hhigh : waveTable.Fits high := by decide
  obtain ⟨hswap, htrans, -⟩ := compare_lawful hfield hlow hmiddle hhigh
  refine ⟨hfield, hlow, hmiddle, hhigh, by decide, ?_, ?_⟩
  · rw [hswap]; decide
  · exact htrans (by decide) (by decide) (by decide) (by decide)

/-- **The order of records is not transitive** where a list holds a NaN: such a list
counts as equal to two others, of which the first is greater than the second. -/
theorem compare_not_transitive :
    let high := wave [.ofInt 2]
    let noise := wave [.nan false]
    let low := wave [.ofInt 1]
    byWave.field ∈ waveTable.fields ∧
      waveTable.Fits high ∧ waveTable.Fits noise ∧ waveTable.Fits low ∧
      byWave.compare high noise = .eq ∧ byWave.compare noise low = .eq ∧
      byWave.compare high low = .gt := by
  decide

end SortKey

end RecordQuery
