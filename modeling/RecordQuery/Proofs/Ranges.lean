import RecordQuery.Proofs.Comparisons
import RecordQuery.Proofs.Sorting

/-!
# Range tests on sorted records

Sorting and filtering compare values in different ways.  A sort has a place for
everything: null comes first, and floating-point numbers follow the order of their
bits, in which the two zeros differ and NaNs stand at both ends.  A range test goes
by the numeric order, in which the zeros are equal and null and NaN have no place.

The two agree as far as both have an answer: what is sorted not after a value is not
greater than it (`Value.order?_ne_gt_of_sortingOrder`).  So along a sorted list the
answers to one range test change only once (`Value.rangeOrder?_mono`), whatever
nulls and NaNs stand in between.  Without these a list is *in place*, and there the
records that pass a test for smaller values are a front of the list and those that
pass a test for greater ones a back.  Several tests cut out a block
(`InPlace.filter_all_isInfix`).
-/

namespace RecordQuery

variable {t : Table} {f : Field} {i : Nat} {name : String} {value : Literal} {operand : Value}

/-! ## Fronts and backs of a list -/

section Parts

variable {α : Type} {q : α → Bool} {xs : List α}

/-- What is never regained is lost once and for all, so that the items which have it come
first. -/
theorem filter_isPrefix (h : xs.Pairwise fun a b => q b → q a) : xs.filter q <+: xs :=
  ⟨_, filter_append_filter_not h⟩

/-- What is never lost is won once and for all, so that the items which have it come last.
-/
theorem filter_isSuffix (h : xs.Pairwise fun a b => q a → q b) : xs.filter q <:+ xs := by
  have hnot : xs.Pairwise fun a b => !q b → !q a := h.imp fun hab => by
    simpa using mt hab
  refine ⟨xs.filter fun x => !q x, ?_⟩
  simpa using filter_append_filter_not hnot

end Parts

/-! ## Two orders of values -/

/-- The order of the bits refines the order of the numbers. -/
theorem Binary64.rank_le_of_totalRank_le {x y : Binary64} (h : x.totalRank ≤ y.totalRank) :
    x.rank ≤ y.rank := by
  unfold totalRank at h
  unfold rank
  split_ifs at h ⊢ <;> omega

namespace Value

/-- The value has a place in the order of range tests. -/
def hasPlace (v : Value) : Bool :=
  !v.isNull && !v.isNaN

/-- What is sorted not after a value is not greater than it. -/
theorem order?_ne_gt_of_sortingOrder {a b : Value} (h : sortingOrder a b ≠ .gt) :
    a.order? b ≠ some .gt := by
  by_cases hfloat : a.IsKind .float ∧ b.IsKind .float
  · obtain ⟨ha, hb⟩ := hfloat
    rw [order?_of_isKind ha hb (by decide)]
    split
    · nofun
    · cases ha with
      | float x =>
          cases hb with
          | float y =>
              have hbits : x.totalRank ≤ y.totalRank :=
                Std.isLE_compare.mp (Ordering.isLE_iff_ne_gt.mpr h)
              have hrank := Std.isLE_compare.mpr (Binary64.rank_le_of_totalRank_le hbits)
              simpa [place] using Ordering.isLE_iff_ne_gt.mp hrank
  · rw [sortingOrder_eq_getD (not_and_or.mp hfloat)] at h
    intro hgt
    rw [hgt] at h
    exact h rfl

/-- Between values that have a place an order can be told. -/
theorem not_mayBeUnordered_of_hasPlace {a b : Value} (ha : a.hasPlace) (hb : b.hasPlace) :
    ¬ a.MayBeUnordered b := by
  simp_all [hasPlace, MayBeUnordered]

/-- Values that a range test can order both have a place. -/
theorem hasPlace_of_rangeOrder? {a b : Value} {o : Ordering} (h : a.rangeOrder? b = some o) :
    a.hasPlace ∧ b.hasPlace := by
  have hordered : ¬ a.MayBeUnordered b := by
    intro hunordered
    rw [rangeOrder?_of_mayBeUnordered hunordered] at h
    cases h
  simpa [hasPlace, MayBeUnordered, and_assoc, and_left_comm] using hordered

/-- **Along a sorted list the answers to a range test only rise**: once a value is at least
or above the operand, so is every value behind it that has an answer. -/
theorem rangeOrder?_mono {a b v : Value} {k : Kind} {o o' : Ordering} (hk : k ≠ .bool)
    (ha : a.HasItemShape k) (hb : b.HasItemShape k) (hv : v.HasItemShape k)
    (hab : sortingOrder a b ≠ .gt) (hav : a.rangeOrder? v = some o)
    (hbv : b.rangeOrder? v = some o') : (o ≠ .lt → o' ≠ .lt) ∧ (o = .gt → o' = .gt) := by
  have hlawful := hasItemShape_order?_lawful k
  obtain ⟨p, hp⟩ := exists_rangeOrder? hk ha hb
    (not_mayBeUnordered_of_hasPlace (hasPlace_of_rangeOrder? hav).1 (hasPlace_of_rangeOrder? hbv).1)
  have hp := order?_of_rangeOrder? hp
  have hpgt : p ≠ .gt := fun h => order?_ne_gt_of_sortingOrder hab (h ▸ hp)
  -- From the operand to `a` and on to `b`, if the first of these steps leads forward.
  have hchain : o ≠ .lt → some o' = some (o.then p.swap) := by
    intro ho
    have hva : v.order? a = some o.swap := by
      rw [hlawful.swap ha hv, order?_of_rangeOrder? hav]
      rfl
    have hvb := hlawful.trans hv ha hb hva hp (by cases o <;> simp_all) hpgt
    rw [← order?_of_rangeOrder? hbv, hlawful.swap hv hb, hvb]
    cases o <;> rfl
  constructor
  · intro ho
    cases Option.some.inj (hchain ho)
    cases o <;> cases p <;> simp_all
  · rintro rfl
    exact Option.some.inj (hchain (by decide))

end Value

namespace Comparison

/-- The tests that greater values pass. -/
def isUpward : Comparison → Bool
  | gt | ge => true
  | _ => false

/-- The tests that smaller values pass. -/
def isDownward : Comparison → Bool
  | lt | le => true
  | _ => false

variable {c : Comparison} {a b v : Value} {k : Kind}

/-- A range test passes from its bound up or from its bound down. -/
theorem isUpward_or_isDownward (h : ¬ c.isEquality) : c.isUpward ∨ c.isDownward := by
  cases c <;> simp_all [isEquality, isUpward, isDownward]

/-- A range test holds of values that it can order. -/
theorem exists_rangeOrder?_of_holds (hc : c.isUpward ∨ c.isDownward) (h : c.holds a v) :
    ∃ o, a.rangeOrder? v = some o ∧ c.ofOrdering o := by
  cases c with
  | eq | ne => simp [isUpward, isDownward] at hc
  | gt | ge | lt | le =>
      simp only [holds] at h
      split at h
      · next o ho => exact ⟨o, ho, h⟩
      · cases h

section Sorted

variable (hk : k ≠ .bool) (ha : a.HasItemShape k) (hb : b.HasItemShape k)
  (hv : v.HasItemShape k) (hab : sortingOrder a b ≠ .gt)
include hk ha hb hv hab

/-- A value behind one that passes an upward test passes it as well. -/
theorem holds_of_upward (hc : c.isUpward) (hplace : b.hasPlace) (h : c.holds a v) :
    c.holds b v := by
  obtain ⟨o, ho, hpass⟩ := exists_rangeOrder?_of_holds (.inl hc) h
  obtain ⟨o', ho'⟩ := Value.exists_rangeOrder? hk hb hv
    (Value.not_mayBeUnordered_of_hasPlace hplace (Value.hasPlace_of_rangeOrder? ho).2)
  obtain ⟨hge, hgt⟩ := Value.rangeOrder?_mono hk ha hb hv hab ho ho'
  rw [holds_eq_ofOrdering ho']
  cases c <;> simp_all [isUpward, ofOrdering]

/-- A value in front of one that passes a downward test passes it as well. -/
theorem holds_of_downward (hc : c.isDownward) (hplace : a.hasPlace) (h : c.holds b v) :
    c.holds a v := by
  obtain ⟨o', ho', hpass⟩ := exists_rangeOrder?_of_holds (.inr hc) h
  obtain ⟨o, ho⟩ := Value.exists_rangeOrder? hk ha hv
    (Value.not_mayBeUnordered_of_hasPlace hplace (Value.hasPlace_of_rangeOrder? ho').2)
  obtain ⟨hge, hgt⟩ := Value.rangeOrder?_mono hk ha hb hv hab ho ho'
  rw [holds_eq_ofOrdering ho]
  cases c <;> cases o <;> simp_all [isDownward, ofOrdering]

/-- No value above or at the operand stands in front of one that is not. -/
theorem not_inverted : ¬ (gt.holds a v ∧ le.holds b v) ∧ ¬ (ge.holds a v ∧ lt.holds b v) := by
  constructor
  · rintro ⟨hgt, hle⟩
    obtain ⟨o, ho, hpass⟩ := exists_rangeOrder?_of_holds (.inl rfl) hgt
    obtain ⟨o', ho', hpass'⟩ := exists_rangeOrder?_of_holds (.inr rfl) hle
    have hmono := (Value.rangeOrder?_mono hk ha hb hv hab ho ho').2
    simp_all [ofOrdering]
  · rintro ⟨hge, hlt⟩
    obtain ⟨o, ho, hpass⟩ := exists_rangeOrder?_of_holds (.inl rfl) hge
    obtain ⟨o', ho', hpass'⟩ := exists_rangeOrder?_of_holds (.inr rfl) hlt
    have hmono := (Value.rangeOrder?_mono hk ha hb hv hab ho ho').1
    simp_all [ofOrdering]

end Sorted

end Comparison

/-! ## Records -/

section Resolved

variable (hresolve : t.resolve name = .ok (f, i)) (hordered : f.type.isOrdered)
include hresolve hordered

/-- The value of a field that is resolved is an item of the field's kind. -/
theorem Table.read_hasItemShape_of_resolve {record : Record} (hfits : t.Fits record) :
    (t.read i record).HasItemShape f.type.scalar.kind :=
  (f.ref_resolved (getElem?_of_resolve hresolve)).read_hasItemShape hfits
    (FieldType.single_of_isOrdered hordered).1

/-- A comparison passes to another record when it does for every operand. -/
theorem Condition.holds_imp {c : Comparison} {a b : Record}
    (h : ∀ v, v.HasItemShape f.type.scalar.kind → c.holds (t.read i a) v →
      c.holds (t.read i b) v)
    (ha : holds t ⟨name, c.operator, value⟩ a) : holds t ⟨name, c.operator, value⟩ b := by
  have hseq := (FieldType.single_of_isOrdered hordered).1
  rw [holds_operator_iff hresolve hseq fun _ => hordered] at ha ⊢
  obtain ⟨v, hv, hpass⟩ := ha
  exact ⟨v, hv, h v ((Value.hasShape_single hseq).mp (coerce_hasShape hv)) hpass⟩

/-- A condition on the field compares its value with the converted literal. -/
theorem Condition.holds_operator_eq (hvalue : coerce value f.type = .ok operand)
    (c : Comparison) (record : Record) :
    holds t ⟨name, c.operator, value⟩ record = c.holds (t.read i record) operand := by
  have hseq := (FieldType.single_of_isOrdered hordered).1
  rw [Bool.eq_iff_iff, holds_operator_iff hresolve hseq fun _ => hordered]
  simp [hvalue]

end Resolved

/-- The records fit the table, have values with a place in one field, and are sorted by it. -/
structure InPlace (t : Table) (i : Nat) (records : List Record) : Prop where
  fits : ∀ record ∈ records, t.Fits record
  placed : ∀ record ∈ records, (t.read i record).hasPlace
  ordered : records.Pairwise fun a b => sortingOrder (t.read i a) (t.read i b) ≠ .gt

namespace InPlace

variable {records : List Record}

/-- A part of a list in place is in place. -/
theorem sublist {part : List Record} (h : InPlace t i records) (hpart : part.Sublist records) :
    InPlace t i part where
  fits record hmem := h.fits record (hpart.subset hmem)
  placed record hmem := h.placed record (hpart.subset hmem)
  ordered := h.ordered.sublist hpart

/-- A relation of records in place that are sorted holds along the list. -/
theorem pairwise {R : Record → Record → Prop} (h : InPlace t i records)
    (hR : ∀ a b, t.Fits a → t.Fits b → (t.read i a).hasPlace → (t.read i b).hasPlace →
      sortingOrder (t.read i a) (t.read i b) ≠ .gt → R a b) : records.Pairwise R :=
  h.ordered.imp_of_mem fun ha hb hab =>
    hR _ _ (h.fits _ ha) (h.fits _ hb) (h.placed _ ha) (h.placed _ hb) hab

section Tests

variable (hresolve : t.resolve name = .ok (f, i)) (hordered : f.type.isOrdered)
include hresolve hordered

/-- Along the list a downward test is never passed again. -/
theorem pairwise_downward (h : InPlace t i records) {c : Comparison} (hc : c.isDownward)
    (value : Literal) :
    records.Pairwise fun a b => Condition.holds t ⟨name, c.operator, value⟩ b →
      Condition.holds t ⟨name, c.operator, value⟩ a := by
  have hkind := (FieldType.single_of_isOrdered hordered).2
  refine h.pairwise fun a b ha hb hplace _ hab => ?_
  refine Condition.holds_imp hresolve hordered fun v hv hpass => ?_
  exact Comparison.holds_of_downward hkind (Table.read_hasItemShape_of_resolve hresolve hordered ha)
    (Table.read_hasItemShape_of_resolve hresolve hordered hb) hv hab hc hplace hpass

/-- Along the list an upward test is never failed again. -/
theorem pairwise_upward (h : InPlace t i records) {c : Comparison} (hc : c.isUpward)
    (value : Literal) :
    records.Pairwise fun a b => Condition.holds t ⟨name, c.operator, value⟩ a →
      Condition.holds t ⟨name, c.operator, value⟩ b := by
  have hkind := (FieldType.single_of_isOrdered hordered).2
  refine h.pairwise fun a b ha hb _ hplace hab => ?_
  refine Condition.holds_imp hresolve hordered fun v hv hpass => ?_
  exact Comparison.holds_of_upward hkind (Table.read_hasItemShape_of_resolve hresolve hordered ha)
    (Table.read_hasItemShape_of_resolve hresolve hordered hb) hv hab hc hplace hpass

/-- The records that pass a range test are a front or a back of those in place. -/
theorem filter_isInfix (h : InPlace t i records) {c : Comparison} (hc : ¬ c.isEquality)
    (value : Literal) :
    records.filter (Condition.holds t ⟨name, c.operator, value⟩) <:+: records := by
  rcases Comparison.isUpward_or_isDownward hc with hup | hdown
  · exact (filter_isSuffix (h.pairwise_upward hresolve hordered hup value)).isInfix
  · exact (filter_isPrefix (h.pairwise_downward hresolve hordered hdown value)).isInfix

/-- **The records that pass several range tests are a block of those in place.**  Each
further test cuts off a front or a back of what the others have left. -/
theorem filter_all_isInfix (h : InPlace t i records) (tests : List (Comparison × Literal))
    (htests : ∀ test ∈ tests, ¬ test.1.isEquality) :
    (records.filter fun record => tests.all fun test =>
      Condition.holds t ⟨name, test.1.operator, test.2⟩ record) <:+: records := by
  induction tests generalizing records with
  | nil => simp
  | cons test rest ih =>
      obtain ⟨htest, hrest⟩ := List.forall_mem_cons.mp htests
      have hfirst := h.filter_isInfix hresolve hordered htest test.2
      have hblock := ih (h.sublist hfirst.sublist) hrest
      rw [List.filter_filter] at hblock
      simpa only [List.all_cons, Bool.and_comm] using hblock.trans hfirst

/-- **Records in place fall into those below, at and above an operand**, in this order. -/
theorem eq_append (h : InPlace t i records) (hvalue : coerce value f.type = .ok operand)
    (hplace : operand.hasPlace) :
    let passes (c : Comparison) := Condition.holds t ⟨name, c.operator, value⟩
    records = records.filter (passes .lt) ++ records.filter (passes .eq) ++
      records.filter (passes .gt) := by
  intro passes
  obtain ⟨hseq, hkind⟩ := FieldType.single_of_isOrdered hordered
  have hoperand := (Value.hasShape_single hseq).mp (coerce_hasShape hvalue)
  have hanswer : ∀ record ∈ records, ∃ o, ∀ c, passes c record = c.ofOrdering o := by
    intro record hmem
    obtain ⟨o, ho⟩ := Value.exists_rangeOrder? hkind
      (Table.read_hasItemShape_of_resolve hresolve hordered (h.fits record hmem)) hoperand
      (Value.not_mayBeUnordered_of_hasPlace (h.placed record hmem) hplace)
    refine ⟨o, fun c => ?_⟩
    rw [← Comparison.holds_eq_ofOrdering ho]
    exact Condition.holds_operator_eq hresolve hordered hvalue c record
  have hle := filter_append_filter_not (h.pairwise_downward hresolve hordered (c := .le) rfl value)
  have hlt := filter_append_filter_not
    ((h.pairwise_downward hresolve hordered (c := .lt) rfl value).sublist
      (List.filter_sublist (p := passes .le)))
  rw [List.filter_filter, List.filter_filter] at hlt
  -- Each record has one answer to all comparisons, so that two filters are compared by it.
  have hsame : ∀ {q : Record → Bool} {c : Comparison},
      (∀ record o, (∀ c, passes c record = c.ofOrdering o) → q record = passes c record) →
        records.filter q = records.filter (passes c) := fun h =>
    List.filter_congr fun record hmem => (hanswer record hmem).elim (h record)
  have hbelow : records.filter (fun record => passes .lt record && passes .le record) =
      records.filter (passes .lt) := hsame fun record o ho => by
    rw [ho, ho]
    cases o <;> rfl
  have hat : records.filter (fun record => !passes .lt record && passes .le record) =
      records.filter (passes .eq) := hsame fun record o ho => by
    rw [ho, ho, ho]
    cases o <;> rfl
  have habove : records.filter (fun record => !passes .le record) =
      records.filter (passes .gt) := hsame fun record o ho => by
    rw [ho, ho]
    cases o <;> rfl
  rw [← hbelow, ← hat, hlt, ← habove, hle]

end Tests

end InPlace

/-- **Sorting and filtering use the same order.**  Of records that are sorted by a field none
that is above an operand, or at it, stands in front of one that is not.  Without those that
have null or NaN they fall into the records below, at and above the operand, and those that
pass any number of range tests are a block. -/
theorem sorted_range_blocks (hresolve : t.resolve name = .ok (f, i))
    (hordered : f.type.isOrdered) (hvalue : coerce value f.type = .ok operand)
    {records : List Record} (hfits : ∀ record ∈ records, t.Fits record) :
    ∃ key, (SortSpec.mk name .ascending).resolve t = .ok key ∧
      let passes (c : Comparison) := Condition.holds t ⟨name, c.operator, value⟩
      let sorted := stableSort key.compare records
      let placed := sorted.filter fun record => (t.read i record).hasPlace
      (∀ c : Comparison, Condition.Compiles t ⟨name, c.operator, value⟩) ∧
      (sorted.Pairwise fun a b =>
        ¬ (passes .gt a ∧ passes .le b) ∧ ¬ (passes .ge a ∧ passes .lt b)) ∧
      (operand.hasPlace → placed = placed.filter (passes .lt) ++ placed.filter (passes .eq) ++
        placed.filter (passes .gt)) ∧
      ∀ tests : List (Comparison × Literal), (∀ test ∈ tests, ¬ test.1.isEquality) →
        (placed.filter fun record => tests.all fun test =>
          Condition.holds t ⟨name, test.1.operator, test.2⟩ record) <:+: placed := by
  obtain ⟨hseq, hkind⟩ := FieldType.single_of_isOrdered hordered
  have hfield := Table.getElem?_of_resolve hresolve
  refine ⟨⟨f, .ascending⟩, by rw [SortSpec.resolve, hresolve], ?_⟩
  intro passes sorted placed
  have hmem : ∀ record ∈ sorted, t.Fits record := fun record hrecord =>
    hfits record ((stableSort_perm _ records).mem_iff.mp hrecord)
  have hsorted : sorted.Pairwise fun a b => sortingOrder (t.read i a) (t.read i b) ≠ .gt := by
    have hfloat : ¬ f.type.isFloatSequence := by simp [FieldType.isFloatSequence, hseq]
    have hpreorder : PreorderOn t.Fits (SortKey.mk f .ascending).compare :=
      SortKey.compare_preorderOn (List.mem_of_getElem? hfield) hfloat
    simp only [Table.read, hfield]
    exact stableSort_ordered hpreorder hfits
  have hplaced : InPlace t i placed :=
    { fits := fun record hrecord => hmem record (List.mem_of_mem_filter hrecord)
      placed := fun record hrecord => (List.mem_filter.mp hrecord).2
      ordered := hsorted.sublist List.filter_sublist }
  refine ⟨fun c => ?_, ?_, fun hplace => hplaced.eq_append hresolve hordered hvalue hplace,
    fun tests htests => hplaced.filter_all_isInfix hresolve hordered tests htests⟩
  · rw [Condition.Compiles, Condition.compile_of_resolve hresolve, compileOn_operator]
    exact ⟨_, (compileComparison_eq_ok hseq fun _ => hordered).mpr ⟨operand, hvalue, rfl⟩⟩
  · have hoperand := (Value.hasShape_single hseq).mp (coerce_hasShape hvalue)
    refine hsorted.imp_of_mem fun {a b} ha hb hab => ?_
    simp only [passes, Condition.holds_operator_eq hresolve hordered hvalue]
    exact Comparison.not_inverted hkind
      (Table.read_hasItemShape_of_resolve hresolve hordered (hmem a ha))
      (Table.read_hasItemShape_of_resolve hresolve hordered (hmem b hb)) hoperand hab

/-- Gauges that may lack their level. -/
def gaugeTable : Table :=
  .ofColumns "Gauge" [("level", (FieldType.plain .double).asNullable)]

/-- The record of one gauge. -/
def gauge (level : Option Binary64) : Record :=
  [.value (level.elim .null fun x => .number (.float x))]

/-- Both zeros, both infinities and both NaNs, a level between them and a missing one. -/
def gauges : List Record :=
  [some (.nan false), some .zero, some (.infinity false), none, some (.ofMagnitude true 0),
    some (.ofInt 7), some (.nan true), some (.infinity true)].map gauge

/-- Sorted gauges have null and one NaN in front of negative infinity and the other NaN at the
end.  The levels from zero up to infinity are a block in between, with both zeros in it. -/
theorem sorted_range_blocks_gauges :
    let sorted := stableSort (SortKey.mk ⟨"level", (FieldType.plain .double).asNullable, 0⟩
      .ascending).compare gauges
    let placed := sorted.filter fun record => (gaugeTable.read 0 record).hasPlace
    let inRange (record : Record) : Bool :=
      [(Comparison.ge, Literal.number (.float .zero)),
        (.lt, .number (.float (.infinity false)))].all fun test =>
        Condition.holds gaugeTable ⟨"LEVEL", test.1.operator, test.2⟩ record
    sorted.map (·.read 0) =
        [none, some (.nan true), some (.infinity true), some (.ofMagnitude true 0), some .zero,
          some (.ofInt 7), some (.infinity false), some (.nan false)].map
          (·.elim .null fun x => .number (.float x)) ∧
      (placed.filter inRange).map (·.read 0) =
        [Binary64.ofMagnitude true 0, .zero, .ofInt 7].map (.number ∘ .float) ∧
      placed.filter inRange <:+: placed := by
  intro sorted placed inRange
  have hresolve : gaugeTable.resolve "LEVEL" =
      .ok (⟨"level", (FieldType.plain .double).asNullable, 0⟩, 0) := rfl
  have hvalue : coerce (.number (.float .zero)) (FieldType.plain .double).asNullable =
      .ok (.number (.float .zero)) := rfl
  have hfits : ∀ record ∈ gauges, gaugeTable.Fits record := by decide
  obtain ⟨key, hkey, -, -, -, hblock⟩ := sorted_range_blocks hresolve rfl hvalue hfits
  cases hkey
  exact ⟨rfl, rfl, hblock _ (by decide)⟩

end RecordQuery
