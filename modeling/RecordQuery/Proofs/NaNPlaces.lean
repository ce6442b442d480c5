import RecordQuery.Proofs.Ranges

/-!
# Where NaNs are sorted

A floating-point field is sorted by the total order of the bits.  That order gives every
NaN a place, but not one and the same: the sign bit decides whether a NaN stands behind
all numbers or in front of them.  An ascending sort therefore has four groups, null, the
NaNs with the sign bit, the numbers and the other NaNs, in this order
(`SortKey.pairwise_floatPlace`).

So NaNs come last as long as none of them has the sign bit set, or there is no number
that they could stand in front of, and only then (`SortKey.nans_last_iff`).
-/

namespace RecordQuery

variable {key : SortKey} {records : List Record}

namespace Value

/-- A NaN with the sign bit set. -/
def isNegativeNaN : Value → Bool
  | number (.float x) => x.isNaN && x.negative
  | _ => false

/-- The group of a floating-point field's value in ascending order: null, the NaNs with the
sign bit set, the numbers, the other NaNs. -/
def floatPlace (v : Value) : Nat :=
  if v.isNull then 0
  else if v.isNegativeNaN then 1
  else if v.isNaN then 3
  else 2

theorem isNaN_of_isNegativeNaN {v : Value} (h : v.isNegativeNaN) : v.isNaN := by
  unfold isNegativeNaN at h
  split at h
  · exact (Bool.and_eq_true_iff.mp h).1
  · cases h

/-- The groups are ranges of the order of the bits. -/
theorem floatPlace_float (x : Binary64) : (number (.float x)).floatPlace =
    if x.totalRank < -(Binary64.infiniteMagnitude : Int) - 1 then 1
    else if x.totalRank ≤ Binary64.infiniteMagnitude then 2
    else 3 := by
  cases hsign : x.negative with
  | true =>
      have hrank : x.totalRank = -(x.magnitude : Int) - 1 := if_pos hsign
      simp only [floatPlace, isNull, isNegativeNaN, isNaN, Binary64.isNaN, hsign, hrank,
        Bool.false_eq_true, if_false, Bool.and_true, decide_eq_true_eq]
      split_ifs <;> omega
  | false =>
      have hrank : x.totalRank = x.magnitude := if_neg (by simp [hsign])
      simp only [floatPlace, isNull, isNegativeNaN, isNaN, Binary64.isNaN, hsign, hrank,
        Bool.false_eq_true, if_false, Bool.and_false, decide_eq_true_eq]
      split_ifs <;> omega

/-- The order of the bits keeps the groups together. -/
theorem floatPlace_le_of_totalRank_le {x y : Binary64} (h : x.totalRank ≤ y.totalRank) :
    (number (.float x)).floatPlace ≤ (number (.float y)).floatPlace := by
  rw [floatPlace_float, floatPlace_float]
  split_ifs <;> omega

/-- Sorting does not put a value in front of one of an earlier group. -/
theorem floatPlace_le_of_sortingOrder {a b : Value} (ha : a.HasItemShape .float)
    (hb : b.HasItemShape .float) (h : sortingOrder a b ≠ .gt) : a.floatPlace ≤ b.floatPlace := by
  rcases ha with rfl | ⟨⟨x⟩⟩
  · exact Nat.zero_le _
  · rcases hb with rfl | ⟨⟨y⟩⟩
    · exact absurd rfl h
    · exact floatPlace_le_of_totalRank_le (Std.isLE_compare.mp (Ordering.isLE_iff_ne_gt.mpr h))

/-- The first group behind the nulls are the NaNs with the sign bit set. -/
theorem floatPlace_eq_one_iff {v : Value} : v.floatPlace = 1 ↔ v.isNegativeNaN := by
  have hnull : v.isNegativeNaN → ¬ v.isNull := by cases v <;> simp [isNegativeNaN, isNull]
  unfold floatPlace
  split_ifs <;> simp_all

/-- The next group are the values that have a place in the numeric order. -/
theorem floatPlace_eq_two_iff {v : Value} : v.floatPlace = 2 ↔ v.hasPlace := by
  have hnan : v.isNegativeNaN → v.isNaN := isNaN_of_isNegativeNaN
  unfold floatPlace hasPlace
  split_ifs <;> simp_all

/-- The last group are the other NaNs. -/
theorem floatPlace_eq_three_iff {v : Value} : v.floatPlace = 3 ↔ v.isNaN ∧ ¬ v.isNegativeNaN := by
  have hnull : v.isNaN → ¬ v.isNull := by cases v <;> simp [isNaN, isNull]
  unfold floatPlace
  split_ifs <;> simp_all

end Value

namespace SortKey

/-- The group of a record by the field that is sorted. -/
def floatPlace (key : SortKey) (record : Record) : Nat :=
  (record.read key.field.slot).floatPlace

/-- The record has a NaN where it is sorted. -/
def readsNaN (key : SortKey) (record : Record) : Bool :=
  (record.read key.field.slot).isNaN

/-- The NaN of the record has its sign bit set. -/
def readsNegativeNaN (key : SortKey) (record : Record) : Bool :=
  (record.read key.field.slot).isNegativeNaN

/-- The record has a number where it is sorted. -/
def readsNumber (key : SortKey) (record : Record) : Bool :=
  (record.read key.field.slot).hasPlace

/-- **The groups follow each other in an ascending sort.** -/
theorem pairwise_floatPlace (hdir : key.direction = .ascending)
    (hfloat : key.field.type.scalar.isFloat) (hseq : ¬ key.field.type.sequence)
    (hrecords : ∀ record ∈ records, (record.read key.field.slot).HasType key.field.type) :
    (stableSort key.compare records).Pairwise fun a b => key.floatPlace a ≤ key.floatPlace b := by
  let value (record : Record) := record.read key.field.slot
  have hshape : ∀ record ∈ records, (value record).HasItemShape .float := by
    intro record hmem
    have hshape := (Value.hasShape_single hseq).mp
      (Value.hasShape_of_hasType (hrecords record hmem))
    rwa [Scalar.kind_eq_float.mpr hfloat] at hshape
  have hpreorder : PreorderOn (fun record => (value record).HasItemShape .float) key.compare :=
    (sortingOrder_preorderOn_float.comap value id).apply key.direction
  refine (stableSort_ordered hpreorder hshape).imp_of_mem fun {a b} ha hb hab => ?_
  rw [compare, hdir] at hab
  have hmem := fun record => (stableSort_perm key.compare records).mem_iff (a := record)
  exact Value.floatPlace_le_of_sortingOrder (hshape a ((hmem a).mp ha))
    (hshape b ((hmem b).mp hb)) hab

/-- **Which NaNs are sorted last.**  In ascending order a floating-point field has null in
front, then the NaNs with the sign bit set, the numbers, and the other NaNs.  So only a NaN
with the sign bit set stands in front of a number, and NaNs come last exactly when there is
none of this kind or no number. -/
theorem nans_last_iff (hdir : key.direction = .ascending)
    (hfloat : key.field.type.scalar.isFloat) (hseq : ¬ key.field.type.sequence)
    (hrecords : ∀ record ∈ records, (record.read key.field.slot).HasType key.field.type) :
    let sorted := stableSort key.compare records
    (sorted.Pairwise fun a b => key.floatPlace a ≤ key.floatPlace b) ∧
    (sorted.Pairwise fun a b => key.readsNaN a → key.readsNumber b → key.readsNegativeNaN a) ∧
    ((sorted.Pairwise fun a b => ¬ (key.readsNaN a ∧ key.readsNumber b)) ↔
      (∀ a ∈ records, ¬ key.readsNegativeNaN a) ∨ ∀ b ∈ records, ¬ key.readsNumber b) := by
  intro sorted
  have hplaces := pairwise_floatPlace hdir hfloat hseq hrecords
  have hmem : ∀ record, record ∈ sorted ↔ record ∈ records := fun record =>
    (stableSort_perm key.compare records).mem_iff
  have hnegative : ∀ {a b : Record}, key.floatPlace a ≤ key.floatPlace b → key.readsNaN a →
      key.readsNumber b → key.readsNegativeNaN a := by
    intro a b hle hnan hnumber
    by_contra hsign
    have ha : key.floatPlace a = 3 := Value.floatPlace_eq_three_iff.mpr ⟨hnan, hsign⟩
    have hb : key.floatPlace b = 2 := Value.floatPlace_eq_two_iff.mpr hnumber
    omega
  refine ⟨hplaces, hplaces.imp hnegative, fun hlast => ?_, ?_⟩
  · by_contra hboth
    simp only [not_or, not_forall, not_not] at hboth
    obtain ⟨⟨a, ha, hsign⟩, b, hb, hnumber⟩ := hboth
    obtain ⟨i, hi, rfl⟩ := List.getElem_of_mem ((hmem a).mpr ha)
    obtain ⟨j, hj, rfl⟩ := List.getElem_of_mem ((hmem b).mpr hb)
    have hplace : key.floatPlace sorted[i] < key.floatPlace sorted[j] := by
      have hfirst : key.floatPlace sorted[i] = 1 := Value.floatPlace_eq_one_iff.mpr hsign
      have hsecond : key.floatPlace sorted[j] = 2 := Value.floatPlace_eq_two_iff.mpr hnumber
      omega
    -- neither of the two records can be the first of them
    rcases Nat.lt_trichotomy i j with hlt | rfl | hgt
    · exact List.pairwise_iff_getElem.mp hlast i j hi hj hlt
        ⟨Value.isNaN_of_isNegativeNaN hsign, hnumber⟩
    · exact Nat.lt_irrefl _ hplace
    · exact absurd (List.pairwise_iff_getElem.mp hplaces j i hj hi hgt) (Nat.not_le.mpr hplace)
  · rintro (hnone | hnone)
    · refine hplaces.imp_of_mem fun {a b} ha _ hle h => ?_
      exact hnone a ((hmem a).mp ha) (hnegative hle h.1 h.2)
    · exact List.pairwise_of_forall_mem_list fun a _ b hb h => hnone b ((hmem b).mp hb) h.2

/-- Gauges from the lowest level to the highest. -/
def byLevel : SortKey :=
  ⟨⟨"level", (FieldType.plain .double).asNullable, 0⟩, .ascending⟩

/-- The gauges are sorted with a NaN in front of all levels, and it has the sign bit set;
without it the NaN that is left comes last. -/
theorem nans_last_iff_gauges :
    let positive := gauges.filter fun record => !byLevel.readsNegativeNaN record
    (∀ record ∈ gauges, (record.read byLevel.field.slot).HasType byLevel.field.type) ∧
      ((stableSort byLevel.compare gauges).Pairwise fun a b =>
        byLevel.readsNaN a → byLevel.readsNumber b → byLevel.readsNegativeNaN a) ∧
      (∃ record ∈ positive, byLevel.readsNaN record) ∧
      (stableSort byLevel.compare positive).Pairwise fun a b =>
        ¬ (byLevel.readsNaN a ∧ byLevel.readsNumber b) := by
  intro positive
  have hgauges : ∀ record ∈ gauges,
      (record.read byLevel.field.slot).HasType byLevel.field.type := by decide
  have hpositive : ∀ record ∈ positive,
      (record.read byLevel.field.slot).HasType byLevel.field.type := fun record hmem =>
    hgauges record (List.mem_of_mem_filter hmem)
  have hdir : byLevel.direction = .ascending := rfl
  obtain ⟨-, hnegative, -⟩ := nans_last_iff hdir rfl (by decide) hgauges
  obtain ⟨-, -, hlast⟩ := nans_last_iff hdir rfl (by decide) hpositive
  exact ⟨hgauges, hnegative, by decide, hlast.mpr (.inl (by simp [positive]))⟩

/-- **A NaN can be sorted first**: with its sign bit set it stands in front of a number. -/
theorem negative_nan_before_number :
    let records := [gauge (some (.ofInt 1)), gauge (some (.nan true))]
    let sorted := stableSort byLevel.compare records
    (∀ record ∈ records, gaugeTable.Fits record) ∧ byLevel.field ∈ gaugeTable.fields ∧
      sorted.map (·.read 0) = [.number (.float (.nan true)), .number (.float (.ofInt 1))] ∧
      ¬ sorted.Pairwise fun a b => ¬ (byLevel.readsNaN a ∧ byLevel.readsNumber b) := by
  refine ⟨by decide, by decide, rfl, by decide⟩

end SortKey

end RecordQuery
