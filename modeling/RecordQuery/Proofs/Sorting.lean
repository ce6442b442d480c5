import RecordQuery.Proofs.Pipeline
import RecordQuery.Proofs.ValueOrder
import RecordQuery.Samples.Tickets

/-!
# Sorted records

A sort key reads one field of two records and compares what it reads, in one of
two directions.  On records that fit the table this is a total preorder, unless
the field is a sequence of floating-point numbers (`SortKey.compare_preorderOn`),
and everything a sorted list promises follows from `stablySorted_stableSort`: in
descending order just as in ascending order, because reversing a preorder leaves
its equalities alone.

Null is the one value whose place is fixed.  All records without a value compare
as equal, so they stay in the order of the source, at the front or at the back.
-/

namespace RecordQuery

variable {t : Table} {r : Request} {o : Options} {p : Plan} {key : SortKey}

/-- A list in which a property is never regained falls into the items that have it
and those that do not. -/
theorem filter_append_filter_not {α : Type} {q : α → Bool} {xs : List α}
    (h : xs.Pairwise fun a b => q b → q a) :
    xs.filter q ++ xs.filter (fun x => !q x) = xs := by
  induction xs with
  | nil => rfl
  | cons x xs ih =>
      obtain ⟨hx, hxs⟩ := List.pairwise_cons.mp h
      by_cases hq : q x
      · simpa [hq] using ih hxs
      · have hnone : ∀ y ∈ xs, ¬ q y := fun y hy hqy => hq (hx y hy hqy)
        have hall : ∀ y ∈ xs, !q y := fun y hy => by simpa using hnone y hy
        simp [hq, List.filter_eq_nil_iff.mpr hnone, List.filter_eq_self.mpr hall]

/-! ## Null -/

theorem sortingOrder_null_left {v : Value} (h : ¬ v.isNull) : sortingOrder .null v = .lt := by
  cases v with
  | null => exact absurd rfl h
  | bool | number | string | timestamp | enum | list => rfl

theorem sortingOrder_null_right {v : Value} (h : ¬ v.isNull) : sortingOrder v .null = .gt := by
  cases v with
  | null => exact absurd rfl h
  | number n => cases n <;> rfl
  | bool | string | timestamp | enum | list => rfl

namespace SortKey

/-- The record has no value to be sorted by. -/
def isNullIn (key : SortKey) (record : Record) : Bool :=
  (record.read key.field.slot).isNull

/-- Records without a value count as equal, in both directions. -/
theorem compare_of_isNullIn {a b : Record} (ha : key.isNullIn a) (hb : key.isNullIn b) :
    key.compare a b = .eq := by
  rw [compare, Value.isNull_iff.mp ha, Value.isNull_iff.mp hb]
  cases key.direction <;> rfl

/-- In ascending order a record without a value is never behind one with a value. -/
theorem isNullIn_of_ascending (hdir : key.direction = .ascending) {a b : Record}
    (hab : key.compare a b ≠ .gt) (hb : key.isNullIn b) : key.isNullIn a := by
  by_contra ha
  rw [compare, hdir, Value.isNull_iff.mp hb, sortingOrder_null_right ha] at hab
  exact hab rfl

/-- In descending order it is never in front of one. -/
theorem isNullIn_of_descending (hdir : key.direction = .descending) {a b : Record}
    (hab : key.compare a b ≠ .gt) (ha : key.isNullIn a) : key.isNullIn b := by
  by_contra hb
  rw [compare, hdir, Value.isNull_iff.mp ha, sortingOrder_null_left hb] at hab
  exact hab rfl

/-- **Records of a table compare lawfully** by every field that is no sequence of
floating-point numbers, in both directions. -/
theorem compare_preorderOn (hfield : key.field ∈ t.fields)
    (hfloat : ¬ key.field.type.isFloatSequence) : PreorderOn t.Fits key.compare :=
  ((sortingOrder_preorderOn hfloat).comap (fun record : Record => record.read key.field.slot)
    fun hfits => Value.hasShape_of_hasType (hfits _ hfield)).apply key.direction

end SortKey

/-! ## The list -/

/-- Sorting leaves the records without a value in the order of the source. -/
theorem filter_isNullIn_stableSort (key : SortKey) (records : List Record) :
    (stableSort key.compare records).filter key.isNullIn = records.filter key.isNullIn :=
  filter_stableSort fun x _ y _ hx hy => by simp [SortKey.compare_of_isNullIn hx hy]

/-- Ascending, the records without a value come first, as the source has them. -/
theorem nulls_first (hdir : key.direction = .ascending) {records : List Record}
    (hordered : (stableSort key.compare records).Pairwise fun a b => key.compare a b ≠ .gt) :
    ∃ rest, stableSort key.compare records = records.filter key.isNullIn ++ rest ∧
      ∀ record ∈ rest, ¬ key.isNullIn record := by
  have hsplit := filter_append_filter_not
    (hordered.imp fun hab => SortKey.isNullIn_of_ascending hdir hab)
  rw [filter_isNullIn_stableSort] at hsplit
  exact ⟨_, hsplit.symm, by simp⟩

/-- Descending, they come last, again as the source has them. -/
theorem nulls_last (hdir : key.direction = .descending) {records : List Record}
    (hordered : (stableSort key.compare records).Pairwise fun a b => key.compare a b ≠ .gt) :
    ∃ rest, stableSort key.compare records = rest ++ records.filter key.isNullIn ∧
      ∀ record ∈ rest, ¬ key.isNullIn record := by
  have hsplit := filter_append_filter_not (q := fun record => !key.isNullIn record)
    (hordered.imp fun {a b} hab hb => by
      by_contra ha
      simp [SortKey.isNullIn_of_descending hdir hab (by simpa using ha)] at hb)
  simp only [Bool.not_not] at hsplit
  rw [filter_isNullIn_stableSort] at hsplit
  exact ⟨_, hsplit.symm, by simp⟩

/-- **The sorting contract.**  Of records that fit the table the plan keeps a
permutation in order, with equal records and records without a value as the source
has them, whatever the field and the direction are. -/
theorem sorted_contract (h : Plan.compile t r o = .ok p) (hkey : p.sort = some key)
    (hfloat : ¬ key.field.type.isFloatSequence) {records : List Record}
    (hfits : ∀ record ∈ records, t.Fits record) :
    let kept := records.filter (p.accepts t)
    let sorted := p.sorted t records
    sorted.Perm kept ∧
      (sorted.Pairwise fun a b => key.compare a b ≠ .gt) ∧
      (∀ a ∈ kept, sorted.filter (key.compare a · == .eq) =
        kept.filter (key.compare a · == .eq)) ∧
      (∀ a b, [a, b].Sublist kept → key.compare a b = .eq → [a, b].Sublist sorted) ∧
      (key.direction = .ascending → ∃ rest, sorted = kept.filter key.isNullIn ++ rest ∧
        ∀ record ∈ rest, ¬ key.isNullIn record) ∧
      (key.direction = .descending → ∃ rest, sorted = rest ++ kept.filter key.isNullIn ∧
        ∀ record ∈ rest, ¬ key.isNullIn record) := by
  intro kept sorted
  have hpreorder : PreorderOn t.Fits key.compare :=
    SortKey.compare_preorderOn (Plan.sortField_mem h hkey) hfloat
  have hkept : ∀ record ∈ kept, t.Fits record := fun record hmem =>
    hfits record (List.mem_filter.mp hmem).1
  have hsorted : sorted = stableSort key.compare kept := by
    simp only [sorted, Plan.sorted, hkey, kept]
  have hstable := stablySorted_stableSort hpreorder hkept
  rw [hsorted]
  exact ⟨hstable.perm, hstable.ordered, hstable.stable,
    fun _ _ hab heq => hstable.pair_sublist hpreorder hkept hab heq,
    fun hdir => nulls_first hdir hstable.ordered,
    fun hdir => nulls_last hdir hstable.ordered⟩

open Samples.Tickets in
/-- Two tickets by owner from the last to the first, one of them without an owner. -/
theorem sorted_contract_secondByOwner :
    ∃ p key, Plan.compile table secondByOwner {} = .ok p ∧ p.sort = some key ∧
      key.direction = .descending ∧
      ∃ rest, p.sorted table records =
          rest ++ (records.filter (p.accepts table)).filter key.isNullIn ∧
        ∀ record ∈ rest, ¬ key.isNullIn record := by
  have hfits : ∀ record ∈ records, table.Fits record := by decide
  obtain ⟨-, -, -, -, -, hlast⟩ :=
    sorted_contract (t := table) (r := secondByOwner) (o := {}) rfl rfl (by decide) hfits
  exact ⟨_, _, rfl, rfl, rfl, hlast rfl⟩

end RecordQuery
