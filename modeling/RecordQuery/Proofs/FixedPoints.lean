import RecordQuery.Proofs.Sorting

/-!
# Answers that are left alone

A plan that asks for the first page and shapes no record answers with records of
its source, so that the answer can be given to the plan again.  Nothing happens to
it: every record passed already, the front of a sorted list is sorted, and there is
no more of it than fits on a page.

`Plan.Settled` is these three properties of a list, said without running anything.
A list is settled exactly when the plan gives it back (`Plan.run_data_eq_self_iff`),
and all answers are settled (`Plan.settled_run_data`).  The first needs the sort to
leave a sorted list alone, which a stable sort by a total preorder does; a
comparison that is no preorder could go on moving records for ever.
-/

namespace RecordQuery

variable {t : Table} {r : Request} {o : Options} {p : Plan}

/-- Sorting does not move what is in order. -/
theorem stableSort_of_ordered {α : Type} {S : α → Prop} {order : α → α → Ordering}
    (h : PreorderOn S order) {xs : List α} (hxs : ∀ x ∈ xs, S x)
    (hordered : xs.Pairwise fun a b => order a b ≠ .gt) : stableSort order xs = xs := by
  have hself : StablySorted order xs xs := ⟨List.Perm.refl xs, hordered, fun _ _ => rfl⟩
  exact ((stablySorted_iff h hxs).mp hself).symm

/-- The first page is the front of the list, however long that is. -/
theorem Page.window_of_first {α : Type} {page : Page} (h : page.number = 1) (items : List α) :
    page.window items = items.take page.size.toNat := by
  have hskip : page.skip = 0 := by
    rw [skip, h]
    simp
  rw [window, hskip, List.drop_zero]

namespace Plan

/-- The plan leaves an answer unchanged if it is asked again: it wants the first page,
keeps all cells of a record, and sorts by a total preorder if it sorts. -/
structure Repeatable (p : Plan) : Prop where
  firstPage : p.page.number = 1
  unshaped : p.projection = none
  lawful : ∀ key, p.sort = some key → ¬ key.field.type.isFloatSequence

/-- The plan has nothing to do on a list: it accepts every record, they are in its order,
and they fit on one page. -/
structure Settled (t : Table) (p : Plan) (records : List Record) : Prop where
  accepted : ∀ record ∈ records, p.accepts t record
  ordered : ∀ key, p.sort = some key →
    records.Pairwise fun a b => key.compare a b ≠ .gt
  length_le : records.length ≤ p.page.size.toNat

/-- A repeatable plan answers with the front of the sorted list. -/
theorem Repeatable.run_data (h : p.Repeatable) (records : List Record) :
    (p.run t records).data = (p.sorted t records).take p.page.size.toNat := by
  have hshape : p.shape t = id := by
    funext record
    rw [shape, h.unshaped]
    rfl
  rw [run, Response.ofPage, hshape, List.map_id, Page.window_of_first h.firstPage]

/-- A repeatable plan sorts by a total preorder. -/
theorem Repeatable.preorderOn (hrepeat : p.Repeatable) (h : compile t r o = .ok p) {key : SortKey}
    (hkey : p.sort = some key) : PreorderOn t.Fits key.compare :=
  SortKey.compare_preorderOn (sortField_mem h hkey) (hrepeat.lawful key hkey)

theorem sorted_ordered (h : compile t r o = .ok p) (hrepeat : p.Repeatable) {key : SortKey}
    (hkey : p.sort = some key) {records : List Record}
    (hfits : ∀ record ∈ records, t.Fits record) :
    (p.sorted t records).Pairwise fun a b => key.compare a b ≠ .gt := by
  simp only [sorted, hkey]
  exact stableSort_ordered (hrepeat.preorderOn h hkey) fun record hmem =>
    hfits record (List.mem_of_mem_filter hmem)

/-- Of a settled list there is nothing to drop and nothing to move. -/
theorem Settled.sorted_eq (h : compile t r o = .ok p) (hrepeat : p.Repeatable)
    {records : List Record} (hfits : ∀ record ∈ records, t.Fits record)
    (hsettled : p.Settled t records) : p.sorted t records = records := by
  have hkept : records.filter (p.accepts t) = records :=
    List.filter_eq_self.mpr hsettled.accepted
  rw [sorted, hkept]
  cases hkey : p.sort with
  | none => rfl
  | some key =>
      exact stableSort_of_ordered (hrepeat.preorderOn h hkey) hfits (hsettled.ordered key hkey)

/-- **Every answer is settled.** -/
theorem settled_run_data (h : compile t r o = .ok p) (hrepeat : p.Repeatable)
    {records : List Record} (hfits : ∀ record ∈ records, t.Fits record) :
    p.Settled t (p.run t records).data where
  accepted record hmem := by
    rw [hrepeat.run_data] at hmem
    exact (mem_sorted.mp (List.mem_of_mem_take hmem)).2
  ordered key hkey := by
    rw [hrepeat.run_data]
    exact (sorted_ordered h hrepeat hkey hfits).sublist (List.take_sublist _ _)
  length_le := by
    rw [hrepeat.run_data, List.length_take]
    exact Nat.min_le_left _ _

/-- **The settled lists are those that the plan gives back.** -/
theorem run_data_eq_self_iff (h : compile t r o = .ok p) (hrepeat : p.Repeatable)
    {records : List Record} (hfits : ∀ record ∈ records, t.Fits record) :
    (p.run t records).data = records ↔ p.Settled t records := by
  constructor
  · intro hself
    exact hself ▸ settled_run_data h hrepeat hfits
  · intro hsettled
    rw [hrepeat.run_data, hsettled.sorted_eq h hrepeat hfits,
      List.take_of_length_le hsettled.length_le]

/-- The records of an answer are records of the source. -/
theorem Repeatable.fits_run_data (hrepeat : p.Repeatable) {records : List Record}
    (hfits : ∀ record ∈ records, t.Fits record) :
    ∀ record ∈ (p.run t records).data, t.Fits record := by
  intro record hmem
  rw [hrepeat.run_data] at hmem
  exact hfits record (mem_sorted.mp (List.mem_of_mem_take hmem)).1

/-- **Running a plan on its own answer changes nothing.**  Of records that fit the table a
plan for the first page, without a projection and with a lawful sort or none, gives its
answer back when it is given it, in the same order and with its length as the count; and
the lists that it gives back are those that it accepts, has in order and fits on a page. -/
theorem run_run_data (h : compile t r o = .ok p) (hprojection : p.projection = none)
    (hpage : p.page.number = 1)
    (hsort : ∀ key, p.sort = some key → ¬ key.field.type.isFloatSequence)
    {records : List Record} (hfits : ∀ record ∈ records, t.Fits record) :
    let answer := (p.run t records).data
    (p.run t answer).data = answer ∧
      (p.run t answer).totalCount = (if p.count then some answer.length else none) ∧
      ((p.run t records).data = records ↔ p.Settled t records) := by
  intro answer
  have hrepeat : p.Repeatable := ⟨hpage, hprojection, hsort⟩
  have hanswer : ∀ record ∈ answer, t.Fits record := hrepeat.fits_run_data hfits
  have hsettled : p.Settled t answer := settled_run_data h hrepeat hfits
  refine ⟨(run_data_eq_self_iff h hrepeat hanswer).mpr hsettled, ?_,
    run_data_eq_self_iff h hrepeat hfits⟩
  rw [run, Response.ofPage, hsettled.sorted_eq h hrepeat hanswer]

/-- Tickets by owner from the last to the first, in pages of two. -/
def lastOwners : Request where
  filters := [⟨"PRIORITY", .lessThanOrEqual, .string "urgent"⟩]
  sort := some ⟨"owner", .descending⟩
  pageSize := some 2

open Samples.Tickets in
/-- Of three tickets the second has no owner and falls off the page. -/
theorem run_run_data_lastOwners :
    ∃ p, compile table lastOwners {} = .ok p ∧ p.projection = none ∧ p.page.number = 1 ∧
      (∀ key, p.sort = some key → ¬ key.field.type.isFloatSequence) ∧
      let answer := (p.run table records).data
      answer.map (·.read 0) = [.number (.unsigned 3), .number (.unsigned 1)] ∧
        (p.run table answer).data = answer := by
  have hfits : ∀ record ∈ records, table.Fits record := by decide
  have hsort : ∀ key : SortKey,
      some ⟨⟨"owner", (FieldType.plain .string).asNullable, 6⟩, .descending⟩ = some key →
        ¬ key.field.type.isFloatSequence := by
    rintro key ⟨⟩
    decide
  exact ⟨_, rfl, rfl, rfl, hsort, rfl,
    (run_run_data (r := lastOwners) (o := {}) rfl rfl rfl hsort hfits).1⟩

end Plan

end RecordQuery
