import RecordQuery.SortOrder

/-!
# Stable sorting by insertion

`stableSort` builds its result back to front: every item is moved past those
that it must come before, and no further.  What it promises depends on how much
of a total preorder the comparison is.

* For any comparison at all the result is a permutation, and items that the
  comparison cannot tell from a given one keep their places relative to each
  other, as long as equality with that item rules out a strict order between
  them (`filter_stableSort`).
* For a total preorder the result is ordered as well, and it is the only list that
  is a stable sort of the source (`stablySorted_iff`).

The comparison has to be a preorder on the items of the list only.  This is what
`PreorderOn` is for: records compare lawfully when they fit their table, and no
comparison of records is lawful on all lists of cells.
-/

namespace RecordQuery

variable {α : Type} {S : α → Prop} {order : α → α → Ordering}

/-- The comparison is a total preorder on the items with a property: swapping
the sides swaps the answer, and "not after" is transitive. -/
structure PreorderOn (S : α → Prop) (order : α → α → Ordering) : Prop where
  swap : ∀ {a b}, S a → S b → order b a = (order a b).swap
  trans : ∀ {a b c}, S a → S b → S c →
    order a b ≠ .gt → order b c ≠ .gt → order a c ≠ .gt

namespace PreorderOn

/-- Reversing a preorder gives a preorder. -/
theorem reverse (h : PreorderOn S order) :
    PreorderOn S fun a b => (order a b).swap where
  swap ha hb := congrArg Ordering.swap (h.swap ha hb)
  trans {a b c} ha hb hc hab hbc := by
    rw [← h.swap ha hb] at hab
    rw [← h.swap hb hc] at hbc
    rw [← h.swap ha hc]
    exact h.trans hc hb ha hbc hab

/-- A preorder seen in either direction is a preorder. -/
theorem apply (h : PreorderOn S order) (d : Direction) :
    PreorderOn S fun a b => d.apply (order a b) := by
  cases d with
  | ascending => exact h
  | descending => exact h.reverse

/-- A preorder of what is read from the items is a preorder of the items. -/
theorem comap {β : Type} {T : β → Prop} (h : PreorderOn S order) (read : β → α)
    (hread : ∀ {b}, T b → S (read b)) : PreorderOn T fun a b => order (read a) (read b) where
  swap ha hb := h.swap (hread ha) (hread hb)
  trans ha hb hc := h.trans (hread ha) (hread hb) (hread hc)

/-- An item that is not before another is after it or equal to it. -/
theorem ne_gt_of_ne_lt (h : PreorderOn S order) {a b : α} (ha : S a) (hb : S b)
    (hab : order a b ≠ .lt) : order b a ≠ .gt := by
  rw [h.swap ha hb]
  cases hcase : order a b with
  | lt => exact absurd hcase hab
  | eq => simp
  | gt => simp

theorem self (h : PreorderOn S order) {a : α} (ha : S a) : order a a = .eq := by
  have hswap := h.swap ha ha
  cases hcase : order a a with
  | eq => rfl
  | lt | gt => simp [hcase] at hswap

/-- Two items that are equal to a third are equal to each other. -/
theorem eq_of_eq_of_eq (h : PreorderOn S order) {a b c : α} (ha : S a) (hb : S b)
    (hc : S c) (hab : order a b = .eq) (hac : order a c = .eq) : order b c = .eq := by
  have hba : order b a = .eq := by rw [h.swap ha hb, hab]; rfl
  have hca : order c a = .eq := by rw [h.swap ha hc, hac]; rfl
  have hbc : order b c ≠ .gt := h.trans hb ha hc (by simp [hba]) (by simp [hac])
  have hcb : order c b ≠ .gt := h.trans hc ha hb (by simp [hca]) (by simp [hab])
  rw [h.swap hb hc] at hcb
  cases hcase : order b c with
  | lt => simp [hcase] at hcb
  | eq => rfl
  | gt => exact absurd hcase hbc

end PreorderOn

/-- `ys` holds the items of `xs` in order, and of items that compare as equal in
the order in which `xs` has them. -/
structure StablySorted (order : α → α → Ordering) (xs ys : List α) : Prop where
  perm : ys.Perm xs
  ordered : ys.Pairwise fun a b => order a b ≠ .gt
  stable : ∀ a ∈ xs, ys.filter (order a · == .eq) = xs.filter (order a · == .eq)

/-- Of two items that compare as equal the first in the source is the first in the
result. -/
theorem StablySorted.pair_sublist (h : PreorderOn S order) {xs ys : List α} {a b : α}
    (hxs : ∀ x ∈ xs, S x) (hys : StablySorted order xs ys) (hab : [a, b].Sublist xs)
    (heq : order a b = .eq) : [a, b].Sublist ys := by
  have ha : a ∈ xs := hab.subset List.mem_cons_self
  have hfilter := hab.filter (order a · == .eq)
  rw [← hys.stable a ha] at hfilter
  have hpair : [a, b].filter (order a · == .eq) = [a, b] := by
    simp [h.self (hxs a ha), heq]
  rw [hpair] at hfilter
  exact hfilter.trans List.filter_sublist

/-- The first items of two stable sorts of the same items are the same: each is
not after the other, and both are the first of their equals. -/
theorem StablySorted.head_unique (h : PreorderOn S order) {xs ys zs : List α} {y z : α}
    (hxs : ∀ x ∈ xs, S x) (hys : StablySorted order xs (y :: ys))
    (hzs : StablySorted order xs (z :: zs)) : y = z := by
  have hy : y ∈ xs := hys.perm.mem_iff.mp List.mem_cons_self
  have hz : z ∈ xs := hzs.perm.mem_iff.mp List.mem_cons_self
  have hyz : order y z ≠ .gt := by
    rcases List.mem_cons.mp (hys.perm.mem_iff.mpr hz) with rfl | hmem
    · simp [h.self (hxs z hz)]
    · exact (List.pairwise_cons.mp hys.ordered).1 z hmem
  have hzy : order z y ≠ .gt := by
    rcases List.mem_cons.mp (hzs.perm.mem_iff.mpr hy) with rfl | hmem
    · simp [h.self (hxs y hy)]
    · exact (List.pairwise_cons.mp hzs.ordered).1 y hmem
  have heq : order y z = .eq := by
    rw [h.swap (hxs y hy) (hxs z hz)] at hzy
    cases hcase : order y z with
    | eq => rfl
    | lt => simp [hcase] at hzy
    | gt => exact absurd hcase hyz
  have hfilter := (hys.stable y hy).trans (hzs.stable y hy).symm
  rw [List.filter_cons_of_pos (by simp [h.self (hxs y hy)]),
    List.filter_cons_of_pos (by simp [heq])] at hfilter
  exact (List.cons.inj hfilter).1

/-- **There is one stable sort** by a total preorder. -/
theorem StablySorted.unique (h : PreorderOn S order) {xs ys zs : List α}
    (hxs : ∀ x ∈ xs, S x) (hys : StablySorted order xs ys)
    (hzs : StablySorted order xs zs) : ys = zs := by
  induction ys generalizing xs zs with
  | nil =>
      have hlength := hys.perm.length_eq.trans hzs.perm.length_eq.symm
      exact (List.eq_nil_of_length_eq_zero hlength.symm).symm
  | cons y ys ih =>
      cases zs with
      | nil => exact absurd (hys.perm.trans hzs.perm.symm).length_eq (by simp)
      | cons z zs =>
          obtain rfl := hys.head_unique h hxs hzs
          have hperm : zs.Perm ys := (hzs.perm.trans hys.perm.symm).cons_inv
          have hS : ∀ x ∈ ys, S x := fun x hx =>
            hxs x (hys.perm.mem_iff.mp (List.mem_cons_of_mem y hx))
          -- both tails are stable sorts of the first one
          refine congrArg (y :: ·) (ih hS
            ⟨List.Perm.refl ys, (List.pairwise_cons.mp hys.ordered).2, fun _ _ => rfl⟩
            ⟨hperm, (List.pairwise_cons.mp hzs.ordered).2, fun a ha => ?_⟩)
          have hmem : a ∈ xs := hys.perm.mem_iff.mp (List.mem_cons_of_mem y ha)
          have hfilter := (hzs.stable a hmem).trans (hys.stable a hmem).symm
          rw [List.filter_cons, List.filter_cons] at hfilter
          by_cases hay : order a y == .eq
          · rw [if_pos hay, if_pos hay] at hfilter
            exact (List.cons.inj hfilter).2
          · rwa [if_neg hay, if_neg hay] at hfilter

/-- An insertion adds the item and moves the others. -/
theorem insertBack_perm (order : α → α → Ordering) (x : α) (sorted : List α) :
    (insertBack order x sorted).Perm (x :: sorted) := by
  induction sorted with
  | nil => exact List.Perm.refl _
  | cons y rest ih =>
      rw [insertBack]
      split
      · exact (ih.cons y).trans (List.Perm.swap x y rest)
      · exact List.Perm.refl _

/-- An insertion keeps a list ordered that is read from the last to the first. -/
theorem insertBack_ordered (h : PreorderOn S order) {x : α} {sorted : List α}
    (hx : S x) (hS : ∀ y ∈ sorted, S y)
    (hsorted : sorted.Pairwise fun a b => order b a ≠ .gt) :
    (insertBack order x sorted).Pairwise fun a b => order b a ≠ .gt := by
  induction sorted with
  | nil => simp [insertBack]
  | cons y rest ih =>
      obtain ⟨hy, hrest⟩ := List.pairwise_cons.mp hsorted
      have hSy : S y := hS y List.mem_cons_self
      have hSrest : ∀ z ∈ rest, S z := fun z hz => hS z (List.mem_cons_of_mem y hz)
      rw [insertBack]
      split
      · next hlt =>
          refine List.pairwise_cons.mpr ⟨fun z hz => ?_, ih hSrest hrest⟩
          rcases List.mem_cons.mp ((insertBack_perm order x rest).mem_iff.mp hz) with rfl | hz
          · simp [hlt]
          · exact hy z hz
      · next hnlt =>
          -- the new item stops in front of `y`, which is the greatest of the rest
          have hyx : order y x ≠ .gt := h.ne_gt_of_ne_lt hx hSy hnlt
          refine List.pairwise_cons.mpr ⟨fun z hz => ?_, hsorted⟩
          rcases List.mem_cons.mp hz with rfl | hz
          · exact hyx
          · exact h.trans (hSrest z hz) hSy hx (hy z hz) hyx

/-- Among items no two of which are strictly ordered an insertion puts the new
one in front, as the last to have come. -/
theorem filter_insertBack {q : α → Bool} {x : α} {sorted : List α}
    (hq : ∀ y ∈ sorted, q x → q y → order x y ≠ .lt) :
    (insertBack order x sorted).filter q = (x :: sorted).filter q := by
  induction sorted with
  | nil => rfl
  | cons y rest ih =>
      have ih := ih fun z hz => hq z (List.mem_cons_of_mem y hz)
      rw [insertBack]
      split
      · next hlt =>
          rw [List.filter_cons, ih]
          by_cases hx : q x
          · have hy : ¬ q y := fun hy => hq y List.mem_cons_self hx hy hlt
            simp [hx, hy]
          · simp [hx, List.filter_cons]
      · rfl

/-! ## All insertions -/

private theorem foldl_insertBack_perm (order : α → α → Ordering) (xs sorted : List α) :
    (xs.foldl (fun sorted x => insertBack order x sorted) sorted).Perm (xs ++ sorted) := by
  induction xs generalizing sorted with
  | nil => exact List.Perm.refl _
  | cons x xs ih =>
      rw [List.foldl_cons]
      exact (ih _).trans
        (((insertBack_perm order x sorted).append_left xs).trans List.perm_middle)

private theorem foldl_insertBack_ordered (h : PreorderOn S order) {xs sorted : List α}
    (hxs : ∀ x ∈ xs, S x) (hS : ∀ y ∈ sorted, S y)
    (hsorted : sorted.Pairwise fun a b => order b a ≠ .gt) :
    (xs.foldl (fun sorted x => insertBack order x sorted) sorted).Pairwise
      fun a b => order b a ≠ .gt := by
  induction xs generalizing sorted with
  | nil => exact hsorted
  | cons x xs ih =>
      have hx : S x := hxs x List.mem_cons_self
      rw [List.foldl_cons]
      refine ih (fun z hz => hxs z (List.mem_cons_of_mem x hz)) (fun y hy => ?_)
        (insertBack_ordered h hx hS hsorted)
      rcases List.mem_cons.mp ((insertBack_perm order x sorted).mem_iff.mp hy) with rfl | hy
      · exact hx
      · exact hS y hy

private theorem filter_foldl_insertBack {q : α → Bool} {xs sorted : List α}
    (hq : ∀ x ∈ xs ++ sorted, ∀ y ∈ xs ++ sorted, q x → q y → order x y ≠ .lt) :
    (xs.foldl (fun sorted x => insertBack order x sorted) sorted).filter q =
      (xs.filter q).reverse ++ sorted.filter q := by
  induction xs generalizing sorted with
  | nil => rfl
  | cons x xs ih =>
      -- the premise is about all items, and inserting one only moves them
      have hmem : ∀ z, z ∈ xs ++ insertBack order x sorted ↔ z ∈ x :: xs ++ sorted := by
        intro z
        rw [List.mem_append, (insertBack_perm order x sorted).mem_iff]
        simp only [List.cons_append, List.mem_cons, List.mem_append]
        exact or_left_comm
      have hinsert : (insertBack order x sorted).filter q = (x :: sorted).filter q :=
        filter_insertBack fun y hy => hq x (by simp) y (by simp [hy])
      rw [List.foldl_cons, ih fun a ha b hb =>
        hq a ((hmem a).mp ha) b ((hmem b).mp hb), hinsert]
      by_cases hx : q x
      · simp [hx]
      · simp [hx]

/-- Whatever the comparison, nothing is lost and nothing is repeated. -/
theorem stableSort_perm (order : α → α → Ordering) (xs : List α) :
    (stableSort order xs).Perm xs :=
  (List.reverse_perm _).trans (by simpa using foldl_insertBack_perm order xs [])

/-- Sorting by a total preorder leaves no item behind one that it must come before. -/
theorem stableSort_ordered (h : PreorderOn S order) {xs : List α} (hxs : ∀ x ∈ xs, S x) :
    (stableSort order xs).Pairwise fun a b => order a b ≠ .gt :=
  List.pairwise_reverse.mpr
    (foldl_insertBack_ordered h hxs (by simp) List.Pairwise.nil)

/-- Sorting leaves alone what it has no reason to move: items no two of which
are strictly ordered stand in the result as they stand in the source. -/
theorem filter_stableSort {q : α → Bool} {xs : List α}
    (hq : ∀ x ∈ xs, ∀ y ∈ xs, q x → q y → order x y ≠ .lt) :
    (stableSort order xs).filter q = xs.filter q := by
  rw [stableSort, List.filter_reverse, filter_foldl_insertBack (by simpa using hq)]
  simp

/-- **Sorting by a total preorder is a stable sort.** -/
theorem stablySorted_stableSort (h : PreorderOn S order) {xs : List α}
    (hxs : ∀ x ∈ xs, S x) : StablySorted order xs (stableSort order xs) where
  perm := stableSort_perm order xs
  ordered := stableSort_ordered h hxs
  stable a ha := by
    refine filter_stableSort fun x hx y hy hax hay => ?_
    have hxy : order x y = .eq := h.eq_of_eq_of_eq (hxs a ha) (hxs x hx) (hxs y hy)
      (by simpa using hax) (by simpa using hay)
    simp [hxy]

/-- `stableSort` is the stable sort by a total preorder, the only one there is. -/
theorem stablySorted_iff (h : PreorderOn S order) {xs ys : List α} (hxs : ∀ x ∈ xs, S x) :
    StablySorted order xs ys ↔ ys = stableSort order xs := by
  have hsort := stablySorted_stableSort h hxs
  constructor
  · exact fun hys => hys.unique h hxs hsort
  · rintro rfl
    exact hsort

end RecordQuery
