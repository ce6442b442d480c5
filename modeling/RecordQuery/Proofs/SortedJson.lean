import Mathlib.Data.String.Basic
import RecordQuery.Json.Basic

/-!
# JSON values with their keys in order

`Json.sorted` is the form that a JSON value has in memory, where the entries of
every object stand in the order of their keys, each key once.  Sorting the entries
of an object gives ascending keys (`Json.ascending_sortEntries`) and leaves
ascending keys as they are (`Json.sortEntries_of_ascending`), so that a value in
memory is its own sorted form (`Json.sorted_sorted`).
-/

namespace RecordQuery.Json

/-! ## Objects -/

/-- The keys stand in order, each of them once. -/
def Ascending (entries : List (String × Json)) : Prop :=
  entries.Pairwise fun a b => a.1 < b.1

variable {entries : List (String × Json)} {entry : String × Json} {key : String} {value : Json}

/-- Inserting an entry adds no other. -/
theorem mem_insertEntry (h : entry ∈ insertEntry key value entries) :
    entry = (key, value) ∨ entry ∈ entries := by
  induction entries with
  | nil => exact .inl (List.mem_singleton.mp h)
  | cons first rest ih =>
      rw [insertEntry] at h
      split at h
      · exact List.mem_cons.mp h
      · split at h
        · exact (List.mem_cons.mp h).imp_right (List.mem_cons_of_mem first)
        · rcases List.mem_cons.mp h with rfl | h
          · exact .inr List.mem_cons_self
          · exact (ih h).imp_right (List.mem_cons_of_mem first)

/-- An entry is inserted where its key belongs. -/
theorem Ascending.insertEntry (h : Ascending entries) :
    Ascending (insertEntry key value entries) := by
  induction entries with
  | nil => exact List.pairwise_singleton _ _
  | cons first rest ih =>
      obtain ⟨hfirst, hrest⟩ := List.pairwise_cons.mp h
      rw [Json.insertEntry]
      split
      · next hlt =>
          refine List.pairwise_cons.mpr ⟨fun e he => ?_, h⟩
          rcases List.mem_cons.mp he with rfl | he
          · exact hlt
          · exact lt_trans hlt (hfirst e he)
      · split
        · next heq =>
            subst heq
            exact List.pairwise_cons.mpr ⟨hfirst, hrest⟩
        · next hlt hne =>
            refine List.pairwise_cons.mpr ⟨fun e he => ?_, ih hrest⟩
            rcases mem_insertEntry he with rfl | he
            · exact lt_of_le_of_ne (not_lt.mp hlt) (Ne.symm hne)
            · exact hfirst e he

/-- Sorted entries ascend strictly by their keys, so that each key is there once. -/
theorem ascending_sortEntries (entries : List (String × Json)) :
    Ascending (sortEntries entries) := by
  -- What has been gathered is ascending after every entry.
  have hfold : ∀ acc, Ascending acc →
      Ascending (entries.foldl (fun sorted e => insertEntry e.1 e.2 sorted) acc) := by
    induction entries with
    | nil => exact fun acc h => h
    | cons e entries ih => exact fun acc h => ih _ h.insertEntry
  exact hfold [] List.Pairwise.nil

/-- Sorting adds no entry. -/
theorem mem_of_mem_sortEntries (h : entry ∈ sortEntries entries) : entry ∈ entries := by
  have hfold : ∀ acc, entry ∈ entries.foldl (fun sorted e => insertEntry e.1 e.2 sorted) acc →
      entry ∈ entries ∨ entry ∈ acc := by
    clear h
    induction entries with
    | nil => exact fun acc h => .inr h
    | cons e entries ih =>
        intro acc h
        rcases ih _ h with h | h
        · exact .inl (List.mem_cons_of_mem e h)
        · rcases mem_insertEntry h with rfl | h
          · exact .inl List.mem_cons_self
          · exact .inr h
  exact (hfold [] h).resolve_right List.not_mem_nil

/-- A key above all others goes to the end. -/
theorem insertEntry_of_lt (h : ∀ e ∈ entries, e.1 < key) :
    insertEntry key value entries = entries ++ [(key, value)] := by
  induction entries with
  | nil => rfl
  | cons first rest ih =>
      have hlt : first.1 < key := h first List.mem_cons_self
      rw [insertEntry, if_neg (lt_asymm hlt), if_neg (ne_of_gt hlt),
        ih fun e he => h e (List.mem_cons_of_mem first he), List.cons_append]

/-- Entries in order are sorted already. -/
theorem sortEntries_of_ascending (h : Ascending entries) : sortEntries entries = entries := by
  -- Each entry is above all that has been gathered, and goes to the end of it.
  have hfold : ∀ acc, Ascending (acc ++ entries) →
      entries.foldl (fun sorted e => insertEntry e.1 e.2 sorted) acc = acc ++ entries := by
    clear h
    induction entries with
    | nil => exact fun acc _ => (List.append_nil acc).symm
    | cons e entries ih =>
        intro acc h
        have hlast : ∀ e' ∈ acc, e'.1 < e.1 := fun e' he' =>
          (List.pairwise_append.mp h).2.2 e' he' e List.mem_cons_self
        have hnext : Ascending (acc ++ [e] ++ entries) := by
          rwa [List.append_assoc, List.singleton_append]
        rw [List.foldl_cons, insertEntry_of_lt hlast, ih _ hnext, List.append_assoc,
          List.singleton_append]
  exact hfold [] h

/-! ## Values -/

/-- The items of an array keep their places. -/
theorem sortedItems_eq_map (items : List Json) : sortedItems items = items.map sorted := by
  induction items with
  | nil => rfl
  | cons v items ih => rw [sortedItems, ih, List.map_cons]

theorem sortedEntries_eq_map (entries : List (String × Json)) :
    sortedEntries entries = entries.map fun e => (e.1, e.2.sorted) := by
  induction entries with
  | nil => rfl
  | cons e entries ih => rw [sortedEntries, ih, List.map_cons]

mutual

/-- **A value in memory is its own sorted form.** -/
theorem sorted_sorted : ∀ v : Json, v.sorted.sorted = v.sorted
  | null => rfl
  | bool _ => rfl
  | integer _ => rfl
  | float _ => rfl
  | string _ => rfl
  | array items => by
      rw [sorted, sorted, sortedItems_eq_map, sortedItems_eq_map, List.map_map]
      exact congrArg array (List.map_congr_left (sorted_sorted_items items))
  | object entries => by
      -- Sorting the entries moves them but leaves their values, which are sorted already.
      have hvalues : sortedEntries (sortEntries (sortedEntries entries)) =
          sortEntries (sortedEntries entries) := by
        rw [sortedEntries_eq_map]
        refine (List.map_congr_left fun e he => ?_).trans (List.map_id _)
        obtain ⟨source, hsource, rfl⟩ := List.mem_map.mp
          (sortedEntries_eq_map entries ▸ mem_of_mem_sortEntries he)
        exact congrArg (Prod.mk source.1) (sorted_sorted_entries entries source hsource)
      rw [sorted, sorted, hvalues, sortEntries_of_ascending (ascending_sortEntries _)]

theorem sorted_sorted_items : ∀ items : List Json, ∀ v ∈ items, v.sorted.sorted = v.sorted
  | [] => nofun
  | v :: items => List.forall_mem_cons.mpr ⟨sorted_sorted v, sorted_sorted_items items⟩

theorem sorted_sorted_entries :
    ∀ entries : List (String × Json), ∀ e ∈ entries, e.2.sorted.sorted = e.2.sorted
  | [] => nofun
  | (_, v) :: entries =>
      List.forall_mem_cons.mpr ⟨sorted_sorted v, sorted_sorted_entries entries⟩

end

end RecordQuery.Json
