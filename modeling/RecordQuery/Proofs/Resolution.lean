import Mathlib.Data.List.Nodup
import Mathlib.Data.List.Sigma
import RecordQuery.Compilation

/-!
# Resolved names

A table is searched for a name by collecting every field that the name matches; the
search succeeds when there is exactly one.  `Table.find?_eq_some_iff` says so without
the list of candidates: the field stands at its position, the name matches it, and
it matches no field at another position.
-/

namespace RecordQuery

variable {t : Table} {name : String} {f : Field} {i : Nat}

/-- A name matches itself. -/
theorem namesMatch_self (name : String) : namesMatch name name := by
  simp [namesMatch, Text.Ascii.sameFolded]

namespace Table

theorem mem_candidates :
    (f, i) ∈ t.candidates name ↔ t.fields[i]? = some f ∧ namesMatch f.name name := by
  rw [candidates, List.mem_filter, List.mem_zipIdx_iff_getElem?]

theorem nodup_candidates (t : Table) (name : String) : (t.candidates name).Nodup :=
  (List.Nodup.of_map Prod.snd (List.nodup_zipIdx_map_snd t.fields)).filter _

/-- A search succeeds when the candidate is the only one. -/
theorem find?_eq_some {found : Field × Nat} :
    t.find? name = some found ↔ t.candidates name = [found] := by
  unfold find?
  split
  · next candidate h => rw [h, Option.some.injEq, List.singleton_inj]
  · next h => exact ⟨nofun, fun hsingle => absurd hsingle (h found)⟩

/-- **A name is found at a position exactly when it matches the field there and no
other.** -/
theorem find?_eq_some_iff :
    t.find? name = some (f, i) ↔ t.fields[i]? = some f ∧ namesMatch f.name name ∧
      ∀ j g, t.fields[j]? = some g → namesMatch g.name name → j = i := by
  rw [find?_eq_some]
  constructor
  · intro hsingle
    have hmem : (f, i) ∈ t.candidates name := by rw [hsingle]; exact List.mem_singleton_self _
    obtain ⟨hfield, hmatch⟩ := mem_candidates.mp hmem
    refine ⟨hfield, hmatch, fun j g hg hgmatch => ?_⟩
    have hother : (g, j) ∈ t.candidates name := mem_candidates.mpr ⟨hg, hgmatch⟩
    rw [hsingle, List.mem_singleton, Prod.mk.injEq] at hother
    exact hother.2
  · rintro ⟨hfield, hmatch, honly⟩
    have hmem : (f, i) ∈ t.candidates name := mem_candidates.mpr ⟨hfield, hmatch⟩
    by_contra hne
    rcases ((t.nodup_candidates name).ne_singleton_iff _).mp hne with hnil | ⟨⟨g, j⟩, hg, hdiff⟩
    · rw [hnil] at hmem
      cases hmem
    · obtain ⟨hgfield, hgmatch⟩ := mem_candidates.mp hg
      obtain rfl := honly j g hgfield hgmatch
      rw [hfield] at hgfield
      cases hgfield
      exact hdiff rfl

/-- What is found is any field that the name matches. -/
theorem eq_of_find?_eq_some {found : Field × Nat} (h : t.find? name = some found)
    (hfield : t.fields[i]? = some f) (hmatch : namesMatch f.name name) : found = (f, i) := by
  have hmem : (f, i) ∈ t.candidates name := mem_candidates.mpr ⟨hfield, hmatch⟩
  rw [find?_eq_some.mp h, List.mem_singleton] at hmem
  exact hmem.symm

/-- A name is resolved to what is found for it. -/
theorem resolve_eq_ok {found : Field × Nat} :
    t.resolve name = .ok found ↔ t.find? name = some found := by
  unfold resolve
  split
  · next found' h => rw [h, Except.ok.injEq, Option.some.injEq]
  · next h => simp [h]

theorem resolve_eq_error {e : QueryError} :
    t.resolve name = .error e ↔ t.find? name = none ∧ .unknownField name = e := by
  unfold resolve
  split
  · next found h => simp [h]
  · next h => simp [h]

/-- The field at a position has a registered name that the name matches. -/
def Matches (t : Table) (name : String) (i : Nat) : Prop :=
  ∃ f, t.fields[i]? = some f ∧ namesMatch f.name name

/-- **A name is resolved exactly when it matches one field.** -/
theorem exists_resolve_iff : (∃ found, t.resolve name = .ok found) ↔ ∃! i, t.Matches name i := by
  constructor
  · rintro ⟨⟨f, i⟩, hfound⟩
    obtain ⟨hfield, hmatch, honly⟩ := find?_eq_some_iff.mp (resolve_eq_ok.mp hfound)
    exact ⟨i, ⟨f, hfield, hmatch⟩, fun j ⟨g, hg, hgmatch⟩ => honly j g hg hgmatch⟩
  · rintro ⟨i, ⟨f, hfield, hmatch⟩, honly⟩
    exact ⟨(f, i), resolve_eq_ok.mpr (find?_eq_some_iff.mpr
      ⟨hfield, hmatch, fun j g hg hgmatch => honly j ⟨g, hg, hgmatch⟩⟩)⟩

end Table

end RecordQuery
