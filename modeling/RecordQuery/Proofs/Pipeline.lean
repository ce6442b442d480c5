import RecordQuery.Proofs.Compilation
import RecordQuery.Proofs.Pages
import RecordQuery.Proofs.StableSort

/-!
# The stages of a plan

`Plan.run` cuts out its page before it shapes any record, so that most of the shaped
list is never made.  `Plan.found` is that whole list, which no run computes, and
`Plan.run_eq_ofPage` says that a response is one page of it with its length as the
count.  Shaping keeps the places of the records and sorting keeps their number, so
that the length is that of the records the request keeps.

What the list has to be is said elsewhere, without the functions that make it.
-/

namespace RecordQuery

variable {t : Table} {r : Request} {o : Options} {p : Plan}

/-- The records that satisfy the request, as they come. -/
def Request.kept (t : Table) (r : Request) (records : List Record) : List Record :=
  records.filter (r.keeps t)

namespace Plan

/-- All that the plan finds, of which a response is one page: every record that passes,
sorted and shaped. -/
def found (t : Table) (p : Plan) (records : List Record) : List Record :=
  (p.sorted t records).map (p.shape t)

/-- Whatever the sort is, it is a rearrangement of the records that pass. -/
theorem sorted_perm (t : Table) (p : Plan) (records : List Record) :
    (p.sorted t records).Perm (records.filter (p.accepts t)) := by
  rw [sorted]
  cases p.sort with
  | none => exact List.Perm.refl _
  | some key => exact stableSort_perm _ _

/-- The sorted records are those of the source that pass. -/
theorem mem_sorted {records : List Record} {record : Record} :
    record ∈ p.sorted t records ↔ record ∈ records ∧ p.accepts t record := by
  rw [(sorted_perm t p records).mem_iff, List.mem_filter]

/-- The records that pass the plan are those that satisfy its request. -/
theorem filter_accepts (h : compile t r o = .ok p) (records : List Record) :
    records.filter (p.accepts t) = r.kept t records :=
  List.filter_congr fun record _ => accepts_eq_keeps h record

/-- Of a plan the sorted list depends on what is kept and on the key. -/
theorem sorted_of_compile (h : compile t r o = .ok p) (records : List Record) :
    p.sorted t records =
      p.sort.elim (r.kept t records) fun key => stableSort key.compare (r.kept t records) := by
  rw [sorted, filter_accepts h]
  cases p.sort with
  | none => rfl
  | some key => rfl

/-- **A response is one page of all that is found**: shaping the records of a page
is cutting the page out of the shaped records. -/
theorem run_eq_ofPage (t : Table) (p : Plan) (records : List Record) :
    p.run t records =
      .ofPage (p.page.window (p.found t records)) p.page
        (if p.count then some (p.found t records).length else none) := by
  rw [run, found, Page.window_map, List.length_map]

end Plan

end RecordQuery
