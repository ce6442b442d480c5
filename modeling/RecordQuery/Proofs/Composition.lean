import RecordQuery.Proofs.Pipeline
import RecordQuery.Samples.Tickets

/-!
# Requests part by part

A request is compiled part by part and no part sees another.  `Request.parts`
lists the parts in the order of compilation, and `Part.error?` is what can be
wrong with one of them alone.

* A failed compilation reports the first part that is wrong, and nothing else of
  the request, the options or the records has a say in it
  (`Plan.error?_compile`).
* A plan accepts a record when every part does, so that the order and the number
  of times in which tests are asked for are lost (`Request.Rearranges`).

Both come together in `Plan.compile_compositional`.
-/

namespace RecordQuery

variable {t : Table} {r r' : Request} {o : Options}

namespace Request

/-- A part of a request that may fail to compile. -/
inductive Part
  | condition (c : Condition)
  | predicate (q : Predicate)
  | sort (spec : SortSpec)
  | selected (name : String)

/-- What is wrong with a part that is compiled by itself. -/
def Part.error? (t : Table) : Part → Option QueryError
  | condition c => Outcome.error? (c.compile t)
  | predicate q => Outcome.error? (q.resolve t)
  | sort spec => Outcome.error? (spec.resolve t)
  | selected name => Outcome.error? (t.resolve name)

/-- The parts of a request in the order in which they are compiled. -/
def parts (r : Request) : List Part :=
  r.filters.map .condition ++ r.predicates.map .predicate ++ r.sort.toList.map .sort ++
    r.select.map .selected

/-- Every part of the request has its counterpart: conditions compile, predicates
are functions on the records of the table, names are those of its fields. -/
structure Resolves (t : Table) (r : Request) : Prop where
  conditions : ∀ c ∈ r.filters, ∃ e, c.compile t = .ok e
  predicates : ∀ q ∈ r.predicates, ∃ accepts, q = .own accepts
  sort : ∀ spec ∈ r.sort, ∃ found, t.resolve spec.field = .ok found
  select : ∀ name ∈ r.select, ∃ found, t.resolve name = .ok found

/-- The same request but for the order in which its conditions and predicates
stand and how often each of them does. -/
structure Rearranges (r r' : Request) : Prop where
  conditions : ∀ c, c ∈ r'.filters ↔ c ∈ r.filters
  predicates : ∀ q, q ∈ r'.predicates ↔ q ∈ r.predicates
  sort : r'.sort = r.sort
  select : r'.select = r.select
  page : r'.page = r.page
  pageSize : r'.pageSize = r.pageSize
  count : r'.count = r.count

end Request

/-! ## Failures -/

open Request

theorem Predicate.resolve_eq_ok {q : Predicate} {accepts : Record → Bool} :
    q.resolve t = .ok accepts ↔ q = .own accepts := by
  cases q <;> simp [resolve]

/-- A sort has only the name of its field to be wrong. -/
theorem SortSpec.error?_resolve (t : Table) (spec : SortSpec) :
    Outcome.error? (spec.resolve t) = Outcome.error? (t.resolve spec.field) := by
  unfold resolve
  split
  · next h => rw [h]; rfl
  · next h => rw [h]; rfl

/-- What has been selected so far does not make a name wrong, not even the same name. -/
theorem Projection.error?_add (t : Table) (selected : List Field) (name : String) :
    Outcome.error? (add t selected name) = (Part.selected name).error? t := by
  unfold add
  rw [Part.error?]
  split
  · next h => rw [h]; rfl
  · next h => rw [h]; rfl

/-- The error of a selection is that of its first name that has one. -/
theorem Projection.error?_resolve (t : Table) (names : List String) :
    Outcome.error? (resolve t names) =
      names.findSome? fun name => (Part.selected name).error? t := by
  rw [resolve, Outcome.error?_map, Outcome.error?_foldlM (error?_add t)]

namespace Plan

theorem error?_compileSort (t : Table) (spec? : Option SortSpec) :
    Outcome.error? (compileSort t spec?) =
      (spec?.toList.map Part.sort).findSome? (·.error? t) := by
  cases spec? with
  | none => rfl
  | some spec =>
      rw [compileSort, Outcome.error?_map, Option.toList_some, List.map_singleton,
        List.findSome?_singleton, Part.error?]

theorem error?_compileSelect (t : Table) (names : List String) :
    Outcome.error? (compileSelect t names) =
      (names.map Part.selected).findSome? (·.error? t) := by
  rw [compileSelect, List.findSome?_map]
  split
  · next hempty => rw [List.isEmpty_iff.mp hempty]; rfl
  · rw [Outcome.error?_map, Projection.error?_resolve]; rfl

/-- **The error of a request is that of its first part that has one.** -/
theorem error?_compile (t : Table) (r : Request) (o : Options) :
    Outcome.error? (compile t r o) = r.parts.findSome? (·.error? t) := by
  have hconditions : Outcome.error? (r.filters.mapM (Condition.compile t)) =
      (r.filters.map Part.condition).findSome? (·.error? t) := by
    rw [Outcome.error?_mapM, List.findSome?_map]
    rfl
  have hpredicates : Outcome.error? (r.predicates.mapM (Predicate.resolve t)) =
      (r.predicates.map Part.predicate).findSome? (·.error? t) := by
    rw [Outcome.error?_mapM, List.findSome?_map]
    rfl
  rw [parts, List.findSome?_append, List.findSome?_append, List.findSome?_append, Option.or_assoc,
    Option.or_assoc, ← hconditions, ← hpredicates, ← error?_compileSort, ← error?_compileSelect]
  -- A stage fails in one way whatever the stages before it gave.
  exact Outcome.error?_bind fun conditions => Outcome.error?_bind fun predicates =>
    Outcome.error?_bind fun sort => Outcome.error?_bind_pure _ _

end Plan

/-- A request resolves when none of its parts is wrong. -/
theorem Request.resolves_iff : r.Resolves t ↔ ∀ part ∈ r.parts, part.error? t = none := by
  have hpredicate : ∀ q : Predicate,
      Outcome.error? (q.resolve t) = none ↔ ∃ accepts, q = .own accepts := fun q => by
    simp only [Outcome.error?_eq_none, Predicate.resolve_eq_ok]
  simp only [parts, List.forall_mem_append, List.forall_mem_map, Part.error?, hpredicate,
    SortSpec.error?_resolve, Outcome.error?_eq_none, Option.mem_toList]
  constructor
  · rintro ⟨hconditions, hpredicates, hsort, hselect⟩
    exact ⟨⟨⟨hconditions, hpredicates⟩, hsort⟩, hselect⟩
  · rintro ⟨⟨⟨hconditions, hpredicates⟩, hsort⟩, hselect⟩
    exact ⟨hconditions, hpredicates, hsort, hselect⟩

/-- A request compiles when every part of it does. -/
theorem Plan.exists_compile_iff : (∃ p, compile t r o = .ok p) ↔ r.Resolves t := by
  rw [← Outcome.error?_eq_none, error?_compile, List.findSome?_eq_none_iff, resolves_iff]

/-- Only the parts of a request can be wrong, not what it asks of the page. -/
theorem Request.run_eq_error (records : List Record) {e : QueryError} :
    r.run t o records = .error e ↔ r.parts.findSome? (·.error? t) = some e := by
  rw [← Plan.error?_compile t r o, run, ← Outcome.error?_map _ fun p : Plan => p.run t records,
    Outcome.error?_eq_some]

/-! ## Rearranged requests -/

namespace Request.Rearranges

theorem symm (h : r.Rearranges r') : r'.Rearranges r :=
  ⟨fun c => (h.conditions c).symm, fun q => (h.predicates q).symm, h.sort.symm,
    h.select.symm, h.page.symm, h.pageSize.symm, h.count.symm⟩

/-- What a request needs to resolve does not depend on the order of its conditions. -/
theorem resolves (h : r.Rearranges r') (hr : r.Resolves t) : r'.Resolves t where
  conditions c hc := hr.conditions c ((h.conditions c).mp hc)
  predicates q hq := hr.predicates q ((h.predicates q).mp hq)
  sort spec hspec := hr.sort spec (h.sort ▸ hspec)
  select name hname := hr.select name (h.select ▸ hname)

/-- A record is kept when it passes every test, whichever comes first. -/
theorem keeps_eq (h : r.Rearranges r') : r'.keeps t = r.keeps t := by
  funext record
  rw [Bool.eq_iff_iff]
  simp only [Request.keeps, Bool.and_eq_true, List.all_eq_true, h.conditions, h.predicates]

/-- The plans of both requests find the same, since they keep, sort and shape alike. -/
theorem found_eq (h : r.Rearranges r') {p p' : Plan} (hp : Plan.compile t r o = .ok p)
    (hp' : Plan.compile t r' o = .ok p') (records : List Record) :
    p'.found t records = p.found t records := by
  have hkept : r'.kept t records = r.kept t records := by
    rw [kept, kept, h.keeps_eq]
  have hsort : p'.sort = p.sort := by
    have hsame := Plan.sort_of_compile hp'
    rw [h.sort, Plan.sort_of_compile hp] at hsame
    exact (Except.ok.inj hsame).symm
  have hprojection : p'.projection = p.projection := by
    have hsame := Plan.projection_of_compile hp'
    rw [h.select, Plan.projection_of_compile hp] at hsame
    exact (Except.ok.inj hsame).symm
  have hshape : p'.shape t = p.shape t := by
    funext record
    rw [Plan.shape, Plan.shape, hprojection]
  rw [Plan.found, Plan.found, Plan.sorted_of_compile hp', Plan.sorted_of_compile hp, hkept, hsort,
    hshape]

/-- Both requests have a plan if one of them has, and the plans answer alike. -/
theorem run_eq_ok (h : r.Rearranges r') (o : Options) {records : List Record}
    {response : Response Record} (hrun : r.run t o records = .ok response) :
    r'.run t o records = .ok response := by
  obtain ⟨p, hp, rfl⟩ := Outcome.map_eq_ok.mp hrun
  obtain ⟨p', hp'⟩ : ∃ p', Plan.compile t r' o = .ok p' :=
    Plan.exists_compile_iff.mpr (h.resolves (Plan.exists_compile_iff.mp ⟨p, hp⟩))
  refine Outcome.map_eq_ok.mpr ⟨p', hp', ?_⟩
  have hpage : p'.page = p.page := by
    rw [Plan.page_of_compile hp', Plan.page_of_compile hp, h.page, h.pageSize]
  have hcount : p'.count = p.count := by
    rw [Plan.count_of_compile hp', Plan.count_of_compile hp, h.count]
  rw [Plan.run_eq_ofPage, Plan.run_eq_ofPage, h.found_eq hp hp', hpage, hcount]

end Request.Rearranges

/-! ## Compilation -/

theorem Predicate.holds_iff {q : Predicate} {record : Record} :
    q.holds t record ↔ ∃ accepts, q = .own accepts ∧ accepts record := by
  cases q <;> simp [holds, resolve]

namespace Plan

/-- **A request compiles part by part.**  It has a plan exactly when each part
compiles; otherwise the first part that does not gives the error, on every page,
under all options and for all records.  The plan accepts a record when every
condition, compiled by itself, and every predicate does, and so asking for tests
in another order or more often gives the same answers. -/
theorem compile_compositional (t : Table) (r : Request) (o : Options) :
    ((∃ p, compile t r o = .ok p) ↔ r.Resolves t) ∧
    (∀ e, compile t r o = .error e ↔ r.parts.findSome? (·.error? t) = some e) ∧
    (∀ e page pageSize count o' records,
      Request.run { r with page, pageSize, count } t o' records = .error e ↔
        compile t r o = .error e) ∧
    (∀ p, compile t r o = .ok p → ∀ record, p.accepts t record ↔
      (∀ c ∈ r.filters, ∃ e, c.compile t = .ok e ∧ e.accepts t record) ∧
        ∀ q ∈ r.predicates, ∃ accepts, q = .own accepts ∧ accepts record) ∧
    ∀ r', r.Rearranges r' → ∀ records response,
      r'.run t o records = .ok response ↔ r.run t o records = .ok response := by
  have herror : ∀ e, compile t r o = .error e ↔ r.parts.findSome? (·.error? t) = some e := by
    intro e
    rw [← error?_compile t r o, Outcome.error?_eq_some]
  refine ⟨exists_compile_iff, herror, ?_, ?_, ?_⟩
  · intro e page pageSize count o' records
    rw [herror]
    exact Request.run_eq_error records
  · intro p hp record
    simp only [accepts_eq_keeps hp, Request.keeps, Bool.and_eq_true, List.all_eq_true,
      Condition.holds_iff, Predicate.holds_iff]
  · intro r' h records response
    exact ⟨h.symm.run_eq_ok o, h.run_eq_ok o⟩

/-- A request that is wrong in three parts: a ticket's priority is no text, a predicate is
for another record type, and there is no field of one name. -/
def wronglyContained : Request where
  filters := [⟨"owner", .notEquals, .null⟩, ⟨"PRIORITY", .contains, .string "urgent"⟩]
  predicates := [.foreign "Reading"]
  sort := some ⟨"rank", .ascending⟩

open Samples.Tickets in
/-- Tickets asked for with the same conditions backwards and once more; and a request that
fails for the first of its wrong parts on every page, and so does not resolve. -/
theorem compile_compositional_secondByOwner :
    (∃ p response, compile table secondByOwner {} = .ok p ∧
      (∀ record ∈ records.drop 1, ∀ c ∈ secondByOwner.filters,
        ∃ e, c.compile table = .ok e ∧ e.accepts table record) ∧
      Request.run { secondByOwner with
        filters := secondByOwner.filters.reverse ++ secondByOwner.filters } table {} records =
          .ok response ∧
      response.totalCount = some 2) ∧
    ¬ wronglyContained.Resolves table ∧
      ∀ page pageSize count o records,
        Request.run { wronglyContained with page, pageSize, count } table o records =
          .error (.unsupportedOperator .contains ⟨"priority", .plain (.enum priorities), 2⟩) := by
  constructor
  · obtain ⟨-, -, -, haccepts, hrearranged⟩ := compile_compositional table secondByOwner {}
    refine ⟨_, _, rfl, fun record hrecord => ((haccepts _ rfl record).mp ?_).1,
      (hrearranged _ ?_ records _).mpr rfl, rfl⟩
    · revert record
      exact List.all_eq_true.mp rfl
    · exact ⟨by simp, fun q => Iff.rfl, rfl, rfl, rfl, rfl, rfl⟩
  · obtain ⟨hresolves, herror, heverywhere, -, -⟩ :=
      compile_compositional table wronglyContained {}
    have hfails : compile table wronglyContained {} =
        .error (.unsupportedOperator .contains ⟨"priority", .plain (.enum priorities), 2⟩) :=
      (herror _).mpr rfl
    refine ⟨fun hall => ?_, fun page pageSize count o records =>
      (heverywhere _ page pageSize count o records).mpr hfails⟩
    obtain ⟨p, hp⟩ := hresolves.mpr hall
    rw [hfails] at hp
    cases hp

end Plan

end RecordQuery
