import RecordQuery.Plan
import RecordQuery.Proofs.Outcome

/-!
# Compiled requests

A plan is put together from parts that are compiled one by one, and it exists
exactly when all of them do (`Plan.compile_eq_ok`).  Its filter is one tree nested
to the left; what it accepts is what every condition of the request accepts when
it is compiled alone (`Plan.accepts_eq_keeps`).  That is how the other modules
speak about a request without its plan: `Request.keeps` never mentions the tree.
-/

namespace RecordQuery

variable {t : Table} {r : Request} {o : Options} {p : Plan}

/-- The position that a name is resolved to is the field's own. -/
theorem Table.getElem?_of_resolve {name : String} {f : Field} {i : Nat}
    (h : t.resolve name = .ok (f, i)) : t.fields[i]? = some f := by
  unfold resolve find? at h
  split at h
  · next found hfound =>
      split at hfound
      · next hcandidates =>
          cases h
          cases hfound
          have hmem : (f, i) ∈ t.candidates name := by simp [hcandidates]
          exact List.mem_zipIdx_iff_getElem?.mp (List.mem_filter.mp hmem).1
      · cases hfound
  · cases h

namespace Condition

/-- The condition has an expression over the table. -/
def Compiles (t : Table) (c : Condition) : Prop :=
  ∃ e, c.compile t = .ok e

/-- A condition on a field of the table compiles to what its operator makes of the
field. -/
theorem compile_of_resolve {name : String} {f : Field} {i : Nat}
    (h : t.resolve name = .ok (f, i)) (op : Operator) (value : Literal) :
    compile t ⟨name, op, value⟩ = compileOn f i op value := by
  rw [compile, h]

/-- The record satisfies the condition, compiled by itself. -/
def holds (t : Table) (c : Condition) (record : Record) : Bool :=
  match c.compile t with
  | .ok e => e.accepts t record
  | .error _ => false

theorem holds_of_compile {c : Condition} {e : Expr} (h : c.compile t = .ok e)
    (record : Record) : c.holds t record = e.accepts t record := by
  rw [holds, h]

/-- A condition that does not compile holds of no record. -/
theorem holds_iff {c : Condition} {record : Record} :
    c.holds t record ↔ ∃ e, c.compile t = .ok e ∧ e.accepts t record := by
  unfold holds
  split
  · next e he => simp [he]
  · next e he => simp [he]

end Condition

namespace Predicate

/-- The record satisfies the predicate, which was built for its type. -/
def holds (t : Table) (q : Predicate) (record : Record) : Bool :=
  match q.resolve t with
  | .ok accepts => accepts record
  | .error _ => false

theorem holds_of_resolve {q : Predicate} {accepts : Record → Bool}
    (h : q.resolve t = .ok accepts) (record : Record) :
    q.holds t record = accepts record := by
  rw [holds, h]

end Predicate

/-- The record satisfies all conditions and all predicates. -/
def Request.keeps (t : Table) (r : Request) (record : Record) : Bool :=
  r.filters.all (·.holds t record) && r.predicates.all (·.holds t record)

/-! ## Conjunctions -/

namespace Expr

/-- A chain of conjunctions nested to the left accepts what all its members accept. -/
theorem accepts_foldl_and (t : Table) (record : Record) (e : Expr) (rest : List Expr) :
    (rest.foldl and e).accepts t record =
      (e.accepts t record && rest.all (·.accepts t record)) := by
  induction rest generalizing e with
  | nil => simp
  | cons e' rest ih => rw [List.foldl_cons, ih, accepts, List.all_cons, Bool.and_assoc]

/-- The conjunction of no expressions is none at all and counts as true. -/
theorem accepts_conjunction (t : Table) (record : Record) (es : List Expr) :
    (conjunction es).all (·.accepts t record) = es.all (·.accepts t record) := by
  cases es with
  | nil => rfl
  | cons e rest => exact accepts_foldl_and t record e rest

end Expr

/-! ## Plans -/

/-- A key is made of the field that the name is resolved to. -/
theorem SortSpec.resolve_eq_ok {spec : SortSpec} {key : SortKey} :
    spec.resolve t = .ok key ↔
      ∃ f i, t.resolve spec.field = .ok (f, i) ∧ key = ⟨f, spec.direction⟩ := by
  unfold resolve
  split
  · next f i h => simp [h, eq_comm]
  · next e h => simp [h]

namespace Plan

/-- **A request compiles exactly when each of its parts does**, and its plan is
made of the results. -/
theorem compile_eq_ok :
    compile t r o = .ok p ↔ ∃ conditions predicates sort projection,
      r.filters.mapM (Condition.compile t) = .ok conditions ∧
      r.predicates.mapM (Predicate.resolve t) = .ok predicates ∧
      compileSort t r.sort = .ok sort ∧
      compileSelect t r.select = .ok projection ∧
      p = { filter := Expr.conjunction conditions
            predicates
            sort
            projection
            page := Page.resolve r.page r.pageSize o
            count := r.count } := by
  simp only [compile, Outcome.bind_eq_ok]
  constructor
  · rintro ⟨conditions, hconditions, predicates, hpredicates, sort, hsort, projection,
      hprojection, h⟩
    cases h
    exact ⟨conditions, predicates, sort, projection, hconditions, hpredicates, hsort,
      hprojection, rfl⟩
  · rintro ⟨conditions, predicates, sort, projection, hconditions, hpredicates, hsort,
      hprojection, rfl⟩
    exact ⟨conditions, hconditions, predicates, hpredicates, sort, hsort, projection,
      hprojection, rfl⟩

/-- No sort compiles to none; a sort compiles to the key of its field. -/
theorem compileSort_eq_ok {spec? : Option SortSpec} {sort : Option SortKey} :
    compileSort t spec? = .ok sort ↔ (spec? = none ∧ sort = none) ∨
      ∃ spec key, spec? = some spec ∧ spec.resolve t = .ok key ∧ sort = some key := by
  cases spec? with
  | none => simp [compileSort, eq_comm]
  | some spec =>
      rw [compileSort, Outcome.map_eq_ok]
      simp [eq_comm (a := sort)]

/-- The page of a plan is resolved from the request and the options alone. -/
theorem page_of_compile (h : compile t r o = .ok p) :
    p.page = Page.resolve r.page r.pageSize o := by
  obtain ⟨_, _, _, _, -, -, -, -, rfl⟩ := compile_eq_ok.mp h
  rfl

theorem count_of_compile (h : compile t r o = .ok p) : p.count = r.count := by
  obtain ⟨_, _, _, _, -, -, -, -, rfl⟩ := compile_eq_ok.mp h
  rfl

theorem sort_of_compile (h : compile t r o = .ok p) :
    compileSort t r.sort = .ok p.sort := by
  obtain ⟨_, _, _, _, -, -, hsort, -, rfl⟩ := compile_eq_ok.mp h
  exact hsort

/-- The plan sorts by a field of the table. -/
theorem sortField_mem (h : compile t r o = .ok p) {key : SortKey} (hkey : p.sort = some key) :
    key.field ∈ t.fields := by
  rcases compileSort_eq_ok.mp (sort_of_compile h) with ⟨-, hnone⟩ | ⟨spec, key', -, hspec, hsome⟩
  · rw [hkey] at hnone
    cases hnone
  · rw [hkey] at hsome
    cases hsome
    obtain ⟨f, i, hresolve, rfl⟩ := SortSpec.resolve_eq_ok.mp hspec
    exact List.mem_of_getElem? (Table.getElem?_of_resolve hresolve)

theorem projection_of_compile (h : compile t r o = .ok p) :
    compileSelect t r.select = .ok p.projection := by
  obtain ⟨_, _, _, _, -, -, -, hprojection, rfl⟩ := compile_eq_ok.mp h
  exact hprojection

theorem accepts_eq_all (t : Table) (p : Plan) (record : Record) :
    p.accepts t record =
      (p.filter.all (·.accepts t record) && p.predicates.all fun accepts => accepts record) := by
  rw [accepts]
  cases p.filter <;> rfl

/-- **A plan accepts what its request asks for**: the records that satisfy every
condition, each compiled by itself, and every predicate. -/
theorem accepts_eq_keeps (h : compile t r o = .ok p) (record : Record) :
    p.accepts t record = r.keeps t record := by
  obtain ⟨conditions, predicates, _, _, hconditions, hpredicates, -, -, rfl⟩ :=
    compile_eq_ok.mp h
  have hfilters : r.filters.all (·.holds t record) = conditions.all (·.accepts t record) :=
    Outcome.all_eq_all_of_forall₂ ((Outcome.mapM_eq_ok.mp hconditions).imp
      fun _ _ hc => Condition.holds_of_compile hc record)
  have hown : r.predicates.all (·.holds t record) =
      predicates.all fun accepts => accepts record :=
    Outcome.all_eq_all_of_forall₂ ((Outcome.mapM_eq_ok.mp hpredicates).imp
      fun _ _ hq => Predicate.holds_of_resolve hq record)
  rw [accepts_eq_all, Request.keeps, hfilters, hown, Expr.accepts_conjunction]

end Plan

end RecordQuery
