import RecordQuery.Projection
import RecordQuery.Request
import RecordQuery.Response

/-!
# Plans

A plan is a request compiled against a table. Everything that can fail has been done when
there is a plan; running it gives a response for every list of records.

## Main Definitions

* `Plan` — a compiled request
* `Plan.compile` — compiling a request; the first part that fails gives the error
* `Plan.accepts` — the records that pass every test
* `Plan.run` — the response for some records
-/

namespace RecordQuery

/-- A request compiled against a table. -/
structure Plan where
  filter : Option Expr
  predicates : List (Record → Bool)
  sort : Option SortKey
  projection : Option Projection
  page : Page
  count : Bool

/-- The function of a predicate that was built for the records of the table. -/
def Predicate.resolve (t : Table) : Predicate → Except QueryError (Record → Bool)
  | own accepts => .ok accepts
  | foreign actual => .error (.foreignPredicate t.recordName actual)

namespace Plan

/-- The sort of a request. -/
def compileSort (t : Table) : Option SortSpec → Except QueryError (Option SortKey)
  | none => .ok none
  | some spec => (spec.resolve t).map some

/-- The projection of a request: none when no field is named. -/
def compileSelect (t : Table) (names : List String) :
    Except QueryError (Option Projection) :=
  if names.isEmpty then .ok none else (Projection.resolve t names).map some

/-- Compile a request: its conditions, then its predicates, its sort and its selection. -/
def compile (t : Table) (r : Request) (o : Options) : Except QueryError Plan := do
  let conditions ← r.filters.mapM (Condition.compile t)
  let predicates ← r.predicates.mapM (Predicate.resolve t)
  let sort ← compileSort t r.sort
  let projection ← compileSelect t r.select
  return {
    filter := Expr.conjunction conditions
    predicates
    sort
    projection
    page := Page.resolve r.page r.pageSize o
    count := r.count }

/-- The record passes the filter and every predicate. -/
def accepts (t : Table) (p : Plan) (r : Record) : Bool :=
  (match p.filter with
    | some e => e.accepts t r
    | none => true) && p.predicates.all fun accepts => accepts r

/-- The records that pass, in the order of the plan. -/
def sorted (t : Table) (p : Plan) (records : List Record) : List Record :=
  let passing := records.filter (p.accepts t)
  match p.sort with
  | some key => stableSort key.compare passing
  | none => passing

/-- A record as the plan shows it. -/
def shape (t : Table) (p : Plan) (r : Record) : Record :=
  match p.projection with
  | some projection => projection.apply t r
  | none => r

/-- Run the plan: filter, sort, count, cut out the page, and shape the records on it. -/
def run (t : Table) (p : Plan) (records : List Record) : Response Record :=
  let sorted := p.sorted t records
  .ofPage ((p.page.window sorted).map (p.shape t)) p.page
    (if p.count then some sorted.length else none)

/-- The written form of a part that may be missing. -/
def optional (text : Option String) : String :=
  match text with
  | some s => "Some(" ++ s ++ ")"
  | none => "None"

/-- The written form of the plan. -/
def describe (p : Plan) : String :=
  let filter := match p.filter with
    | some e => e.describe
    | none => "*"
  "QueryPlan \x7b filter: " ++ Text.quote filter ++
    ", custom: " ++ toString p.predicates.length ++
    ", sort: " ++ optional (p.sort.map SortKey.describe) ++
    ", projection: " ++ optional (p.projection.map Projection.describe) ++
    ", page: " ++ p.page.describe ++
    ", count: " ++ toString p.count ++ " \x7d"

end Plan

namespace Request

/-- Compile the request and run it. -/
def run (r : Request) (t : Table) (o : Options) (records : List Record) :
    Except QueryError (Response Record) :=
  (Plan.compile t r o).map fun p => p.run t records

end Request

end RecordQuery
