import RecordQuery.Condition
import RecordQuery.Page
import RecordQuery.SortOrder

/-!
# Requests

What a client asks for: conditions and predicates that all have to hold, a sort, a selection
of fields, a page and a count. A request is plain data that is built up step by step and
knows nothing of the table it will be applied to.

## Main Definitions

* `Predicate` — a test given as a function, for one type of record
* `Request` — the parts of a request
* `Request.filter` and its relatives — building a request
-/

namespace RecordQuery

/-- A test given as a function. One that was built for another type of record is known by
the name of that type. -/
inductive Predicate
  | own (accepts : Record → Bool)
  | foreign (recordName : String)

/-- The parts of a request. -/
structure Request where
  filters : List Condition := []
  predicates : List Predicate := []
  sort : Option SortSpec := none
  /-- The names of the fields to keep; none of them means all fields. -/
  select : List String := []
  page : Option Int64 := none
  pageSize : Option Int64 := none
  count : Bool := false

namespace Request

/-- The request with one more condition. -/
def filter (r : Request) (field : String) (op : Operator) (value : Literal) : Request :=
  { r with filters := r.filters ++ [⟨field, op, value⟩] }

/-- The request with one more condition: equality. -/
def whereEq (r : Request) (field : String) (value : Literal) : Request :=
  r.filter field .equals value

/-- The request with one more condition: inequality. -/
def whereNe (r : Request) (field : String) (value : Literal) : Request :=
  r.filter field .notEquals value

/-- The request with one more condition: greater than. -/
def whereGt (r : Request) (field : String) (value : Literal) : Request :=
  r.filter field .greaterThan value

/-- The request with one more condition: at least. -/
def whereGe (r : Request) (field : String) (value : Literal) : Request :=
  r.filter field .greaterThanOrEqual value

/-- The request with one more condition: less than. -/
def whereLt (r : Request) (field : String) (value : Literal) : Request :=
  r.filter field .lessThan value

/-- The request with one more condition: at most. -/
def whereLe (r : Request) (field : String) (value : Literal) : Request :=
  r.filter field .lessThanOrEqual value

/-- The request with one more condition: a text that contains another. -/
def whereContains (r : Request) (field pattern : String) : Request :=
  r.filter field .contains (.string pattern)

/-- The request with one more condition: a text that does not contain another. -/
def whereNotContains (r : Request) (field pattern : String) : Request :=
  r.filter field .notContains (.string pattern)

/-- The request with one more condition: a text that begins with another. -/
def whereStartsWith (r : Request) (field pattern : String) : Request :=
  r.filter field .startsWith (.string pattern)

/-- The request with one more condition: a text that ends in another. -/
def whereEndsWith (r : Request) (field pattern : String) : Request :=
  r.filter field .endsWith (.string pattern)

/-- The request with one more condition: membership in a list. -/
def whereIn (r : Request) (field : String) (values : List Literal) : Request :=
  r.filter field .isIn (.array values)

/-- The request with one more condition: no membership in a list. -/
def whereNotIn (r : Request) (field : String) (values : List Literal) : Request :=
  r.filter field .notIn (.array values)

/-- The request with one more predicate. -/
def withPredicate (r : Request) (p : Predicate) : Request :=
  { r with predicates := r.predicates ++ [p] }

/-- The request with a sort in place of any other. -/
def sortBy (r : Request) (field : String) (direction : Direction) : Request :=
  { r with sort := some ⟨field, direction⟩ }

/-- The request with more fields to keep. -/
def selecting (r : Request) (names : List String) : Request :=
  { r with select := r.select ++ names }

/-- The request for another page. -/
def onPage (r : Request) (page : Int64) : Request :=
  { r with page := some page }

/-- The request for pages of another size. -/
def withPageSize (r : Request) (size : Int64) : Request :=
  { r with pageSize := some size }

/-- The request for the total count besides. -/
def withCount (r : Request) : Request :=
  { r with count := true }

end Request

end RecordQuery
