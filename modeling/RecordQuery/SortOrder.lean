import RecordQuery.Compilation

/-!
# Sorting

Records are sorted by one field in one direction. The sort is stable: each record is moved
back past the records that it must come before, and no further.

A sort owes this to an order that is a total preorder on the records, and then there is only
one list that it can give. Records with a NaN in the sequence they are sorted by have no such
order. What a sort makes of them is not determined: it may leave them in any order, and it may
fail. `stableSort` gives a list there as well, namely what insertion makes of a short one, but
every theorem on the order of sorted records asks for a total preorder.

## Main Definitions

* `SortSpec`, `SortKey` — a sort as requested and as resolved
* `SortKey.compare` — the order of two records
* `stableSort` — sorting by insertion
-/

namespace RecordQuery

/-- A requested sort. -/
structure SortSpec where
  field : String
  direction : Direction
  deriving DecidableEq

/-- A sort by a field of a table. -/
structure SortKey where
  field : Field
  direction : Direction
  deriving DecidableEq

/-- The sort that a request asks for. -/
def SortSpec.resolve (t : Table) (s : SortSpec) : Except QueryError SortKey :=
  match t.resolve s.field with
  | .ok (f, _) => .ok ⟨f, s.direction⟩
  | .error e => .error e

/-- The order by which values are sorted. Two floating-point numbers have the total order of
their bits; other values without an order count as equal. -/
def sortingOrder (a b : Value) : Ordering :=
  match a, b with
  | .number (.float x), .number (.float y) => x.totalOrder y
  | a, b => (a.order? b).getD .eq

namespace SortKey

/-- The order of two records. -/
def compare (k : SortKey) (a b : Record) : Ordering :=
  k.direction.apply (sortingOrder (a.read k.field.slot) (b.read k.field.slot))

/-- The written form of the key. -/
def describe (k : SortKey) : String :=
  "SortKey \x7b field: " ++ Text.quote k.field.name ++ ", direction: " ++ k.direction.name ++
    " \x7d"

end SortKey

/-- Insert an item into a list that is sorted from the last to the first, behind the items
that it must come before. -/
def insertBack {α : Type} (order : α → α → Ordering) (x : α) : List α → List α
  | [] => [x]
  | y :: rest => if order x y = .lt then y :: insertBack order x rest else x :: y :: rest

/-- The items in order; items that compare as equal keep their places. This takes an order
that is a total preorder on the items; of a list that was sorted by any other order nothing is
said but that it has the same items. -/
def stableSort {α : Type} (order : α → α → Ordering) (xs : List α) : List α :=
  (xs.foldl (fun sorted x => insertBack order x sorted) []).reverse

end RecordQuery
