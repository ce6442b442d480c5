import RecordQuery.Page

/-!
# Responses

One page of results with the numbers that a client needs to ask for the others.

## Main Definitions

* `Response` — the items of a page, its number and size, and the total count
* `Response.pageCount` — the number of pages
* `Response.unpaged` — all items as a single page
-/

namespace RecordQuery

/-- One page of results. The total is known when it was asked for. -/
structure Response (α : Type) where
  data : List α
  page : Nat
  pageSize : Nat
  totalCount : Option Nat

namespace Response

variable {α β : Type}

/-- The response with some items on a page. -/
def ofPage (data : List α) (page : Page) (totalCount : Option Nat) : Response α :=
  ⟨data, page.number.toNat, page.size.toNat, totalCount⟩

/-- All items as a single page, without a count. -/
def unpaged (data : List α) : Response α :=
  ⟨data, 1, data.length, none⟩

/-- The number of pages that hold the total; 0 when it is not known or the pages hold
nothing. -/
def pageCount (r : Response α) : Nat :=
  match r.totalCount with
  | some total => if r.pageSize = 0 then 0 else (total + r.pageSize - 1) / r.pageSize
  | none => 0

/-- The response with every item replaced. -/
def map (f : α → β) (r : Response α) : Response β :=
  ⟨r.data.map f, r.page, r.pageSize, r.totalCount⟩

end Response

end RecordQuery
