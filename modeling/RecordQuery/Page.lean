/-!
# Pages

A page is a window of a list: its number, counted from 1, and its size, which is at least 1.
Requested numbers that are missing or not positive give way to the options.

## Main Definitions

* `Options` — defaults and the greatest size
* `Page` — a resolved page
* `Page.resolve` — the page that a request asks for
* `Page.window` — the items on a page
-/

namespace RecordQuery

/-- The defaults and limits of paging. -/
structure Options where
  defaultPage : UInt64 := 1
  defaultPageSize : UInt64 := 10
  maxPageSize : Option UInt64 := none
  deriving DecidableEq

namespace Options

/-- The options with another default page, at least 1. -/
def withDefaultPage (o : Options) (page : UInt64) : Options :=
  { o with defaultPage := max page 1 }

/-- The options with another default size, at least 1. -/
def withDefaultPageSize (o : Options) (size : UInt64) : Options :=
  { o with defaultPageSize := max size 1 }

/-- The options with a greatest size, at least 1. -/
def withMaxPageSize (o : Options) (size : UInt64) : Options :=
  { o with maxPageSize := some (max size 1) }

end Options

/-- A page by its number and its size. -/
structure Page where
  number : UInt64
  size : UInt64
  number_pos : 0 < number.toNat
  size_pos : 0 < size.toNat
  deriving DecidableEq

namespace Page

/-- A requested number, if it is positive. -/
def positive? : Option Int64 → Option UInt64
  | some n => if 0 < n.toInt then some (.ofNat n.toInt.toNat) else none
  | none => none

/-- A number, or 1 instead of 0. -/
def atLeastOne (n : UInt64) : UInt64 :=
  if n = 0 then 1 else n

theorem atLeastOne_pos (n : UInt64) : 0 < (atLeastOne n).toNat := by
  unfold atLeastOne
  split
  · decide
  · next h => exact Nat.pos_of_ne_zero fun h' => h (UInt64.toNat_inj.1 h')

/-- A size, or the limit if there is a smaller one. -/
def limited (max : Option UInt64) (size : UInt64) : UInt64 :=
  match max with
  | some m => if (atLeastOne m).toNat < size.toNat then atLeastOne m else size
  | none => size

theorem limited_pos (max : Option UInt64) {size : UInt64} (h : 0 < size.toNat) :
    0 < (limited max size).toNat := by
  unfold limited
  split
  · split
    · exact atLeastOne_pos _
    · exact h
  · exact h

/-- The page that a request asks for under some options. -/
def resolve (number size : Option Int64) (o : Options) : Page where
  number := atLeastOne ((positive? number).getD o.defaultPage)
  size := limited o.maxPageSize (atLeastOne ((positive? size).getD o.defaultPageSize))
  number_pos := atLeastOne_pos _
  size_pos := limited_pos _ (atLeastOne_pos _)

/-- The page of a request that names none, without options. -/
def first : Page :=
  resolve none none {}

/-- The number of items before the page, as far as 64 bits can tell. -/
def skip (p : Page) : Nat :=
  min ((p.number.toNat - 1) * p.size.toNat) (UInt64.size - 1)

/-- The items on the page. -/
def window {α : Type} (p : Page) (items : List α) : List α :=
  (items.drop p.skip).take p.size.toNat

/-- The written form of the page. -/
def describe (p : Page) : String :=
  "PageSpec \x7b page: " ++ toString p.number.toNat ++ ", page_size: " ++
    toString p.size.toNat ++ " \x7d"

end Page

end RecordQuery
