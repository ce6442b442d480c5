import RecordQuery.Value

/-!
# Order of Values

Three relations of values. Equality and the sorting order give null a place; the order of
range tests does not. Values of different kinds are in no relation.

## Main Definitions

* `Value.equal` — equality, where null equals null alone
* `Value.order?` — the sorting order: null first, lists item by item
* `Value.rangeOrder?` — the order of range tests
-/

namespace RecordQuery

/-- The order of texts by code point. -/
def textOrder (s t : String) : Ordering :=
  compareOfLessAndEq s t

/-- The order of truth values: false first. -/
def boolOrder : Bool → Bool → Ordering
  | false, true => .lt
  | true, false => .gt
  | _, _ => .eq

namespace Value

mutual

/-- Equality: null equals null alone, and numbers are compared across their kinds. -/
def equal : Value → Value → Bool
  | null, null => true
  | number a, number b => a.order? b == some .eq
  | string a, string b => a == b
  | timestamp a, timestamp b => a == b
  | enum a, enum b => a == b
  | bool a, bool b => a == b
  | list a, list b => equalLists a b
  | _, _ => false

/-- Equality of lists: of the same length, with equal items in order. -/
def equalLists : List Value → List Value → Bool
  | [], [] => true
  | a :: as, b :: bs => a.equal b && equalLists as bs
  | _, _ => false

end

mutual

/-- The sorting order: null before all else, lists by their first unequal items. There is
none between different kinds, and none as soon as a NaN decides. -/
def order? : Value → Value → Option Ordering
  | string a, string b => some (textOrder a b)
  | number a, number b => a.order? b
  | timestamp a, timestamp b => some (a.order b)
  | enum a, enum b => some (compare a.toNat b.toNat)
  | bool a, bool b => some (boolOrder a b)
  | list a, list b => orderLists? a b
  | null, null => some .eq
  | null, _ => some .lt
  | _, null => some .gt
  | _, _ => none

/-- The sorting order of lists: a list comes before its extensions. -/
def orderLists? : List Value → List Value → Option Ordering
  | [], [] => some .eq
  | [], _ :: _ => some .lt
  | _ :: _, [] => some .gt
  | a :: as, b :: bs =>
    match a.order? b with
    | some .eq => orderLists? as bs
    | o => o

end

/-- The order of range tests, in which neither null nor truth values nor lists have a
place. -/
def rangeOrder? : Value → Value → Option Ordering
  | number a, number b => a.order? b
  | string a, string b => some (textOrder a b)
  | timestamp a, timestamp b => some (a.order b)
  | enum a, enum b => some (compare a.toNat b.toNat)
  | _, _ => none

end Value

end RecordQuery
