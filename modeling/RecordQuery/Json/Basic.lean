import RecordQuery.Number.Binary64

/-!
# JSON Values

## Main Definitions

* `Json` — the values, with integers and floating-point numbers apart
* `Json.sorted` — the value with the keys of its objects in order
-/

namespace RecordQuery

/-- A JSON value. The entries of an object are in the order of the text they come from. -/
inductive Json
  | null
  | bool (b : Bool)
  | integer (n : Int)
  | float (x : Binary64)
  | string (s : String)
  | array (items : List Json)
  | object (entries : List (String × Json))
  deriving Inhabited

namespace Json

/-- Put an entry in its place among entries sorted by key; an entry of the same key is
replaced. -/
def insertEntry (key : String) (value : Json) : List (String × Json) → List (String × Json)
  | [] => [(key, value)]
  | (k, v) :: rest =>
    if key < k then (key, value) :: (k, v) :: rest
    else if key = k then (key, value) :: rest
    else (k, v) :: insertEntry key value rest

/-- Entries sorted by key; of several entries of one key the last is kept. -/
def sortEntries (entries : List (String × Json)) : List (String × Json) :=
  entries.foldl (fun sorted e => insertEntry e.1 e.2 sorted) []

mutual

/-- The value with the entries of every object sorted by key. -/
def sorted : Json → Json
  | array items => array (sortedItems items)
  | object entries => object (sortEntries (sortedEntries entries))
  | v => v

/-- `sorted` on each item. -/
def sortedItems : List Json → List Json
  | [] => []
  | v :: rest => v.sorted :: sortedItems rest

/-- `sorted` on the value of each entry. -/
def sortedEntries : List (String × Json) → List (String × Json)
  | [] => []
  | (k, v) :: rest => (k, v.sorted) :: sortedEntries rest

end

/-- The first entry of a key in an object. -/
def get? (key : String) : Json → Option Json
  | object entries => entries.lookup key
  | _ => none

end Json

end RecordQuery
