import RecordQuery.Text.Ascii
import RecordQuery.Text.Blank

/-!
# Operators and Directions

The fixed sets of tests a condition can ask for and of sort directions, and the names by
which requests refer to them. A name is read without regard to ASCII case and to blanks
around it.

## Main Definitions

* `Operator` — the twelve tests
* `Direction` — ascending and descending
* `NameError` — a name or number that stands for none of them
* `Operator.parse`, `Direction.parse` — reading a name
* `Operator.ofOrdinal`, `Direction.ofOrdinal` — reading a number
-/

namespace RecordQuery

/-- A text or number that names no operator or no sort direction. -/
inductive NameError
  | operator (name : String)
  | direction (name : String)
  deriving DecidableEq

/-- The wording of the error. -/
def NameError.message : NameError → String
  | operator name => "unknown operator '" ++ name ++ "'"
  | direction name => "unknown sort direction '" ++ name ++ "'"

/-- A test that a condition can ask for. -/
inductive Operator
  | equals
  | notEquals
  | greaterThan
  | lessThan
  | greaterThanOrEqual
  | lessThanOrEqual
  | startsWith
  | endsWith
  | contains
  | notContains
  | isIn
  | notIn
  deriving DecidableEq

namespace Operator

/-- The operators in the order of their numbers. -/
def all : List Operator :=
  [equals, notEquals, greaterThan, lessThan, greaterThanOrEqual, lessThanOrEqual,
    startsWith, endsWith, contains, notContains, isIn, notIn]

/-- The four range tests. -/
def isOrdering : Operator → Bool
  | greaterThan | lessThan | greaterThanOrEqual | lessThanOrEqual => true
  | _ => false

/-- The name that is written. -/
def name : Operator → String
  | equals => "Equals"
  | notEquals => "NotEquals"
  | greaterThan => "GreaterThan"
  | lessThan => "LessThan"
  | greaterThanOrEqual => "GreaterThanOrEqual"
  | lessThanOrEqual => "LessThanOrEqual"
  | startsWith => "StartsWith"
  | endsWith => "EndsWith"
  | contains => "Contains"
  | notContains => "NotContains"
  | isIn => "In"
  | notIn => "NotIn"

/-- The short name, which is also read. -/
def shortName : Operator → String
  | equals => "eq"
  | notEquals => "ne"
  | greaterThan => "gt"
  | lessThan => "lt"
  | greaterThanOrEqual => "gte"
  | lessThanOrEqual => "lte"
  | startsWith => "startswith"
  | endsWith => "endswith"
  | contains => "contains"
  | notContains => "notcontains"
  | isIn => "in"
  | notIn => "notin"

/-- The operator of a name or short name. -/
def parse (text : String) : Except NameError Operator :=
  let name := String.ofList (Text.trim text.toList)
  match all.find? fun op =>
    Text.Ascii.sameFolded op.name name || Text.Ascii.sameFolded op.shortName name with
  | some op => .ok op
  | none => .error (.operator name)

/-- The operator of a number. -/
def ofOrdinal (n : Nat) : Except NameError Operator :=
  match all[n]? with
  | some op => .ok op
  | none => .error (.operator (toString n))

end Operator

/-- A sort direction. -/
inductive Direction
  | ascending
  | descending
  deriving DecidableEq

namespace Direction

/-- Smallest first. -/
def isAscending : Direction → Bool
  | ascending => true
  | descending => false

/-- The name that is written. -/
def name : Direction → String
  | ascending => "Ascending"
  | descending => "Descending"

/-- An ordering seen in a direction. -/
def apply : Direction → Ordering → Ordering
  | ascending, o => o
  | descending, o => o.swap

/-- The direction of a name, which may be cut short. -/
def parse (text : String) : Except NameError Direction :=
  let name := String.ofList (Text.trim text.toList)
  let isNamed := Text.Ascii.sameFolded name
  if isNamed "ascending" || isNamed "asc" then .ok ascending
  else if isNamed "descending" || isNamed "desc" then .ok descending
  else .error (.direction name)

/-- The direction of a number. -/
def ofOrdinal : Nat → Except NameError Direction
  | 0 => .ok ascending
  | 1 => .ok descending
  | n => .error (.direction (toString n))

end Direction

end RecordQuery
