import RecordQuery.Json.Writer
import RecordQuery.Value

/-!
# Literals

The right-hand side of a condition as its author wrote it, before it is converted to the
type of a field: a typed value, or a piece of JSON as it came with a request.

## Main Definitions

* `Literal` — loosely typed values
* `Literal.items?` — the items of an array, typed or JSON
* `Literal.text` — the written form
* `Literal.toJson` — the JSON form
-/

namespace RecordQuery

/-- A loosely typed value. -/
inductive Literal
  | null
  | bool (b : Bool)
  | number (n : Number)
  | string (s : String)
  | timestamp (t : Timestamp)
  | array (items : List Literal)
  | json (v : Json)
  deriving Inhabited

/-- The JSON form of a number; a number that JSON lacks is null. -/
def Number.toJson : Number → Json
  | signed n => .integer n.toInt
  | unsigned n => .integer n.toNat
  | float x => if x.isFinite then .float x else .null

namespace Literal

/-- Null, typed or JSON. -/
def isNull : Literal → Bool
  | null | json .null => true
  | _ => false

/-- An array, typed or JSON. -/
def isArray : Literal → Bool
  | array _ | json (.array _) => true
  | _ => false

/-- The items of an array; those of a JSON array are JSON. -/
def items? : Literal → Option (List Literal)
  | array items => some items
  | json (.array items) => some (items.map json)
  | _ => none

mutual

/-- The written form: text is quoted, JSON is compact. -/
def text : Literal → String
  | null => "null"
  | bool b => toString b
  | number n => n.text
  | string s => Text.quote s
  | timestamp t => t.text
  | array items => "[" ++ Value.separated (texts items) ++ "]"
  | json v => v.text

/-- The written forms of an array's items. -/
def texts : List Literal → List String
  | [] => []
  | v :: rest => v.text :: texts rest

end

mutual

/-- The JSON form: a timestamp is its text. -/
def toJson : Literal → Json
  | null => .null
  | bool b => .bool b
  | number n => n.toJson
  | string s => .string s
  | timestamp t => .string t.text
  | array items => .array (itemsToJson items)
  | json v => v

/-- The JSON forms of an array's items. -/
def itemsToJson : List Literal → List Json
  | [] => []
  | v :: rest => v.toJson :: itemsToJson rest

end

end Literal

end RecordQuery
