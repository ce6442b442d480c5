import RecordQuery.Json.Outline
import RecordQuery.Json.Writer
import RecordQuery.Request
import RecordQuery.Response

/-!
# JSON Forms

Requests, options and responses as JSON. A structure is read from an object, where unknown
keys are passed over, or from the list of its parts in order. An object is read entry by
entry, so that the first entry that is wrong gives the error; a missing part is noticed last.

## Main Definitions

* `WireError` — why a JSON value is not read
* `Operator.ofJson`, `Direction.ofJson` — a name or a number
* `Condition.ofJson`, `SortSpec.ofJson`, `Request.ofJson`, `Options.ofJson` — reading
* `Condition.outline`, `SortSpec.outline`, `Request.outline`, `Options.outline` — what of a
  text is looked at
* `Request.toJson`, `Response.toJson` — writing
-/

namespace RecordQuery

/-- Why a JSON value is not read. -/
inductive WireError
  | unknownName (error : NameError)
  | malformed
  deriving DecidableEq

namespace Wire

/-- A string. -/
def readString : Json → Except WireError String
  | .string s => .ok s
  | _ => .error .malformed

/-- A truth value. -/
def readBool : Json → Except WireError Bool
  | .bool b => .ok b
  | _ => .error .malformed

/-- An integer of limited width. -/
def readWord {α : Type} (word? : Int → Option α) : Json → Except WireError α
  | .integer n =>
    match word? n with
    | some word => .ok word
    | none => .error .malformed
  | _ => .error .malformed

/-- A signed 64-bit integer. -/
def readSigned : Json → Except WireError Int64 :=
  readWord signed64?

/-- An unsigned 64-bit integer. -/
def readUnsigned : Json → Except WireError UInt64 :=
  readWord unsigned64?

/-- A value that may be null. -/
def readOptional {α : Type} (read : Json → Except WireError α) :
    Json → Except WireError (Option α)
  | .null => .ok none
  | v => (read v).map some

/-- A list of values. -/
def readList {α : Type} (read : Json → Except WireError α) : Json → Except WireError (List α)
  | .array items => items.mapM read
  | _ => .error .malformed

/-- A part of a structure, which may be given only once. -/
def readOnce {α : Type} (read : Json → Except WireError α) (old : Option α) (v : Json) :
    Except WireError (Option α) :=
  match old with
  | some _ => .error .malformed
  | none => (read v).map some

/-- A part of a structure that must be there. -/
def required {α : Type} : Option α → Except WireError α
  | some a => .ok a
  | none => .error .malformed

/-- The part at a position of a list, or the default past its end. -/
def readAt {α : Type} (read : Json → Except WireError α) (default : α) (items : List Json)
    (i : Nat) : Except WireError α :=
  match items[i]? with
  | some v => read v
  | none => .ok default

/-- A list has no more than a number of parts. -/
def atMost (n : Nat) (items : List Json) : Except WireError Unit :=
  if items.length ≤ n then .ok () else .error .malformed

/-- A name or a number that stands for something. -/
def readNamed {α : Type} (parse : String → Except NameError α)
    (ofOrdinal : Nat → Except NameError α) : Json → Except WireError α
  | .string s => (parse s).mapError .unknownName
  | .integer (.ofNat n) => (ofOrdinal n).mapError .unknownName
  | _ => .error .malformed

end Wire

open Wire

/-- The operator of a name or a number. -/
def Operator.ofJson : Json → Except WireError Operator :=
  readNamed Operator.parse Operator.ofOrdinal

/-- The direction of a name or a number. -/
def Direction.ofJson : Json → Except WireError Direction :=
  readNamed Direction.parse Direction.ofOrdinal

/-- A literal is any JSON value; the keys of its objects are put in order. -/
def Literal.ofJson (v : Json) : Except WireError Literal :=
  .ok (.json v.sorted)

namespace Condition

/-- The keys of a condition's parts. -/
def outline : Json.Outline :=
  .parts [(["field", "name"], .whole), (["operator"], .whole), (["value"], .whole)]

/-- The parts of a condition that were read so far. -/
structure Draft where
  field : Option String := none
  operator : Option Operator := none
  value : Option Literal := none

/-- Read one entry. `name` is another key for the field. -/
def Draft.step (d : Draft) (entry : String × Json) : Except WireError Draft :=
  match entry with
  | ("field", v) | ("name", v) => do return { d with field := ← readOnce readString d.field v }
  | ("operator", v) => do
    return { d with operator := ← readOnce Operator.ofJson d.operator v }
  | ("value", v) => do return { d with value := ← readOnce Literal.ofJson d.value v }
  | _ => .ok d

/-- A condition from an object or from the list of field, operator and value. Without a
value it is null. -/
def ofJson : Json → Except WireError Condition
  | .object entries => do
    let d ← entries.foldlM Draft.step {}
    let field ← required d.field
    let operator ← required d.operator
    return ⟨field, operator, d.value.getD .null⟩
  | .array (field :: operator :: rest) => do
    let field ← readString field
    let operator ← Operator.ofJson operator
    let value ← readAt Literal.ofJson .null rest 0
    atMost 1 rest
    return ⟨field, operator, value⟩
  | _ => .error .malformed

/-- The JSON form of a condition. -/
def toJson (c : Condition) : Json :=
  .object [("field", .string c.field), ("operator", .string c.operator.name),
    ("value", c.value.toJson)]

end Condition

namespace SortSpec

/-- The keys of a sort's parts. -/
def outline : Json.Outline :=
  .parts [(["field", "name"], .whole), (["direction"], .whole)]

/-- The parts of a sort that were read so far. -/
structure Draft where
  field : Option String := none
  direction : Option Direction := none

/-- Read one entry. `name` is another key for the field. -/
def Draft.step (d : Draft) (entry : String × Json) : Except WireError Draft :=
  match entry with
  | ("field", v) | ("name", v) => do return { d with field := ← readOnce readString d.field v }
  | ("direction", v) => do
    return { d with direction := ← readOnce Direction.ofJson d.direction v }
  | _ => .ok d

/-- A sort from an object or from the list of field and direction. Without a direction it is
ascending. -/
def ofJson : Json → Except WireError SortSpec
  | .object entries => do
    let d ← entries.foldlM Draft.step {}
    let field ← required d.field
    return ⟨field, d.direction.getD .ascending⟩
  | .array (field :: rest) => do
    let field ← readString field
    let direction ← readAt Direction.ofJson .ascending rest 0
    atMost 1 rest
    return ⟨field, direction⟩
  | _ => .error .malformed

/-- The JSON form of a sort. -/
def toJson (s : SortSpec) : Json :=
  .object [("field", .string s.field), ("direction", .string s.direction.name)]

end SortSpec

namespace Options

/-- The keys of the options. -/
def outline : Json.Outline :=
  .parts [(["defaultPage"], .whole), (["defaultPageSize"], .whole), (["maxPageSize"], .whole)]

/-- The options that were read so far. -/
structure Draft where
  defaultPage : Option UInt64 := none
  defaultPageSize : Option UInt64 := none
  maxPageSize : Option (Option UInt64) := none

/-- Read one entry. -/
def Draft.step (d : Draft) (entry : String × Json) : Except WireError Draft :=
  match entry with
  | ("defaultPage", v) => do
    return { d with defaultPage := ← readOnce readUnsigned d.defaultPage v }
  | ("defaultPageSize", v) => do
    return { d with defaultPageSize := ← readOnce readUnsigned d.defaultPageSize v }
  | ("maxPageSize", v) => do
    return { d with maxPageSize := ← readOnce (readOptional readUnsigned) d.maxPageSize v }
  | _ => .ok d

/-- Options from an object or from the list of their parts; missing parts are as by
default. -/
def ofJson : Json → Except WireError Options
  | .object entries => do
    let d ← entries.foldlM Draft.step {}
    let o : Options := {}
    return ⟨d.defaultPage.getD o.defaultPage, d.defaultPageSize.getD o.defaultPageSize,
      d.maxPageSize.getD o.maxPageSize⟩
  | .array items => do
    let o : Options := {}
    let defaultPage ← readAt readUnsigned o.defaultPage items 0
    let defaultPageSize ← readAt readUnsigned o.defaultPageSize items 1
    let maxPageSize ← readAt (readOptional readUnsigned) o.maxPageSize items 2
    atMost 3 items
    return ⟨defaultPage, defaultPageSize, maxPageSize⟩
  | _ => .error .malformed

end Options

namespace Request

/-- The keys of a request's parts, and what is read of each. -/
def outline : Json.Outline :=
  .parts [(["filters"], .items Condition.outline), (["sort"], SortSpec.outline),
    (["select"], .whole), (["page"], .whole), (["pageSize"], .whole), (["count"], .whole)]

/-- The parts of a request that were read so far. -/
structure Draft where
  filters : Option (List Condition) := none
  sort : Option (Option SortSpec) := none
  select : Option (List String) := none
  page : Option (Option Int64) := none
  pageSize : Option (Option Int64) := none
  count : Option Bool := none

/-- Read one entry. -/
def Draft.step (d : Draft) (entry : String × Json) : Except WireError Draft :=
  match entry with
  | ("filters", v) => do
    return { d with filters := ← readOnce (readList Condition.ofJson) d.filters v }
  | ("sort", v) => do
    return { d with sort := ← readOnce (readOptional SortSpec.ofJson) d.sort v }
  | ("select", v) => do
    return { d with select := ← readOnce (readList readString) d.select v }
  | ("page", v) => do
    return { d with page := ← readOnce (readOptional readSigned) d.page v }
  | ("pageSize", v) => do
    return { d with pageSize := ← readOnce (readOptional readSigned) d.pageSize v }
  | ("count", v) => do return { d with count := ← readOnce readBool d.count v }
  | _ => .ok d

/-- A request from an object or from the list of its parts; missing parts are empty. -/
def ofJson : Json → Except WireError Request
  | .object entries => do
    let d ← entries.foldlM Draft.step {}
    return {
      filters := d.filters.getD []
      sort := d.sort.getD none
      select := d.select.getD []
      page := d.page.getD none
      pageSize := d.pageSize.getD none
      count := d.count.getD false }
  | .array items => do
    let filters ← readAt (readList Condition.ofJson) [] items 0
    let sort ← readAt (readOptional SortSpec.ofJson) none items 1
    let select ← readAt (readList readString) [] items 2
    let page ← readAt (readOptional readSigned) none items 3
    let pageSize ← readAt (readOptional readSigned) none items 4
    let count ← readAt readBool false items 5
    atMost 6 items
    return { filters, sort, select, page, pageSize, count }
  | _ => .error .malformed

/-- An integer that may be missing. -/
def optionalToJson : Option Int64 → Json
  | some n => .integer n.toInt
  | none => .null

/-- The JSON form of a request; predicates have none. -/
def toJson (r : Request) : Json :=
  .object [("filters", .array (r.filters.map Condition.toJson)),
    ("sort", match r.sort with
      | some s => s.toJson
      | none => .null),
    ("select", .array (r.select.map .string)),
    ("page", optionalToJson r.page),
    ("pageSize", optionalToJson r.pageSize),
    ("count", .bool r.count)]

end Request

/-- The JSON form of a response, given that of its items. -/
def Response.toJson {α : Type} (item : α → Json) (r : Response α) : Json :=
  .object [("data", .array (r.data.map item)),
    ("page", .integer r.page),
    ("pageSize", .integer r.pageSize),
    ("totalCount", match r.totalCount with
      | some n => .integer n
      | none => .null),
    ("pageCount", .integer r.pageCount)]

end RecordQuery
