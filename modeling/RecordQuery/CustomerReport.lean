import RecordQuery.Calendar.Reading
import RecordQuery.Json.Reader
import RecordQuery.Plan
import RecordQuery.Samples.Customers
import RecordQuery.Wire

/-!
# The Customer Report

A report reads up to three JSON texts — customers, paging options and a request — and gives
the response as JSON text. Without customers it uses the sample; without a request it lists
all customers as a single page.

## Main Definitions

* `Source`, `Input` — the texts of a report
* `ReportError` — why there is no report
* `run` — the report
-/

namespace RecordQuery.CustomerReport

/-- A named text, or the name of one that could not be read. -/
inductive Source
  | text (name contents : String)
  | missing (name : String)

/-- What a report is made from. -/
structure Input where
  data : Option Source := none
  options : Option Source := none
  request : Option Source := none
  compact : Bool := false

/-- Why there is no report. -/
inductive ReportError
  | cannotRead (name : String)
  | cannotParse (name : String)
  | cannotApply (name : String) (cause : QueryError)

namespace ReportError

/-- The wording of the error. -/
def message : ReportError → String
  | cannotRead name => "cannot read " ++ name
  | cannotParse name => "cannot parse " ++ name
  | cannotApply name _ => "cannot apply request " ++ name

/-- The wording of the error beneath. -/
def cause? : ReportError → Option String
  | cannotApply _ cause => some cause.message
  | _ => none

end ReportError

/-- The keys of a customer's parts. -/
def customerOutline : Json.Outline :=
  .parts [(["Id"], .whole), (["Name"], .whole), (["Age"], .whole), (["BirthDate"], .whole),
    (["Address"], .whole)]

/-- The parts of a customer that were read so far. -/
structure Draft where
  id : Option Int64 := none
  name : Option String := none
  age : Option (Option Int64) := none
  birthDate : Option (Option DateTime) := none
  address : Option String := none

open Wire

/-- A 32-bit integer. -/
def readInt32 : Json → Except WireError Int64 :=
  readWord fun n => if -0x80000000 ≤ n ∧ n < 0x80000000 then some (.ofInt n) else none

/-- A civil date-time as a string. -/
def readDateTimeText : Json → Except WireError DateTime
  | .string s =>
    match Calendar.readDateTime .loose s.toList with
    | some t => .ok t
    | none => .error .malformed
  | _ => .error .malformed

/-- Read one entry. -/
def Draft.step (d : Draft) (entry : String × Json) : Except WireError Draft :=
  match entry with
  | ("Id", v) => do return { d with id := ← readOnce readInt32 d.id v }
  | ("Name", v) => do return { d with name := ← readOnce readString d.name v }
  | ("Age", v) => do return { d with age := ← readOnce (readOptional readInt32) d.age v }
  | ("BirthDate", v) => do
    return { d with birthDate := ← readOnce (readOptional readDateTimeText) d.birthDate v }
  | ("Address", v) => do return { d with address := ← readOnce readString d.address v }
  | _ => .ok d

/-- A customer from an object, where age and date of birth may be missing, or from the list
of all its parts. -/
def readCustomer : Json → Except WireError Record
  | .object entries => do
    let d ← entries.foldlM Draft.step {}
    let id ← required d.id
    let name ← required d.name
    let address ← required d.address
    return Samples.Customers.customer id name (d.age.getD none) (d.birthDate.getD none) address
  | .array [id, name, age, birthDate, address] => do
    let id ← readInt32 id
    let name ← readString name
    let age ← readOptional readInt32 age
    let birthDate ← readOptional readDateTimeText birthDate
    let address ← readString address
    return Samples.Customers.customer id name age birthDate address
  | _ => .error .malformed

mutual

/-- The JSON form of a value. -/
def valueToJson : Value → Json
  | .null => .null
  | .bool b => .bool b
  | .number n => n.toJson
  | .string s => .string s
  | .timestamp t => .string t.text
  | .enum d => .integer d.toNat
  | .list items => .array (valuesToJson items)

/-- The JSON forms of a list's items. -/
def valuesToJson : List Value → List Json
  | [] => []
  | v :: rest => valueToJson v :: valuesToJson rest

end

/-- The JSON form of a cell. -/
def cellToJson : Cell → Json
  | .value v => valueToJson v
  | .dateTime t => .string (String.ofList t.text)

/-- The JSON form of a customer: its cells under the names of their fields. -/
def customerToJson (r : Record) : Json :=
  .object ((Samples.Customers.table.fields.map (·.name)).zip (r.map cellToJson))

/-- The value of a source, of which an outline says what is looked at. -/
def load {α : Type} (outline : Json.Outline) (read : Json → Except WireError α) :
    Source → Except ReportError α
  | .missing name => .error (.cannotRead name)
  | .text name contents =>
    match Json.readAs outline contents with
    | some v =>
      match read v with
      | .ok a => .ok a
      | .error _ => .error (.cannotParse name)
    | none => .error (.cannotParse name)

/-- The value of a source, or a default without one. -/
def loadOr {α : Type} (outline : Json.Outline) (read : Json → Except WireError α)
    (default : α) : Option Source → Except ReportError α
  | some s => load outline read s
  | none => .ok default

/-- The name of a source. -/
def Source.name : Source → String
  | text name _ | missing name => name

/-- The response of a report. -/
def respond (input : Input) : Except ReportError (Response Record) := do
  let customers ←
    loadOr (.items customerOutline) (readList readCustomer) Samples.Customers.records input.data
  let options ← loadOr Options.outline Options.ofJson {} input.options
  match input.request with
  | none => return .unpaged customers
  | some source =>
    let request ← load Request.outline Request.ofJson source
    (request.run Samples.Customers.table options customers).mapError (.cannotApply source.name)

/-- The text of a report, which ends its last line. -/
def run (input : Input) : Except ReportError String := do
  let v := (← respond input).toJson customerToJson
  return (if input.compact then v.text else v.indented) ++ "\n"

end RecordQuery.CustomerReport
