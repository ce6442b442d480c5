import RecordQuery.Text.Casing
import RecordQuery.Text.Ascii
import RecordQuery.Value

/-!
# Records and Their Tables

A record is a list of cells. The table of a record type names some of the cells and gives
their types; the other cells are kept, but no test can see them.

## Main Definitions

* `Cell`, `Record` — stored values
* `Field` — a name and a type for one cell
* `Table` — the fields of a record type and its blank record
* `Field.describe` — the written form of a field
* `Table.find?` — the field of a name, if there is exactly one
* `Table.read` — the value of a field in a record
-/

namespace RecordQuery

/-- A stored value. A civil date-time is read as its instant in UTC, and unlike an instant
it can be the second named 60. -/
inductive Cell
  | value (v : Value)
  | dateTime (t : DateTime)
  deriving Inhabited

/-- The value that a test sees of a cell. -/
def Cell.read : Cell → Value
  | value v => v
  | dateTime t => .timestamp (.ofDateTime t)

/-- The cells of one record. -/
abbrev Record := List Cell

/-- The value in one slot of a record; null if there is none. -/
def Record.read (r : Record) (slot : Nat) : Value :=
  match r[slot]? with
  | some cell => cell.read
  | none => .null

/-- A slot of a record type with its registered name and its type. -/
structure Field where
  name : String
  type : FieldType
  slot : Nat
  deriving DecidableEq

/-- The written form of a variant. -/
def Variant.describe (v : Variant) : String :=
  "EnumVariant \x7b name: " ++ Text.quote v.name ++ ", discriminant: " ++
    toString v.discriminant.toNat ++ " \x7d"

/-- The written form of a scalar type. -/
def Scalar.describe : Scalar → String
  | bool => "Bool"
  | integer k => k.capitalName
  | single => "F32"
  | double => "F64"
  | string => "String"
  | timestamp => "Timestamp"
  | enum variants => "Enum([" ++ Value.separated (variants.map Variant.describe) ++ "])"

/-- The written form of a type with all its parts. -/
def FieldType.describe (t : FieldType) : String :=
  "FieldType \x7b scalar: " ++ t.scalar.describe ++ ", nullable: " ++ toString t.nullable ++
    ", sequence: " ++ toString t.sequence ++ " \x7d"

/-- The written form of a field. -/
def Field.describe (f : Field) : String :=
  "FieldDescriptor \x7b name: " ++ Text.quote f.name ++ ", ty: " ++ f.type.describe ++ " \x7d"

/-- The fields of a record type in order, and the record whose cells are all as by default. -/
structure Table where
  recordName : String
  fields : List Field
  blank : Record

/-- A requested name names a registered one: they agree up to ASCII case or, if the
requested name is not ASCII, in lower case. -/
def namesMatch (registered requested : String) : Bool :=
  Text.Ascii.sameFolded registered requested ||
    (!Text.Ascii.isAscii requested && Text.lower registered == Text.lower requested)

namespace Table

/-- Fields in consecutive slots, with the zeros of their types as the blank record. -/
def ofColumns (recordName : String) (columns : List (String × FieldType)) : Table where
  recordName
  fields := columns.zipIdx.map fun (column, slot) => ⟨column.1, column.2, slot⟩
  blank := columns.map fun column => .value column.2.zero

/-- The fields that a name matches, with their positions. -/
def candidates (t : Table) (name : String) : List (Field × Nat) :=
  t.fields.zipIdx.filter fun (f, _) => namesMatch f.name name

/-- The field of a name and its position, if the name matches exactly one field. -/
def find? (t : Table) (name : String) : Option (Field × Nat) :=
  match t.candidates name with
  | [found] => some found
  | _ => none

/-- The value of the field at a position; null past the end. -/
def read (t : Table) (index : Nat) (r : Record) : Value :=
  match t.fields[index]? with
  | some f => r.read f.slot
  | none => .null

/-- Every field reads a value of its type from the record. -/
def Fits (t : Table) (r : Record) : Prop :=
  ∀ f ∈ t.fields, (r.read f.slot).HasType f.type

instance (t : Table) (r : Record) : Decidable (t.Fits r) :=
  inferInstanceAs (Decidable (∀ f ∈ t.fields, (r.read f.slot).HasType f.type))

end Table

end RecordQuery
