/-!
# Field Types

The static type of a record field: a scalar, possibly nullable, possibly repeated. In a
sequence the scalar and the nullability are those of the elements.

## Main Definitions

* `IntegerKind` — the integer types and their bounds
* `Variant`, `Scalar` — the scalar types, with the variants of an enumeration
* `FieldType` — scalar, nullability and repetition
-/

namespace RecordQuery

/-- The width of an integer type. -/
inductive Width
  | w8
  | w16
  | w32
  | w64
  | size
  deriving DecidableEq

namespace Width

/-- The number of different words; sizes are those of a 64-bit machine. -/
def count : Width → Nat
  | w8 => 256
  | w16 => 65536
  | w32 => 4294967296
  | w64 => 18446744073709551616
  | size => 18446744073709551616

/-- The width in the name of a type. -/
def suffix : Width → String
  | w8 => "8"
  | w16 => "16"
  | w32 => "32"
  | w64 => "64"
  | size => "size"

end Width

/-- An integer type. -/
structure IntegerKind where
  signed : Bool
  width : Width
  deriving DecidableEq

namespace IntegerKind

/-- The least integer of the type. -/
def least (k : IntegerKind) : Int :=
  if k.signed then -(k.width.count / 2 : Nat) else 0

/-- The greatest integer of the type. -/
def greatest (k : IntegerKind) : Int :=
  (if k.signed then k.width.count / 2 else k.width.count : Nat) - 1

/-- The name of the type. -/
def name (k : IntegerKind) : String :=
  (if k.signed then "i" else "u") ++ k.width.suffix

/-- The name of the type with a capital. -/
def capitalName (k : IntegerKind) : String :=
  (if k.signed then "I" else "U") ++ k.width.suffix

end IntegerKind

/-- A named variant of an enumeration and the number that stands for it. -/
structure Variant where
  name : String
  discriminant : UInt32
  deriving DecidableEq

/-- A scalar type. All kinds of dates and times are timestamps. -/
inductive Scalar
  | bool
  | integer (kind : IntegerKind)
  | single
  | double
  | string
  | timestamp
  | enum (variants : List Variant)
  deriving DecidableEq

namespace Scalar

/-- The integer types. -/
def isInteger : Scalar → Bool
  | integer _ => true
  | _ => false

/-- The integer and floating-point types. -/
def isNumeric : Scalar → Bool
  | integer _ | single | double => true
  | _ => false

/-- The types whose values have an order: all but truth values. -/
def isOrdered : Scalar → Bool
  | bool => false
  | _ => true

/-- The name of the type. -/
def name : Scalar → String
  | bool => "bool"
  | integer k => k.name
  | single => "f32"
  | double => "f64"
  | string => "string"
  | timestamp => "timestamp"
  | enum _ => "enum"

end Scalar

/-- The type of a field. -/
structure FieldType where
  scalar : Scalar
  nullable : Bool
  sequence : Bool
  deriving DecidableEq

namespace FieldType

/-- A scalar type that is neither nullable nor repeated. -/
def plain (s : Scalar) : FieldType := ⟨s, false, false⟩

/-- The type with null among its values, or among its elements. -/
def asNullable (t : FieldType) : FieldType := { t with nullable := true }

/-- The sequences of the type's scalar. -/
def asSequence (t : FieldType) : FieldType := { t with sequence := true }

/-- The elements of a sequence; any other type itself. -/
def element (t : FieldType) : FieldType := { t with sequence := false }

/-- The types that text tests apply to. -/
def isStringLike (t : FieldType) : Bool :=
  !t.sequence && t.scalar == .string

/-- The types that range tests apply to. -/
def isOrdered (t : FieldType) : Bool :=
  !t.sequence && t.scalar.isOrdered

/-- The name of the type. -/
def name (t : FieldType) : String :=
  match t.nullable, t.sequence with
  | false, false => t.scalar.name
  | true, false => "Option<" ++ t.scalar.name ++ ">"
  | false, true => "Vec<" ++ t.scalar.name ++ ">"
  | true, true => "Vec<Option<" ++ t.scalar.name ++ ">>"

end FieldType

end RecordQuery
