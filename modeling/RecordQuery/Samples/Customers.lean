import RecordQuery.Table

/-!
# Customers

A record type with an optional age and an optional civil date of birth, and four records of
it.
-/

namespace RecordQuery.Samples

/-- Numbers of 32 bits. -/
def int32 : FieldType := .plain (.integer ⟨true, .w32⟩)

namespace Customers

/-- The table of customers. -/
def table : Table :=
  .ofColumns "Customer" [
    ("Id", int32),
    ("Name", .plain .string),
    ("Age", int32.asNullable),
    ("BirthDate", (FieldType.plain .timestamp).asNullable),
    ("Address", .plain .string)]

/-- A customer from its parts. -/
def customer (id : Int64) (name : String) (age : Option Int64) (birthDate : Option DateTime)
    (address : String) : Record :=
  [.value (.number (.signed id)),
    .value (.string name),
    match age with
    | some n => .value (.number (.signed n))
    | none => .value .null,
    match birthDate with
    | some t => .dateTime t
    | none => .value .null,
    .value (.string address)]

/-- Midnight of a date, as a date of birth. -/
def born (year : Int) (month day : Nat) : Option DateTime :=
  some (.midnight ⟨year, month, day⟩)

/-- Four customers, two of them aged 30. -/
def records : List Record := [
  customer 1 "John Doe" (some 30) (born 1994 5 12) "123 Main St",
  customer 2 "Jane Smith" (some 25) none "456 Elm St",
  customer 3 "Mike Johnson" (some 40) (born 1984 11 2) "789 Oak St",
  customer 4 "Alice Cooper" (some 30) (born 1994 2 20) "321 Pine St"]

end Customers

end RecordQuery.Samples
