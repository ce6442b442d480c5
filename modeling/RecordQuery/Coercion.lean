import RecordQuery.Calendar.Reading
import RecordQuery.Number.Reading
import RecordQuery.QueryError

/-!
# Coercion

A literal becomes a value of a field's type once, when its condition is compiled. Typed
literals are converted directly, JSON scalars by way of their text.

## Main Definitions

* `Scalar.ofNumber?` — the value of a scalar type that a number stands for
* `Scalar.ofText?` — the value of a scalar type that a text stands for
* `coerceScalar` — a literal as a value of a scalar type
* `coerce` — a literal as a value of a field type
-/

namespace RecordQuery

namespace Scalar

/-- The value of a scalar type that a number stands for. -/
def ofNumber? (s : Scalar) (n : Number) : Option Value :=
  match s with
  | integer k =>
    match n.integral? with
    | some i =>
      if k.least ≤ i ∧ i ≤ k.greatest then
        some (.number (if k.signed then .signed (.ofInt i) else .unsigned (.ofNat i.toNat)))
      else none
    | none => none
  | single => some (.number (.float n.toFloat.narrow))
  | double => some (.number (.float n.toFloat))
  | string => some (.string n.text)
  | bool =>
    match n.integral? with
    | some 0 => some (.bool false)
    | some 1 => some (.bool true)
    | _ => none
  | timestamp =>
    match n.integral? with
    | some i => (signed64? i).map fun millis => .timestamp (.ofMillis millis)
    | none => none
  | enum variants =>
    match n.integral?.bind unsigned32? with
    | some d =>
      if variants.any fun v => v.discriminant == d then some (.enum d) else none
    | none => none

/-- The number that a text stands for: a signed integer, else an unsigned one, else a
floating-point number. -/
def readNumber? (s : List Char) : Option Number :=
  match Reading.readSigned s, Reading.readUnsigned s with
  | some n, _ => some (.signed n)
  | none, some n => some (.unsigned n)
  | none, none => (Reading.readFloat s).map .float

/-- The truth value that a text names, in any ASCII case. -/
def readBool? (s : List Char) : Option Bool :=
  let word := String.ofList s
  if Text.Ascii.sameFolded word "true" then some true
  else if Text.Ascii.sameFolded word "false" then some false
  else none

/-- The variant that a text names, in any ASCII case: the first of several. -/
def findVariant? (variants : List Variant) (s : List Char) : Option Variant :=
  variants.find? fun v => Text.Ascii.sameFolded v.name (String.ofList s)

/-- The value of a scalar type that a text stands for. Blanks around the text count for
strings alone. -/
def ofText? (s : Scalar) (text : String) : Option Value :=
  let trimmed := Text.trim text.toList
  match s with
  | string => some (.string text)
  | bool => (readBool? trimmed).map .bool
  | timestamp => (Timestamp.parse? text).map .timestamp
  | enum variants =>
    match findVariant? variants trimmed with
    | some v => some (.enum v.discriminant)
    | none => (Reading.readUnsigned trimmed).bind fun n => s.ofNumber? (.unsigned n)
  | _ => (readNumber? trimmed).bind s.ofNumber?

/-- The value of a scalar type that a JSON value stands for: scalars by their text. -/
def ofJson? (s : Scalar) : Json → Option Value
  | .null => some s.zero
  | .string text => s.ofText? text
  | .bool b => s.ofText? (Json.bool b).text
  | .integer n => s.ofText? (Json.integer n).text
  | .float x => s.ofText? (Json.float x).text
  | .array _ | .object _ => none

/-- The value of a scalar type that a literal stands for. -/
def ofLiteral? (s : Scalar) : Literal → Option Value
  | .null => some s.zero
  | .array _ => none
  | .json v => s.ofJson? v
  | .string text => s.ofText? text
  | .number n => s.ofNumber? n
  | .bool b =>
    match s with
    | bool => some (.bool b)
    | string => some (.string (toString b))
    | _ => if s.isNumeric then s.ofNumber? (.unsigned (if b then 1 else 0)) else none
  | .timestamp t =>
    match s with
    | timestamp => some (.timestamp t)
    | string => some (.string t.text)
    | _ => if s.isNumeric then s.ofNumber? (.signed t.toMillis) else none

end Scalar

/-- A literal as a value of a scalar type. -/
def coerceScalar (value : Literal) (s : Scalar) : Except QueryError Value :=
  match s.ofLiteral? value with
  | some v => .ok v
  | none => .error (.coercion value s)

/-- A literal as a value of a type that is not repeated. Null never fails. -/
def coerceElement (t : FieldType) (value : Literal) : Except QueryError Value :=
  if value.isNull then .ok t.element.zero else coerceScalar value t.scalar

/-- A literal as a value of a field type. For a sequence every item of an array is
converted; a literal that is no array gives the empty list. -/
def coerce (value : Literal) (t : FieldType) : Except QueryError Value :=
  if value.isNull then .ok t.zero
  else if t.sequence then
    match value.items? with
    | some items => (items.mapM (coerceElement t)).map .list
    | none => .ok (.list [])
  else coerceScalar value t.scalar

end RecordQuery
