import RecordQuery.Calendar.Timestamp
import RecordQuery.FieldType
import RecordQuery.Number
import RecordQuery.Text.Quoted

/-!
# Values

What a test sees of a record field, and what it compares with.

## Main Definitions

* `Value` — null, the scalar values and lists
* `Value.HasType` — the values of a field type
* `FieldType.zero` — the value that stands for a missing one
* `Value.text` — the written form
-/

namespace RecordQuery

/-- A field value, or the operand of a test. -/
inductive Value
  | null
  | bool (b : Bool)
  | number (n : Number)
  | string (s : String)
  | timestamp (t : Timestamp)
  | enum (discriminant : UInt32)
  | list (items : List Value)
  deriving Inhabited

namespace Value

/-- Null itself. -/
def isNull : Value → Bool
  | null => true
  | _ => false

/-- A list. -/
def isList : Value → Bool
  | list _ => true
  | _ => false

mutual

/-- Sameness of two values: the same kind with the same content. Numbers of different kinds
differ, the two zeros are the same, and a NaN is not the same as itself. -/
def identical : Value → Value → Bool
  | null, null => true
  | bool a, bool b => a == b
  | number a, number b => a.identical b
  | string a, string b => a == b
  | timestamp a, timestamp b => a == b
  | enum a, enum b => a == b
  | list a, list b => identicalLists a b
  | _, _ => false

/-- Sameness of lists: of the same length, with the same items in order. -/
def identicalLists : List Value → List Value → Bool
  | [], [] => true
  | a :: as, b :: bs => a.identical b && identicalLists as bs
  | _, _ => false

end

/-- Texts with commas and blanks between them. -/
def separated : List String → String
  | [] => ""
  | [s] => s
  | s :: rest => s ++ ", " ++ separated rest

mutual

/-- The written form: text is quoted, a variant is its number after a hash sign. -/
def text : Value → String
  | null => "null"
  | bool b => toString b
  | number n => n.text
  | string s => Text.quote s
  | timestamp t => t.text
  | enum d => "#" ++ toString d.toNat
  | list items => "[" ++ separated (texts items) ++ "]"

/-- The written forms of a list's items. -/
def texts : List Value → List String
  | [] => []
  | v :: rest => v.text :: texts rest

end

/-- The values of a scalar type. Numbers of the 32-bit format are those that it leaves
unchanged. -/
def HasScalar : Value → Scalar → Prop
  | bool _, .bool => True
  | number (.signed n), .integer k => k.signed ∧ k.least ≤ n.toInt ∧ n.toInt ≤ k.greatest
  | number (.unsigned n), .integer k => ¬ k.signed ∧ (n.toNat : Int) ≤ k.greatest
  | number (.float x), .single => x.isNaN ∨ x.narrow = x
  | number (.float _), .double => True
  | string _, .string => True
  | timestamp _, .timestamp => True
  | enum d, .enum variants => ∃ v ∈ variants, v.discriminant = d
  | _, _ => False

/-- The values of a type that is not repeated. -/
def HasElement (v : Value) (t : FieldType) : Prop :=
  (v = null ∧ t.nullable) ∨ v.HasScalar t.scalar

/-- The values of a field type. -/
def HasType (v : Value) (t : FieldType) : Prop :=
  if t.sequence then ∃ items, v = list items ∧ ∀ item ∈ items, item.HasElement t
  else v.HasElement t

instance (v : Value) (s : Scalar) : Decidable (v.HasScalar s) := by
  unfold HasScalar
  split <;> infer_instance

instance (v : Value) (t : FieldType) : Decidable (v.HasElement t) :=
  have : Decidable (v = null) := decidable_of_iff (v.isNull = true) (by cases v <;> simp [isNull])
  inferInstanceAs (Decidable ((v = null ∧ t.nullable) ∨ v.HasScalar t.scalar))

instance (v : Value) (t : FieldType) :
    Decidable (∃ items, v = list items ∧ ∀ item ∈ items, item.HasElement t) :=
  match v with
  | list items =>
    decidable_of_iff (∀ item ∈ items, item.HasElement t)
      ⟨fun h => ⟨items, rfl, h⟩, fun ⟨_, h, hitems⟩ => list.inj h ▸ hitems⟩
  | null | bool _ | number _ | string _ | timestamp _ | enum _ =>
    isFalse fun ⟨_, h, _⟩ => nomatch h

instance (v : Value) (t : FieldType) : Decidable (v.HasType t) :=
  inferInstanceAs (Decidable (if t.sequence then _ else _))

end Value

/-- The value that stands for a missing one of a scalar type. -/
def Scalar.zero : Scalar → Value
  | .bool => .bool false
  | .integer k => .number (if k.signed then .signed 0 else .unsigned 0)
  | .single | .double => .number (.float .zero)
  | .string => .string ""
  | .timestamp => .timestamp .epoch
  | .enum [] => .enum 0
  | .enum (v :: _) => .enum v.discriminant

/-- The value that stands for a missing one: the empty list, null, or the zero of the
scalar. -/
def FieldType.zero (t : FieldType) : Value :=
  if t.sequence then .list []
  else if t.nullable then .null
  else t.scalar.zero

end RecordQuery
