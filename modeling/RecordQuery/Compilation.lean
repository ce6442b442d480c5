import RecordQuery.Coercion
import RecordQuery.Condition
import RecordQuery.Expr

/-!
# Compiling Conditions

A condition becomes an expression over a table: its field is resolved, its operator is
checked against the field's type, and its literal is converted. A name that matches no field
or several is refused before an operator that does not apply, and that before a literal that
does not convert.

## Main Definitions

* `Table.resolve` — the field of a name, or the error
* `compileComparison`, `compileText`, `compileMembership` — the three kinds of tests
* `Condition.compile` — one condition
-/

namespace RecordQuery

/-- The field of a name, with its position. -/
def Table.resolve (t : Table) (name : String) : Except QueryError (Field × Nat) :=
  match t.find? name with
  | some found => .ok found
  | none => .error (.unknownField name)

/-- The reference to a field at a position. -/
def Field.ref (f : Field) (index : Nat) : FieldRef :=
  ⟨f.name, index, f.type⟩

/-- A comparison of a field with a literal. An array is compared with sequences alone, and
range comparisons need a type with an order. -/
def compileComparison (f : Field) (index : Nat) (cmp : Comparison) (op : Operator)
    (value : Literal) : Except QueryError Expr :=
  if value.isArray && !f.type.sequence then .error (.unsupportedComparison op f value)
  else if op.isOrdering && !f.type.isOrdered then .error (.unsupportedComparison op f value)
  else (coerce value f.type).map (.compare (f.ref index) cmp)

/-- A test of a text field against the text of a literal. -/
def compileText (f : Field) (index : Nat) (test : TextTest) (op : Operator)
    (value : Literal) : Except QueryError Expr :=
  if f.type.isStringLike then
    (coerce value (.plain .string)).map fun
      | .string pattern => .text (f.ref index) test pattern
      | other => .text (f.ref index) test other.text
  else .error (.unsupportedOperator op f)

/-- Membership of a field's value among the items of a literal. A literal that is no array
is its own only item. -/
def compileMembership (f : Field) (index : Nat) (op : Operator) (value : Literal) :
    Except QueryError Expr :=
  if f.type.sequence then .error (.unsupportedOperator op f)
  else if value.isArray then
    (coerce value f.type.asSequence).map fun
      | .list items => .member (f.ref index) items
      | other => .member (f.ref index) [other]
  else (coerce value f.type).map fun v => .member (f.ref index) [v]

/-- The expression of an operator on a resolved field. -/
def compileOn (f : Field) (index : Nat) (op : Operator) (value : Literal) :
    Except QueryError Expr :=
  match op with
  | .equals => compileComparison f index .eq op value
  | .notEquals => compileComparison f index .ne op value
  | .greaterThan => compileComparison f index .gt op value
  | .greaterThanOrEqual => compileComparison f index .ge op value
  | .lessThan => compileComparison f index .lt op value
  | .lessThanOrEqual => compileComparison f index .le op value
  | .startsWith => compileText f index .startsWith op value
  | .endsWith => compileText f index .endsWith op value
  | .contains => compileText f index .contains op value
  | .notContains => (compileText f index .contains op value).map .not
  | .isIn => compileMembership f index op value
  | .notIn => (compileMembership f index op value).map .not

/-- The expression of a condition over a table. -/
def Condition.compile (t : Table) (c : Condition) : Except QueryError Expr :=
  match t.resolve c.field with
  | .ok (f, index) => compileOn f index c.operator c.value
  | .error e => .error e

end RecordQuery
