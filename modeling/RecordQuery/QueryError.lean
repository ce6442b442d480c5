import RecordQuery.Literal
import RecordQuery.Operator
import RecordQuery.Table

/-!
# Errors of a Query

What can be wrong with a request for a given table. All of it is found before any record is
read.
-/

namespace RecordQuery

/-- Why a request does not compile against a table. -/
inductive QueryError
  /-- The name matches no field, or more than one. -/
  | unknownField (name : String)
  /-- The value has no counterpart of the type. -/
  | coercion (value : Literal) (target : Scalar)
  /-- The operator does not apply to fields of this type. -/
  | unsupportedOperator (op : Operator) (field : Field)
  /-- The comparison has no meaning between the field's type and the value. -/
  | unsupportedComparison (op : Operator) (field : Field) (value : Literal)
  /-- A predicate was built for another type of record. -/
  | foreignPredicate (expected actual : String)

/-- The wording of the error. -/
def QueryError.message : QueryError → String
  | unknownField name => "unknown field '" ++ name ++ "'"
  | coercion value target => "cannot convert " ++ value.text ++ " to " ++ target.name
  | unsupportedOperator op field =>
    "operator '" ++ op.name ++ "' is not valid for field '" ++ field.name ++ "' of type " ++
      field.type.name
  | unsupportedComparison op field value =>
    "field '" ++ field.name ++ "' of type " ++ field.type.name ++ " does not support '" ++
      op.name ++ "' against " ++ value.text
  | foreignPredicate expected actual =>
    "custom predicate expects " ++ actual ++ " records, not " ++ expected

end RecordQuery
