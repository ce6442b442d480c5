import RecordQuery.Literal
import RecordQuery.Operator

/-!
# Conditions

One test of a request: a field by name, an operator and a literal.
-/

namespace RecordQuery

/-- A test of one field, before it is compiled. -/
structure Condition where
  field : String
  operator : Operator
  value : Literal

/-- The written form of a condition. -/
def Condition.text (c : Condition) : String :=
  c.field ++ " " ++ c.operator.name ++ " " ++ c.value.text

end RecordQuery
