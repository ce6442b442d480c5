import RecordQuery.Table
import RecordQuery.Value.Order

/-!
# Filter Expressions

A compiled filter: a tree of tests whose leaves refer to fields by position and hold
operands of the field's type.

## Main Definitions

* `Comparison`, `TextTest` — the tests of the leaves
* `FieldRef` — a field with its position in the table
* `Expr` — filter expressions
* `Expr.accepts` — the truth of an expression for a record
* `Expr.conjunction` — several expressions at once
* `Expr.describe` — the written form
-/

namespace RecordQuery

/-- A comparison of a field with an operand. -/
inductive Comparison
  | eq
  | ne
  | gt
  | ge
  | lt
  | le
  deriving DecidableEq

namespace Comparison

/-- The truth of the comparison when the order of its two sides is known. -/
def ofOrdering : Comparison → Ordering → Bool
  | eq, o => o == .eq
  | ne, o => o != .eq
  | gt, o => o == .gt
  | ge, o => o != .lt
  | lt, o => o == .lt
  | le, o => o != .gt

/-- The symbol of the comparison. -/
def symbol : Comparison → String
  | eq => "=="
  | ne => "!="
  | gt => ">"
  | ge => ">="
  | lt => "<"
  | le => "<="

/-- The truth of the comparison for two values. A range comparison of values without an
order fails. -/
def holds : Comparison → Value → Value → Bool
  | eq, a, b => a.equal b
  | ne, a, b => !a.equal b
  | op, a, b =>
    match a.rangeOrder? b with
    | some o => op.ofOrdering o
    | none => false

end Comparison

/-- A test of a text against a pattern, which is taken literally. -/
inductive TextTest
  | startsWith
  | endsWith
  | contains
  deriving DecidableEq

namespace TextTest

/-- The name of the test. -/
def name : TextTest → String
  | startsWith => "StartsWith"
  | endsWith => "EndsWith"
  | contains => "Contains"

/-- The pattern stands somewhere in the text. -/
def occursIn (pattern : List Char) : List Char → Bool
  | [] => pattern.isEmpty
  | c :: rest => pattern.isPrefixOf (c :: rest) || occursIn pattern rest

/-- The truth of the test. -/
def holds (test : TextTest) (text pattern : String) : Bool :=
  match test with
  | startsWith => pattern.toList.isPrefixOf text.toList
  | endsWith => pattern.toList.isSuffixOf text.toList
  | contains => occursIn pattern.toList text.toList

end TextTest

/-- A field with its position in the table. -/
structure FieldRef where
  name : String
  index : Nat
  type : FieldType
  deriving DecidableEq

/-- A filter of records. -/
inductive Expr
  /-- A comparison of a field with a value. -/
  | compare (field : FieldRef) (op : Comparison) (value : Value)
  /-- A test of a text field. -/
  | text (field : FieldRef) (test : TextTest) (pattern : String)
  /-- Membership of a field's value in a list. -/
  | member (field : FieldRef) (values : List Value)
  | and (left right : Expr)
  | not (inner : Expr)

namespace Expr

/-- All of several expressions, nested to the left; none of no expressions. -/
def conjunction : List Expr → Option Expr
  | [] => none
  | e :: rest => some (rest.foldl and e)

/-- The fields that the expression refers to, in the order of evaluation. -/
def fields : Expr → List FieldRef
  | compare f _ _ => [f]
  | text f _ _ => [f]
  | member f _ => [f]
  | and l r => l.fields ++ r.fields
  | not e => e.fields

/-- The value is equal to a member of the list. Neither a null value nor a null member takes
part. -/
def isMember (value : Value) (values : List Value) : Bool :=
  !value.isNull && (values.filter fun v => !v.isNull).any value.equal

/-- The truth of the expression for a record of the table. A text test of anything but text
fails. -/
def accepts (t : Table) (r : Record) : Expr → Bool
  | compare f op value => op.holds (t.read f.index r) value
  | text f test pattern =>
    match t.read f.index r with
    | .string s => test.holds s pattern
    | _ => false
  | member f values => isMember (t.read f.index r) values
  | and l r' => l.accepts t r && r'.accepts t r
  | not e => !e.accepts t r

/-- The written form of the expression. -/
def describe : Expr → String
  | compare f op value => f.name ++ " " ++ op.symbol ++ " " ++ value.text
  | text f test pattern => f.name ++ " " ++ test.name ++ " " ++ Text.quote pattern
  | member f values => f.name ++ " IN " ++ (Value.list values).text
  | and l r => "(" ++ l.describe ++ " AND " ++ r.describe ++ ")"
  | not e => "NOT (" ++ e.describe ++ ")"

end Expr

end RecordQuery
