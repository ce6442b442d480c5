import RecordQuery.Naming.Spacing

/-!
# Integer Literals

The text of an integer literal of a declaration: digits in base ten, sixteen, eight or two,
with underscores anywhere between them and with a suffix that names a type. Comments may
stand around it and attributes in front. A sign, a fraction or an exponent makes another
kind of expression.

## Main Definitions

* `readLiteral?` — the integer of a literal
-/

namespace RecordQuery.Naming.IntegerLiteral

/-- The digits of a base, by its mark after a leading zero. -/
def splitBase : List Char → Nat × List Char
  | '0' :: 'x' :: r => (16, r)
  | '0' :: 'o' :: r => (8, r)
  | '0' :: 'b' :: r => (2, r)
  | r => (10, r)

/-- The value of a digit in a base up to sixteen. -/
def digitValue? (base : Nat) (c : Char) : Option Nat :=
  if c.isDigit then some (c.toNat - '0'.toNat)
  else if base ≤ 10 then none
  else if 'a' ≤ c ∧ c ≤ 'f' then some (c.toNat - 'a'.toNat + 10)
  else if 'A' ≤ c ∧ c ≤ 'F' then some (c.toNat - 'A'.toNat + 10)
  else none

/-- The value of the digits at the front of a text, and the text after them. `value` is that
of the digits so far. -/
def readDigits (base : Nat) (value : Option Nat) : List Char → Option (Nat × List Char)
  | [] => value.map (·, [])
  | c :: rest =>
    if c = '_' then readDigits base value rest
    else
      match digitValue? base c with
      | some d =>
        if d < base then readDigits base (some (value.getD 0 * base + d)) rest else none
      | none => value.map (·, c :: rest)

/-- A character that continues an identifier and cannot begin one. -/
def onlyContinues (c : Char) : Bool :=
  Text.isIdentifierPart c && !Text.isIdentifierStart c

/-- The text after decimal digits is an exponent, which makes the literal a floating-point
number: an `e` and digits, unless these continue as a longer name. -/
def isExponent : List Char → Bool
  | c :: rest =>
    let inExponent (d : Char) : Bool := d.isDigit || d == '_'
    (c == 'e' || c == 'E') && (rest.takeWhile inExponent).any Char.isDigit &&
      !(rest.dropWhile inExponent).head?.any onlyContinues
  | [] => false

/-- What stands after the digits can be a suffix, or there is none. -/
def isSuffix (base : Nat) (s : List Char) : Bool :=
  !s.head?.any onlyContinues && !(base == 10 && isExponent s)

/-- The integer of a literal at the front of a text, and the text after it. -/
def readFront? (s : List Char) : Option (Nat × List Char) :=
  if s.head?.any Char.isDigit then
    let (base, digits) := splitBase s
    match readDigits base none digits with
    | some (n, rest) =>
      if isSuffix base rest then some (n, rest.dropWhile Text.isIdentifierPart) else none
    | none => none
  else none

/-- The text without a byte order mark at its front. -/
def dropByteOrderMark : List Char → List Char
  | c :: rest => if c.toNat = 0xFEFF then rest else c :: rest
  | [] => []

/-- The integer of a literal, without regard to what may stand around it. -/
def readLiteral? (text : String) : Option Nat :=
  match (Spacing.skipFront (dropByteOrderMark text.toList)).bind readFront? with
  | some (n, rest) => if Spacing.isEmpty rest then some n else none
  | none => none

end RecordQuery.Naming.IntegerLiteral
