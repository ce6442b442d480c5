import RecordQuery.Text.Identifier.Parts
import RecordQuery.Text.Identifier.Starts

/-!
# Identifiers

The characters of identifiers, as Unicode 17 has them, with the underscore as a beginning.

## Main Definitions

* `isIdentifierStart`, `isIdentifierPart` — what an identifier begins with and consists of
-/

namespace RecordQuery.Text

open Identifier

/-- A code point lies in one of some closed ranges. -/
def Identifier.covers (ranges : List (Nat × Nat)) (n : Nat) : Bool :=
  ranges.any fun r => r.1 ≤ n && n ≤ r.2

/-- A character that an identifier can begin with. -/
def isIdentifierStart (c : Char) : Bool :=
  c.isAlpha || c == '_' || (0x80 ≤ c.toNat && covers startRanges c.toNat)

/-- A character that an identifier can hold after its first. -/
def isIdentifierPart (c : Char) : Bool :=
  c.isDigit || isIdentifierStart c || (0x80 ≤ c.toNat && covers partRanges c.toNat)

end RecordQuery.Text
