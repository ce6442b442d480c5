/-!
# Words

Integers of limited width, and the integers that have a place among them.

## Main Definitions

* `signed64?`, `unsigned64?`, `unsigned32?` — the word with the value of an integer
* `saturate64` — the signed word nearest to an integer
-/

namespace RecordQuery

/-- The least signed 64-bit integer. -/
def leastSigned64 : Int := -9223372036854775808

/-- The greatest signed 64-bit integer. -/
def greatestSigned64 : Int := 9223372036854775807

/-- The signed 64-bit integer with the value of an integer. -/
def signed64? (n : Int) : Option Int64 :=
  if leastSigned64 ≤ n ∧ n ≤ greatestSigned64 then some (.ofInt n) else none

/-- The unsigned 64-bit integer with the value of an integer. -/
def unsigned64? (n : Int) : Option UInt64 :=
  if 0 ≤ n ∧ n < UInt64.size then some (.ofNat n.toNat) else none

/-- The unsigned 32-bit integer with the value of an integer. -/
def unsigned32? (n : Int) : Option UInt32 :=
  if 0 ≤ n ∧ n < UInt32.size then some (.ofNat n.toNat) else none

/-- The signed 64-bit integer nearest to an integer. -/
def saturate64 (n : Int) : Int64 :=
  .ofInt (max leastSigned64 (min greatestSigned64 n))

end RecordQuery
