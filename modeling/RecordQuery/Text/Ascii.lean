/-!
# Case-Insensitive ASCII

Two texts agree up to ASCII case when they have the same length and their characters
differ at most between `a`–`z` and `A`–`Z`.

## Main Definitions

* `fold` — the ASCII letters in lower case, all else unchanged
* `sameFolded` — equality up to ASCII case
* `isAscii` — a text of code points below 128
-/

namespace RecordQuery.Text.Ascii

/-- The ASCII letters in lower case, all else unchanged. -/
def fold (s : String) : List Char :=
  s.toList.map Char.toLower

/-- Equality up to ASCII case. -/
def sameFolded (s t : String) : Bool :=
  fold s == fold t

/-- Every character is below 128. -/
def isAscii (s : String) : Bool :=
  s.toList.all fun c => c.toNat < 128

end RecordQuery.Text.Ascii
