import RecordQuery.Text.Casing.Classes
import RecordQuery.Text.Casing.Shifts

/-!
# Letter Case

Full case mapping of Unicode text: a character may map to several, and a capital sigma at
the end of a word becomes the final form of the small one.

## Main Definitions

* `isUpper`, `isLower`, `isCased`, `isIgnorable` — the case classes of a character
* `upperOf`, `lowerOf` — the case mappings of one character
* `lower` — a text in lower case
-/

namespace RecordQuery.Text

open Casing

/-- An upper-case character. -/
def isUpper (c : Char) : Bool :=
  upperRuns.any (·.covers c.toNat)

/-- A lower-case character. -/
def isLower (c : Char) : Bool :=
  lowerRuns.any (·.covers c.toNat)

/-- A character of some case. -/
def isCased (c : Char) : Bool :=
  isUpper c || isLower c || titleRuns.any (·.covers c.toNat)

/-- A character that is passed over when the ends of a word are sought. -/
def isIgnorable (c : Char) : Bool :=
  ignorableRanges.any fun r => r.1 ≤ c.toNat && c.toNat ≤ r.2

/-- The image of a character under a table of long and short mappings. -/
def mapCase (long : List (Nat × List Char)) (shifts : List Shift) (c : Char) : List Char :=
  match long.lookup c.toNat with
  | some image => image
  | none =>
    match shifts.find? (·.run.covers c.toNat) with
    | some s => [Char.ofNat (c.toNat + s.offset).toNat]
    | none => [c]

/-- The upper-case form of one character. -/
def upperOf (c : Char) : List Char :=
  mapCase longUppers upperShifts c

/-- The lower-case form of one character that stands alone. -/
def lowerOf (c : Char) : List Char :=
  mapCase longLowers lowerShifts c

/-- The nearest character that is not ignorable exists and is cased. -/
def meetsCased (s : List Char) : Bool :=
  match s.dropWhile isIgnorable with
  | [] => false
  | c :: _ => isCased c

/-- The lower-case form of `after`, whose preceding text in reverse is `before`. -/
def lowerAfter : List Char → List Char → List Char
  | _, [] => []
  | before, c :: after =>
    let image :=
      if c = 'Σ' then
        if meetsCased before && !meetsCased after then ['ς'] else ['σ']
      else lowerOf c
    image ++ lowerAfter (c :: before) after

/-- A text in lower case. -/
def lower (s : String) : String :=
  String.ofList (lowerAfter [] s.toList)

end RecordQuery.Text
