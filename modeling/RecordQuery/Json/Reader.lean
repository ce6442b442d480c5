import RecordQuery.Json.Document
import RecordQuery.Json.Outline

/-!
# Reading JSON

The value of a JSON text. Refused are numbers that are too large, strings with a surrogate
alone, and values nested more than 127 deep; but only where an outline looks, since an entry
that is passed over is not read at all. Keys are read to know which entries those are.

## Main Definitions

* `Json.Document.value?` — the value of a document under an outline
* `Json.read` — the value of a text
* `Json.readAs` — the value of a text under an outline
-/

namespace RecordQuery.Json

namespace Piece

/-- The character of a 16-bit unit that is no surrogate. -/
def unitChar? (n : Nat) : Option Char :=
  if 0xD800 ≤ n ∧ n < 0xE000 then none else some (Char.ofNat n)

/-- The character of a pair of surrogates. -/
def pairChar? (high low : Nat) : Option Char :=
  if 0xD800 ≤ high ∧ high < 0xDC00 ∧ 0xDC00 ≤ low ∧ low < 0xE000 then
    some (Char.ofNat (0x10000 + (high - 0xD800) * 0x400 + (low - 0xDC00)))
  else none

/-- The characters that pieces spell; a surrogate counts only together with its partner. -/
def chars? : List Piece → Option (List Char)
  | [] => some []
  | char c :: r => (chars? r).map (c :: ·)
  | unit n :: r =>
    match unitChar? n with
    | some c => (chars? r).map (c :: ·)
    | none =>
      match r with
      | unit m :: r =>
        match pairChar? n m with
        | some c => (chars? r).map (c :: ·)
        | none => none
      | _ => none

/-- The string that pieces spell. -/
def text? (pieces : List Piece) : Option String :=
  (chars? pieces).map String.ofList

end Piece

namespace Document

mutual

/-- The value of a document that may nest `depth` levels. Entries outside the outline are
left out. -/
def value? (depth : Nat) (outline : Outline) : Document → Option Json
  | null => some .null
  | bool b => some (.bool b)
  | number n => n.value?
  | string pieces => (Piece.text? pieces).map .string
  | array items =>
    match depth with
    | 0 => none
    | depth + 1 => (itemValues? depth outline 0 items).map .array
  | object entries =>
    match depth with
    | 0 => none
    | depth + 1 => (entryValues? depth outline entries).map .object

/-- The values of the items of an array from a position on. -/
def itemValues? (depth : Nat) (outline : Outline) (i : Nat) :
    List Document → Option (List Json)
  | [] => some []
  | d :: rest => do
    let v ← d.value? depth (outline.item i)
    let values ← itemValues? depth outline (i + 1) rest
    return v :: values

/-- The entries of an object that the outline looks at, with their values. -/
def entryValues? (depth : Nat) (outline : Outline) :
    List (List Piece × Document) → Option (List (String × Json))
  | [] => some []
  | (key, d) :: rest => do
    let key ← Piece.text? key
    match outline.entry? key with
    | none => entryValues? depth outline rest
    | some o =>
      let v ← d.value? depth o
      let entries ← entryValues? depth outline rest
      return (key, v) :: entries

end

end Document

/-- The greatest depth of nesting. -/
def maxDepth : Nat := 127

/-- The value of a text under an outline. -/
def readAs (outline : Outline) (text : String) : Option Json :=
  (Document.ofText? text).bind (Document.value? maxDepth outline)

/-- The value of a text, all of which is looked at. -/
def read (text : String) : Option Json :=
  readAs .whole text

end RecordQuery.Json
