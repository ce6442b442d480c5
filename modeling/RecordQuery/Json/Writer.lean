import RecordQuery.Json.Basic
import RecordQuery.Number.Layout
import RecordQuery.Text.Quoted

/-!
# Writing JSON

Two layouts of one value: the compact one has no blanks at all, the indented one puts every
item and entry on a line of its own, two blanks deeper than what encloses it.

## Main Definitions

* `Json.layout` — floating-point numbers in JSON text
* `Json.compact` — the text without blanks
* `Json.indented` — the text over several lines
-/

namespace RecordQuery.Json

/-- Floating-point numbers in JSON text show that they are no integers: by a fraction, or by
an exponent when they are large or small. -/
def layout : DecimalLayout where
  isPlain e := -5 ≤ e && e < 16
  wholePoint := true
  tieUp := false
  nanText := "null"
  infinityText := "null"

/-- A character of a string; the quote, the backslash and controls are escaped. -/
def escapeChar (c : Char) : List Char :=
  if c = '"' then ['\\', '"']
  else if c = '\\' then ['\\', '\\']
  else if c = '\x08' then ['\\', 'b']
  else if c = '\x0c' then ['\\', 'f']
  else if c = '\n' then ['\\', 'n']
  else if c = '\r' then ['\\', 'r']
  else if c = '\t' then ['\\', 't']
  else if c.toNat < 0x20 then
    let digits := Text.hexDigits c.toNat
    ['\\', 'u'] ++ List.replicate (4 - digits.length) '0' ++ digits
  else [c]

/-- A string between double quotes. -/
def stringText (s : String) : List Char :=
  '"' :: s.toList.flatMap escapeChar ++ ['"']

/-- The text of a number. -/
def floatText (x : Binary64) : List Char :=
  (layout.text x).toList

/-- The text of a truth value. -/
def boolText (b : Bool) : List Char :=
  (if b then "true" else "false").toList

/-- A line break before text at some depth. -/
def lineBreak (depth : Nat) : List Char :=
  '\n' :: List.replicate (2 * depth) ' '

mutual

/-- The text of a value without blanks. -/
def compact : Json → List Char
  | null => "null".toList
  | bool b => boolText b
  | integer n => (toString n).toList
  | float x => floatText x
  | string s => stringText s
  | array items => '[' :: compactItems items ++ [']']
  | object entries => '\x7b' :: compactEntries entries ++ ['\x7d']

/-- The items of an array with commas between them. -/
def compactItems : List Json → List Char
  | [] => []
  | [v] => v.compact
  | v :: rest => v.compact ++ ',' :: compactItems rest

/-- The entries of an object with commas between them. -/
def compactEntries : List (String × Json) → List Char
  | [] => []
  | [(k, v)] => stringText k ++ ':' :: v.compact
  | (k, v) :: rest => stringText k ++ ':' :: v.compact ++ ',' :: compactEntries rest

end

mutual

/-- The text of a value over several lines, at a depth. -/
def indentedAt (depth : Nat) : Json → List Char
  | null => "null".toList
  | bool b => boolText b
  | integer n => (toString n).toList
  | float x => floatText x
  | string s => stringText s
  | array [] => ['[', ']']
  | array items => '[' :: indentedItems (depth + 1) items ++ lineBreak depth ++ [']']
  | object [] => ['\x7b', '\x7d']
  | object entries =>
    '\x7b' :: indentedEntries (depth + 1) entries ++ lineBreak depth ++ ['\x7d']

/-- The items of an array, each on a line of its own. -/
def indentedItems (depth : Nat) : List Json → List Char
  | [] => []
  | [v] => lineBreak depth ++ v.indentedAt depth
  | v :: rest => lineBreak depth ++ v.indentedAt depth ++ ',' :: indentedItems depth rest

/-- The entries of an object, each on a line of its own. -/
def indentedEntries (depth : Nat) : List (String × Json) → List Char
  | [] => []
  | [(k, v)] => lineBreak depth ++ stringText k ++ ':' :: ' ' :: v.indentedAt depth
  | (k, v) :: rest =>
    lineBreak depth ++ stringText k ++ ':' :: ' ' :: v.indentedAt depth ++
      ',' :: indentedEntries depth rest

end

/-- The text of a value without blanks. -/
def text (v : Json) : String :=
  String.ofList v.compact

/-- The text of a value over several lines. -/
def indented (v : Json) : String :=
  String.ofList (v.indentedAt 0)

end RecordQuery.Json
