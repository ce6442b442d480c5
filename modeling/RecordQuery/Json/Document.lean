import RecordQuery.Json.Numeral

/-!
# JSON Documents

A document is a JSON text as it is written: numbers as digits and strings as the pieces they
are spelled with. Every text that follows the grammar is a document, whatever its depth, also
where it spells a number that is too large or half of a character.

## Main Definitions

* `Json.Piece` — what a string is spelled with
* `Json.Document` — the written values
* `Json.Document.ofText?` — the document of a text
-/

namespace RecordQuery.Json

/-- A piece of a string: a character, or a 16-bit unit that is given by its number. -/
inductive Piece
  | char (c : Char)
  | unit (n : Nat)

/-- A written value. -/
inductive Document
  | null
  | bool (b : Bool)
  | number (n : Numeral)
  | string (pieces : List Piece)
  | array (items : List Document)
  | object (entries : List (List Piece × Document))

/-- The blanks of JSON. -/
def isGap (c : Char) : Bool :=
  c == ' ' || c == '\n' || c == '\t' || c == '\r'

/-- The text from its first character that is no blank. -/
def skipGaps (s : List Char) : List Char :=
  s.dropWhile isGap

/-- The text after a word at its front. -/
def dropWord : List Char → List Char → Option (List Char)
  | [], s => some s
  | w :: ws, c :: r => if w = c then dropWord ws r else none
  | _ :: _, [] => none

namespace Piece

/-- The value of a hexadecimal digit. -/
def hexValue? (c : Char) : Option Nat :=
  if c.isDigit then some (c.toNat - '0'.toNat)
  else if 'a' ≤ c ∧ c ≤ 'f' then some (c.toNat - 'a'.toNat + 10)
  else if 'A' ≤ c ∧ c ≤ 'F' then some (c.toNat - 'A'.toNat + 10)
  else none

/-- The value of four hexadecimal digits. -/
def hexUnit? (a b c d : Char) : Option Nat := do
  let a ← hexValue? a
  let b ← hexValue? b
  let c ← hexValue? c
  let d ← hexValue? d
  return ((a * 16 + b) * 16 + c) * 16 + d

/-- The character that a short escape stands for. -/
def escaped? : Char → Option Char
  | '"' => some '"'
  | '\\' => some '\\'
  | '/' => some '/'
  | 'b' => some '\x08'
  | 'f' => some '\x0c'
  | 'n' => some '\n'
  | 'r' => some '\r'
  | 't' => some '\t'
  | _ => none

/-- The pieces of a string up to its closing quote, and the text after that. -/
def readAll : List Char → Option (List Piece × List Char)
  | [] => none
  | '"' :: r => some ([], r)
  | '\\' :: 'u' :: a :: b :: c :: d :: r =>
    match hexUnit? a b c d with
    | some n => (readAll r).map fun (pieces, rest) => (unit n :: pieces, rest)
    | none => none
  | '\\' :: c :: r =>
    match escaped? c with
    | some c => (readAll r).map fun (pieces, rest) => (char c :: pieces, rest)
    | none => none
  | c :: r =>
    if c.toNat < 0x20 then none
    else (readAll r).map fun (pieces, rest) => (char c :: pieces, rest)

end Piece

namespace Document

mutual

/-- A value at the front of a text. -/
def readValue : (fuel : Nat) → List Char → Option (Document × List Char)
  | 0, _ => none
  | fuel + 1, s =>
    match skipGaps s with
    | [] => none
    | '"' :: r => (Piece.readAll r).map fun (pieces, rest) => (string pieces, rest)
    | '[' :: r =>
      match skipGaps r with
      | ']' :: r => some (array [], r)
      | r => (readItems fuel r).map fun (items, rest) => (array items, rest)
    | '\x7b' :: r =>
      match skipGaps r with
      | '\x7d' :: r => some (object [], r)
      | r => (readEntries fuel r).map fun (entries, rest) => (object entries, rest)
    | 'n' :: r => (dropWord "ull".toList r).map fun rest => (null, rest)
    | 't' :: r => (dropWord "rue".toList r).map fun rest => (bool true, rest)
    | 'f' :: r => (dropWord "alse".toList r).map fun rest => (bool false, rest)
    | r => (Numeral.read r).map fun (n, rest) => (number n, rest)

/-- The items of an array up to its closing bracket. -/
def readItems : (fuel : Nat) → List Char → Option (List Document × List Char)
  | 0, _ => none
  | fuel + 1, s =>
    match readValue fuel s with
    | none => none
    | some (item, r) =>
      match skipGaps r with
      | ',' :: r => (readItems fuel r).map fun (items, rest) => (item :: items, rest)
      | ']' :: r => some ([item], r)
      | _ => none

/-- The entries of an object up to its closing brace. -/
def readEntries : (fuel : Nat) → List Char →
    Option (List (List Piece × Document) × List Char)
  | 0, _ => none
  | fuel + 1, s =>
    match skipGaps s with
    | '"' :: r =>
      match Piece.readAll r with
      | none => none
      | some (key, r) =>
        match skipGaps r with
        | ':' :: r =>
          match readValue fuel r with
          | none => none
          | some (value, r) =>
            match skipGaps r with
            | ',' :: r =>
              (readEntries fuel r).map fun (entries, rest) => ((key, value) :: entries, rest)
            | '\x7d' :: r => some ([(key, value)], r)
            | _ => none
        | _ => none
    | _ => none

end

/-- The document of a text that holds nothing else. Two steps per character are enough. -/
def ofText? (text : String) : Option Document :=
  let s := text.toList
  match readValue (2 * s.length + 2) s with
  | some (d, rest) => if (skipGaps rest).isEmpty then some d else none
  | none => none

end Document

end RecordQuery.Json
