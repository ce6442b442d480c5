import RecordQuery.Text.Hidden

/-!
# Quoted Text

Text between double quotes, in which every character shows: the quote, the backslash and
the common controls have short escapes, and every other hidden character is written by its
hexadecimal number.

## Main Definitions

* `hexDigits` — a number in lower-case hexadecimal, without leading zeros
* `quote` — the quoted form of a text
-/

namespace RecordQuery.Text

/-- A number in lower-case hexadecimal, without leading zeros. -/
def hexDigits (n : Nat) : List Char :=
  Nat.toDigits 16 n

/-- The quoted form of one character. -/
def quoteChar (c : Char) : List Char :=
  if c = '"' then ['\\', '"']
  else if c = '\\' then ['\\', '\\']
  else if c = '\n' then ['\\', 'n']
  else if c = '\r' then ['\\', 'r']
  else if c = '\t' then ['\\', 't']
  else if c = '\x00' then ['\\', '0']
  else if isHidden c then ['\\', 'u', '\x7b'] ++ hexDigits c.toNat ++ ['\x7d']
  else [c]

/-- A text between double quotes with its hidden characters escaped. -/
def quote (s : String) : String :=
  String.ofList ('"' :: s.toList.flatMap quoteChar ++ ['"'])

end RecordQuery.Text
