/-!
# Blanks

White space as Unicode has it, and texts without the blanks around them.

## Main Definitions

* `isBlank` — the characters with the white-space property
* `trimStart`, `trim` — a text without its outer blanks
-/

namespace RecordQuery.Text

/-- The characters with the white-space property. -/
def isBlank (c : Char) : Bool :=
  let n := c.toNat
  (0x9 ≤ n && n ≤ 0xD) || n == 0x20 || n == 0x85 || n == 0xA0 || n == 0x1680 ||
    (0x2000 ≤ n && n ≤ 0x200A) || n == 0x2028 || n == 0x2029 || n == 0x202F ||
    n == 0x205F || n == 0x3000

/-- The text from its first character that is no blank. -/
def trimStart (s : List Char) : List Char :=
  s.dropWhile isBlank

/-- The text without the blanks at its two ends. -/
def trim (s : List Char) : List Char :=
  (trimStart (trimStart s).reverse).reverse

end RecordQuery.Text
