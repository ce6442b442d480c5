import RecordQuery.Number.Shortest

/-!
# Layouts of Decimals

How the digits of a floating-point number are set out as text.

## Main Definitions

* `DecimalLayout` — the decisions a text format makes
* `DecimalLayout.text` — the text of a floating-point number
-/

namespace RecordQuery

/-- The decisions of a text format for floating-point numbers. -/
structure DecimalLayout where
  /-- Exponents of the leading digit for which the digits are written without an exponent. -/
  isPlain : Int → Bool
  /-- Whether an integer in plain form ends in `.0`. -/
  wholePoint : Bool
  /-- Whether the greater of two equally near shortest decimals is taken. -/
  tieUp : Bool
  nanText : String
  infinityText : String

namespace DecimalLayout

/-- Digits with a point after the first `before` of them, and zeros where there are none. -/
def plain (wholePoint : Bool) (digits : List Char) (before : Int) : List Char :=
  match before with
  | .ofNat 0 => ['0', '.'] ++ digits
  | .negSucc k => ['0', '.'] ++ List.replicate (k + 1) '0' ++ digits
  | .ofNat b =>
    if b < digits.length then digits.take b ++ '.' :: digits.drop b
    else
      digits ++ List.replicate (b - digits.length) '0' ++
        (if wholePoint then ['.', '0'] else [])

/-- One digit, a point before the others, and a signed exponent. -/
def scientific (digits : List Char) (exponent : Int) : List Char :=
  let mantissa :=
    match digits with
    | d :: r@(_ :: _) => d :: '.' :: r
    | ds => ds
  let sign := if exponent < 0 then '-' else '+'
  mantissa ++ 'e' :: sign :: Nat.toDigits 10 exponent.natAbs

/-- The text of a decimal. -/
def digitText (f : DecimalLayout) (d : Decimal) : List Char :=
  let digits := Nat.toDigits 10 d.digits
  let before := (digits.length : Int) + d.exponent
  if f.isPlain (before - 1) then plain f.wholePoint digits before
  else scientific digits (before - 1)

/-- The text of a floating-point number. -/
def text (f : DecimalLayout) (x : Binary64) : String :=
  if x.isNaN then f.nanText
  else
    let size :=
      if x.isFinite then String.ofList (f.digitText (x.shortest f.tieUp)) else f.infinityText
    if x.negative then "-" ++ size else size

end DecimalLayout

end RecordQuery
