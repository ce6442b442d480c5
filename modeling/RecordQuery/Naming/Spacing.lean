import RecordQuery.Text.Blank
import RecordQuery.Text.Identifier

/-!
# Spacing

What may stand around the words of a declaration's text: blanks, and comments to the end of
a line or between marks that nest. Some comments are documentation. Those that document what
follows may stand, like attributes in brackets, only in front of something; those that
document what they stand in may stand nowhere here.

## Main Definitions

* `skip` — the text after blanks and comments
* `skipFront` — the text after blanks, comments, documentation and attributes
* `word` — the word that a text consists of
-/

namespace RecordQuery.Naming.Spacing

/-- A blank, or a mark of the direction of writing. -/
def isGap (c : Char) : Bool :=
  Text.isBlank c || c.toNat == 0x200E || c.toNat == 0x200F

/-- What a comment is for: nothing, what follows it, or what it stands in. -/
inductive CommentKind
  | plain
  | outer
  | inner
  deriving DecidableEq

namespace CommentKind

/-- The kind of a comment to the end of its line, by the text after its two slashes. -/
def ofLine : List Char → CommentKind
  | '/' :: '/' :: _ => plain
  | '/' :: _ => outer
  | '!' :: _ => inner
  | _ => plain

/-- The kind of a comment between marks, by the text after the mark that opens it. -/
def ofBlock : List Char → CommentKind
  | '*' :: '*' :: _ => plain
  | '*' :: '/' :: _ => plain
  | '*' :: _ => outer
  | '!' :: _ => inner
  | _ => plain

/-- The comment is passed over, with or without documentation. -/
def isSkipped (documented : Bool) : CommentKind → Bool
  | plain => true
  | outer => documented
  | inner => false

end CommentKind

/-- Where a text goes on: between words, in a comment to the end of its line, or in a comment
between marks that other comments enclose. -/
inductive Place
  | between
  | line
  | block (enclosing : Nat)

/-- The text after blanks and comments, from a place on. A comment that is never closed is
an error. -/
def skipFrom (documented : Bool) : Place → List Char → Option (List Char)
  | .between, '/' :: '/' :: r =>
    if (CommentKind.ofLine r).isSkipped documented then skipFrom documented .line r
    else some ('/' :: '/' :: r)
  | .between, '/' :: '*' :: r =>
    if (CommentKind.ofBlock r).isSkipped documented then skipFrom documented (.block 0) r
    else some ('/' :: '*' :: r)
  | .between, c :: r => if isGap c then skipFrom documented .between r else some (c :: r)
  | .between, [] => some []
  | .line, '\n' :: r => skipFrom documented .between r
  | .line, _ :: r => skipFrom documented .line r
  | .line, [] => some []
  | .block 0, '*' :: '/' :: r => skipFrom documented .between r
  | .block (n + 1), '*' :: '/' :: r => skipFrom documented (.block n) r
  | .block n, '/' :: '*' :: r => skipFrom documented (.block (n + 1)) r
  | .block n, _ :: r => skipFrom documented (.block n) r
  | .block _, [] => none

/-- The text after blanks and comments that are no documentation. -/
def skip (s : List Char) : Option (List Char) :=
  skipFrom false .between s

/-- The text after the bracket that closes an attribute, which other brackets in it enclose.
Brackets between quotes do not count. -/
def afterBracket : (quoted : Bool) → (enclosing : Nat) → List Char → Option (List Char)
  | _, _, [] => none
  | true, n, '\\' :: _ :: r => afterBracket true n r
  | true, n, c :: r => afterBracket (c != '"') n r
  | false, n, '"' :: r => afterBracket true n r
  | false, n, '[' :: r => afterBracket false (n + 1) r
  | false, 0, ']' :: r => some r
  | false, n + 1, ']' :: r => afterBracket false n r
  | false, n, _ :: r => afterBracket false n r

/-- The text after some number of attributes and all that may stand around them. -/
def skipAttributes : (most : Nat) → List Char → Option (List Char)
  | 0, _ => none
  | most + 1, s =>
    match skipFrom true .between s with
    | some ('#' :: r) =>
      match skip r with
      | some ('[' :: r) => (afterBracket false 0 r).bind (skipAttributes most)
      | _ => none
    | rest => rest

/-- The text after blanks, comments, documentation and attributes. A text has fewer
attributes than characters. -/
def skipFront (s : List Char) : Option (List Char) :=
  skipAttributes (s.length + 1) s

/-- The text holds nothing but blanks and comments. -/
def isEmpty (s : List Char) : Bool :=
  skip s == some []

/-- The word that a text consists of, without the blanks and comments around it. A text that
is no word stays as it is. -/
def word (text : String) : String :=
  match skip text.toList with
  | some s =>
    let inWord (c : Char) : Bool := Text.isIdentifierPart c || c == '#'
    if isEmpty (s.dropWhile inWord) then String.ofList (s.takeWhile inWord) else text
  | none => text

end RecordQuery.Naming.Spacing
