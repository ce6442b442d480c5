import RecordQuery.Text.Casing

/-!
# Naming Rules

How an identifier becomes a registered name. An identifier is a row of words, separated by
underscores, by hyphens, or by a capital after a small letter or a digit.

## Main Definitions

* `Rule` — the four conventions
* `splitWords` — the words of an identifier
* `Rule.apply` — the name by a convention
* `constantName` — the name of the constant that holds a registered name
-/

namespace RecordQuery.Naming

/-- A naming convention. -/
inductive Rule
  | pascalCase
  | camelCase
  | lowercase
  | snakeCase
  deriving DecidableEq

/-- What stands between words. -/
def isSeparator (c : Char) : Bool :=
  c == '_' || c == '-'

/-- A capital after such a character begins a new word. -/
def endsWord (c : Char) : Bool :=
  Text.isLower c || c.isDigit

/-- The words of the rest of an identifier, whose word so far is `current`. `boundary` tells
that a capital would begin a new word. -/
def splitFrom (current : List Char) (boundary : Bool) : List Char → List (List Char)
  | [] => if current.isEmpty then [] else [current]
  | c :: rest =>
    if isSeparator c then
      if current.isEmpty then splitFrom [] false rest else current :: splitFrom [] false rest
    else if Text.isUpper c && boundary && !current.isEmpty then
      current :: splitFrom [c] (endsWord c) rest
    else splitFrom (current ++ [c]) (endsWord c) rest

/-- The words of an identifier; none of them is empty. -/
def splitWords (name : List Char) : List (List Char) :=
  splitFrom [] false name

/-- The word with its first character in upper case. -/
def capitalize : List Char → List Char
  | [] => []
  | c :: rest => Text.upperOf c ++ rest

/-- A word in lower case. -/
def lowerWord (word : List Char) : List Char :=
  Text.lowerAfter [] word

/-- Words with underscores between them. -/
def joinWords : List (List Char) → List Char
  | [] => []
  | [w] => w
  | w :: rest => w ++ '_' :: joinWords rest

namespace Rule

/-- The rule of a name. -/
def parse? : String → Option Rule
  | "PascalCase" => some pascalCase
  | "camelCase" => some camelCase
  | "lowercase" => some lowercase
  | "snake_case" => some snakeCase
  | _ => none

/-- The characters of the name that a rule makes of an identifier. -/
def rename (rule : Rule) (name : List Char) : List Char :=
  match rule with
  | pascalCase => (splitWords name).flatMap capitalize
  | camelCase =>
    match splitWords name with
    | [] => []
    | w :: rest => lowerWord w ++ rest.flatMap capitalize
  | lowercase => lowerWord name
  | snakeCase => joinWords ((splitWords name).map lowerWord)

/-- The name that a rule makes of an identifier. -/
def apply (rule : Rule) (name : String) : String :=
  String.ofList (rule.rename name.toList)

end Rule

/-- The characters of a constant's name. A capital after any other letter gets an underscore
before it; only ASCII letters are put in upper case. -/
def constantFrom (boundary : Bool) : List Char → List Char
  | [] => []
  | c :: rest =>
    if Text.isUpper c then
      if boundary then '_' :: c :: constantFrom false rest else c :: constantFrom false rest
    else if isSeparator c then '_' :: constantFrom false rest
    else c.toUpper :: constantFrom true rest

/-- The name of the constant that holds the registered name of a field. -/
def constantName (name : String) : String :=
  String.ofList (constantFrom false name.toList)

end RecordQuery.Naming
