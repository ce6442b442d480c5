import RecordQuery.Naming.Rule

/-!
# Attributes

The `filter` attributes of a declaration, of its fields and of its variants. Of several such
attributes on one item the first alone is read.

## Main Definitions

* `Entry`, `Attribute` — attributes as they are written
* `NamingError` — what can be wrong with a declaration
* `ItemOptions.read`, `ContainerOptions.read` — the meaning of the attributes
-/

namespace RecordQuery.Naming

/-- What can be wrong with a declaration. -/
inductive NamingError
  | unknownRule (name : String)
  | unknownItemEntry
  | unknownContainerEntry
  | notText (key : String)
  | noParentheses (name : String)
  | genericStruct
  | notStruct
  | unnamedFields
  | duplicateName (name : String)
  | genericEnum
  | notEnum
  | noVariants
  | variantWithData
  | skippedVariant
  | notIntegerLiteral
  | literalTooLarge
  deriving DecidableEq

/-- The wording of the error. -/
def NamingError.message : NamingError → String
  | unknownRule name =>
    "unknown rename rule: '" ++ name ++
      "'. Expected one of: PascalCase, camelCase, lowercase, snake_case"
  | unknownItemEntry => "unknown filter attribute. Expected: skip or rename = \"...\""
  | unknownContainerEntry => "unknown filter attribute. Expected: rename_all = \"...\""
  | notText key => key ++ " must be a string literal"
  | noParentheses name =>
    "expected attribute arguments in parentheses: #[" ++ name ++ "(...)]"
  | genericStruct => "Filterable cannot be derived for generic structs"
  | notStruct => "Filterable can only be derived for structs"
  | unnamedFields => "Filterable can only be derived for structs with named fields"
  | duplicateName name => "duplicate filter field name '" ++ name ++ "'"
  | genericEnum => "FilterEnum cannot be derived for generic enums"
  | notEnum => "FilterEnum can only be derived for enums"
  | noVariants => "FilterEnum needs at least one variant"
  | variantWithData => "FilterEnum variants cannot carry data"
  | skippedVariant => "enum variants cannot be skipped"
  | notIntegerLiteral => "FilterEnum discriminants must be non-negative integer literals"
  | literalTooLarge => "number too large to fit in target type"

/-- One entry between the parentheses of an attribute. An assigned value is a text or, as
`none`, any other literal. -/
inductive Entry
  | word (name : String)
  | assign (key : String) (value : Option String)
  | call (name : String)
  deriving DecidableEq

/-- An attribute: its name and its entries, unless it has no parentheses. -/
structure Attribute where
  name : String
  entries : Option (List Entry)
  deriving DecidableEq

/-- The entries of the first `filter` attribute; none if there is no such attribute. -/
def filterEntries : List Attribute → Except NamingError (List Entry)
  | [] => .ok []
  | a :: rest =>
    if a.name = "filter" then
      match a.entries with
      | some entries => .ok entries
      | none => .error (.noParentheses a.name)
    else filterEntries rest

/-- A value that must be a text. -/
def requireText (key : String) : Option String → Except NamingError String
  | some s => .ok s
  | none => .error (.notText key)

/-- The rule of a name. -/
def Rule.parse (name : String) : Except NamingError Rule :=
  match Rule.parse? name with
  | some rule => .ok rule
  | none => .error (.unknownRule name)

/-- The meaning of the attributes of a field or variant. -/
structure ItemOptions where
  skip : Bool := false
  rename : Option String := none
  deriving DecidableEq

namespace ItemOptions

/-- Read one entry; a later one takes the place of an earlier one. -/
def step (o : ItemOptions) : Entry → Except NamingError ItemOptions
  | .word "skip" => .ok { o with skip := true }
  | .assign "rename" value => do
    let name ← requireText "rename" value
    return { o with rename := some name }
  | _ => .error .unknownItemEntry

/-- The meaning of some attributes. -/
def read (attributes : List Attribute) : Except NamingError ItemOptions := do
  (← filterEntries attributes).foldlM step {}

end ItemOptions

/-- The meaning of the attributes of a declaration. -/
structure ContainerOptions where
  renameAll : Option Rule := none
  deriving DecidableEq

namespace ContainerOptions

/-- Read one entry; a later one takes the place of an earlier one. -/
def step (_ : ContainerOptions) : Entry → Except NamingError ContainerOptions
  | .assign "rename_all" value => do
    let rule ← Rule.parse (← requireText "rename_all" value)
    return ⟨some rule⟩
  | _ => .error .unknownContainerEntry

/-- The meaning of some attributes. -/
def read (attributes : List Attribute) : Except NamingError ContainerOptions := do
  (← filterEntries attributes).foldlM step {}

/-- The registered name of an identifier. -/
def nameFor (o : ContainerOptions) (ident : String) : String :=
  match o.renameAll with
  | some rule => rule.apply ident
  | none => ident

end ContainerOptions

end RecordQuery.Naming
