import RecordQuery.Naming.Attribute
import RecordQuery.Naming.IntegerLiteral
import RecordQuery.Number.Words
import RecordQuery.Text.Ascii

/-!
# Declarations

The tables that follow from the declaration of a record type or of an enumeration: the
registered names of its fields, with the constants that hold them, or the names and
discriminants of its variants.

## Main Definitions

* `Declaration` — a record type or an enumeration as it is declared
* `Declaration.fieldTable` — the fields of a record type
* `Declaration.variantTable` — the variants of an enumeration
-/

namespace RecordQuery.Naming

/-- A declared field. -/
structure FieldDecl where
  name : String
  attributes : List Attribute

/-- A declared variant. Its discriminant is the text of an expression, if it has one. -/
structure VariantDecl where
  name : String
  discriminant : Option String
  carriesData : Bool
  attributes : List Attribute

/-- The kinds of declarations. -/
inductive Shape
  | named (fields : List FieldDecl)
  | tuple
  | unit
  | union
  | enum (variants : List VariantDecl)

/-- A declaration. -/
structure Declaration where
  generic : Bool
  attributes : List Attribute
  shape : Shape

/-- A field in a table: the constant for its name, the registered name, and its position
among the declared fields. -/
structure FieldEntry where
  constant : String
  name : String
  position : Nat
  deriving DecidableEq

/-- A variant in a table: its identifier, the registered name, and its discriminant. -/
structure VariantEntry where
  ident : String
  name : String
  discriminant : UInt32
  deriving DecidableEq

/-- An identifier without the marks that make a keyword an identifier. -/
def plainIdent : List Char → List Char
  | 'r' :: '#' :: rest => plainIdent rest
  | s => s

/-- Add a declared field to a table, unless it is skipped. No two registered names may agree
up to ASCII case. -/
def addField (container : ContainerOptions) (table : List FieldEntry)
    (declared : FieldDecl × Nat) : Except NamingError (List FieldEntry) := do
  let (field, position) := declared
  let options ← ItemOptions.read field.attributes
  if options.skip then return table
  let ident := String.ofList (plainIdent field.name.toList)
  let name := options.rename.getD (container.nameFor ident)
  if table.any fun e => Text.Ascii.sameFolded e.name name then
    .error (.duplicateName name)
  else return table ++ [⟨constantName ident, name, position⟩]

/-- The discriminant that an expression gives. -/
def readDiscriminant (text : String) : Except NamingError UInt32 :=
  match IntegerLiteral.readLiteral? text with
  | some n =>
    match unsigned32? n with
    | some d => .ok d
    | none => .error .literalTooLarge
  | none => .error .notIntegerLiteral

/-- The entries of the remaining variants, the first of which has the discriminant `next` if
it gives none itself. -/
def variantEntries (container : ContainerOptions) (next : UInt32) :
    List VariantDecl → Except NamingError (List VariantEntry)
  | [] => .ok []
  | v :: rest => do
    if v.carriesData then .error .variantWithData
    let options ← ItemOptions.read v.attributes
    if options.skip then .error .skippedVariant
    let discriminant ← match v.discriminant with
      | some text => readDiscriminant text
      | none => .ok next
    let name := options.rename.getD (container.nameFor v.name)
    return ⟨v.name, name, discriminant⟩ ::
      (← variantEntries container (discriminant + 1) rest)

namespace Declaration

/-- The field table of a record type with named fields. -/
def fieldTable (d : Declaration) : Except NamingError (List FieldEntry) :=
  if d.generic then .error .genericStruct
  else
    match d.shape with
    | .named fields => do
      let container ← ContainerOptions.read d.attributes
      fields.zipIdx.foldlM (addField container) []
    | .tuple | .unit => .error .unnamedFields
    | .union | .enum _ => .error .notStruct

/-- The variant table of an enumeration. -/
def variantTable (d : Declaration) : Except NamingError (List VariantEntry) :=
  if d.generic then .error .genericEnum
  else
    match d.shape with
    | .enum [] => .error .noVariants
    | .enum variants => do
      let container ← ContainerOptions.read d.attributes
      variantEntries container 0 variants
    | _ => .error .notEnum

end Declaration

end RecordQuery.Naming
