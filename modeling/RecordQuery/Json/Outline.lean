/-!
# Outlines

An outline says which parts of a JSON document its reader looks at. A reader of a structure
looks at the entries of the keys it knows and passes over all others, so that what stands
there need not make sense.

## Main Definitions

* `Json.Outline` — the parts of a document that are looked at
* `Outline.item`, `Outline.entry?` — the outlines of the parts
-/

namespace RecordQuery.Json

/-- The parts of a document that are looked at: all of it, every item of a list under one
outline, or the parts of a structure, each under the keys it may have. -/
inductive Outline
  | whole
  | items (each : Outline)
  | parts (known : List (List String × Outline))

namespace Outline

/-- The outline of an item of an array. A structure that is written as an array has its
parts in order. -/
def item : Outline → Nat → Outline
  | whole, _ => whole
  | items each, _ => each
  | parts known, i =>
    match known[i]? with
    | some (_, o) => o
    | none => whole

/-- The outline of an entry of an object, if it is looked at. -/
def entry? : Outline → String → Option Outline
  | parts known, key => (known.find? fun part => part.1.contains key).map (·.2)
  | _, _ => some whole

end Outline

end RecordQuery.Json
