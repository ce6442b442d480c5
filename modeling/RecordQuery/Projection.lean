import RecordQuery.Compilation

/-!
# Projections

A projection keeps the cells of some fields; all other cells become those of the blank
record.

## Main Definitions

* `Projection` — the selected fields
* `Projection.resolve` — the projection on the fields of some names
* `Projection.apply` — the projected record
-/

namespace RecordQuery

/-- A selection of fields, each once, in the order of their first mention. -/
structure Projection where
  fields : List Field

namespace Projection

/-- Add the field of a name to a selection, unless it is there. -/
def add (t : Table) (selected : List Field) (name : String) :
    Except QueryError (List Field) :=
  match t.resolve name with
  | .ok (f, _) => .ok (if f ∈ selected then selected else selected ++ [f])
  | .error e => .error e

/-- The projection on the fields of some names. -/
def resolve (t : Table) (names : List String) : Except QueryError Projection :=
  (names.foldlM (add t) []).map fun fields => ⟨fields⟩

/-- The registered names of the selected fields. -/
def names (p : Projection) : List String :=
  p.fields.map (·.name)

/-- The target with the source's cell in a slot, if the source has one. -/
def copySlot (slot : Nat) (source target : Record) : Record :=
  match source[slot]? with
  | some cell => target.set slot cell
  | none => target

/-- The blank record with the cells of the selected fields. -/
def apply (t : Table) (p : Projection) (r : Record) : Record :=
  p.fields.foldl (fun target f => copySlot f.slot r target) t.blank

/-- The written form of the projection. -/
def describe (p : Projection) : String :=
  "Projection([" ++ Value.separated (p.names.map Text.quote) ++ "])"

/-- The written form of the selected fields. -/
def describeFields (p : Projection) : String :=
  "[" ++ Value.separated (p.fields.map Field.describe) ++ "]"

end Projection

end RecordQuery
