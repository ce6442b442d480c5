import RecordQuery.Proofs.Numerals
import RecordQuery.Proofs.Outcome
import RecordQuery.Proofs.SortedJson
import RecordQuery.Wire

/-!
# Requests over the wire

A request is written as a JSON object of six entries and read entry by entry.  Each
reader reads what its writer writes, so that every part comes back as it was; the
values of conditions come back as the JSON they were written as, and predicates,
which have no JSON form, not at all.  `Request.wire` is the request that is read
(`Request.ofJson_toJson`).

The JSON value is the one in memory, whose keys are in order.
-/

namespace RecordQuery

/-! ## Parts -/

namespace Wire

variable {α : Type} {read : Json → Except WireError α}

/-- A list is read back item by item. -/
theorem readList_map {β : Type} {write : β → Json} {g : β → α}
    (h : ∀ x, read (write x) = .ok (g x)) (xs : List β) :
    readList read (.array (xs.map write)) = .ok (xs.map g) := by
  rw [readList, List.mapM_map]
  exact Outcome.mapM_eq_ok_map fun x _ => h x

/-- A part that is not null is read as it would be if it could not be missing. -/
theorem readOptional_some {v : Json} {a : α} (hnull : v ≠ .null) (h : read v = .ok a) :
    readOptional read v = .ok (some a) := by
  unfold readOptional
  split
  · exact absurd rfl hnull
  · rw [h]
    rfl

end Wire

open Wire

/-- Operators have names of their own. -/
theorem Operator.ofJson_name (op : Operator) : Operator.ofJson (.string op.name) = .ok op := by
  cases op <;> rfl

theorem Direction.ofJson_name (d : Direction) : Direction.ofJson (.string d.name) = .ok d := by
  cases d <;> rfl

/-! ## Conditions and sorts -/

/-- The literal that is read from the JSON form of a literal. -/
def Literal.wire (v : Literal) : Literal :=
  .json v.toJson.sorted

/-- The form of a literal is read as itself: nothing is made of it before it is coerced. -/
theorem Literal.ofJson_toJson (v : Literal) : ofJson v.toJson.sorted = .ok v.wire := by
  rw [ofJson, Json.sorted_sorted, wire]

namespace Condition

/-- The condition with its value as JSON. -/
def wire (c : Condition) : Condition :=
  { c with value := c.value.wire }

/-- The entries of a condition are sorted already. -/
theorem sorted_toJson (c : Condition) :
    c.toJson.sorted = .object [("field", .string c.field), ("operator", .string c.operator.name),
      ("value", c.value.toJson.sorted)] := by
  simp +decide only [toJson, Json.sorted, Json.sortedEntries, Json.sortEntries, List.foldl_cons,
    List.foldl_nil, Json.insertEntry, if_false]

/-- **A condition is read back with its value as a piece of JSON.** -/
theorem ofJson_toJson (c : Condition) : ofJson c.toJson.sorted = .ok c.wire := by
  rw [sorted_toJson, ofJson]
  simp only [List.foldlM_cons, List.foldlM_nil, Draft.step, readOnce, readString,
    Operator.ofJson_name, Literal.ofJson_toJson, required, Except.map]
  rfl

end Condition

namespace SortSpec

/-- The entries of a sort change places when they are sorted. -/
theorem sorted_toJson (s : SortSpec) :
    s.toJson.sorted =
      .object [("direction", .string s.direction.name), ("field", .string s.field)] := by
  simp +decide only [toJson, Json.sorted, Json.sortedEntries, Json.sortEntries, List.foldl_cons,
    List.foldl_nil, Json.insertEntry, if_true, if_false]

/-- A sort is read back from its form. -/
theorem ofJson_toJson (s : SortSpec) : ofJson s.toJson.sorted = .ok s := by
  rw [sorted_toJson, ofJson]
  simp only [List.foldlM_cons, List.foldlM_nil, Draft.step, readOnce, readString,
    Direction.ofJson_name, required, Except.map]
  rfl

end SortSpec

/-! ## Requests -/

namespace Request

/-- The request that is read from the JSON form of a request. -/
def wire (r : Request) : Request :=
  { r with filters := r.filters.map Condition.wire, predicates := [] }

theorem sorted_optionalToJson (n : Option Int64) :
    (optionalToJson n).sorted = optionalToJson n := by
  cases n <;> rfl

/-- A page number is read back from its form, which may be null. -/
theorem readOptional_optionalToJson (n : Option Int64) :
    readOptional readSigned (optionalToJson n) = .ok n := by
  cases n with
  | none => rfl
  | some n =>
      have hread : readSigned (.integer n.toInt) = .ok n := by
        simp only [readSigned, readWord, signed64?_toInt]
      exact readOptional_some nofun hread

/-- The JSON form of a requested sort. -/
def sortToJson (spec? : Option SortSpec) : Json :=
  spec?.elim .null fun s => s.toJson.sorted

/-- A sort that may be missing is read back. -/
theorem readOptional_sortToJson (spec? : Option SortSpec) :
    readOptional SortSpec.ofJson (sortToJson spec?) = .ok spec? := by
  cases spec? with
  | none => rfl
  | some s =>
      have hnull : s.toJson.sorted ≠ .null := by
        rw [SortSpec.sorted_toJson]
        exact nofun
      exact readOptional_some hnull s.ofJson_toJson

/-- The entries of a request in the order of their keys. -/
theorem sorted_toJson (r : Request) :
    r.toJson.sorted = .object [("count", .bool r.count),
      ("filters", .array (r.filters.map fun c => c.toJson.sorted)),
      ("page", optionalToJson r.page), ("pageSize", optionalToJson r.pageSize),
      ("select", .array (r.select.map .string)), ("sort", sortToJson r.sort)] := by
  have hkeys : ∀ filters sort select page pageSize count : Json,
      Json.sortEntries [("filters", filters), ("sort", sort), ("select", select), ("page", page),
        ("pageSize", pageSize), ("count", count)] =
      [("count", count), ("filters", filters), ("page", page), ("pageSize", pageSize),
        ("select", select), ("sort", sort)] := by
    intro filters sort select page pageSize count
    simp +decide only [Json.sortEntries, List.foldl_cons, List.foldl_nil, Json.insertEntry, if_true,
      if_false]
  have hfilters : (r.filters.map Condition.toJson).map Json.sorted =
      r.filters.map fun c => c.toJson.sorted := List.map_map
  have hselect : (r.select.map Json.string).map Json.sorted = r.select.map .string := List.map_map
  simp only [toJson, Json.sorted, Json.sortedEntries, hkeys, Json.sortedItems_eq_map, hfilters,
    hselect, sorted_optionalToJson]
  cases r.sort <;> rfl

/-- **A request is read from its own JSON form**, but for its predicates. -/
theorem ofJson_toJson (r : Request) : ofJson r.toJson.sorted = .ok r.wire := by
  have hfilters := readList_map Condition.ofJson_toJson r.filters
  have hstring : ∀ s, readString (.string s) = .ok (id s) := fun s => rfl
  have hselect := readList_map hstring r.select
  rw [List.map_id] at hselect
  rw [sorted_toJson, ofJson]
  simp only [List.foldlM_cons, List.foldlM_nil, Draft.step, readOnce, readBool, hfilters, hselect,
    readOptional_optionalToJson, readOptional_sortToJson, Except.map]
  rfl

end Request

end RecordQuery
