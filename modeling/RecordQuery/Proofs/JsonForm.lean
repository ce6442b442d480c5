import RecordQuery.Proofs.Numerals
import RecordQuery.Proofs.RoundTrip

/-!
# What comes back over the wire

A request that is written as JSON and read again has lost the types of its values, and
nothing else.  `Literal.HasJson` says value by value what is left of them: a number is
a number of one kind or, when JSON has none for it, null; an instant is its text; an
array is the array of its items' forms; JSON is itself, with the keys of its objects in
the order in which they are kept.

Every literal has exactly one form (`Literal.hasJson_iff`).  The form of a form is
itself, so that what has come back once comes back unchanged from then on.
-/

namespace RecordQuery

theorem Number.toJson_of_isFinite {x : Binary64} (h : x.isFinite) : (float x).toJson = .float x :=
  if_pos h

/-- Infinities and NaNs have no numeral and are written as null. -/
theorem Number.toJson_of_not_isFinite {x : Binary64} (h : ¬ x.isFinite) :
    (float x).toJson = .null :=
  if_neg h

namespace Literal

/-- The JSON value is the literal's JSON form. -/
inductive HasJson : Literal → Json → Prop
  | null : HasJson .null .null
  | bool (b : Bool) : HasJson (.bool b) (.bool b)
  | integer {n : Number} {i : Int} (hn : n.IsInteger i) : HasJson (.number n) (.integer i)
  | finite {x : Binary64} (hx : x.isFinite) : HasJson (.number (.float x)) (.float x)
  | nonfinite {x : Binary64} (hx : ¬ x.isFinite) : HasJson (.number (.float x)) .null
  | string (s : String) : HasJson (.string s) (.string s)
  | timestamp (t : Timestamp) : HasJson (.timestamp t) (.string t.text)
  | array {items : List Literal} {forms : List Json} (hitems : List.Forall₂ HasJson items forms) :
      HasJson (.array items) (.array forms)
  | json (v : Json) : HasJson (.json v) v.sorted

/-- The form of a number is that of its kind. -/
theorem hasJson_number (n : Number) : HasJson (.number n) n.toJson.sorted := by
  cases n with
  | signed n => exact .integer (.signed n)
  | unsigned n => exact .integer (.unsigned n)
  | float x =>
      by_cases hx : x.isFinite
      · rw [Number.toJson_of_isFinite hx]
        exact .finite hx
      · rw [Number.toJson_of_not_isFinite hx]
        exact .nonfinite hx

mutual

/-- Every literal has the form that is written for it. -/
theorem hasJson_toJson : ∀ v : Literal, v.HasJson v.toJson.sorted
  | null => .null
  | bool b => .bool b
  | number n => hasJson_number n
  | string s => .string s
  | timestamp t => .timestamp t
  | array items => by
      rw [toJson, Json.sorted, Json.sortedItems_eq_map]
      exact .array (hasJson_itemsToJson items)
  | json v => .json v

theorem hasJson_itemsToJson :
    ∀ items : List Literal, List.Forall₂ HasJson items ((itemsToJson items).map Json.sorted)
  | [] => .nil
  | v :: items => .cons (hasJson_toJson v) (hasJson_itemsToJson items)

end

mutual

/-- It has no other form. -/
theorem eq_of_hasJson : ∀ {v : Literal} {j : Json}, v.HasJson j → j = v.toJson.sorted
  | null, _, .null => rfl
  | bool _, _, .bool _ => rfl
  | number _, _, .integer hn => congrArg Json.sorted hn.toJson_eq.symm
  | number _, _, .finite hx => congrArg Json.sorted (Number.toJson_of_isFinite hx).symm
  | number _, _, .nonfinite hx => congrArg Json.sorted (Number.toJson_of_not_isFinite hx).symm
  | string _, _, .string _ => rfl
  | timestamp _, _, .timestamp _ => rfl
  | array items, _, .array hitems => by
      rw [toJson, Json.sorted, Json.sortedItems_eq_map, eq_of_hasJson_items hitems]
  | json _, _, .json _ => rfl

theorem eq_of_hasJson_items : ∀ {items : List Literal} {forms : List Json},
    List.Forall₂ HasJson items forms → forms = (itemsToJson items).map Json.sorted
  | [], _, .nil => rfl
  | v :: items, _, .cons hv hitems => by
      rw [itemsToJson, List.map_cons, ← eq_of_hasJson hv, ← eq_of_hasJson_items hitems]

end

/-- **A literal has one JSON form.** -/
theorem hasJson_iff {v : Literal} {j : Json} : v.HasJson j ↔ j = v.toJson.sorted :=
  ⟨eq_of_hasJson, fun h => h ▸ hasJson_toJson v⟩

end Literal

/-- The second condition is the first one as it comes back over the wire. -/
structure Condition.ComesBackAs (c c' : Condition) : Prop where
  field : c'.field = c.field
  operator : c'.operator = c.operator
  value : ∃ form, c'.value = .json form ∧ ∀ j, c.value.HasJson j ↔ j = form

/-- The second request is the first one as it comes back over the wire. -/
structure Request.ComesBackAs (r r' : Request) : Prop where
  filters : List.Forall₂ Condition.ComesBackAs r.filters r'.filters
  predicates : r'.predicates = []
  sort : r'.sort = r.sort
  select : r'.select = r.select
  page : r'.page = r.page
  pageSize : r'.pageSize = r.pageSize
  count : r'.count = r.count

/-- A condition keeps its field and its operator over the wire, and its value becomes its
form. -/
theorem Condition.comesBackAs_wire (c : Condition) : c.ComesBackAs c.wire :=
  ⟨rfl, rfl, c.value.toJson.sorted, rfl, fun _ => Literal.hasJson_iff⟩

/-- The form of a form is itself. -/
theorem Condition.sorted_toJson_wire (c : Condition) : c.wire.toJson.sorted = c.toJson.sorted := by
  have hvalue : c.wire.value.toJson.sorted = c.value.toJson.sorted :=
    Json.sorted_sorted c.value.toJson
  rw [sorted_toJson, sorted_toJson, hvalue]
  rfl

namespace Request

/-- **A request comes back in all its parts** but the predicates, which are functions and
have no form. -/
theorem comesBackAs_wire (r : Request) : r.ComesBackAs r.wire where
  filters := by
    rw [wire, List.forall₂_map_right_iff, List.forall₂_same]
    exact fun c _ => c.comesBackAs_wire
  predicates := rfl
  sort := rfl
  select := rfl
  page := rfl
  pageSize := rfl
  count := rfl

/-- A second trip over the wire changes nothing. -/
theorem sorted_toJson_wire (r : Request) : r.wire.toJson.sorted = r.toJson.sorted := by
  have hfilters : r.wire.filters.map (fun c => c.toJson.sorted) =
      r.filters.map fun c => c.toJson.sorted := by
    rw [wire, List.map_map]
    exact List.map_congr_left fun c _ => c.sorted_toJson_wire
  rw [sorted_toJson, sorted_toJson, hfilters]
  rfl

/-- **A request comes back over the wire.**  What is written of it is read, and the request
that is read has its conditions, sort, selection and paging, with every value replaced by
its JSON form.  It is written as the same JSON again, and from that it is read unchanged. -/
theorem comesBack (r : Request) :
    ∃ r', ofJson r.toJson.sorted = .ok r' ∧ r.ComesBackAs r' ∧
      r'.toJson.sorted = r.toJson.sorted ∧ ofJson r'.toJson.sorted = .ok r' := by
  refine ⟨r.wire, r.ofJson_toJson, r.comesBackAs_wire, r.sorted_toJson_wire, ?_⟩
  rw [sorted_toJson_wire, ofJson_toJson]

end Request

end RecordQuery
