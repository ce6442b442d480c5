import RecordQuery.Proofs.Compilation
import RecordQuery.Proofs.TimestampText
import RecordQuery.Proofs.RoundTrip
import RecordQuery.Samples.Tickets

/-!
# Requests that mean the same over the wire

A typed literal is converted to a field's type directly, its JSON form by way of
its text.  The two conversions agree on the literals that are `Literal.Portable` to
the type: printing and reading undo each other for integers, truth values and
instants of a year of four digits.  Floating-point numbers are not among them, and
neither is a literal that is converted by its kind, such as the milliseconds of an
instant.

Agreement is of results, whatever the errors say.  It starts at scalars
(`Scalar.ofLiteral?_wire`) and is carried through sequences (`toOption_coerce_wire`)
and operators (`toOption_compileOn_wire`) to the plan (`Plan.compile_wire`).
-/

namespace RecordQuery

namespace Literal

/-- A literal that stands for the same value of a scalar type as its JSON form. -/
inductive Portable (s : Scalar) : Literal → Prop
  | null : Portable s .null
  | string (text : String) : Portable s (.string text)
  | json (v : Json) : Portable s (.json v)
  | integer {n : Number} {i : Int} (hn : n.IsInteger i) (hs : s.isNumeric ∨ s = .string) :
      Portable s (.number n)
  | bool (b : Bool) (hs : s = .bool ∨ s = .string) : Portable s (.bool b)
  | timestamp {t : Timestamp} (hfirst : 0 ≤ t.utcYear) (hlast : t.utcYear ≤ 9999)
      (hs : s = .timestamp ∨ s = .string) : Portable s (.timestamp t)
  | array {items : List Literal} (hitems : ∀ item ∈ items, Portable s item) :
      Portable s (.array items)

variable {s : Scalar} {v : Literal}

/-- An array is written item by item. -/
theorem itemsToJson_eq_map (items : List Literal) : itemsToJson items = items.map toJson := by
  induction items with
  | nil => rfl
  | cons v items ih => rw [itemsToJson, ih, List.map_cons]

/-- An array goes over the wire as the array of its items' forms. -/
theorem wire_array (items : List Literal) :
    (array items).wire = .json (.array (items.map fun v => v.toJson.sorted)) := by
  rw [wire, toJson, Json.sorted, Json.sortedItems_eq_map, itemsToJson_eq_map, List.map_map]
  rfl

/-- A portable value is missing after the trip if it was before. -/
theorem Portable.isNull_wire (h : v.Portable s) : v.wire.isNull = v.isNull := by
  cases h with
  | json v => cases v <;> rfl
  | integer hn hs => cases hn <;> rfl
  | _ => rfl

/-- A portable value is a list after the trip if it was before. -/
theorem Portable.isArray_wire (h : v.Portable s) : v.wire.isArray = v.isArray := by
  cases h with
  | json v => cases v <;> rfl
  | integer hn hs => cases hn <;> rfl
  | _ => rfl

/-- The items of an array in its JSON form are the JSON forms of its items. -/
theorem Portable.items?_wire (h : v.Portable s) : v.wire.items? = v.items?.map (·.map wire) := by
  cases h with
  | json v =>
      cases v with
      | array items =>
          rw [wire, toJson, Json.sorted, Json.sortedItems_eq_map, items?, items?, Option.map_some,
            List.map_map, List.map_map]
          rfl
      | _ => rfl
  | integer hn hs => cases hn <;> rfl
  | array hitems =>
      rw [wire_array, items?, items?, Option.map_some, List.map_map]
      rfl
  | _ => rfl

/-- The items of a portable list are portable themselves. -/
theorem Portable.of_mem_items {items : List Literal} (h : v.Portable s)
    (hitems : v.items? = some items) : ∀ item ∈ items, item.Portable s := by
  cases h with
  | json v =>
      cases v with
      | array vs =>
          cases hitems
          intro item hitem
          obtain ⟨v, -, rfl⟩ := List.mem_map.mp hitem
          exact .json v
      | _ => cases hitems
  | array h =>
      cases hitems
      exact h
  | _ => cases hitems

end Literal

/-! ## Scalars -/

namespace Scalar

variable {s : Scalar} {v : Literal}

/-- An integer is read back from its text by every numeric type. -/
theorem ofText?_of_isInteger {n : Number} {i : Int} (hs : s.isNumeric) (h : n.IsInteger i) :
    s.ofText? (toString i) = s.ofNumber? n := by
  have htrim : Text.trim (toString i).toList = (toString i).toList :=
    Text.trim_eq_self fun c hc => isBlank_of_mem_toString hc
  obtain ⟨n', hread, hn'⟩ := h.exists_readNumber?
  have hnumber : (readNumber? (Text.trim (toString i).toList)).bind s.ofNumber? =
      s.ofNumber? n := by
    rw [htrim, hread, Option.bind_some, ofNumber?_congr s hn' h]
  cases s with
  | integer kind => exact hnumber
  | single => exact hnumber
  | double => exact hnumber
  | _ => cases hs

/-- No scalar is read from an object or an array, so that the order of entries does not
matter to it. -/
theorem ofJson?_sorted (s : Scalar) (v : Json) : s.ofJson? v.sorted = s.ofJson? v := by
  cases v <;> rfl

/-- **A portable literal and its JSON form are one value.** -/
theorem ofLiteral?_wire (h : v.Portable s) : s.ofLiteral? v.wire = s.ofLiteral? v := by
  cases h with
  | null => rfl
  | string text => rfl
  | json v => exact ofJson?_sorted s v
  | @integer n i hn hs =>
      -- JSON has integers of one kind; which one was written shows in the text alone.
      have htext : s.ofLiteral? (Literal.number n).wire = s.ofText? (Json.integer i).text := by
        rw [Literal.wire, Literal.toJson, hn.toJson_eq]
        rfl
      have hstring : (Json.integer i).text = toString i := String.ofList_toList
      rw [htext, hstring]
      rcases hs with hs | rfl
      · exact ofText?_of_isInteger hs hn
      · exact congrArg (fun text => some (Value.string text)) hn.text_eq.symm
  | bool b hs =>
      rcases hs with rfl | rfl
      · cases b <;> rfl
      · cases b <;> rfl
  | @timestamp t hfirst hlast hs =>
      have htext : s.ofLiteral? (Literal.timestamp t).wire = s.ofText? t.text := rfl
      rw [htext]
      rcases hs with rfl | rfl
      · rw [ofText?, Timestamp.parse?_text hfirst hlast]
        rfl
      · rfl
  | array hitems =>
      rw [Literal.wire_array]
      rfl

end Scalar

/-! ## Values of a field -/

section Coercion

variable {v : Literal}

theorem toOption_coerceScalar (v : Literal) (s : Scalar) :
    (coerceScalar v s).toOption = s.ofLiteral? v := by
  rw [coerceScalar]
  cases s.ofLiteral? v <;> rfl

/-- An element is coerced alike before and after the trip. -/
theorem toOption_coerceElement_wire {t : FieldType} (h : v.Portable t.scalar) :
    (coerceElement t v.wire).toOption = (coerceElement t v).toOption := by
  rw [coerceElement, coerceElement, h.isNull_wire]
  split
  · rfl
  · rw [toOption_coerceScalar, toOption_coerceScalar, Scalar.ofLiteral?_wire h]

/-- A portable literal and its JSON form have the same value of a field type, or
none. -/
theorem toOption_coerce_wire (t : FieldType) (h : v.Portable t.scalar) :
    (coerce v.wire t).toOption = (coerce v t).toOption := by
  rw [coerce, coerce, h.isNull_wire, h.items?_wire]
  split
  · rfl
  · split
    · cases hitems : v.items? with
      | none => rfl
      | some items =>
          dsimp only [Option.map_some]
          rw [Outcome.toOption_map, Outcome.toOption_map,
            Outcome.toOption_mapM_congr Literal.wire fun item hitem =>
              toOption_coerceElement_wire (h.of_mem_items hitems item hitem)]
    · rw [toOption_coerceScalar, toOption_coerceScalar, Scalar.ofLiteral?_wire h]

end Coercion

/-! ## Conditions -/

section Compilation

variable {t : Table} {f : Field} {v : Literal}

/-- A comparison with a portable value compiles alike before and after the trip. -/
theorem toOption_compileComparison_wire (h : v.Portable f.type.scalar) (i : Nat) (cmp : Comparison)
    (op : Operator) :
    (compileComparison f i cmp op v.wire).toOption = (compileComparison f i cmp op v).toOption := by
  rw [compileComparison, compileComparison, h.isArray_wire]
  split
  · rfl
  · split
    · rfl
    · rw [Outcome.toOption_map, Outcome.toOption_map, toOption_coerce_wire f.type h]

/-- So does a text test. -/
theorem toOption_compileText_wire (h : v.Portable f.type.scalar) (i : Nat) (test : TextTest)
    (op : Operator) :
    (compileText f i test op v.wire).toOption = (compileText f i test op v).toOption := by
  rw [compileText, compileText]
  split
  · next hstring =>
      -- The literal is converted to a string, which is the scalar of the field here.
      have hscalar : f.type.scalar = .string := by
        simp only [FieldType.isStringLike, Bool.and_eq_true, beq_iff_eq] at hstring
        exact hstring.2
      rw [hscalar] at h
      rw [Outcome.toOption_map, Outcome.toOption_map, toOption_coerce_wire (.plain .string) h]
  · rfl

/-- So does a membership test, which coerces the items one by one. -/
theorem toOption_compileMembership_wire (h : v.Portable f.type.scalar) (i : Nat) (op : Operator) :
    (compileMembership f i op v.wire).toOption = (compileMembership f i op v).toOption := by
  rw [compileMembership, compileMembership, h.isArray_wire]
  split
  · rfl
  · split
    · rw [Outcome.toOption_map, Outcome.toOption_map, toOption_coerce_wire f.type.asSequence h]
    · rw [Outcome.toOption_map, Outcome.toOption_map, toOption_coerce_wire f.type h]

/-- Every operator makes the same expression of a portable literal and of its JSON
form, or none. -/
theorem toOption_compileOn_wire (h : v.Portable f.type.scalar) (i : Nat) (op : Operator) :
    (compileOn f i op v.wire).toOption = (compileOn f i op v).toOption := by
  cases op with
  | equals => exact toOption_compileComparison_wire h i _ _
  | notEquals => exact toOption_compileComparison_wire h i _ _
  | greaterThan => exact toOption_compileComparison_wire h i _ _
  | greaterThanOrEqual => exact toOption_compileComparison_wire h i _ _
  | lessThan => exact toOption_compileComparison_wire h i _ _
  | lessThanOrEqual => exact toOption_compileComparison_wire h i _ _
  | startsWith => exact toOption_compileText_wire h i _ _
  | endsWith => exact toOption_compileText_wire h i _ _
  | contains => exact toOption_compileText_wire h i _ _
  | notContains =>
      rw [compileOn, compileOn, Outcome.toOption_map, Outcome.toOption_map,
        toOption_compileText_wire h]
  | isIn => exact toOption_compileMembership_wire h i _
  | notIn =>
      rw [compileOn, compileOn, Outcome.toOption_map, Outcome.toOption_map,
        toOption_compileMembership_wire h]

/-- The condition's value is portable to the type of its field, if it has one. -/
def Condition.Portable (t : Table) (c : Condition) : Prop :=
  ∀ f i, t.resolve c.field = .ok (f, i) → c.value.Portable f.type.scalar

theorem Condition.portable_of_resolve {c : Condition} {i : Nat}
    (hresolve : t.resolve c.field = .ok (f, i)) (h : c.value.Portable f.type.scalar) :
    c.Portable t := by
  intro g j hg
  rw [hresolve] at hg
  cases hg
  exact h

/-- **A portable condition compiles alike before and after the trip**, but for the value
that an error repeats. -/
theorem Condition.toOption_compile_wire {c : Condition} (h : c.Portable t) :
    (c.wire.compile t).toOption = (c.compile t).toOption := by
  have hfield : c.wire.field = c.field := rfl
  rw [compile, compile, hfield]
  split
  · next f i hresolve => exact toOption_compileOn_wire (h f i hresolve) i c.operator
  · rfl

namespace Plan

variable {r : Request}

/-- A request of portable conditions compiles alike, without its predicates. -/
theorem toOption_compile_wire (hpredicates : r.predicates = [])
    (hportable : ∀ c ∈ r.filters, c.Portable t) (o : Options) :
    (compile t r.wire o).toOption = (compile t r o).toOption := by
  rw [compile, compile, hpredicates]
  refine Outcome.toOption_bind_congr ?_ fun conditions => rfl
  exact Outcome.toOption_mapM_congr Condition.wire fun c hc =>
    Condition.toOption_compile_wire (hportable c hc)

/-- **A request means the same over the wire** when it has no predicates and its
values are portable to the types of their fields: its JSON form is read, and what is
read compiles to the same plan, or neither does. -/
theorem compile_wire (hpredicates : r.predicates = [])
    (hportable : ∀ c ∈ r.filters, c.Portable t) :
    ∃ r', Request.ofJson r.toJson.sorted = .ok r' ∧
      ∀ o p, compile t r' o = .ok p ↔ compile t r o = .ok p := by
  refine ⟨r.wire, r.ofJson_toJson, fun o p => ?_⟩
  rw [← Outcome.toOption_eq_some, toOption_compile_wire hpredicates hportable,
    Outcome.toOption_eq_some]

open Samples.Tickets in
/-- Tickets asked for by typed values, and by the JSON form of the request. -/
theorem compile_wire_typedSinceFebruary :
    ∃ r' p, Request.ofJson typedSinceFebruary.toJson.sorted = .ok r' ∧
      compile table r' {} = .ok p ∧
      (p.run table records).totalCount = some 1 ∧
      (p.run table records).data.map (·.read 0) = [.number (.unsigned 3)] := by
  have hportable : ∀ c ∈ typedSinceFebruary.filters, c.Portable table := by
    refine List.forall_mem_cons.mpr ⟨?_, List.forall_mem_cons.mpr ⟨?_,
      List.forall_mem_singleton.mpr ?_⟩⟩
    · exact Condition.portable_of_resolve rfl (.timestamp (by decide) (by decide) (.inl rfl))
    · refine Condition.portable_of_resolve rfl (.array ?_)
      refine List.forall_mem_cons.mpr ⟨.integer (.unsigned 1) (.inl rfl),
        List.forall_mem_cons.mpr ⟨.integer (.signed 2) (.inl rfl),
          List.forall_mem_singleton.mpr (.integer (.unsigned 3) (.inl rfl))⟩⟩
    · exact Condition.portable_of_resolve rfl (.json _)
  obtain ⟨r', hread, hsame⟩ := compile_wire rfl hportable
  exact ⟨r', _, hread, (hsame {} _).mpr rfl, rfl, rfl⟩

end Plan

end Compilation

end RecordQuery
