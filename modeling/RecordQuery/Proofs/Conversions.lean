import RecordQuery.Coercion

/-!
# Results of conversions

A literal is converted by its constructor, a text by the type it is read for, and a number by
its exact value or by rounding.  However it is done, the values that can come out are few, and
`Scalar.Gives` lists them for each scalar type.  What is to be shown of all operands is shown
of the list (`Scalar.gives_of_ofLiteral?`).
-/

namespace RecordQuery.Scalar

/-- The values that literals are converted to. -/
inductive Gives : Scalar → Value → Prop
  | zero (s : Scalar) : Gives s s.zero
  | bool (b : Bool) : Gives bool (.bool b)
  | integer {k : IntegerKind} {i : Int} (h : k.least ≤ i ∧ i ≤ k.greatest) :
      Gives (integer k)
        (.number (if k.signed then .signed (.ofInt i) else .unsigned (.ofNat i.toNat)))
  | single (x : Binary64) : Gives single (.number (.float x.narrow))
  | double (x : Binary64) : Gives double (.number (.float x))
  | string (text : String) : Gives string (.string text)
  | timestamp (t : Timestamp) : Gives timestamp (.timestamp t)
  | enum {variants : List Variant} {v : Variant} (h : v ∈ variants) :
      Gives (enum variants) (.enum v.discriminant)

variable {s : Scalar} {v : Value}

/-- A number becomes a value of the type it is read for. -/
theorem gives_of_ofNumber? {n : Number} (h : s.ofNumber? n = some v) : s.Gives v := by
  cases s with
  | integer k =>
      simp only [ofNumber?] at h
      split at h
      · split at h
        · next hbounds =>
            cases h
            exact .integer hbounds
        · cases h
      · cases h
  | single => cases h; exact .single _
  | double => cases h; exact .double _
  | string => cases h; exact .string _
  | bool =>
      simp only [ofNumber?] at h
      split at h <;> cases h <;> exact .bool _
  | timestamp =>
      simp only [ofNumber?] at h
      split at h
      · obtain ⟨millis, -, rfl⟩ := Option.map_eq_some_iff.mp h
        exact .timestamp _
      · cases h
  | enum variants =>
      simp only [ofNumber?] at h
      split at h
      · split at h
        · next hany =>
            cases h
            obtain ⟨w, hw, hd⟩ := List.any_eq_true.mp hany
            rw [← LawfulBEq.eq_of_beq hd]
            exact .enum hw
        · cases h
      · cases h

/-- So does a text. -/
theorem gives_of_ofText? {text : String} (h : s.ofText? text = some v) : s.Gives v := by
  cases s with
  | string => cases h; exact .string _
  | bool =>
      simp only [ofText?] at h
      obtain ⟨b, -, rfl⟩ := Option.map_eq_some_iff.mp h
      exact .bool b
  | timestamp =>
      simp only [ofText?] at h
      obtain ⟨t, -, rfl⟩ := Option.map_eq_some_iff.mp h
      exact .timestamp t
  | enum variants =>
      simp only [ofText?] at h
      split at h
      · next hfound =>
          cases h
          exact .enum (List.mem_of_find?_eq_some hfound)
      · -- a text that names no variant may still be the number of one
        obtain ⟨n, -, hn⟩ := Option.bind_eq_some_iff.mp h
        exact gives_of_ofNumber? hn
  | integer | single | double =>
      simp only [ofText?] at h
      obtain ⟨n, -, hn⟩ := Option.bind_eq_some_iff.mp h
      exact gives_of_ofNumber? hn

/-- So does a piece of JSON, which is a number, a text, or a boolean. -/
theorem gives_of_ofJson? {j : Json} (h : s.ofJson? j = some v) : s.Gives v := by
  cases j with
  | null => cases h; exact .zero s
  | string | bool | integer | float => exact gives_of_ofText? h
  | array | object => cases h

/-- **A literal, typed or JSON, is converted to one of the values of the list.** -/
theorem gives_of_ofLiteral? {l : Literal} (h : s.ofLiteral? l = some v) : s.Gives v := by
  cases l with
  | null => cases h; exact .zero s
  | array => cases h
  | json => exact gives_of_ofJson? h
  | string => exact gives_of_ofText? h
  | number => exact gives_of_ofNumber? h
  | bool b =>
      cases s with
      | bool => cases h; exact .bool b
      | string => cases h; exact .string _
      | integer | single | double =>
          simp only [ofLiteral?, isNumeric, if_true] at h
          exact gives_of_ofNumber? h
      | timestamp | enum => simp [ofLiteral?, isNumeric] at h
  | timestamp t =>
      cases s with
      | timestamp => cases h; exact .timestamp t
      | string => cases h; exact .string _
      | integer | single | double =>
          simp only [ofLiteral?, isNumeric, if_true] at h
          exact gives_of_ofNumber? h
      | bool | enum => simp [ofLiteral?, isNumeric] at h

end RecordQuery.Scalar
