import RecordQuery.Proofs.Nullability

/-!
# Text tests

The three text tests go through the characters of a text.  What they find are the ways to write
it with the pattern at the front, at the end or in between (`TextTest.holds_startsWith_iff` and
so on); for the last one the search, which tries every position, is an induction on the text.

A condition takes its pattern from a literal, and it does so twice: equality converts the
literal to the type of the field, a text test always to plain text.  For a literal that is not
null both are the same text (`coerce_of_isStringLike`), so that the answers of the five
operators are about one pattern (`text_operators_consistent`).
-/

namespace RecordQuery

variable {t : Table} {f : Field} {i : Nat} {op : Operator} {name p s : String} {value : Literal}
  {type : FieldType} {r : Record}

/-! ## Patterns -/

namespace TextTest

/-- The search finds the pattern at any position. -/
theorem occursIn_iff {pattern : List Char} (text : List Char) :
    occursIn pattern text ↔ pattern <:+: text := by
  induction text with
  | nil => rw [occursIn, List.isEmpty_iff, List.infix_nil]
  | cons c rest ih =>
      rw [occursIn, Bool.or_eq_true, List.isPrefixOf_iff_prefix, ih, List.infix_cons_iff]

/-- A text starts with a pattern when the pattern is the front of it. -/
theorem holds_startsWith_iff : startsWith.holds s p ↔ ∃ u, s = p ++ u := by
  rw [holds, List.isPrefixOf_iff_prefix]
  constructor
  · rintro ⟨u, hu⟩
    exact ⟨.ofList u, String.toList_inj.mp (by simp [← hu])⟩
  · rintro ⟨u, rfl⟩
    exact ⟨u.toList, by simp⟩

/-- It ends with the pattern when that is the back of it. -/
theorem holds_endsWith_iff : endsWith.holds s p ↔ ∃ u, s = u ++ p := by
  rw [holds, List.isSuffixOf_iff_suffix]
  constructor
  · rintro ⟨u, hu⟩
    exact ⟨.ofList u, String.toList_inj.mp (by simp [← hu])⟩
  · rintro ⟨u, rfl⟩
    exact ⟨u.toList, by simp⟩

/-- It contains the pattern when there is a front and a back around it, which may be empty.
-/
theorem holds_contains_iff : contains.holds s p ↔ ∃ u w, s = u ++ p ++ w := by
  rw [holds, occursIn_iff]
  constructor
  · rintro ⟨u, w, huw⟩
    exact ⟨.ofList u, .ofList w, String.toList_inj.mp (by simp [← huw])⟩
  · rintro ⟨u, w, rfl⟩
    exact ⟨u.toList, w.toList, by simp⟩

end TextTest

/-! ## Conditions -/

namespace Expr

variable {ref : FieldRef} {test : TextTest}

/-- A test of a text field sees the texts of the field. -/
theorem accepts_text_iff : (text ref test p).accepts t r ↔
    ∃ s, t.read ref.index r = .string s ∧ test.holds s p := by
  rw [accepts]
  cases t.read ref.index r <;> simp

theorem accepts_startsWith_iff :
    (text ref .startsWith p).accepts t r ↔ ∃ u, t.read ref.index r = .string (p ++ u) := by
  simp only [accepts_text_iff, TextTest.holds_startsWith_iff]
  exact ⟨fun ⟨_, h, u, hu⟩ => ⟨u, hu ▸ h⟩, fun ⟨u, h⟩ => ⟨_, h, u, rfl⟩⟩

theorem accepts_endsWith_iff :
    (text ref .endsWith p).accepts t r ↔ ∃ u, t.read ref.index r = .string (u ++ p) := by
  simp only [accepts_text_iff, TextTest.holds_endsWith_iff]
  exact ⟨fun ⟨_, h, u, hu⟩ => ⟨u, hu ▸ h⟩, fun ⟨u, h⟩ => ⟨_, h, u, rfl⟩⟩

theorem accepts_contains_iff :
    (text ref .contains p).accepts t r ↔ ∃ u w, t.read ref.index r = .string (u ++ p ++ w) := by
  simp only [accepts_text_iff, TextTest.holds_contains_iff]
  exact ⟨fun ⟨_, h, u, w, hu⟩ => ⟨u, w, hu ▸ h⟩, fun ⟨u, w, h⟩ => ⟨_, h, u, w, rfl⟩⟩

end Expr

theorem Value.equal_string_iff {v : Value} : v.equal (.string p) ↔ v = .string p := by
  cases v <;> simp [equal]

/-- **A literal that is not null becomes the same text** for every text field and for a text
test. -/
theorem coerce_of_isStringLike (htype : type.isStringLike) (hnull : value.isNull = false) :
    coerce value type = coerce value (.plain .string) := by
  obtain ⟨hscalar, hseq⟩ := FieldType.isStringLike_iff.mp htype
  rw [coerce_eq_coerceScalar hnull (Bool.eq_false_of_not_eq_true hseq), hscalar,
    coerce_eq_coerceScalar hnull rfl]
  rfl

/-- Equality and the text tests are made of the text that the literal stands for. -/
theorem compile_of_isStringLike (hresolve : t.resolve name = .ok (f, i))
    (htype : f.type.isStringLike) (hnull : value.isNull = false)
    (hp : coerce value (.plain .string) = .ok (.string p))
    (hop : op = .equals ∨ op.family = .text) :
    Condition.compile t ⟨name, op, value⟩ = .ok (op.test (f.ref i) [.string p]) := by
  have hfield := coerce_of_isStringLike htype hnull
  have hstring := FieldType.isStringLike_iff.mp htype
  obtain ⟨happlies, hsingle, hcoerce⟩ : op.AppliesTo f.type value ∧
      op.operands value = [value] ∧ coerce value (op.target f.type) = .ok (.string p) := by
    rcases hop with rfl | htext
    · have hequals := hfield.trans hp
      exact ⟨⟨fun harray => absurd harray (not_isArray_of_coerce hstring.2 hequals), nofun⟩, rfl,
        hequals⟩
    · simp only [Operator.AppliesTo, Operator.operands, Operator.target, htext]
      exact ⟨hstring, trivial, hp⟩
  rw [Condition.compile_of_resolve hresolve, compileOn_of_appliesTo happlies,
    Operator.map_convert_of_single hsingle, hcoerce]
  rfl

/-- **The text operators mean what they say, and equality agrees with them.**  They compile for
every literal that stands for a text, and find the records whose text has it at the front, at
the end, or somewhere.  The negation finds the other records, those without a text included.  An
equal text has it at the front and at the end, and either of these has it somewhere. -/
theorem text_operators_consistent (hresolve : t.resolve name = .ok (f, i))
    (htype : f.type.isStringLike) (hnull : value.isNull = false)
    (hp : coerce value (.plain .string) = .ok (.string p)) :
    let answer (op : Operator) (r : Record) := Condition.holds t ⟨name, op, value⟩ r
    coerce value f.type = .ok (.string p) ∧
    (∀ op, op = .equals ∨ op.family = .text → Condition.Compiles t ⟨name, op, value⟩) ∧
    ∀ r, (answer .startsWith r ↔ ∃ u, t.read i r = .string (p ++ u)) ∧
      (answer .endsWith r ↔ ∃ u, t.read i r = .string (u ++ p)) ∧
      (answer .contains r ↔ ∃ u w, t.read i r = .string (u ++ p ++ w)) ∧
      (answer .notContains r ↔ ¬ answer .contains r) ∧
      (answer .equals r ↔ t.read i r = .string p) ∧
      (answer .equals r → answer .startsWith r ∧ answer .endsWith r) ∧
      (answer .startsWith r → answer .contains r) ∧
      (answer .endsWith r → answer .contains r) := by
  intro answer
  have hcompile : ∀ op : Operator, op = .equals ∨ op.family = .text →
      Condition.compile t ⟨name, op, value⟩ = .ok (op.test (f.ref i) [.string p]) :=
    fun _ => compile_of_isStringLike hresolve htype hnull hp
  refine ⟨(coerce_of_isStringLike htype hnull).trans hp, fun op hop => ⟨_, hcompile op hop⟩,
    fun r => ?_⟩
  have hanswer : ∀ op : Operator, op = .equals ∨ op.family = .text →
      answer op r = (op.test (f.ref i) [.string p]).accepts t r := fun op hop =>
    Condition.holds_of_compile (hcompile op hop) r
  have hstarts : answer .startsWith r ↔ ∃ u, t.read i r = .string (p ++ u) := by
    rw [hanswer _ (.inr rfl)]
    exact Expr.accepts_startsWith_iff
  have hends : answer .endsWith r ↔ ∃ u, t.read i r = .string (u ++ p) := by
    rw [hanswer _ (.inr rfl)]
    exact Expr.accepts_endsWith_iff
  have hcontains : answer .contains r ↔ ∃ u w, t.read i r = .string (u ++ p ++ w) := by
    rw [hanswer _ (.inr rfl)]
    exact Expr.accepts_contains_iff
  have hnot : answer .notContains r ↔ ¬ answer .contains r := by
    rw [hanswer _ (.inr rfl), hanswer _ (.inr rfl)]
    simp [Operator.test, Expr.accepts]
  have hequals : answer .equals r ↔ t.read i r = .string p := by
    rw [hanswer _ (.inl rfl)]
    exact Value.equal_string_iff
  refine ⟨hstarts, hends, hcontains, hnot, hequals, fun h => ?_, fun h => ?_, fun h => ?_⟩
  · rw [hequals] at h
    rw [hstarts, hends, h]
    exact ⟨⟨"", by rw [String.append_empty]⟩, ⟨"", by rw [String.empty_append]⟩⟩
  · obtain ⟨u, hu⟩ := hstarts.mp h
    exact hcontains.mpr ⟨"", u, by rw [hu, String.empty_append]⟩
  · obtain ⟨u, hu⟩ := hends.mp h
    exact hcontains.mpr ⟨u, "", by rw [hu, String.append_empty]⟩

open Samples.Tickets in
/-- The ticket of an owner is found by the front of the name, which comes as JSON. -/
theorem text_operators_consistent_owner :
    let owned := ticket 3 "Slow search" 1 ⟨2024, 2, 20⟩ none [] (some "anna") ""
    let value : Literal := .json (.string "an")
    table.resolve "owner" = .ok (⟨"owner", (FieldType.plain .string).asNullable, 6⟩, 6) ∧
      coerce value (.plain .string) = .ok (.string "an") ∧
      Condition.holds table ⟨"owner", .startsWith, value⟩ owned ∧
      Condition.holds table ⟨"owner", .contains, value⟩ owned ∧
      ¬ Condition.holds table ⟨"owner", .notContains, value⟩ owned := by
  intro owned value
  have howner :
      table.resolve "owner" = .ok (⟨"owner", (FieldType.plain .string).asNullable, 6⟩, 6) := rfl
  have hp : coerce value (.plain .string) = .ok (.string "an") := rfl
  obtain ⟨-, -, hanswers⟩ := text_operators_consistent howner rfl rfl hp
  obtain ⟨hstarts, -, -, hnot, -, -, hfront, -⟩ := hanswers owned
  have hfound := hstarts.mpr ⟨"na", rfl⟩
  exact ⟨howner, hp, hfound, hfront hfound, fun h => hnot.mp h (hfront hfound)⟩

end RecordQuery
