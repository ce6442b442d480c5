import Mathlib.Data.List.DropRight
import RecordQuery.Naming.Declaration
import RecordQuery.Proofs.Kinds
import RecordQuery.Proofs.Numerals

/-!
# Names of variants

A text stands for a variant of an enumeration when it is the variant's name, without
regard to its outer blanks and to ASCII case, and otherwise when it is the variant's
number.  A declaration is accepted whatever the names of its variants are, and so a name
can miss its variant in three ways: another variant answers to it first, it has blanks at
its ends, which no text keeps, or it is spelled like the number of another variant and
takes that text away from it.

`Unambiguous` excludes these three and nothing else: every variant can be named, and every
number stands for its variants, exactly when the table is unambiguous
(`nameable_iff_unambiguous`).  The proof needs one fact about texts: what agrees up to case
with a text without outer blanks has none either (`Text.Ascii.fold_trimmed_of_sameFolded`), so
that two variants that answer to one text are looked up alike.
-/

namespace RecordQuery

/-! ## Outer blanks and letter case -/

namespace Text

theorem isBlank_of_visible {c : Char} (hleast : 0x21 ≤ c.toNat) (hmost : c.toNat ≤ 0x7E) :
    isBlank c = false := by
  simp only [isBlank, Bool.or_eq_false_iff, Bool.and_eq_false_iff, decide_eq_false_iff_not,
    beq_eq_false_iff_ne]
  omega

theorem isBlank_toLower (c : Char) : isBlank c.toLower = isBlank c := by
  by_cases h : 'A'.val ≤ c.val ∧ c.val ≤ 'Z'.val
  -- Capital letters and the small ones that they become are all visible.
  · have hcapital : 65 ≤ c.toNat ∧ c.toNat ≤ 90 := by
      simpa [UInt32.le_iff_toNat_le] using h
    have hlower : c.toLower = ⟨c.val + ('a'.val - 'A'.val), _⟩ := dif_pos h
    have hsmall : c.toLower.toNat = c.toNat + 32 := by
      rw [hlower]
      exact (UInt32.toNat_add _ _).trans
        (Nat.mod_eq_of_lt (Nat.add_lt_of_lt_sub (Nat.lt_of_le_of_lt hcapital.2 (by decide))))
    rw [isBlank_of_visible (by omega) (by omega), isBlank_of_visible (by omega) (by omega)]
  · have hlower : c.toLower = c := dif_neg h
    rw [hlower]

/-- Blanks in front are trimmed in any letter case. -/
theorem trimStart_map_toLower (s : List Char) :
    trimStart (s.map Char.toLower) = (trimStart s).map Char.toLower := by
  rw [trimStart, trimStart, List.dropWhile_map]
  exact congrArg _ (congrArg (List.dropWhile · s) (funext isBlank_toLower))

theorem trim_map_toLower (s : List Char) :
    trim (s.map Char.toLower) = (trim s).map Char.toLower := by
  rw [trim, trimStart_map_toLower, ← List.map_reverse, trimStart_map_toLower, ← List.map_reverse,
    trim]

theorem trim_trim (s : List Char) : trim (trim s) = trim s := by
  -- What is left of the front stays the front when the end is cut off as well.
  have hinitial : trim s <+: trimStart s := List.rdropWhile_prefix isBlank (trimStart s)
  have hfront : trimStart (trim s) = trim s := by
    refine List.dropWhile_eq_self_iff.mpr fun hpos => ?_
    rw [hinitial.getElem hpos]
    exact List.dropWhile_get_zero_not isBlank s (Nat.lt_of_lt_of_le hpos hinitial.length_le)
  rw [trim, hfront]
  exact List.rdropWhile_idempotent isBlank _

/-- The text without its outer blanks. -/
def trimmed (text : String) : String :=
  String.ofList (trim text.toList)

/-- What agrees with a text without outer blanks agrees with it also without its own. -/
theorem Ascii.fold_trimmed_of_sameFolded {s t : String}
    (h : sameFolded s (trimmed t)) : fold (trimmed s) = fold (trimmed t) := by
  have hfold : s.toList.map Char.toLower = (trim t.toList).map Char.toLower := by
    simpa [sameFolded, fold, trimmed] using h
  simp only [fold, trimmed, String.toList_ofList]
  rw [← trim_map_toLower, hfold, trim_map_toLower, trim_trim]

end Text

/-! ## Texts that stand for variants -/

open Text (trimmed)
open Text.Ascii (fold sameFolded)

variable {variants : List Variant} {text : String} {d : UInt32}

theorem unsigned32?_natCast {n : ℕ} : unsigned32? n = some d ↔ n = d.toNat := by
  rw [unsigned32?, Int.toNat_natCast]
  split
  · next h =>
      rw [Option.some.injEq, ← UInt32.toNat_inj, UInt32.toNat_ofNat_of_lt' (Int.ofNat_lt.mp h.2)]
  · next h =>
      refine iff_of_false nofun fun heq => h ⟨Int.natCast_nonneg n, ?_⟩
      rw [heq]
      exact Int.ofNat_lt.mpr d.toNat_lt

theorem unsigned32?_toNat {n : UInt64} : unsigned32? n.toNat = some d ↔ n = d.toUInt64 := by
  rw [unsigned32?_natCast, ← UInt64.toNat_inj, UInt32.toNat_toUInt64]

namespace Scalar

/-- A number stands for the variants that have it. -/
theorem ofNumber?_enum {n : UInt64} :
    (enum variants).ofNumber? (.unsigned n) = some (.enum d) ↔
      n = d.toUInt64 ∧ ∃ v ∈ variants, v.discriminant = d := by
  have hintegral : (Number.unsigned n).integral? = some (n.toNat : Int) := rfl
  rw [ofNumber?, hintegral, Option.bind_some, ← unsigned32?_toNat]
  cases unsigned32? n.toNat with
  | none => simp
  | some e =>
      have hany : (variants.any fun v => v.discriminant == e) ↔
          ∃ v ∈ variants, v.discriminant = e := by simp
      simp only [hany]
      split
      · next h =>
          rw [Option.some.injEq, Value.enum.injEq, Option.some.injEq]
          exact ⟨fun heq => ⟨heq, heq ▸ h⟩, And.left⟩
      · next h =>
          refine iff_of_false (Option.some_ne_none _).symm ?_
          rintro ⟨heq, hd⟩
          cases heq
          exact h hd

end Scalar

/-- The first variant that a text names, its outer blanks aside. -/
def firstNamed? (variants : List Variant) (text : String) : Option Variant :=
  Scalar.findVariant? variants (Text.trim text.toList)

/-- A text names the first variant that it matches up to ASCII case. -/
theorem firstNamed?_eq_find? (variants : List Variant) (text : String) :
    firstNamed? variants text = variants.find? fun v => sameFolded v.name (trimmed text) := rfl

theorem firstNamed?_eq_some {v : Variant} (h : firstNamed? variants text = some v) :
    v ∈ variants ∧ sameFolded v.name (trimmed text) := by
  rw [firstNamed?_eq_find?, List.find?_eq_some_iff_append] at h
  obtain ⟨hname, before, after, rfl, -⟩ := h
  exact ⟨List.mem_append_right before List.mem_cons_self, hname⟩

theorem firstNamed?_eq_none : firstNamed? variants text = none ↔
    ∀ v ∈ variants, ¬ sameFolded v.name (trimmed text) := by
  rw [firstNamed?_eq_find?, List.find?_eq_none]

/-- Whoever answers to a text is looked up like the text. -/
theorem firstNamed?_name {w : Variant} (h : sameFolded w.name (trimmed text)) :
    firstNamed? variants w.name = firstNamed? variants text := by
  simp only [firstNamed?_eq_find?, sameFolded, Text.Ascii.fold_trimmed_of_sameFolded h]

/-- A text stands for the first variant that it names, and if it names none for those whose
number it spells. -/
theorem Scalar.ofText?_enum :
    (enum variants).ofText? text = some (.enum d) ↔
      (∃ v, firstNamed? variants text = some v ∧ v.discriminant = d) ∨
      (firstNamed? variants text = none ∧
        Reading.readUnsigned (trimmed text).toList = some d.toUInt64 ∧
        ∃ v ∈ variants, v.discriminant = d) := by
  rw [ofText?, trimmed, String.toList_ofList, firstNamed?]
  cases findVariant? variants (Text.trim text.toList) with
  | some v => simp
  | none => simp [Option.bind_eq_some_iff, ofNumber?_enum]

/-- A field of the enumeration, with null or without, takes the text for the number,
whether the text is typed or JSON. -/
def StandsFor (variants : List Variant) (text : String) (d : UInt32) : Prop :=
  ∀ nullable, ∀ literal ∈ [Literal.string text, .json (.string text)],
    coerce literal ⟨.enum variants, nullable, false⟩ = .ok (.enum d)

theorem standsFor_iff : StandsFor variants text d ↔
    (Scalar.enum variants).ofText? text = some (.enum d) := by
  have hcoerce : ∀ nullable, ∀ literal ∈ [Literal.string text, .json (.string text)],
      (coerce literal ⟨.enum variants, nullable, false⟩ = .ok (.enum d) ↔
        (Scalar.enum variants).ofText? text = some (.enum d)) := by
    intro nullable literal hliteral
    rcases List.mem_pair.mp hliteral with rfl | rfl
    · exact coerceScalar_eq_ok
    · exact coerceScalar_eq_ok
  exact ⟨fun h => (hcoerce false _ List.mem_cons_self).mp (h false _ List.mem_cons_self),
    fun h nullable literal hliteral => (hcoerce nullable literal hliteral).mpr h⟩

/-- No name or number of a variant is taken from it. -/
structure Unambiguous (variants : List Variant) : Prop where
  /-- Every variant that answers to the name of another has its number. -/
  names : ∀ v ∈ variants, ∀ w ∈ variants, sameFolded w.name (trimmed v.name) →
    w.discriminant = v.discriminant
  /-- A name that is not found for its outer blanks spells the number. -/
  blanks : ∀ v ∈ variants, (∃ w ∈ variants, sameFolded w.name (trimmed v.name)) ∨
    Reading.readUnsigned (trimmed v.name).toList = some v.discriminant.toUInt64
  /-- A variant that answers to the number of another has that number. -/
  numbers : ∀ v ∈ variants, ∀ w ∈ variants,
    sameFolded w.name (toString v.discriminant.toNat) → w.discriminant = v.discriminant

instance (variants : List Variant) : Decidable (Unambiguous variants) :=
  decidable_of_iff (_ ∧ _ ∧ _) ⟨fun ⟨names, blanks, numbers⟩ => ⟨names, blanks, numbers⟩,
    fun ⟨names, blanks, numbers⟩ => ⟨names, blanks, numbers⟩⟩

/-- A text that stands for a number stands for it as long as all who answer to the text
have it, and somebody does or else the text spells it. -/
theorem standsFor_of {v : Variant} (hv : v ∈ variants)
    (hnamed : ∀ w ∈ variants, sameFolded w.name (trimmed text) →
      w.discriminant = v.discriminant)
    (hfound : (∃ w ∈ variants, sameFolded w.name (trimmed text)) ∨
      Reading.readUnsigned (trimmed text).toList = some v.discriminant.toUInt64) :
    StandsFor variants text v.discriminant := by
  rw [standsFor_iff, Scalar.ofText?_enum]
  cases hfirst : firstNamed? variants text with
  | some w =>
      obtain ⟨hw, hname⟩ := firstNamed?_eq_some hfirst
      exact .inl ⟨w, rfl, hnamed w hw hname⟩
  | none =>
      refine .inr ⟨rfl, hfound.resolve_left ?_, v, hv, rfl⟩
      rintro ⟨w, hw, hname⟩
      exact firstNamed?_eq_none.mp hfirst w hw hname

/-- Two who answer to one text have one number, if both can be named. -/
theorem StandsFor.discriminant_eq {w : Variant} (htext : StandsFor variants text d)
    (hw : w ∈ variants) (hname : sameFolded w.name (trimmed text))
    (hself : StandsFor variants w.name w.discriminant) : w.discriminant = d := by
  rw [standsFor_iff, Scalar.ofText?_enum] at htext hself
  rw [firstNamed?_name hname] at hself
  have hsome : firstNamed? variants text ≠ none :=
    fun hnone => firstNamed?_eq_none.mp hnone w hw hname
  obtain ⟨u, hu, rfl⟩ := htext.resolve_right fun h => hsome h.1
  obtain ⟨u', hu', heq⟩ := hself.resolve_right fun h => hsome h.1
  rw [hu, Option.some.injEq] at hu'
  rw [← heq, hu']

/-! ## Names and numbers -/

/-- The text of a number has nothing to trim. -/
theorem trimmed_toString (n : Nat) : trimmed (toString n) = toString n := by
  have hvisible : ∀ c ∈ (toString n).toList, Text.isBlank c = false := fun c hc =>
    isBlank_of_mem_toString (n := (n : Int)) hc
  rw [trimmed, Text.trim_eq_self hvisible, String.ofList_toList]

theorem readUnsigned_toString (d : UInt32) :
    Reading.readUnsigned (toString d.toNat).toList = some d.toUInt64 :=
  (Reading.readUnsigned_toString_natCast d.toNat).trans (unsigned64?_toNat d.toUInt64)

/-- **Every variant can be named exactly when the table is unambiguous**: its name stands
for its number and so does the number's own text. -/
theorem nameable_iff_unambiguous (variants : List Variant) :
    (∀ v ∈ variants, StandsFor variants v.name v.discriminant ∧
      StandsFor variants (toString v.discriminant.toNat) v.discriminant) ↔
        Unambiguous variants := by
  constructor
  · intro h
    -- Whoever answers to a name or number of another variant has a name of its own, which
    -- is looked up like that text: both stand for the same number.
    refine ⟨fun v hv w hw hname => ?_, fun v hv => ?_, fun v hv w hw hname => ?_⟩
    · exact (h v hv).1.discriminant_eq hw hname (h w hw).1
    · have hname := (h v hv).1
      rw [standsFor_iff, Scalar.ofText?_enum] at hname
      rcases hname with ⟨w, hw, -⟩ | ⟨-, hread, -⟩
      · exact .inl ⟨w, firstNamed?_eq_some hw⟩
      · exact .inr hread
    · rw [← trimmed_toString] at hname
      exact (h v hv).2.discriminant_eq hw hname (h w hw).1
  · intro h v hv
    refine ⟨standsFor_of hv (h.names v hv) (h.blanks v hv), standsFor_of hv ?_ (.inr ?_)⟩
    · rw [trimmed_toString]
      exact h.numbers v hv
    · rw [trimmed_toString]
      exact readUnsigned_toString v.discriminant

/-! ## Declarations -/

namespace Naming

variable {container : ContainerOptions} {options : ItemOptions} {next d : UInt32}
  {v : VariantDecl} {declared rest : List VariantDecl} {entries : List VariantEntry}

/-- The discriminant of a declared variant: its own, or else the next one. -/
def VariantDecl.number (next : UInt32) (v : VariantDecl) : Except NamingError UInt32 :=
  match v.discriminant with
  | some text => readDiscriminant text
  | none => .ok next

/-- The entry that a variant is registered with. -/
def VariantDecl.entry (container : ContainerOptions) (options : ItemOptions) (d : UInt32)
    (v : VariantDecl) : VariantEntry :=
  ⟨v.name, options.rename.getD (container.nameFor v.name), d⟩

/-- A variant is registered if it carries no data and is not skipped, and the ones behind
it count from its discriminant. -/
theorem variantEntries_cons_eq_ok :
    variantEntries container next (v :: rest) = .ok entries ↔
      ¬ v.carriesData ∧ ∃ options, ItemOptions.read v.attributes = .ok options ∧
        ¬ options.skip ∧ ∃ d, v.number next = .ok d ∧
          ∃ others, variantEntries container (d + 1) rest = .ok others ∧
            v.entry container options d :: others = entries := by
  have hregister : ∀ options d,
      (variantEntries container (d + 1) rest >>= fun others =>
          Except.ok (v.entry container options d :: others)) = .ok entries ↔
        ∃ others, variantEntries container (d + 1) rest = .ok others ∧
          v.entry container options d :: others = entries := fun options d => by
    simp only [Outcome.bind_eq_ok, Except.ok.injEq]
  rw [variantEntries]
  by_cases hdata : v.carriesData
  · rw [if_pos hdata]
    exact iff_of_false nofun fun h => h.1 hdata
  · rw [if_neg hdata, and_iff_right hdata]
    refine Outcome.bind_eq_ok.trans (exists_congr fun options => and_congr_right fun _ => ?_)
    by_cases hskip : options.skip
    · rw [if_pos hskip]
      exact iff_of_false nofun fun h => h.1 hskip
    · rw [if_neg hskip, and_iff_right hskip, VariantDecl.number]
      cases v.discriminant with
      | some text =>
          exact Outcome.bind_eq_ok.trans
            (exists_congr fun d => and_congr_right fun _ => hregister options d)
      | none =>
          exact Outcome.bind_eq_ok.trans
            (exists_congr fun d => and_congr_right fun _ => hregister options d)

/-- The variant that an entry of a table stands for. -/
def VariantEntry.variant (e : VariantEntry) : Variant :=
  ⟨e.name, e.discriminant⟩

/-- The entry has the name that the declared variant is given, or else the one that the
rule of the declaration makes of its identifier. -/
def VariantDecl.RegisteredAs (container : ContainerOptions) (v : VariantDecl)
    (e : VariantEntry) : Prop :=
  ∃ options, ItemOptions.read v.attributes = .ok options ∧ e.ident = v.name ∧
    e.name = options.rename.getD (container.nameFor v.name)

/-- Every declared variant is registered, in order; nothing is asked of the names. -/
theorem variantEntries_registered (h : variantEntries container next declared = .ok entries) :
    List.Forall₂ (·.RegisteredAs container ·) declared entries := by
  induction declared generalizing next entries with
  | nil =>
      cases h
      exact .nil
  | cons v rest ih =>
      obtain ⟨-, options, hread, -, d, -, others, hothers, rfl⟩ :=
        variantEntries_cons_eq_ok.mp h
      exact .cons ⟨options, hread, rfl, rfl⟩ (ih hothers)

theorem variantTable_eq_ok {item : Declaration} (h : item.variantTable = .ok entries) :
    ∃ container declared, ContainerOptions.read item.attributes = .ok container ∧
      item.shape = .enum declared ∧ variantEntries container 0 declared = .ok entries := by
  unfold Declaration.variantTable at h
  split at h
  · cases h
  · split at h
    · cases h
    · next declared _ hshape =>
        obtain ⟨container, hcontainer, hentries⟩ := Outcome.bind_eq_ok.mp h
        exact ⟨container, declared, hcontainer, hshape, hentries⟩
    · cases h

theorem variantTable_registered {item : Declaration} (h : item.variantTable = .ok entries) :
    ∃ container declared, ContainerOptions.read item.attributes = .ok container ∧
      item.shape = .enum declared ∧
      List.Forall₂ (·.RegisteredAs container ·) declared entries := by
  obtain ⟨container, declared, hcontainer, hshape, hentries⟩ := variantTable_eq_ok h
  exact ⟨container, declared, hcontainer, hshape, variantEntries_registered hentries⟩

/-- **The enumerations whose variants can all be named.**  An accepted declaration
registers its variants under the names that they are given or that its rule makes of them.
Each of these names, and each number, stands for its own variant exactly when the table is
unambiguous, which the declaration is not checked for. -/
theorem variantTable_nameable_iff {item : Declaration}
    (h : item.variantTable = .ok entries) :
    let variants := entries.map VariantEntry.variant
    (∃ container declared, ContainerOptions.read item.attributes = .ok container ∧
      item.shape = .enum declared ∧
      List.Forall₂ (·.RegisteredAs container ·) declared entries) ∧
    ((∀ v ∈ variants, StandsFor variants v.name v.discriminant ∧
      StandsFor variants (toString v.discriminant.toNat) v.discriminant) ↔
        Unambiguous variants) :=
  ⟨variantTable_registered h, nameable_iff_unambiguous _⟩

/-- The states of a task: a rule makes the names of two of them, the other is given its
name and its discriminant. -/
def taskStates : Declaration where
  generic := false
  attributes := [⟨"filter", some [.assign "rename_all" (some "snake_case")]⟩]
  shape := .enum [
    ⟨"InProgress", none, false, []⟩,
    ⟨"Finished", some "5", false, [⟨"filter", some [.assign "rename" (some "done")]⟩]⟩,
    ⟨"Closed", none, false, []⟩]

/-- All states of a task can be named. -/
theorem variantTable_nameable_taskStates :
    let entries : List VariantEntry :=
      [⟨"InProgress", "in_progress", 0⟩, ⟨"Finished", "done", 5⟩, ⟨"Closed", "closed", 6⟩]
    let variants := entries.map VariantEntry.variant
    taskStates.variantTable = .ok entries ∧
      ∀ v ∈ variants, StandsFor variants v.name v.discriminant ∧
        StandsFor variants (toString v.discriminant.toNat) v.discriminant := by
  intro entries variants
  have htable : taskStates.variantTable = .ok entries := by decide +kernel
  exact ⟨htable, (variantTable_nameable_iff htable).2.mpr (by decide +kernel)⟩

/-- Two levels whose names agree up to case. -/
def levels : Declaration where
  generic := false
  attributes := []
  shape := .enum [⟨"Low", none, false, []⟩, ⟨"LOW", none, false, []⟩]

/-- **A variant of an accepted declaration can be out of reach**: its name stands for
another variant, with another discriminant. -/
theorem low_pair_confused :
    let entries : List VariantEntry := [⟨"Low", "Low", 0⟩, ⟨"LOW", "LOW", 1⟩]
    let variants := entries.map VariantEntry.variant
    levels.variantTable = .ok entries ∧ ⟨"LOW", 1⟩ ∈ variants ∧
      coerce (.string "LOW") ⟨.enum variants, false, false⟩ = .ok (.enum 0) ∧
      ¬ StandsFor variants "LOW" 1 := by
  intro entries variants
  have hcoerce : coerce (.string "LOW") ⟨.enum variants, false, false⟩ = .ok (.enum 0) := rfl
  refine ⟨by decide +kernel, by decide, hcoerce, fun hstands => ?_⟩
  have hone := hstands false (.string "LOW") List.mem_cons_self
  rw [hcoerce] at hone
  exact absurd (Value.enum.inj (Except.ok.inj hone)) (by decide)

end Naming

end RecordQuery
