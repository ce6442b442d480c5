import RecordQuery.Proofs.AcceptedDeclarations
import RecordQuery.Proofs.RepeatedRules

/-!
# Raw identifiers

An identifier can be written raw, with a mark in front of it that lets it be a keyword.  The mark
is no part of the identifier, so that a declaration should have the same tables however its
identifiers are written.

A record type has: the mark is taken off before a name and a constant are made
(`fieldTable_writeRaw`).  An enumeration has the same errors and the same discriminants, because
no variant is checked for its identifier (`variantEntries_cons`), but its names are made of the
identifiers with their marks.  No rule takes a mark away or adds one, since no letter has a `#` in
its other case (`count_rename`).  So the names of an enumeration are the same exactly when the
variants that are written raw are given names of their own (`writeRaw_sameRegistration_iff`).
-/

namespace RecordQuery

/-! ## The mark in other cases -/

namespace Text

open Casing

theorem eq_of_ofNat_eq_mark {n : ℕ} (h : Char.ofNat n = '#') : n = 35 := by
  by_cases hvalid : n.isValidChar
  · have hchar : Char.ofNatAux n hvalid = '#' := (dif_pos hvalid).symm.trans h
    exact congrArg Char.toNat hchar
  · have hnul : '\x00' = '#' := (dif_neg hvalid).symm.trans h
    exact absurd hnul (by decide)

/-- Tables of letters behind the mark, which is 35, with images behind it leave marks alone. -/
theorem count_mapCase {long : List (ℕ × List Char)} {shifts : List Shift}
    (hlong : ∀ p ∈ long, 35 < p.1 ∧ '#' ∉ p.2)
    (hshifts : ∀ s ∈ shifts, 35 < s.run.first ∧ 35 < (s.run.first : ℤ) + s.offset) (c : Char) :
    (mapCase long shifts c).count '#' = [c].count '#' := by
  have hcount : ∀ image : List Char, 35 < c.toNat → '#' ∉ image →
      image.count '#' = [c].count '#' := by
    intro image hcode himage
    have hc : c ≠ '#' := by
      rintro rfl
      exact absurd hcode (by decide)
    rw [List.count_eq_zero_of_not_mem himage, List.count_singleton, if_neg (by simpa using hc)]
  unfold mapCase
  split
  · next image hlookup =>
      obtain ⟨front, behind, rfl, -⟩ := List.lookup_eq_some_iff.mp hlookup
      obtain ⟨hcode, himage⟩ := hlong (c.toNat, image) (by simp)
      exact hcount image hcode himage
  · split
    · next s hfind =>
        obtain ⟨hfirst, hoffset⟩ := hshifts s (List.mem_of_find?_eq_some hfind)
        have hcovers := List.find?_some hfind
        simp only [Casing.Run.covers, Bool.and_eq_true, decide_eq_true_eq] at hcovers
        refine hcount _ (by omega) fun hmark => ?_
        have hcode := eq_of_ofNat_eq_mark (List.mem_singleton.mp hmark).symm
        omega
    · rfl

/-- Capitals add and lose no mark. -/
theorem count_upperOf (c : Char) : (upperOf c).count '#' = [c].count '#' :=
  count_mapCase (by decide +kernel) (by decide +kernel) c

theorem count_lowerOf (c : Char) : (lowerOf c).count '#' = [c].count '#' :=
  count_mapCase (by decide +kernel) (by decide +kernel) c

/-- Nor do small letters, wherever they stand. -/
theorem count_lowerAfter (before s : List Char) :
    (lowerAfter before s).count '#' = s.count '#' := by
  induction s generalizing before with
  | nil => rfl
  | cons c rest ih =>
      have hsplit : (c :: rest).count '#' = [c].count '#' + rest.count '#' := by
        rw [← List.count_append, List.singleton_append]
      rw [lowerAfter, List.count_append, ih, hsplit, Nat.add_right_cancel_iff]
      split
      · next hsigma =>
          subst hsigma
          split <;> rfl
      · exact count_lowerOf c

end Text

namespace Naming

/-! ## The mark in names -/

/-- A word has as many marks with a capital in front as without. -/
theorem count_capitalize (w : List Char) : (capitalize w).count '#' = w.count '#' := by
  cases w with
  | nil => rfl
  | cons c rest =>
      rw [capitalize, List.count_append, Text.count_upperOf, ← List.count_append,
        List.singleton_append]

theorem count_lowerWord (w : List Char) : (lowerWord w).count '#' = w.count '#' :=
  Text.count_lowerAfter [] w

theorem count_flatMap_capitalize (ws : List (List Char)) :
    (ws.flatMap capitalize).count '#' = ws.flatten.count '#' := by
  rw [List.flatMap_def, List.count_flatten, List.count_flatten, List.map_map]
  exact congrArg List.sum (List.map_congr_left fun w _ => count_capitalize w)

/-- Joining words adds no mark. -/
theorem count_joinWords (ws : List (List Char)) :
    (joinWords ws).count '#' = ws.flatten.count '#' := by
  have hcount : ∀ s : List Char, (s.filter (· != '_')).count '#' = s.count '#' :=
    fun s => List.count_filter (by decide)
  rw [← hcount, filter_joinWords, hcount]

/-- **A rule leaves the marks of a text.** -/
theorem count_rename (rule : Rule) (s : List Char) :
    (rule.rename s).count '#' = s.count '#' := by
  have hwords : (splitWords s).flatten.count '#' = s.count '#' := by
    rw [flatten_splitWords]
    exact List.count_filter (by decide)
  cases rule with
  | pascalCase => exact (count_flatMap_capitalize _).trans hwords
  | camelCase =>
      rw [rename_camelCase, ← hwords]
      cases splitWords s with
      | nil => rfl
      | cons w rest =>
          rw [camel, List.count_append, count_lowerWord, count_flatMap_capitalize,
            List.flatten_cons, List.count_append]
  | lowercase => exact count_lowerWord s
  | snakeCase =>
      rw [Rule.rename, count_joinWords, ← hwords, List.count_flatten, List.count_flatten,
        List.map_map]
      exact congrArg List.sum (List.map_congr_left fun w _ => count_lowerWord w)

/-- An identifier written raw. -/
def rawName (name : String) : String :=
  "r#" ++ name

/-- A raw identifier is written with its mark as the second character. -/
theorem toList_rawName (name : String) : (rawName name).toList = 'r' :: '#' :: name.toList :=
  String.toList_append

/-- **The mark shows in a name**, whatever rule makes it. -/
theorem nameFor_rawName_ne (container : ContainerOptions) (name : String) :
    container.nameFor (rawName name) ≠ container.nameFor name := by
  have hcount : (rawName name).toList.count '#' = name.toList.count '#' + 1 := by
    rw [toList_rawName, List.count_cons_of_ne (by decide), List.count_cons_self]
  intro hsame
  have hsame' := congrArg (·.toList.count '#') hsame
  unfold ContainerOptions.nameFor at hsame'
  cases hrule : container.renameAll with
  | none =>
      simp only [hrule, hcount] at hsame'
      omega
  | some rule =>
      simp only [hrule, Rule.apply, String.toList_ofList, count_rename, hcount] at hsame'
      omega

/-! ## Items written raw -/

section Items

variable {α : Type} {write : α → α} {marked : ℕ → Bool} {x : α} {xs : List α}

/-- The items of a list, those at the marked positions written otherwise. -/
def writeMarked (write : α → α) (marked : ℕ → Bool) (xs : List α) : List α :=
  xs.mapIdx fun i x => if marked i then write x else x

theorem writeMarked_cons :
    writeMarked write marked (x :: xs) =
      (if marked 0 then write x else x) :: writeMarked write (fun i => marked (i + 1)) xs :=
  List.mapIdx_cons

/-- What is true of the marked items is true of the first, if it is marked, and of the others. -/
theorem forall_marked_cons_iff {P : α → Prop} :
    (∀ i y, (x :: xs)[i]? = some y → marked i → P y) ↔
      (marked 0 → P x) ∧ ∀ i y, xs[i]? = some y → marked (i + 1) → P y := by
  constructor
  · intro h
    exact ⟨h 0 x rfl, fun i y hy => h (i + 1) y (by simpa using hy)⟩
  · rintro ⟨hfirst, hrest⟩ i y hy
    cases i with
    | zero =>
        obtain rfl : x = y := by simpa using hy
        exact hfirst
    | succ i => exact hrest i y (by simpa using hy)

end Items

/-- The field under its identifier written raw. -/
def FieldDecl.raw (field : FieldDecl) : FieldDecl :=
  { field with name := rawName field.name }

/-- The variant under its identifier written raw. -/
def VariantDecl.raw (v : VariantDecl) : VariantDecl :=
  { v with name := rawName v.name }

/-- The declaration with the identifiers at the marked positions written raw. -/
def Declaration.writeRaw (marked : ℕ → Bool) (d : Declaration) : Declaration :=
  { d with
    shape := match d.shape with
      | .named fields => .named (writeMarked FieldDecl.raw marked fields)
      | .enum variants => .enum (writeMarked VariantDecl.raw marked variants)
      | shape => shape }

variable {container : ContainerOptions} {marked : ℕ → Bool}

/-! ## Fields -/

/-- A field is registered under its identifier without the mark. -/
theorem addField_raw (table : List FieldEntry) (field : FieldDecl) (position : ℕ) :
    addField container table (field.raw, position) =
      addField container table (field, position) := by
  have hident : plainIdent (rawName field.name).toList = plainIdent field.name.toList := by
    rw [toList_rawName, plainIdent]
  rw [addField, addField]
  simp only [FieldDecl.raw, hident]

/-- Which identifiers are raw makes no difference to the fields that are registered. -/
theorem foldlM_addField_writeMarked (fields : List FieldDecl) (table : List FieldEntry)
    (position : ℕ) :
    ((writeMarked FieldDecl.raw marked fields).zipIdx position).foldlM (addField container)
        table =
      (fields.zipIdx position).foldlM (addField container) table := by
  induction fields generalizing marked table position with
  | nil => rfl
  | cons field rest ih =>
      have hfirst : addField container table
          (if marked 0 then field.raw else field, position) =
            addField container table (field, position) := by
        split
        · exact addField_raw table field position
        · rfl
      rw [writeMarked_cons, List.zipIdx_cons, List.zipIdx_cons, List.foldlM_cons,
        List.foldlM_cons, hfirst]
      exact bind_congr fun next => ih next (position + 1)

/-- **A record type has one table however its identifiers are written.** -/
theorem fieldTable_writeRaw (marked : ℕ → Bool) (d : Declaration) :
    (d.writeRaw marked).fieldTable = d.fieldTable := by
  obtain ⟨generic, attributes, shape⟩ := d
  cases shape with
  | named fields =>
      cases generic with
      | true => rfl
      | false => exact bind_congr fun container => foldlM_addField_writeMarked fields [] 0
  | tuple => rfl
  | unit => rfl
  | union => rfl
  | enum variants => rfl

/-! ## Variants -/

/-- What a variant is checked for, and the options and the discriminant that it is found to
have; its identifier takes no part in it. -/
def VariantDecl.checked (next : UInt32) (v : VariantDecl) :
    Except NamingError (ItemOptions × UInt32) := do
  if v.carriesData then .error .variantWithData
  let options ← ItemOptions.read v.attributes
  if options.skip then .error .skippedVariant
  let d ← v.number next
  return (options, d)

/-- **Variants are checked one after the other**, each before its name is made. -/
theorem variantEntries_cons (container : ContainerOptions) (next : UInt32) (v : VariantDecl)
    (rest : List VariantDecl) :
    variantEntries container next (v :: rest) = v.checked next >>= fun found =>
      (variantEntries container (found.2 + 1) rest).map
        (v.entry container found.1 found.2 :: ·) := by
  have hregister : ∀ options d,
      (variantEntries container (d + 1) rest >>= fun others =>
          Except.ok (v.entry container options d :: others)) =
        (variantEntries container (d + 1) rest).map (v.entry container options d :: ·) := by
    intro options d
    cases variantEntries container (d + 1) rest <;> rfl
  rw [variantEntries, VariantDecl.checked]
  cases v.carriesData with
  | true => rfl
  | false =>
      cases ItemOptions.read v.attributes with
      | error e => rfl
      | ok options =>
          obtain ⟨skip, rename⟩ := options
          cases skip with
          | true => rfl
          | false =>
              rw [VariantDecl.number]
              cases v.discriminant with
              | none => exact hregister ⟨false, rename⟩ next
              | some text =>
                  dsimp only
                  cases readDiscriminant text with
                  | error e => rfl
                  | ok d => exact hregister ⟨false, rename⟩ d

variable {next : UInt32} {v : VariantDecl} {variants : List VariantDecl}
  {entries entries' : List VariantEntry}

/-- A variant is found to have the same whether it is written raw or not. -/
theorem checked_raw (written : Bool) (next : UInt32) (v : VariantDecl) :
    (if written then v.raw else v).checked next = v.checked next := by
  cases written <;> rfl

/-- **The errors and the discriminants of variants do not depend on how they are written.** -/
theorem map_discriminant_writeMarked (marked : ℕ → Bool) (next : UInt32)
    (variants : List VariantDecl) :
    (variantEntries container next (writeMarked VariantDecl.raw marked variants)).map
        (·.map (·.discriminant)) =
      (variantEntries container next variants).map (·.map (·.discriminant)) := by
  induction variants generalizing marked next with
  | nil => rfl
  | cons v rest ih =>
      rw [writeMarked_cons, variantEntries_cons, variantEntries_cons, checked_raw]
      cases v.checked next with
      | error e => rfl
      | ok found =>
          obtain ⟨options, d⟩ := found
          have hrest := congrArg (Except.map (d :: ·)) (ih (fun i => marked (i + 1)) (d + 1))
          rw [Outcome.map_map, Outcome.map_map] at hrest
          show Except.map _ (Except.map _ _) = Except.map _ (Except.map _ _)
          rw [Outcome.map_map, Outcome.map_map]
          exact hrest

/-- The first `filter` attribute of the variant gives it a name. -/
def VariantDecl.HasOwnName (v : VariantDecl) : Prop :=
  ∃ options, ItemOptions.read v.attributes = .ok options ∧ options.rename.isSome

/-- The options of a variant that was checked are those that its attributes are read as. -/
theorem read_of_checked {options : ItemOptions} {d : UInt32}
    (h : v.checked next = .ok (options, d)) : ItemOptions.read v.attributes = .ok options := by
  unfold VariantDecl.checked at h
  cases hdata : v.carriesData with
  | true =>
      rw [hdata] at h
      cases h
  | false =>
      rw [hdata] at h
      obtain ⟨options', hread, hrest⟩ := Outcome.bind_eq_ok.mp h
      by_cases hskip : options'.skip
      · rw [if_pos hskip] at hrest
        cases hrest
      · rw [if_neg hskip] at hrest
        obtain ⟨d', -, hfound⟩ := Outcome.bind_eq_ok.mp hrest
        cases hfound
        exact hread

/-- A name of its own is the only one that a variant keeps when it is written raw. -/
theorem variant_entry_raw_iff {options : ItemOptions} {d : UInt32}
    (hread : ItemOptions.read v.attributes = .ok options) :
    (v.raw.entry container options d).variant = (v.entry container options d).variant ↔
      v.HasOwnName := by
  have hown : v.HasOwnName ↔ options.rename.isSome := by
    simp [VariantDecl.HasOwnName, hread]
  rw [hown]
  cases hrename : options.rename with
  | some name => simp [VariantDecl.entry, VariantEntry.variant, hrename]
  | none =>
    simp [VariantDecl.entry, VariantEntry.variant, hrename, VariantDecl.raw, nameFor_rawName_ne]

/-- **The names of variants do not depend on how they are written** exactly if those that are
written raw have names of their own. -/
theorem map_variant_writeMarked_iff (h : variantEntries container next variants = .ok entries)
    (h' : variantEntries container next (writeMarked VariantDecl.raw marked variants) =
      .ok entries') :
    entries'.map VariantEntry.variant = entries.map VariantEntry.variant ↔
      ∀ i v, variants[i]? = some v → marked i → v.HasOwnName := by
  induction variants generalizing marked next entries entries' with
  | nil =>
      cases h
      cases h'
      simp
  | cons v rest ih =>
      rw [variantEntries_cons] at h
      rw [writeMarked_cons, variantEntries_cons, checked_raw] at h'
      obtain ⟨⟨options, d⟩, hfound, hmap⟩ := Outcome.bind_eq_ok.mp h
      obtain ⟨found', hfound', hmap'⟩ := Outcome.bind_eq_ok.mp h'
      obtain rfl : (options, d) = found' := Except.ok.inj (hfound.symm.trans hfound')
      obtain ⟨others, hothers, rfl⟩ := Outcome.map_eq_ok.mp hmap
      obtain ⟨others', hothers', rfl⟩ := Outcome.map_eq_ok.mp hmap'
      rw [forall_marked_cons_iff, ← ih hothers hothers', List.map_cons, List.map_cons,
        List.cons.injEq]
      refine and_congr_left fun _ => ?_
      cases marked 0 with
      | false => simp
      | true => simpa using variant_entry_raw_iff (read_of_checked hfound)

/-! ## Declarations written raw -/

/-- Two declarations are registered alike, however their identifiers are written: the same fields
with the same constants, and variants of the same names and discriminants, or the same error. -/
def SameRegistration (d d' : Declaration) : Prop :=
  d.fieldTable = d'.fieldTable ∧
    d.variantTable.map (·.map VariantEntry.variant) =
      d'.variantTable.map (·.map VariantEntry.variant)

/-- An enumeration has the same errors and discriminants however its identifiers are written. -/
theorem variantTable_writeRaw (marked : ℕ → Bool) (d : Declaration) :
    (d.writeRaw marked).variantTable.map (·.map (·.discriminant)) =
      d.variantTable.map (·.map (·.discriminant)) := by
  obtain ⟨generic, attributes, shape⟩ := d
  cases generic with
  | true => cases shape <;> rfl
  | false =>
      cases shape with
      | enum variants =>
          cases variants with
          | nil => rfl
          | cons v rest =>
              -- A table is made of the variants because there is one.
              have htable : ∀ v rest,
                  Declaration.variantTable ⟨false, attributes, .enum (v :: rest)⟩ =
                    ContainerOptions.read attributes >>= fun container =>
                      variantEntries container 0 (v :: rest) := fun v rest => rfl
              rw [Declaration.writeRaw]
              dsimp only
              rw [writeMarked_cons, htable, htable, ← writeMarked_cons]
              cases ContainerOptions.read attributes with
              | error e => rfl
              | ok container => exact map_discriminant_writeMarked marked 0 (v :: rest)
      | named fields => rfl
      | tuple => rfl
      | unit => rfl
      | union => rfl

/-- **When raw identifiers are registered like plain ones.**  In a record type they always are.
In an enumeration the errors and the discriminants are the same, and the names are exactly if
every variant that is written raw is given a name of its own: a name that is made of a raw
identifier keeps its mark. -/
theorem writeRaw_sameRegistration_iff (d : Declaration) (marked : ℕ → Bool) :
    (d.writeRaw marked).fieldTable = d.fieldTable ∧
    (d.writeRaw marked).variantTable.map (·.map (·.discriminant)) =
      d.variantTable.map (·.map (·.discriminant)) ∧
    (SameRegistration (d.writeRaw marked) d ↔
      ∀ variants entries, d.shape = .enum variants → d.variantTable = .ok entries →
        ∀ i v, variants[i]? = some v → marked i → v.HasOwnName) := by
  have hdiscriminants := variantTable_writeRaw marked d
  refine ⟨fieldTable_writeRaw marked d, hdiscriminants, ?_⟩
  rw [SameRegistration, and_iff_right (fieldTable_writeRaw marked d)]
  cases htable : d.variantTable with
  | error e =>
      have herror := congrArg Outcome.error? hdiscriminants
      rw [Outcome.error?_map, Outcome.error?_map, htable] at herror
      rw [Outcome.error?_eq_some.mp herror]
      exact iff_of_true rfl nofun
  | ok entries =>
      rw [htable] at hdiscriminants
      obtain ⟨entries', hraw, -⟩ := Outcome.map_eq_ok.mp hdiscriminants
      obtain ⟨container, variants, hcontainer, hshape, hentries⟩ := variantTable_eq_ok htable
      obtain ⟨container', variants', hcontainer', hshape', hentries'⟩ := variantTable_eq_ok hraw
      obtain rfl : container = container' := Except.ok.inj (hcontainer.symm.trans hcontainer')
      obtain rfl : writeMarked VariantDecl.raw marked variants = variants' := by
        rw [Declaration.writeRaw, hshape] at hshape'
        exact Shape.enum.inj hshape'
      have hnames := map_variant_writeMarked_iff hentries hentries'
      rw [hraw]
      show Except.ok _ = Except.ok _ ↔ _
      rw [Except.ok.injEq, hnames, hshape]
      constructor
      · rintro hown _ _ ⟨⟩ -
        exact hown
      · exact fun hown => hown variants entries rfl rfl

/-- An enumeration whose variants need no mark. -/
def volumes : Declaration where
  generic := false
  attributes := []
  shape := .enum [⟨"Low", none, false, []⟩, ⟨"High", none, false, []⟩]

/-- **A variant that is written raw is registered with its mark**, and so under another name. -/
theorem raw_variant_keeps_mark :
    let entries : List VariantEntry := [⟨"Low", "Low", 0⟩, ⟨"High", "High", 1⟩]
    let entries' : List VariantEntry := [⟨"r#Low", "r#Low", 0⟩, ⟨"High", "High", 1⟩]
    let raw := volumes.writeRaw (· == 0)
    volumes.variantTable = .ok entries ∧ raw.variantTable = .ok entries' ∧
      ¬ SameRegistration raw volumes := by
  intro entries entries' raw
  have htable : volumes.variantTable = .ok entries := rfl
  have hraw : raw.variantTable = .ok entries' := rfl
  refine ⟨htable, hraw, fun hsame => ?_⟩
  have hnames := hsame.2
  rw [htable, hraw] at hnames
  exact absurd (Except.ok.inj hnames) (by decide)

end Naming

end RecordQuery
