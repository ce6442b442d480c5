import RecordQuery.Naming.Declaration
import RecordQuery.Proofs.Outcome
import RecordQuery.Proofs.Resolution

/-!
# Reachable fields

A declaration is accepted when no two registered names agree up to ASCII case
(`fieldTable_distinct`).  The table that follows from it is searched by a wider
relation: a requested name that is not ASCII also matches every name with the same
lower-case form.  Two names can therefore pass the first test and be mistaken for
each other by the second, and then neither field can be reached by its own name.

`resolve_registered` says exactly which fields can be: those with an ASCII name, and
those whose name nobody else has in lower case.
-/

namespace RecordQuery.Naming

variable {container : ContainerOptions} {table table' entries : List FieldEntry}
  {e e' : FieldEntry} {i j : Nat}

/-! ## Accepted declarations -/

/-- The identifier of a declared field. -/
def FieldDecl.ident (field : FieldDecl) : String :=
  String.ofList (plainIdent field.name.toList)

/-- The entry that a field is registered with. -/
def FieldDecl.entry (container : ContainerOptions) (options : ItemOptions)
    (field : FieldDecl) (position : Nat) : FieldEntry :=
  ⟨constantName field.ident, options.rename.getD (container.nameFor field.ident), position⟩

/-- A declared field is skipped, or else it is registered behind the others under a
name that none of them has up to ASCII case. -/
theorem addField_eq_ok {field : FieldDecl} {position : Nat} :
    addField container table (field, position) = .ok table' ↔
      ∃ options, ItemOptions.read field.attributes = .ok options ∧
        ((options.skip ∧ table' = table) ∨
          (¬ options.skip ∧
            (∀ old ∈ table, ¬ Text.Ascii.sameFolded old.name
              (field.entry container options position).name) ∧
            table' = table ++ [field.entry container options position])) := by
  rw [addField, Outcome.bind_eq_ok]
  refine exists_congr fun options => and_congr_right fun _ => ?_
  by_cases hskip : options.skip
  · rw [if_pos hskip]
    constructor
    · intro h
      cases h
      exact .inl ⟨hskip, rfl⟩
    · rintro (⟨-, rfl⟩ | ⟨hnot, -⟩)
      · rfl
      · exact absurd hskip hnot
  · rw [if_neg hskip]
    show (if table.any fun old => Text.Ascii.sameFolded old.name
        (field.entry container options position).name then _ else _) = _ ↔ _
    split
    · next hany =>
        obtain ⟨old, hold, hsame⟩ := List.any_eq_true.mp hany
        refine ⟨nofun, ?_⟩
        rintro (⟨hskip', -⟩ | ⟨-, hnew, -⟩)
        · exact absurd hskip' hskip
        · exact absurd hsame (hnew old hold)
    · next hany =>
        have hnew : ∀ old ∈ table, ¬ Text.Ascii.sameFolded old.name
            (field.entry container options position).name :=
          fun old hold hsame => hany (List.any_eq_true.mpr ⟨old, hold, hsame⟩)
        constructor
        · intro h
          cases h
          exact .inr ⟨hskip, hnew, rfl⟩
        · rintro (⟨hskip', -⟩ | ⟨-, -, rfl⟩)
          · exact absurd hskip' hskip
          · rfl

/-- The names of a table differ in more than ASCII case. -/
def Distinct (table : List FieldEntry) : Prop :=
  table.Pairwise fun a b => ¬ Text.Ascii.sameFolded a.name b.name

/-- One more field leaves the names distinct. -/
theorem addField_distinct {declared : FieldDecl × Nat}
    (h : addField container table declared = .ok table') (htable : Distinct table) :
    Distinct table' := by
  obtain ⟨options, -, ⟨-, rfl⟩ | ⟨-, hnew, rfl⟩⟩ := addField_eq_ok.mp h
  · exact htable
  · refine List.pairwise_append.mpr ⟨htable, List.pairwise_singleton _ _, ?_⟩
    intro old hold new hmem
    obtain rfl := List.mem_singleton.mp hmem
    exact hnew old hold

/-- So do all the fields of a declaration, one after the other. -/
theorem foldlM_addField_distinct {declared : List (FieldDecl × Nat)}
    (h : declared.foldlM (addField container) table = .ok entries)
    (htable : Distinct table) : Distinct entries := by
  induction declared generalizing table with
  | nil => cases h; exact htable
  | cons first rest ih =>
      rw [List.foldlM_cons] at h
      obtain ⟨next, hnext, hrest⟩ := Outcome.bind_eq_ok.mp h
      exact ih hrest (addField_distinct hnext htable)

/-- An accepted record type has named fields, which have been added one after the other. -/
theorem fieldTable_eq_ok {d : Declaration} (h : d.fieldTable = .ok entries) :
    ∃ container fields, ContainerOptions.read d.attributes = .ok container ∧
      d.shape = .named fields ∧ fields.zipIdx.foldlM (addField container) [] = .ok entries := by
  unfold Declaration.fieldTable at h
  split at h
  · cases h
  · split at h
    · next fields hshape =>
        obtain ⟨container, hcontainer, hfields⟩ := Outcome.bind_eq_ok.mp h
        exact ⟨container, fields, hcontainer, hshape, hfields⟩
    all_goals cases h

/-- **The names of an accepted declaration differ in more than ASCII case.** -/
theorem fieldTable_distinct {d : Declaration} (h : d.fieldTable = .ok entries) :
    Distinct entries := by
  obtain ⟨container, fields, -, -, hfields⟩ := fieldTable_eq_ok h
  exact foldlM_addField_distinct hfields List.Pairwise.nil

/-- Among distinct entries a name is that of one position, up to ASCII case. -/
theorem Distinct.eq_of_sameFolded (h : Distinct entries) (hi : entries[i]? = some e)
    (hj : entries[j]? = some e') (hsame : Text.Ascii.sameFolded e'.name e.name) : j = i := by
  obtain ⟨hilt, rfl⟩ := List.getElem?_eq_some_iff.mp hi
  obtain ⟨hjlt, rfl⟩ := List.getElem?_eq_some_iff.mp hj
  rcases Nat.lt_trichotomy i j with hlt | heq | hgt
  · refine absurd ?_ (List.pairwise_iff_getElem.mp h i j hilt hjlt hlt)
    rw [Text.Ascii.sameFolded, beq_iff_eq] at hsame ⊢
    exact hsame.symm
  · exact heq.symm
  · exact absurd hsame (List.pairwise_iff_getElem.mp h j i hjlt hilt hgt)

/-! ## The table that follows -/

/-- The field that an entry registers, given the types of the declared fields. -/
def FieldEntry.field (types : Nat → FieldType) (e : FieldEntry) : Field :=
  ⟨e.name, types e.position, e.position⟩

/-- The table with the entries of a declaration.  Skipped fields have slots in its
records as well, so that the slot of a field is its position. -/
def tableOf (recordName : String) (types : Nat → FieldType) (blank : Record)
    (entries : List FieldEntry) : Table :=
  ⟨recordName, entries.map (·.field types), blank⟩

/-- No other entry has the name of the one at a position in lower case. -/
def AloneInLower (entries : List FieldEntry) (i : Nat) (name : String) : Prop :=
  ∀ j e, entries[j]? = some e → Text.lower e.name = Text.lower name → j = i

section Resolve

variable (recordName : String) (types : Nat → FieldType) (blank : Record)

/-- The fields of a table are the entries it was made of, in order. -/
theorem getElem?_tableOf {f : Field} :
    (tableOf recordName types blank entries).fields[j]? = some f ↔
      ∃ e, entries[j]? = some e ∧ e.field types = f := by
  rw [tableOf, List.getElem?_map, Option.map_eq_some_iff]

/-- A name of the table matches another entry only by its lower-case form. -/
theorem find?_registered (h : Distinct entries) (hi : entries[i]? = some e) :
    (tableOf recordName types blank entries).find? e.name = some (e.field types, i) ↔
      Text.Ascii.isAscii e.name ∨ AloneInLower entries i e.name := by
  rw [Table.find?_eq_some_iff, or_iff_not_imp_left]
  constructor
  · rintro ⟨-, -, honly⟩ hascii j other hj hlower
    refine honly j (other.field types)
      ((getElem?_tableOf recordName types blank).mpr ⟨other, hj, rfl⟩) ?_
    simp [namesMatch, FieldEntry.field, hascii, hlower]
  · intro halone
    refine ⟨(getElem?_tableOf recordName types blank).mpr ⟨e, hi, rfl⟩,
      namesMatch_self e.name, fun j g hg hmatch => ?_⟩
    obtain ⟨other, hj, rfl⟩ := (getElem?_tableOf recordName types blank).mp hg
    rcases Bool.or_eq_true_iff.mp hmatch with hsame | hlower
    · exact h.eq_of_sameFolded hi hj hsame
    · obtain ⟨hascii, hlower⟩ := Bool.and_eq_true_iff.mp hlower
      exact halone (by simpa using hascii) j other hj (beq_iff_eq.mp hlower)

/-- **The fields that their own names reach**: those with an ASCII name, and those
whose name is unlike all others also in lower case.  The name of any other field is
refused as unknown, because it matches two fields. -/
theorem resolve_registered {d : Declaration} (h : d.fieldTable = .ok entries)
    (hi : entries[i]? = some e) :
    let table := tableOf recordName types blank entries
    let reachable := Text.Ascii.isAscii e.name ∨ AloneInLower entries i e.name
    (reachable → table.resolve e.name = .ok (e.field types, i)) ∧
      (¬ reachable → table.resolve e.name = .error (.unknownField e.name)) := by
  intro table reachable
  have hfind := find?_registered recordName types blank (fieldTable_distinct h) hi
  refine ⟨fun hreach => Table.resolve_eq_ok.mpr (hfind.mpr hreach), fun hnot => ?_⟩
  rw [Table.resolve_eq_error]
  refine ⟨Option.eq_none_iff_forall_ne_some.mpr fun found hfound => hnot (hfind.mp ?_), rfl⟩
  rw [hfound, Table.eq_of_find?_eq_some hfound
    ((getElem?_tableOf recordName types blank).mpr ⟨e, hi, rfl⟩) (namesMatch_self e.name)]

end Resolve

/-- A record type with two fields of given registered names. -/
def pairOf (first second : String) : Declaration where
  generic := false
  attributes := []
  shape := .named [
    ⟨"first", [⟨"filter", some [.assign "rename" (some first)]⟩]⟩,
    ⟨"second", [⟨"filter", some [.assign "rename" (some second)]⟩]⟩]

/-- The entries of such a record type. -/
def pairEntries (first second : String) : List FieldEntry :=
  [⟨"FIRST", first, 0⟩, ⟨"SECOND", second, 1⟩]

/-- Of two names with one lower-case form the ASCII one reaches its field, and the other
one, the sign for kelvin, does not. -/
theorem resolve_registered_kelvin :
    let entries := pairEntries "k" "\u212a"
    let table := tableOf "Pair" (fun _ => .plain .string) [] entries
    (pairOf "k" "\u212a").fieldTable = .ok entries ∧
      table.resolve "k" = .ok (⟨"k", .plain .string, 0⟩, 0) ∧
      table.resolve "\u212a" = .error (.unknownField "\u212a") := by
  intro entries table
  have htable : (pairOf "k" "\u212a").fieldTable = .ok entries := rfl
  have hletter : entries[0]? = some ⟨"FIRST", "k", 0⟩ := rfl
  have hkelvin : entries[1]? = some ⟨"SECOND", "\u212a", 1⟩ := rfl
  refine ⟨htable, ?_, ?_⟩
  · exact (resolve_registered "Pair" _ [] htable hletter).1 (.inl (by decide))
  · refine (resolve_registered "Pair" _ [] htable hkelvin).2 ?_
    rintro (hascii | halone)
    · exact absurd hascii (by decide)
    · exact absurd (halone 0 _ hletter (by decide)) (by decide)

/-- **A field of an accepted declaration can be out of reach**: two names that differ in
the case of an accented letter are both registered, and neither finds its field. -/
theorem accented_pair_unreachable :
    (pairOf "é" "É").fieldTable = .ok (pairEntries "é" "É") ∧
      let table := tableOf "Pair" (fun _ => .plain .string) [] (pairEntries "é" "É")
      table.resolve "é" = .error (.unknownField "é") ∧
        table.resolve "É" = .error (.unknownField "É") :=
  ⟨rfl, rfl, rfl⟩

end RecordQuery.Naming
