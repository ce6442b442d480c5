import RecordQuery.Proofs.Attributes
import RecordQuery.Proofs.Reachability
import RecordQuery.Proofs.VariantNames

/-!
# Accepted declarations

What a declaration with a table has been checked for.  Every entry of the first `filter`
attributes of it, and of its fields or variants, is one that is accepted there
(`readable_of_table`); and its table has just the fields that these attributes do not skip
(`registered_iff`).  Other attributes take no part in either.
-/

namespace RecordQuery.Naming

variable {container : ContainerOptions} {a : List Attribute}

/-- All entries of the first `filter` attribute of a field or variant are accepted. -/
def ItemOptions.Readable (attributes : List Attribute) : Prop :=
  ∃ entries, filterEntries attributes = .ok entries ∧ ∀ e ∈ entries, Accepts e

/-- All entries of the first `filter` attribute of a declaration are accepted. -/
def ContainerOptions.Readable (attributes : List Attribute) : Prop :=
  ∃ entries, filterEntries attributes = .ok entries ∧ ∀ e ∈ entries, Accepts e

theorem ItemOptions.readable_of_read {o : ItemOptions} (h : read a = .ok o) : Readable a := by
  obtain ⟨entries, hentries, haccepts, -⟩ := read_eq_ok.mp h
  exact ⟨entries, hentries, haccepts⟩

theorem ContainerOptions.readable_of_read {o : ContainerOptions} (h : read a = .ok o) :
    Readable a := by
  obtain ⟨entries, hentries, haccepts, -⟩ := read_eq_ok.mp h
  exact ⟨entries, hentries, haccepts⟩

/-- The attributes of the fields or variants of a declaration. -/
def Declaration.itemAttributes (d : Declaration) : List (List Attribute) :=
  match d.shape with
  | .named fields => fields.map (·.attributes)
  | .enum variants => variants.map (·.attributes)
  | _ => []

section Fields

variable {table table' entries : List FieldEntry} {declared : List (FieldDecl × Nat)}
  {fields : List FieldDecl} {field : FieldDecl} {i position : Nat}

/-- A field of a record type has an entry in a table. -/
def Registered (table : List FieldEntry) (i : Nat) : Prop :=
  ∃ e ∈ table, e.position = i

/-- The first `filter` attribute of a field does not skip it. -/
def FieldDecl.Shown (field : FieldDecl) : Prop :=
  ∃ options, ItemOptions.read field.attributes = .ok options ∧ ¬ options.skip

/-- One field adds its own position to the registered ones, if it is shown at all. -/
theorem registered_addField
    (h : addField container table (field, position) = .ok table') :
    Registered table' i ↔ Registered table i ∨ (position = i ∧ field.Shown) := by
  obtain ⟨options, hread, ⟨hskip, rfl⟩ | ⟨hskip, -, rfl⟩⟩ := addField_eq_ok.mp h
  · have hhidden : ¬ field.Shown := by
      rintro ⟨options', hread', hnot⟩
      rw [hread] at hread'
      cases hread'
      exact hnot hskip
    simp [hhidden]
  · have hshown : field.Shown := ⟨options, hread, hskip⟩
    simp [Registered, or_and_right, exists_or, hshown, FieldDecl.entry]

/-- **The registered positions** are those of the shown fields, whatever comes before them.
-/
theorem registered_foldlM (h : declared.foldlM (addField container) table = .ok entries) :
    Registered entries i ↔
      Registered table i ∨ ∃ field, (field, i) ∈ declared ∧ field.Shown := by
  induction declared generalizing table with
  | nil =>
      cases h
      simp
  | cons first rest ih =>
      rw [List.foldlM_cons] at h
      obtain ⟨next, hnext, hrest⟩ := Outcome.bind_eq_ok.mp h
      rw [ih hrest, registered_addField hnext, or_assoc]
      refine or_congr_right ?_
      simp only [List.mem_cons, or_and_right, exists_or]
      refine or_congr_left ?_
      constructor
      · rintro ⟨rfl, hshown⟩
        exact ⟨first.1, rfl, hshown⟩
      · rintro ⟨field, rfl, hshown⟩
        exact ⟨rfl, hshown⟩

/-- No field of an accepted declaration carries options that cannot be read, not even one
that is left out. -/
theorem readable_of_foldlM (h : declared.foldlM (addField container) table = .ok entries) :
    ∀ p ∈ declared, ItemOptions.Readable p.1.attributes := by
  induction declared generalizing table with
  | nil => simp
  | cons first rest ih =>
      rw [List.foldlM_cons] at h
      obtain ⟨next, hnext, hrest⟩ := Outcome.bind_eq_ok.mp h
      obtain ⟨options, hread, -⟩ := addField_eq_ok.mp hnext
      exact List.forall_mem_cons.mpr ⟨ItemOptions.readable_of_read hread, ih hrest⟩

/-- With attributes that can be read a field is shown unless the word is among their
entries. -/
theorem shown_iff {entries : List Entry} (hreadable : ItemOptions.Readable field.attributes)
    (hentries : filterEntries field.attributes = .ok entries) :
    field.Shown ↔ .word "skip" ∉ entries := by
  constructor
  · rintro ⟨options, hread, hskip⟩
    obtain ⟨entries', hentries', -, rfl⟩ := ItemOptions.read_eq_ok.mp hread
    have hsame : entries' = entries := Except.ok.inj (hentries'.symm.trans hentries)
    simpa [hsame] using hskip
  · intro hskip
    obtain ⟨entries', hentries', haccepts⟩ := hreadable
    have hsame : entries' = entries := Except.ok.inj (hentries'.symm.trans hentries)
    refine ⟨_, ItemOptions.read_eq_ok.mpr ⟨entries', hentries', haccepts, rfl⟩, ?_⟩
    simpa [hsame] using hskip

/-- **The fields of a table** are those that their first `filter` attribute does not skip. -/
theorem registered_iff {d : Declaration} {entries : List Entry} (h : d.fieldTable = .ok table)
    (hshape : d.shape = .named fields) (hi : fields[i]? = some field)
    (hentries : filterEntries field.attributes = .ok entries) :
    Registered table i ↔ .word "skip" ∉ entries := by
  obtain ⟨container, fields', -, hshape', hfields⟩ := fieldTable_eq_ok h
  obtain rfl : fields' = fields := Shape.named.inj (hshape'.symm.trans hshape)
  have hmem : (field, i) ∈ fields'.zipIdx := List.mem_zipIdx_iff_getElem?.mpr hi
  rw [← shown_iff (readable_of_foldlM hfields _ hmem) hentries, registered_foldlM hfields]
  constructor
  · rintro (⟨e, he, -⟩ | ⟨field', hfield', hshown⟩)
    · cases he
    · have hi' := List.mem_zipIdx_iff_getElem?.mp hfield'
      obtain rfl : field' = field := Option.some.inj (hi'.symm.trans hi)
      exact hshown
  · exact fun hshown => .inr ⟨field, hmem, hshown⟩

end Fields

/-- **An accepted declaration** has first `filter` attributes all entries of which are
accepted, on itself and on each of its fields or variants. -/
theorem readable_of_table {d : Declaration}
    (h : (∃ table, d.fieldTable = .ok table) ∨ ∃ table, d.variantTable = .ok table) :
    ContainerOptions.Readable d.attributes ∧
      ∀ attributes ∈ d.itemAttributes, ItemOptions.Readable attributes := by
  rcases h with ⟨table, htable⟩ | ⟨table, htable⟩
  · obtain ⟨container, fields, hcontainer, hshape, hfields⟩ := fieldTable_eq_ok htable
    refine ⟨ContainerOptions.readable_of_read hcontainer, ?_⟩
    rw [Declaration.itemAttributes, hshape]
    refine List.forall_mem_map.mpr fun field hfield => ?_
    obtain ⟨i, hi⟩ := List.getElem?_of_mem hfield
    exact readable_of_foldlM hfields (field, i) (List.mem_zipIdx_iff_getElem?.mpr hi)
  · obtain ⟨container, declared, hcontainer, hshape, hregistered⟩ :=
      variantTable_registered htable
    refine ⟨ContainerOptions.readable_of_read hcontainer, ?_⟩
    rw [Declaration.itemAttributes, hshape]
    have hreadable : List.Forall₂ (fun v e => ItemOptions.Readable v.attributes ∧
        v.RegisteredAs container e) declared table := by
      refine hregistered.imp fun v e hentry => ⟨?_, hentry⟩
      obtain ⟨options, hread, -⟩ := hentry
      exact ItemOptions.readable_of_read hread
    exact List.forall_mem_map.mpr ((List.forall₂_and_left _ _).mp hreadable).1

end RecordQuery.Naming
