import RecordQuery.Proofs.AcceptedDeclarations

/-!
# Split attributes

A `filter` attribute with several entries can also be written as several attributes that
have the same entries between them.  Only the first of these is read, so that writing it so
can change what it says: a field is not skipped, or an entry that should be refused is not
looked at.

What can be told of a list of attributes is what tables say of the items that have them.
For a field or variant that is the name it is given, unless it is skipped
(`sameOutcome_fill_iff`); for a declaration it is its rule (`sameOutcome_container_iff`).
From this it follows which attributes can be split without a trace:
`split_sameOutcome_iff`.  The field that `skip_behind_rename` exposes has one that cannot.
-/

namespace RecordQuery.Naming

variable {container : ContainerOptions} {a b : List Attribute}

/-- Two declarations have one outcome: the same table or the same error, as a record type
and as an enumeration. -/
def SameOutcome (d d' : Declaration) : Prop :=
  d.fieldTable = d'.fieldTable ∧ d.variantTable = d'.variantTable

/-! ## Attributes of a field or variant -/

/-- What a table says of an item with these options: nothing if it is skipped, or else the
name that it is given, if any. -/
def ItemOptions.given (o : ItemOptions) : Option (Option String) :=
  if o.skip then none else some o.rename

theorem ItemOptions.given_eq_iff {o o' : ItemOptions} :
    o.given = o'.given ↔ o.skip = o'.skip ∧ (¬ o.skip → o.rename = o'.rename) := by
  rw [given, given]
  cases o.skip <;> cases o'.skip <;> simp

/-- Options that give the same are the same, unless both skip. -/
theorem ItemOptions.eq_or_skip {o o' : ItemOptions} (h : o.given = o'.given) :
    o = o' ∨ (o.skip ∧ o'.skip) := by
  obtain ⟨skip, rename⟩ := o
  obtain ⟨skip', rename'⟩ := o'
  obtain ⟨hskip, hrename⟩ := given_eq_iff.mp h
  cases skip with
  | true => exact .inr ⟨rfl, hskip.symm⟩
  | false => exact .inl (congr (congrArg mk hskip) (hrename Bool.false_ne_true))

/-- A declaration with the attributes of one field or variant left open. -/
inductive ItemPlace
  | field (generic : Bool) (attributes : List Attribute) (before : List FieldDecl)
      (name : String) (behind : List FieldDecl)
  | variant (generic : Bool) (attributes : List Attribute) (before : List VariantDecl)
      (name : String) (discriminant : Option String) (carriesData : Bool)
      (behind : List VariantDecl)

/-- The declaration with the attributes filled in. -/
def ItemPlace.fill : ItemPlace → List Attribute → Declaration
  | .field generic attributes before name behind, a =>
    ⟨generic, attributes, .named (before ++ ⟨name, a⟩ :: behind)⟩
  | .variant generic attributes before name discriminant carriesData behind, a =>
    ⟨generic, attributes, .enum (before ++ ⟨name, discriminant, carriesData, a⟩ :: behind)⟩

section Congruence

variable (h : (ItemOptions.read a).map ItemOptions.given =
  (ItemOptions.read b).map ItemOptions.given)

include h

/-- A field adds the same entry to a table under attributes that are read alike. -/
theorem addField_congr (table : List FieldEntry) (name : String) (position : Nat) :
    addField container table (⟨name, a⟩, position) =
      addField container table (⟨name, b⟩, position) := by
  refine Outcome.bind_congr_map h fun o o' hgiven => ?_
  rcases ItemOptions.eq_or_skip hgiven with rfl | ⟨hskip, hskip'⟩
  · rfl
  · rw [if_pos hskip, if_pos hskip']

theorem foldlM_addField_congr (before behind : List FieldDecl) (name : String) :
    (before ++ ⟨name, a⟩ :: behind).zipIdx.foldlM (addField container) [] =
      (before ++ ⟨name, b⟩ :: behind).zipIdx.foldlM (addField container) [] := by
  simp only [List.zipIdx_append, List.zipIdx_cons, List.foldlM_append, List.foldlM_cons,
    addField_congr h]

theorem variantEntries_congr (before behind : List VariantDecl) (name : String)
    (discriminant : Option String) (carriesData : Bool) (next : UInt32) :
    variantEntries container next (before ++ ⟨name, discriminant, carriesData, a⟩ :: behind) =
      variantEntries container next
        (before ++ ⟨name, discriminant, carriesData, b⟩ :: behind) := by
  induction before generalizing next with
  | nil =>
      rw [List.nil_append, List.nil_append, variantEntries, variantEntries]
      cases carriesData with
      | true => rfl
      | false =>
          refine Outcome.bind_congr_map h fun o o' hgiven => ?_
          rcases ItemOptions.eq_or_skip hgiven with rfl | ⟨hskip, hskip'⟩
          · rfl
          · rw [if_pos hskip, if_pos hskip']
            rfl
  | cons v before ih =>
      rw [List.cons_append, List.cons_append, variantEntries, variantEntries]
      simp only [ih]

/-- Attributes of which tables say the same can take each other's place. -/
theorem sameOutcome_fill (place : ItemPlace) : SameOutcome (place.fill a) (place.fill b) := by
  cases place with
  | field generic attributes before name behind =>
      refine ⟨?_, rfl⟩
      cases generic with
      | true => rfl
      | false => exact bind_congr fun _ => foldlM_addField_congr h before behind name
  | variant generic attributes before name discriminant carriesData behind =>
      refine ⟨rfl, ?_⟩
      cases generic with
      | true => rfl
      | false =>
          -- A table is made of the variants because there is one.
          have htable : ∀ a, (ItemPlace.fill (.variant false attributes before name discriminant
              carriesData behind) a).variantTable =
              ContainerOptions.read attributes >>= fun container =>
                variantEntries container 0
                  (before ++ ⟨name, discriminant, carriesData, a⟩ :: behind) := fun a => by
            cases before <;> rfl
          rw [htable, htable]
          exact bind_congr fun _ =>
            variantEntries_congr h before behind name discriminant carriesData 0

end Congruence

/-- A record type with one field. -/
def ItemPlace.lone (name : String) : ItemPlace :=
  .field false [] [] name []

/-- The table of a record type with one field. -/
def FieldDecl.row (options : ItemOptions) (field : FieldDecl) : List FieldEntry :=
  if options.skip then [] else [field.entry {} options 0]

/-- A declaration of one field shows what is read of its attributes. -/
theorem fieldTable_lone (name : String) (a : List Attribute) :
    ((ItemPlace.lone name).fill a).fieldTable =
      (ItemOptions.read a).map (FieldDecl.row · ⟨name, []⟩) := by
  show addField {} [] (⟨name, a⟩, 0) >>= pure = _
  rw [bind_pure, addField]
  cases ItemOptions.read a with
  | error e => rfl
  | ok o =>
      show (if o.skip then _ else _) = Except.ok (FieldDecl.row o ⟨name, []⟩)
      rw [FieldDecl.row]
      cases o.skip <;> rfl

/-- Options that fill up alike from two different values are the same. -/
theorem eq_of_getD_eq {x y : Option String} {s t : String} (hne : s ≠ t)
    (hs : x.getD s = y.getD s) (ht : x.getD t = y.getD t) : x = y := by
  cases x with
  | none =>
      cases y with
      | none => rfl
      | some name => exact absurd (hs.trans ht.symm) hne
  | some name =>
      cases y with
      | none => exact absurd (hs.symm.trans ht) hne
      | some name' => exact congrArg some hs

/-- Of two fields with different names at most one has the name that it is given. -/
theorem given_eq_of_row {o o' : ItemOptions}
    (h : ∀ name, FieldDecl.row o ⟨name, []⟩ = FieldDecl.row o' ⟨name, []⟩) :
    o.given = o'.given := by
  have hskip : o.skip = o'.skip := by
    have ha := h "a"
    rw [FieldDecl.row, FieldDecl.row] at ha
    cases hs : o.skip <;> cases hs' : o'.skip <;> simp [hs, hs'] at ha ⊢
  refine ItemOptions.given_eq_iff.mpr ⟨hskip, fun hs => ?_⟩
  have hname : ∀ name, o.rename.getD (FieldDecl.ident ⟨name, []⟩) =
      o'.rename.getD (FieldDecl.ident ⟨name, []⟩) := fun name => by
    have hrow := h name
    rw [FieldDecl.row, FieldDecl.row, if_neg hs, if_neg (hskip ▸ hs)] at hrow
    exact congrArg FieldEntry.name (List.cons.inj hrow).1
  exact eq_of_getD_eq (by decide) (hname "a") (hname "b")

/-- **What can be told of the attributes of a field or variant.**  Two lists of attributes can
take each other's place in all declarations exactly if both are refused for the same reason,
or both skip the item, or both give it the same name or none. -/
theorem sameOutcome_fill_iff :
    (∀ place : ItemPlace, SameOutcome (place.fill a) (place.fill b)) ↔
      (ItemOptions.read a).map ItemOptions.given = (ItemOptions.read b).map ItemOptions.given := by
  refine ⟨fun hsame => ?_, sameOutcome_fill⟩
  refine Outcome.map_congr_of_views (fun name => ?_) fun _ _ => given_eq_of_row
  rw [← fieldTable_lone, ← fieldTable_lone]
  exact (hsame (.lone name)).1

/-! ## Attributes of a declaration -/

/-- A name that every rule makes another name of. -/
def tellingName : String := "aB_c"

theorem nameFor_tellingName {o o' : ContainerOptions}
    (h : o.nameFor tellingName = o'.nameFor tellingName) : o = o' := by
  have hrules : ∀ r r' : Rule, r.apply tellingName = r'.apply tellingName → r = r' := by
    intro r r'
    cases r <;> cases r' <;> decide
  have hself : ∀ r : Rule, r.apply tellingName ≠ tellingName := by
    intro r
    cases r <;> decide
  obtain ⟨rule⟩ := o
  obtain ⟨rule'⟩ := o'
  cases rule with
  | none =>
      cases rule' with
      | none => rfl
      | some r' => exact absurd h.symm (hself r')
  | some r =>
      cases rule' with
      | none => exact absurd h (hself r)
      | some r' => rw [hrules r r' h]

/-- A record type with one field, under that name. -/
def tellingRecord (a : List Attribute) : Declaration :=
  ⟨false, a, .named [⟨tellingName, []⟩]⟩

/-- The table of that record type. -/
def ContainerOptions.row (o : ContainerOptions) : List FieldEntry :=
  [⟨constantName tellingName, o.nameFor tellingName, 0⟩]

theorem fieldTable_tellingRecord (a : List Attribute) :
    (tellingRecord a).fieldTable = (ContainerOptions.read a).map ContainerOptions.row := by
  rw [tellingRecord, Declaration.fieldTable]
  cases ContainerOptions.read a <;> rfl

/-- **What can be told of the attributes of a declaration.**  Two lists of attributes can take
each other's place on all declarations exactly if they are read alike. -/
theorem sameOutcome_container_iff :
    (∀ d : Declaration, SameOutcome { d with attributes := a } { d with attributes := b }) ↔
      ContainerOptions.read a = ContainerOptions.read b := by
  constructor
  · intro hsame
    have hrow : ∀ _ : Unit, (ContainerOptions.read a).map ContainerOptions.row =
        (ContainerOptions.read b).map ContainerOptions.row := fun _ => by
      rw [← fieldTable_tellingRecord, ← fieldTable_tellingRecord]
      exact (hsame (tellingRecord [])).1
    have hread : (ContainerOptions.read a).map id = (ContainerOptions.read b).map id :=
      Outcome.map_congr_of_views hrow fun o o' h =>
        nameFor_tellingName (congrArg FieldEntry.name (List.cons.inj (h ())).1)
    rwa [Except.map_id] at hread
  · intro hread d
    constructor
    · rw [Declaration.fieldTable, Declaration.fieldTable, hread]
    · rw [Declaration.variantTable, Declaration.variantTable, hread]

/-! ## Splitting an attribute -/

/-- A `filter` attribute among others, its entries in groups. -/
structure Split where
  before : List Attribute
  first : List Entry
  rest : List (List Entry)
  behind : List Attribute

namespace Split

/-- The attributes as they are. -/
def whole (s : Split) : List Attribute :=
  s.before ++ filterAttribute (s.first ++ s.rest.flatten) :: s.behind

/-- The attributes with one for each group. -/
def parts (s : Split) : List Attribute :=
  s.before ++ filterAttribute s.first :: (s.rest.map filterAttribute ++ s.behind)

variable {s : Split}

theorem filterEntries_whole (h : ¬ HasFilter s.before) :
    filterEntries s.whole = .ok (s.first ++ s.rest.flatten) := by
  rw [whole, filterEntries_append_of_not h, filterEntries_filterAttribute]

theorem filterEntries_parts (h : ¬ HasFilter s.before) : filterEntries s.parts = .ok s.first := by
  rw [parts, filterEntries_append_of_not h, filterEntries_filterAttribute]

/-- Reading an attribute goes on from what reading its first part gives. -/
theorem foldlM_whole {α : Type} (step : α → Entry → Except NamingError α) (o : α)
    (h : ¬ HasFilter s.before) :
    (filterEntries s.whole >>= fun entries => entries.foldlM step o) =
      s.first.foldlM step o >>= s.rest.flatten.foldlM step := by
  rw [filterEntries_whole h]
  exact List.foldlM_append

theorem foldlM_parts {α : Type} (step : α → Entry → Except NamingError α) (o : α)
    (h : ¬ HasFilter s.before) :
    (filterEntries s.parts >>= fun entries => entries.foldlM step o) =
      s.first.foldlM step o := by
  rw [filterEntries_parts h]
  rfl

/-- Behind another `filter` attribute neither form is read. -/
theorem filterEntries_eq_of_hasFilter (h : HasFilter s.before) :
    filterEntries s.whole = filterEntries s.parts := by
  rw [whole, parts, filterEntries_append h, filterEntries_append h]

end Split

/-- A value that is put before another one leaves it as it is if it is the same, or is not
there. -/
theorem eq_or_iff {α : Type} {x y : Option α} :
    y = x.or y ↔ ∀ v, x = some v → y = some v := by
  cases x with
  | none => simp
  | some v => simp

namespace ItemOptions

variable {o : ItemOptions} {first rest entries : List Entry}

/-- The entries `rest` say nothing of a field or variant that those before them do not say:
one before them is refused; or they are all accepted, and the item is skipped anyway, or is
not skipped by them either and keeps its name. -/
def Covers (first rest : List Entry) : Prop :=
  (∀ e ∈ first, Accepts e) → (∀ e ∈ rest, Accepts e) ∧
    (.word "skip" ∉ first → .word "skip" ∉ rest ∧
      ∀ name, lastGiven Entry.newName? rest = some name →
        lastGiven Entry.newName? first = some name)

/-- Which entries leave what is given to an item as it is. -/
theorem map_given_foldlM_iff :
    (entries.foldlM step o).map given = .ok o.given ↔
      (∀ e ∈ entries, Accepts e) ∧ (¬ o.skip → .word "skip" ∉ entries ∧
        ∀ name, lastGiven Entry.newName? entries = some name → o.rename = some name) := by
  rw [Outcome.map_eq_ok]
  simp only [foldlM_step_eq_ok, and_assoc, exists_and_left, exists_eq_left]
  refine and_congr_right fun _ => ?_
  rw [eq_comm, given_eq_iff]
  cases o.skip with
  | true => simp
  | false => simp [eq_or_iff]

theorem map_given_bind_iff :
    (first.foldlM step {} >>= rest.foldlM step).map given = (first.foldlM step {}).map given ↔
      Covers first rest := by
  rw [Outcome.map_bind_eq_map_iff]
  constructor
  · intro h hfirst
    have hrest := h _ (foldlM_step_eq_ok.mpr ⟨hfirst, rfl⟩)
    simpa using map_given_foldlM_iff.mp hrest
  · intro h o ho
    obtain ⟨hfirst, rfl⟩ := foldlM_step_eq_ok.mp ho
    exact map_given_foldlM_iff.mpr (by simpa using h hfirst)

/-- **Which attributes of a field or variant can be split**, as far as tables tell. -/
theorem read_whole_iff (s : Split) :
    (read s.whole).map given = (read s.parts).map given ↔
      HasFilter s.before ∨ Covers s.first s.rest.flatten := by
  by_cases hbefore : HasFilter s.before
  · rw [read, read, Split.filterEntries_eq_of_hasFilter hbefore]
    exact iff_of_true rfl (.inl hbefore)
  · rw [read, read, Split.foldlM_whole step {} hbefore, Split.foldlM_parts step {} hbefore,
      or_iff_right hbefore]
    exact map_given_bind_iff

end ItemOptions

namespace ContainerOptions

variable {o : ContainerOptions} {first rest entries : List Entry}

/-- The entries `rest` say nothing of a declaration that those before them do not say: one
before them is refused, or they are all accepted and leave the rule as it is. -/
def Covers (first rest : List Entry) : Prop :=
  (∀ e ∈ first, Accepts e) → (∀ e ∈ rest, Accepts e) ∧
    ∀ rule, lastGiven Entry.newRule? rest = some rule →
      lastGiven Entry.newRule? first = some rule

/-- Which entries leave what has been read as it is. -/
theorem foldlM_step_eq_self_iff :
    entries.foldlM step o = .ok o ↔
      (∀ e ∈ entries, Accepts e) ∧
        ∀ rule, lastGiven Entry.newRule? entries = some rule → o.renameAll = some rule := by
  rw [foldlM_step_eq_ok, ← eq_or_iff]
  cases o
  rw [mk.injEq]

theorem bind_eq_iff :
    first.foldlM step {} >>= rest.foldlM step = first.foldlM step {} ↔ Covers first rest := by
  rw [Outcome.bind_eq_self_iff]
  constructor
  · intro h hfirst
    have hrest := h _ (foldlM_step_eq_ok.mpr ⟨hfirst, rfl⟩)
    simpa using foldlM_step_eq_self_iff.mp hrest
  · intro h o ho
    obtain ⟨hfirst, rfl⟩ := foldlM_step_eq_ok.mp ho
    exact foldlM_step_eq_self_iff.mpr (by simpa using h hfirst)

/-- **Which attributes of a declaration can be split.** -/
theorem read_whole_iff (s : Split) :
    read s.whole = read s.parts ↔ HasFilter s.before ∨ Covers s.first s.rest.flatten := by
  by_cases hbefore : HasFilter s.before
  · rw [read, read, Split.filterEntries_eq_of_hasFilter hbefore]
    exact iff_of_true rfl (.inl hbefore)
  · rw [read, read, Split.foldlM_whole step {} hbefore, Split.foldlM_parts step {} hbefore,
      or_iff_right hbefore]
    exact bind_eq_iff

end ContainerOptions

/-! ## What splitting changes -/

/-- **Which attributes can be split.**  On a field or variant, an attribute and its parts have
one outcome in all declarations exactly if they stand behind another `filter` attribute, or
the entries of the parts behind the first say nothing that those of the first do not say; so
it is on a declaration.  For only the first `filter` attribute is read: it alone decides
whether a field is in the table, and in a declaration with a table all its entries are
accepted. -/
theorem split_sameOutcome_iff (s : Split) :
    ((∀ place : ItemPlace, SameOutcome (place.fill s.whole) (place.fill s.parts)) ↔
      HasFilter s.before ∨ ItemOptions.Covers s.first s.rest.flatten) ∧
    ((∀ d : Declaration,
        SameOutcome { d with attributes := s.whole } { d with attributes := s.parts }) ↔
      HasFilter s.before ∨ ContainerOptions.Covers s.first s.rest.flatten) ∧
    (∀ (d : Declaration) fields table i field entries, d.shape = .named fields →
      d.fieldTable = .ok table → fields[i]? = some field →
      filterEntries field.attributes = .ok entries →
      (Registered table i ↔ .word "skip" ∉ entries)) ∧
    ∀ d : Declaration,
      (∃ table, d.fieldTable = .ok table) ∨ (∃ table, d.variantTable = .ok table) →
      ContainerOptions.Readable d.attributes ∧
        ∀ attributes ∈ d.itemAttributes, ItemOptions.Readable attributes := by
  refine ⟨?_, ?_, ?_, fun d => readable_of_table⟩
  · exact sameOutcome_fill_iff.trans (ItemOptions.read_whole_iff s)
  · exact sameOutcome_container_iff.trans (ContainerOptions.read_whole_iff s)
  · intro d fields table i field entries hshape htable hi hentries
    exact registered_iff htable hshape hi hentries

/-- A record type with a number and another field, for whose attributes there is room. -/
def secretPlace : ItemPlace :=
  .field false [] [⟨"id", []⟩] "secret" []

/-- An attribute with a name and one more entry, and its two parts. -/
def renamedThen (e : Entry) : Split :=
  ⟨[], [.assign "rename" (some "token")], [[e]], []⟩

/-- **A field that is skipped by one attribute can be exposed by its parts**: behind a name,
`skip` is not read, and neither is an entry that is refused. -/
theorem skip_behind_rename :
    let exposed : List FieldEntry := [⟨"ID", "id", 0⟩, ⟨"SECRET", "token", 1⟩]
    let skipped := renamedThen (.word "skip")
    let misspelt := renamedThen (.word "skipped")
    (secretPlace.fill skipped.whole).fieldTable = .ok [⟨"ID", "id", 0⟩] ∧
      (secretPlace.fill skipped.parts).fieldTable = .ok exposed ∧
      ¬ SameOutcome (secretPlace.fill skipped.whole) (secretPlace.fill skipped.parts) ∧
      (secretPlace.fill misspelt.whole).fieldTable = .error .unknownItemEntry ∧
      (secretPlace.fill misspelt.parts).fieldTable = .ok exposed := by
  intro exposed skipped misspelt
  have hwhole : (secretPlace.fill skipped.whole).fieldTable = .ok [⟨"ID", "id", 0⟩] := rfl
  have hparts : (secretPlace.fill skipped.parts).fieldTable = .ok exposed := by decide +kernel
  refine ⟨hwhole, hparts, fun hsame => ?_, rfl, by decide +kernel⟩
  have htable := hsame.1
  rw [hwhole, hparts] at htable
  exact absurd (Except.ok.inj htable) (by decide)

end RecordQuery.Naming
