import RecordQuery.Proofs.AcceptedDeclarations
import RecordQuery.Proofs.Composition
import RecordQuery.Proofs.LetterCase
import RecordQuery.Proofs.ReferencedFields

/-!
# Projections

A projection is resolved name by name and applied cell by cell.  Neither loop shows in
what it leaves behind.

* The resolved fields are those that the names are resolved to, each once, in the order
  in which they are mentioned first (`Table.FirstMentions`).  That is an invariant of the
  loop over the names: one more name adds its field at the end or is a repetition.
* The projected record has the cells of the selected fields and is blank elsewhere
  (`Table.Restricts`), and it is the only record of this kind.  Whatever else there is to
  know about projections follows from the set of fields they select: that a second
  application changes nothing, that order, repetitions and letter case of the names do
  not matter, and that two projections in a row keep what both select.

Two fields must not share a cell, or else selecting one of them would select the other.
The tables of declarations have a cell for each declared field, skipped or not
(`Naming.ownSlots_tableOf`).
-/

namespace RecordQuery

variable {t : Table} {r r' r'' : Record} {names names' : List String} {name : String}
  {f g : Field} {fields : List Field} {p q : Projection}

/-! ## Fields with cells of their own -/

/-- No two fields of the table are kept in the same slot. -/
def Table.OwnSlots (t : Table) : Prop :=
  (t.fields.map (·.slot)).Nodup

instance (t : Table) : Decidable t.OwnSlots :=
  inferInstanceAs (Decidable (List.Nodup _))

/-- A slot belongs to one field. -/
theorem Table.OwnSlots.eq_of_slot_eq (ht : t.OwnSlots) (hf : f ∈ t.fields) (hg : g ∈ t.fields)
    (hslot : f.slot = g.slot) : f = g :=
  List.inj_on_of_nodup_map ht hf hg hslot

namespace Naming

variable {container : ContainerOptions} {table entries : List FieldEntry}

/-- The entries of a table are in the order of the declared fields. -/
theorem positions_foldlM {declared : List (FieldDecl × Nat)}
    (h : declared.foldlM (addField container) table = .ok entries) :
    (entries.map (·.position)).Sublist (table.map (·.position) ++ declared.map Prod.snd) := by
  induction declared generalizing table with
  | nil =>
      cases h
      simp
  | cons first rest ih =>
      rw [List.foldlM_cons] at h
      obtain ⟨next, hnext, hrest⟩ := Outcome.bind_eq_ok.mp h
      refine (ih hrest).trans ?_
      obtain ⟨options, -, ⟨-, rfl⟩ | ⟨-, -, rfl⟩⟩ := addField_eq_ok.mp hnext
      · exact (List.sublist_cons_self _ _).append_left _
      · simp [FieldDecl.entry]

/-- **The table of a declaration keeps each field in a slot of its own.** -/
theorem ownSlots_tableOf {d : Declaration} (h : d.fieldTable = .ok entries)
    (recordName : String) (types : Nat → FieldType) (blank : Record) :
    (tableOf recordName types blank entries).OwnSlots := by
  obtain ⟨container, fields, -, -, hfields⟩ := fieldTable_eq_ok h
  have hpositions := positions_foldlM hfields
  rw [List.map_nil, List.nil_append] at hpositions
  have hslots : (tableOf recordName types blank entries).fields.map (·.slot) =
      entries.map (·.position) := by
    rw [tableOf, List.map_map]
    rfl
  rw [Table.OwnSlots, hslots]
  exact hpositions.nodup (List.nodup_zipIdx_map_snd fields)

end Naming

/-! ## Selected fields -/

namespace Table

/-- The name is resolved to the field. -/
def denotes (t : Table) (f : Field) (name : String) : Bool :=
  match t.resolve name with
  | .ok (g, _) => g = f
  | .error _ => false

/-- A name denotes the field that it is resolved to, and no field if it is resolved to none.
-/
theorem denotes_iff : t.denotes f name ↔ ∃ i, t.resolve name = .ok (f, i) := by
  unfold denotes
  split
  · next g j h => simp [h]
  · next e h => simp [h]

/-- How many names stand before the first that is resolved to the field. -/
def firstMention (t : Table) (names : List String) (f : Field) : Nat :=
  names.findIdx (t.denotes f)

/-- The fields are those that the names are resolved to, in the order in which they are
mentioned first. -/
structure FirstMentions (t : Table) (names : List String) (fields : List Field) : Prop where
  mem_iff : ∀ f, f ∈ fields ↔ ∃ name ∈ names, t.denotes f name
  ordered : fields.Pairwise fun f g => t.firstMention names f < t.firstMention names g

/-- A field that is named is named before the end. -/
theorem firstMention_lt (h : ∃ name ∈ names, t.denotes f name) :
    t.firstMention names f < names.length :=
  List.findIdx_lt_length_of_exists h

/-- A field that was mentioned is not mentioned first by a later name. -/
theorem firstMention_append (h : ∃ name ∈ names, t.denotes f name) (more : List String) :
    t.firstMention (names ++ more) f = t.firstMention names f := by
  have hlt : names.findIdx (t.denotes f) < names.length := firstMention_lt h
  rw [firstMention, List.findIdx_append, if_pos hlt, firstMention]

/-- A field that is named for the first time is named by the last name. -/
theorem firstMention_append_of_new (h : ¬ ∃ name ∈ names, t.denotes f name)
    (hname : t.denotes f name) : t.firstMention (names ++ [name]) f = names.length := by
  have hnone : names.findIdx (t.denotes f) = names.length :=
    List.findIdx_eq_length.mpr fun other hother => by
      simpa using fun hdenotes => h ⟨other, hother, hdenotes⟩
  rw [firstMention, List.findIdx_append, hnone, if_neg (Nat.lt_irrefl _),
    List.findIdx_singleton, if_pos hname]
  omega

namespace FirstMentions

/-- No field is mentioned first in two places. -/
theorem nodup (h : t.FirstMentions names fields) : fields.Nodup :=
  h.ordered.imp fun hlt heq => by
    rw [heq] at hlt
    exact Nat.lt_irrefl _ hlt

/-- **One more name** is a repetition, or its field is the last to be mentioned. -/
theorem add (h : t.FirstMentions names fields) {i : Nat} (hname : t.resolve name = .ok (f, i)) :
    t.FirstMentions (names ++ [name]) (if f ∈ fields then fields else fields ++ [f]) := by
  have hdenotes : ∀ g, t.denotes g name ↔ g = f := fun g => by
    simp [denotes_iff, hname, eq_comm (a := f)]
  have hmentioned : ∀ g, (∃ other ∈ names ++ [name], t.denotes g other) ↔ g ∈ fields ∨ g = f := by
    intro g
    rw [h.mem_iff, ← hdenotes]
    simp [or_and_right, exists_or]
  have hold : fields.Pairwise fun a b =>
      t.firstMention (names ++ [name]) a < t.firstMention (names ++ [name]) b := by
    refine h.ordered.imp_of_mem fun {a b} ha hb hlt => ?_
    rwa [firstMention_append ((h.mem_iff a).mp ha), firstMention_append ((h.mem_iff b).mp hb)]
  split
  next hrepeated =>
    refine ⟨fun g => ?_, hold⟩
    rw [hmentioned]
    exact ⟨.inl, fun hg => hg.elim id fun heq => heq ▸ hrepeated⟩
  next hnew =>
    have hunmentioned : ¬ ∃ other ∈ names, t.denotes f other := mt (h.mem_iff f).mpr hnew
    refine ⟨fun g => ?_, List.pairwise_append.mpr ⟨hold, List.pairwise_singleton _ _, ?_⟩⟩
    · rw [hmentioned, List.mem_append, List.mem_singleton]
    · intro a ha b hb
      obtain rfl := List.mem_singleton.mp hb
      have ha := (h.mem_iff a).mp ha
      rw [firstMention_append ha, firstMention_append_of_new hunmentioned ((hdenotes b).mpr rfl)]
      exact firstMention_lt ha

end FirstMentions

end Table

namespace Projection

/-- A name adds its field, unless the field is there already. -/
theorem add_eq_ok : add t fields name = .ok fields' ↔
    ∃ f i, t.resolve name = .ok (f, i) ∧
      fields' = if f ∈ fields then fields else fields ++ [f] := by
  unfold add
  split
  · next f i h => simp [h, eq_comm]
  · next e h => simp [h]

/-- The fields that are gathered from some names on top of those of other names. -/
theorem firstMentions_foldlM {fields' : List Field} (h : names'.foldlM (add t) fields = .ok fields')
    (hfields : t.FirstMentions names fields) : t.FirstMentions (names ++ names') fields' := by
  induction names' generalizing names fields with
  | nil =>
      cases h
      simpa using hfields
  | cons name rest ih =>
      rw [List.foldlM_cons] at h
      obtain ⟨next, hnext, hrest⟩ := Outcome.bind_eq_ok.mp h
      obtain ⟨f, i, hname, rfl⟩ := add_eq_ok.mp hnext
      have hrest := ih hrest (hfields.add hname)
      rwa [List.append_assoc] at hrest

/-- **The fields of a projection** are those of its names, by first mention. -/
theorem firstMentions_of_resolve (h : resolve t names = .ok p) :
    t.FirstMentions names p.fields := by
  obtain ⟨fields, hfields, rfl⟩ := Outcome.map_eq_ok.mp h
  have hnone : t.FirstMentions [] [] := ⟨by simp, List.Pairwise.nil⟩
  exact firstMentions_foldlM hfields hnone

/-- Names have a projection when each of them is resolved. -/
theorem exists_resolve_iff :
    (∃ p, resolve t names = .ok p) ↔ ∀ name ∈ names, ∃ found, t.resolve name = .ok found := by
  rw [← Outcome.error?_eq_none, error?_resolve, List.findSome?_eq_none_iff]
  simp only [Request.Part.error?, Outcome.error?_eq_none]

/-- A projection selects fields of the table only. -/
theorem mem_fields_of_resolve (h : resolve t names = .ok p) (hf : f ∈ p.fields) :
    f ∈ t.fields := by
  obtain ⟨name, -, hname⟩ := ((firstMentions_of_resolve h).mem_iff f).mp hf
  obtain ⟨i, hi⟩ := Table.denotes_iff.mp hname
  exact List.mem_of_getElem? (Table.getElem?_of_resolve hi)

end Projection

/-! ## Projected records -/

/-- A record has the cells of another one in the selected fields.  All its other cells, those
without a field included, are blank. -/
structure Table.Restricts (t : Table) (selected : Field → Prop) (r r' : Record) : Prop where
  kept : ∀ f ∈ t.fields, selected f → r'[f.slot]? = r[f.slot]?
  dropped : ∀ f ∈ t.fields, ¬ selected f → r'[f.slot]? = t.blank[f.slot]?
  hidden : ∀ i, (∀ f ∈ t.fields, f.slot ≠ i) → r'[i]? = t.blank[i]?

namespace Table.Restricts

variable {selected selected' : Field → Prop}

/-- There is one such record. -/
theorem unique (h : t.Restricts selected r r') (h' : t.Restricts selected r r'') : r' = r'' := by
  refine List.ext_getElem? fun i => ?_
  by_cases hslot : ∃ f ∈ t.fields, f.slot = i
  · obtain ⟨f, hf, rfl⟩ := hslot
    by_cases hselected : selected f
    · rw [h.kept f hf hselected, h'.kept f hf hselected]
    · rw [h.dropped f hf hselected, h'.dropped f hf hselected]
  · have hnone : ∀ f ∈ t.fields, f.slot ≠ i := fun f hf heq => hslot ⟨f, hf, heq⟩
    rw [h.hidden i hnone, h'.hidden i hnone]

theorem congr (h : t.Restricts selected r r') (hsame : ∀ f, selected f ↔ selected' f) :
    t.Restricts selected' r r' := by
  rwa [← funext fun f => propext (hsame f)]

end Table.Restricts

namespace Projection

theorem length_foldl_copySlot (fields : List Field) (source target : Record) :
    (fields.foldl (fun target f => copySlot f.slot source target) target).length =
      target.length := by
  induction fields generalizing target with
  | nil => rfl
  | cons f fields ih => rw [List.foldl_cons, ih, length_copySlot]

/-- A projected record has all the cells of a record. -/
theorem isRecord_apply (t : Table) (p : Projection) (r : Record) : t.IsRecord (p.apply t r) :=
  length_foldl_copySlot p.fields r t.blank

/-- The cell of a selected field is copied. -/
theorem getElem?_apply_of_mem (hr : t.IsRecord r) (hf : f ∈ p.fields) :
    (p.apply t r)[f.slot]? = r[f.slot]? := by
  rw [getElem?_apply p hr, if_pos ⟨f, hf, rfl⟩]

/-- Every other cell is blank. -/
theorem getElem?_apply_of_slot_ne (hr : t.IsRecord r) {i : Nat} (h : ∀ f ∈ p.fields, f.slot ≠ i) :
    (p.apply t r)[i]? = t.blank[i]? := by
  rw [getElem?_apply p hr, if_neg fun ⟨f, hf, hslot⟩ => h f hf hslot]

/-- Of a record that is restricted already a projection keeps what it selects. -/
theorem restricts_apply_of_restricted {selected : Field → Prop} (ht : t.OwnSlots)
    (hq : resolve t names = .ok q) (hr' : t.IsRecord r')
    (hkept : ∀ f ∈ t.fields, selected f → r'[f.slot]? = r[f.slot]?)
    (hdropped : ∀ f ∈ t.fields, ¬ selected f → r'[f.slot]? = t.blank[f.slot]?) :
    t.Restricts (fun f => selected f ∧ f ∈ q.fields) r (q.apply t r') where
  kept f hf h := by rw [getElem?_apply_of_mem hr' h.2, hkept f hf h.1]
  dropped f hf h := by
    by_cases hmem : f ∈ q.fields
    · rw [getElem?_apply_of_mem hr' hmem, hdropped f hf fun hselected => h ⟨hselected, hmem⟩]
    · -- no selected field shares the slot, or it would be this one
      refine getElem?_apply_of_slot_ne hr' fun g hg hslot => hmem ?_
      rwa [← ht.eq_of_slot_eq (mem_fields_of_resolve hq hg) hf hslot]
  hidden i hnone := getElem?_apply_of_slot_ne hr' fun f hf => hnone f (mem_fields_of_resolve hq hf)

/-- **A projection restricts a record to the selected fields.** -/
theorem restricts_apply (ht : t.OwnSlots) (hp : resolve t names = .ok p) (hr : t.IsRecord r) :
    t.Restricts (· ∈ p.fields) r (p.apply t r) := by
  have hall : t.Restricts (fun f => True ∧ f ∈ p.fields) r (p.apply t r) :=
    restricts_apply_of_restricted ht hp hr (fun _ _ _ => rfl) fun _ _ hnot => absurd trivial hnot
  exact hall.congr fun f => Iff.of_eq (true_and _)

/-- Two projections restrict it to the fields that both select. -/
theorem restricts_apply_apply (ht : t.OwnSlots) (hp : resolve t names = .ok p)
    (hq : resolve t names' = .ok q) (hr : t.IsRecord r) :
    t.Restricts (fun f => f ∈ p.fields ∧ f ∈ q.fields) r (q.apply t (p.apply t r)) := by
  have hfirst := restricts_apply ht hp hr
  exact restricts_apply_of_restricted ht hq (isRecord_apply t p r) hfirst.kept hfirst.dropped

end Projection

/-! ## Names up to letter case -/

/-- The names differ in letter case at most. -/
def SameLetters (a b : String) : Prop :=
  Text.lower a = Text.lower b ∧ (Text.Ascii.isAscii a ↔ Text.Ascii.isAscii b)

/-- The names of one list are those of the other.  They may stand in another order, be
repeated and be written in another letter case. -/
structure SameNames (names names' : List String) : Prop where
  forth : ∀ a ∈ names, ∃ b ∈ names', SameLetters a b
  back : ∀ b ∈ names', ∃ a ∈ names, SameLetters a b

namespace SameLetters

variable {a b : String}

/-- In every table the names find the same field. -/
theorem find?_eq (h : SameLetters a b) (t : Table) : t.find? a = t.find? b :=
  Table.resolvedAlike_iff.mp (Table.resolvedAlike_of_isAscii_iff h.1 h.2)

theorem denotes_iff (h : SameLetters a b) : t.denotes f a ↔ t.denotes f b := by
  simp only [Table.denotes_iff, Table.resolve_eq_ok, h.find?_eq t]

end SameLetters

namespace SameNames

/-- If all names of one list are resolved, so are those of the other. -/
theorem exists_resolve (h : SameNames names names')
    (hp : ∃ p, Projection.resolve t names = .ok p) : ∃ p, Projection.resolve t names' = .ok p := by
  rw [Projection.exists_resolve_iff] at hp ⊢
  intro b hb
  obtain ⟨a, ha, hab⟩ := h.back b hb
  obtain ⟨found, hfound⟩ := hp a ha
  refine ⟨found, Table.resolve_eq_ok.mpr ?_⟩
  rw [← hab.find?_eq t]
  exact Table.resolve_eq_ok.mp hfound

/-- The same names select the same fields. -/
theorem mem_fields_iff (h : SameNames names names') (hp : Projection.resolve t names = .ok p)
    (hq : Projection.resolve t names' = .ok q) : f ∈ p.fields ↔ f ∈ q.fields := by
  rw [(Projection.firstMentions_of_resolve hp).mem_iff,
    (Projection.firstMentions_of_resolve hq).mem_iff]
  constructor
  · rintro ⟨a, ha, hdenotes⟩
    obtain ⟨b, hb, hab⟩ := h.forth a ha
    exact ⟨b, hb, hab.denotes_iff.mp hdenotes⟩
  · rintro ⟨b, hb, hdenotes⟩
    obtain ⟨a, ha, hab⟩ := h.back b hb
    exact ⟨a, ha, hab.denotes_iff.mpr hdenotes⟩

end SameNames

/-! ## The law of projections -/

/-- **The law of projections.**  In a table whose fields have cells of their own, names have
a projection exactly when each of them matches one field.  It selects the fields that are
named, each once, in the order in which they are mentioned first.  Applied to a record it
gives the one record that has the cells of the selected fields and is blank elsewhere, so
that applying it again changes nothing; names in another order, repeated or in another
letter case give the same records; and of two projections in a row there remains what both
select. -/
theorem Projection.resolve_apply_law (ht : t.OwnSlots) (names : List String) :
    ((∃ p, resolve t names = .ok p) ↔ ∀ name ∈ names, ∃! i, t.Matches name i) ∧
    ∀ p, resolve t names = .ok p →
      (p.fields.Nodup ∧ t.FirstMentions names p.fields) ∧
      (∀ r, t.IsRecord r →
        (∀ r', t.Restricts (· ∈ p.fields) r r' ↔ r' = p.apply t r) ∧
          p.apply t (p.apply t r) = p.apply t r) ∧
      (∀ names', SameNames names names' →
        ∃ p', resolve t names' = .ok p' ∧ ∀ r, t.IsRecord r → p'.apply t r = p.apply t r) ∧
      ∀ names' q, resolve t names' = .ok q → ∀ r, t.IsRecord r →
        t.Restricts (fun f => f ∈ p.fields ∧ f ∈ q.fields) r (q.apply t (p.apply t r)) := by
  refine ⟨?_, fun p hp => ⟨?_, fun r hr => ⟨fun r' => ?_, ?_⟩, fun names' hnames => ?_,
    fun names' q hq r hr => restricts_apply_apply ht hp hq hr⟩⟩
  · simp only [exists_resolve_iff, Table.exists_resolve_iff]
  · have hfields := firstMentions_of_resolve hp
    exact ⟨hfields.nodup, hfields⟩
  · have hself := restricts_apply ht hp hr
    constructor
    · exact fun hr' => hr'.unique hself
    · rintro rfl
      exact hself
  · have htwice := (restricts_apply_apply ht hp hp hr).congr fun f => and_self_iff
    exact htwice.unique (restricts_apply ht hp hr)
  · obtain ⟨p', hp'⟩ := hnames.exists_resolve ⟨p, hp⟩
    refine ⟨p', hp', fun r hr => ?_⟩
    have hother := (restricts_apply ht hp' hr).congr fun f => (hnames.mem_fields_iff hp hp').symm
    exact hother.unique (restricts_apply ht hp hr)

/-- A record type with a renamed field and one that is left out. -/
def accounts : Naming.Declaration where
  generic := false
  attributes := []
  shape := .named [
    ⟨"id", []⟩,
    ⟨"token", [⟨"filter", some [.word "skip"]⟩]⟩,
    ⟨"mail", [⟨"filter", some [.assign "rename" (some "E-Mail")]⟩]⟩,
    ⟨"name", []⟩]

/-- Its table: all fields are texts. -/
def accountTable : Table :=
  Naming.tableOf "Account" (fun _ => .plain .string) (List.replicate 4 (.value (.string "")))
    [⟨"ID", "id", 0⟩, ⟨"MAIL", "E-Mail", 2⟩, ⟨"NAME", "name", 3⟩]

/-- The record of one account. -/
def account (id token mail name : String) : Record :=
  [id, token, mail, name].map fun s => .value (.string s)

/-- Two fields of an account, one of them named three times, and what is left of them in
front of a third. -/
theorem Projection.resolve_apply_law_accounts :
    let ana := account "7" "secret" "ana@x" "Ana"
    ∃ p p' q, accountTable.OwnSlots ∧
      resolve accountTable ["NAME", "Id", "name"] = .ok p ∧ p.names = ["name", "id"] ∧
      resolve accountTable ["id", "Name"] = .ok p' ∧
      resolve accountTable ["e-mail", "name"] = .ok q ∧
      p.apply accountTable ana = account "7" "" "" "Ana" ∧
      p'.apply accountTable ana = p.apply accountTable ana ∧
      p.apply accountTable (p.apply accountTable ana) = p.apply accountTable ana ∧
      q.apply accountTable (p.apply accountTable ana) = account "" "" "" "Ana" ∧
      accountTable.Restricts (fun f => f ∈ p.fields ∧ f ∈ q.fields) ana
        (q.apply accountTable (p.apply accountTable ana)) := by
  intro ana
  have ht : accountTable.OwnSlots := Naming.ownSlots_tableOf (d := accounts) rfl _ _ _
  have hr : accountTable.IsRecord ana := rfl
  obtain ⟨-, hlaw⟩ := resolve_apply_law ht ["NAME", "Id", "name"]
  obtain ⟨-, hrecord, hsame, htwo⟩ := hlaw _ rfl
  have hnames : SameNames ["NAME", "Id", "name"] ["id", "Name"] := by
    constructor <;> simp only [SameLetters] <;> decide +kernel
  obtain ⟨p', hp', happly⟩ := hsame _ hnames
  exact ⟨_, p', _, ht, rfl, rfl, hp', rfl, rfl, happly ana hr, (hrecord ana hr).2, rfl,
    htwo ["e-mail", "name"] _ rfl ana hr⟩

end RecordQuery
