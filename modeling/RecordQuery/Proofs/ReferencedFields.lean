import RecordQuery.Plan
import RecordQuery.Samples.Tickets

/-!
# What a filter depends on

A filter reads a record at the fields that it reports and nowhere else, so that only
those have to be fetched.  This is a statement about two runs: records that agree at
the reported fields get the same answer (`Expr.accepts_congr`).

Agreement can be meant in two ways, which neither contain each other: the values are
one and the same, or they count as the same, which a NaN does not and the two zeros
do.  Tests cannot tell values apart in either case.  `Value.Indistinct` is what they
go by, and it is all that the induction over the expression needs.

A projection copies the cells of its fields and leaves the others blank
(`Projection.getElem?_apply`).  When the reported fields are among its own, the
projected record therefore agrees with the record it was made from.
-/

namespace RecordQuery

variable {t : Table} {r : Record}

/-! ## Values that no test tells apart -/

/-- Floating-point numbers that are the same number have the same order with every other. -/
theorem Binary64.order?_congr {x y : Binary64} (h : x.sameNumber y) (z : Binary64) :
    x.order? z = y.order? z := by
  have hsome : x.order? y = some .eq := by simpa [sameNumber] using h
  unfold order? at hsome
  split at hsome
  · cases hsome
  · next hnumbers =>
      obtain ⟨hx, hy⟩ : x.isNaN = false ∧ y.isNaN = false := by simpa using hnumbers
      have hrank : x.rank = y.rank := Std.compare_eq_iff_eq.mp (Option.some.inj hsome)
      rw [order?, order?, hx, hy, hrank]

/-- Identical numbers have the same order with every other. -/
theorem Number.order?_congr {m n : Number} (h : m.identical n) (k : Number) :
    m.order? k = n.order? k := by
  cases m with
  | signed a =>
      cases n with
      | signed b => rw [eq_of_beq h]
      | unsigned | float => cases h
  | unsigned a =>
      cases n with
      | unsigned b => rw [eq_of_beq h]
      | signed | float => cases h
  | float x =>
      cases n with
      | float y => cases k <;> exact Binary64.order?_congr h _
      | signed | unsigned => cases h

namespace Value

mutual

theorem equal_congr : ∀ {a b : Value}, a.identical b → ∀ v, a.equal v = b.equal v
  | list as, list bs, h, v => by
      cases v with
      | list vs => exact equalLists_congr h vs
      | _ => rfl
  | null, null, _, _ => rfl
  | bool a, bool b, h, v => by rw [eq_of_beq (a := a) (b := b) h]
  | string a, string b, h, v => by rw [eq_of_beq (a := a) (b := b) h]
  | timestamp a, timestamp b, h, v => by rw [eq_of_beq (a := a) (b := b) h]
  | enum a, enum b, h, v => by rw [eq_of_beq (a := a) (b := b) h]
  | number m, number n, h, v => by
      cases v with
      | number k => exact congrArg (· == some .eq) (Number.order?_congr h k)
      | _ => rfl

theorem equalLists_congr :
    ∀ {as bs : List Value}, identicalLists as bs → ∀ vs, equalLists as vs = equalLists bs vs
  | [], [], _, _ => rfl
  | a :: as, b :: bs, h, vs => by
      obtain ⟨hhead, htail⟩ := Bool.and_eq_true_iff.mp h
      cases vs with
      | nil => rfl
      | cons v vs => rw [equalLists, equalLists, equal_congr hhead, equalLists_congr htail]

end

/-- All that tests see of the two values is the same. -/
structure Indistinct (a b : Value) : Prop where
  isNull : a.isNull = b.isNull
  equal : ∀ v, a.equal v = b.equal v
  rangeOrder? : ∀ v, a.rangeOrder? v = b.rangeOrder? v
  text : ∀ s, a = string s ↔ b = string s

theorem Indistinct.refl (a : Value) : a.Indistinct a :=
  ⟨rfl, fun _ => rfl, fun _ => rfl, fun _ => Iff.rfl⟩

/-- Values that count as the same are one value, two numbers or two lists. -/
theorem identical_cases {a b : Value} (h : a.identical b) :
    a = b ∨ (∃ m n, a = number m ∧ b = number n ∧ m.identical n) ∨
      ∃ as bs, a = list as ∧ b = list bs := by
  cases a with
  | number m =>
      cases b with
      | number n => exact .inr (.inl ⟨m, n, rfl, rfl, h⟩)
      | _ => cases h
  | list as =>
      cases b with
      | list bs => exact .inr (.inr ⟨as, bs, rfl, rfl⟩)
      | _ => cases h
  | null => cases b <;> first | exact .inl rfl | cases h
  | _ => cases b <;> first | exact .inl (congrArg _ (eq_of_beq h)) | cases h

/-- Values that count as the same are the same to every test. -/
theorem indistinct_of_identical {a b : Value} (h : a.identical b) : a.Indistinct b := by
  have hequal := equal_congr h
  rcases identical_cases h with rfl | ⟨m, n, rfl, rfl, hnumbers⟩ | ⟨as, bs, rfl, rfl⟩
  · exact .refl a
  · refine ⟨rfl, hequal, fun v => ?_, fun s => ⟨nofun, nofun⟩⟩
    cases v with
    | number k => exact Number.order?_congr hnumbers k
    | _ => rfl
  · exact ⟨rfl, hequal, fun v => by cases v <;> rfl, fun s => ⟨nofun, nofun⟩⟩

/-- The values are one and the same, or count as the same. -/
def Agrees (a b : Value) : Prop :=
  a = b ∨ a.identical b

/-- Values agree in what a test can see of them, and so no test tells them apart. -/
theorem Agrees.indistinct {a b : Value} (h : a.Agrees b) : a.Indistinct b := by
  rcases h with rfl | h
  · exact .refl a
  · exact indistinct_of_identical h

end Value

/-! ## Two records -/

/-- No comparison tells such values apart. -/
theorem Comparison.holds_congr {a b : Value} (h : a.Indistinct b) (c : Comparison) (v : Value) :
    c.holds a v = c.holds b v := by
  cases c with
  | eq | ne => simp only [holds, h.equal v]
  | gt | ge | lt | le => simp only [holds, h.rangeOrder? v]

namespace Expr

/-- Nor does a membership test. -/
theorem isMember_congr {a b : Value} (h : a.Indistinct b) (values : List Value) :
    isMember a values = isMember b values := by
  rw [isMember, isMember, h.isNull, funext h.equal]

/-- **A filter depends only on the fields that it reports.** -/
theorem accepts_congr {e : Expr} {a b : Record}
    (h : ∀ f ∈ e.fields, (t.read f.index a).Agrees (t.read f.index b)) :
    e.accepts t a = e.accepts t b := by
  induction e with
  | compare f op value =>
      exact op.holds_congr (h f List.mem_cons_self).indistinct value
  | text f test pattern =>
      have hread := (h f List.mem_cons_self).indistinct
      rw [accepts, accepts]
      split
      · next s hs => rw [(hread.text s).mp hs]
      · next hs =>
          split
          · next s hs' => exact absurd ((hread.text s).mpr hs') (hs s)
          · rfl
  | member f values =>
      exact isMember_congr (h f List.mem_cons_self).indistinct values
  | and l r ihl ihr =>
      rw [accepts, accepts, ihl fun f hf => h f (List.mem_append_left _ hf),
        ihr fun f hf => h f (List.mem_append_right _ hf)]
  | not e ih => rw [accepts, accepts, ih h]

end Expr

/-! ## Projected records -/

/-- The record has the cells of the table's record type, those without a field included. -/
def Table.IsRecord (t : Table) (r : Record) : Prop :=
  r.length = t.blank.length

instance (t : Table) (r : Record) : Decidable (t.IsRecord r) :=
  inferInstanceAs (Decidable (r.length = t.blank.length))

namespace Projection

theorem length_copySlot (slot : Nat) (source target : Record) :
    (copySlot slot source target).length = target.length := by
  unfold copySlot
  split
  · exact List.length_set
  · rfl

/-- Copying a slot changes that slot alone. -/
theorem getElem?_copySlot {source target : Record} (h : source.length = target.length)
    (slot i : Nat) :
    (copySlot slot source target)[i]? = if slot = i then source[i]? else target[i]? := by
  unfold copySlot
  split
  · next cell hcell =>
      have hslot : slot < target.length := h ▸ (List.getElem?_eq_some_iff.mp hcell).1
      rw [List.getElem?_set, if_pos hslot]
      split
      · next heq => rw [← heq, hcell]
      · rfl
  · next hnone =>
      split
      · next heq =>
          rw [← heq, hnone, List.getElem?_eq_none_iff, ← h]
          exact List.getElem?_eq_none_iff.mp hnone
      · rfl

/-- Copying the slots of some fields changes those slots alone. -/
theorem getElem?_foldl_copySlot {source target : Record} (h : source.length = target.length)
    (fields : List Field) (i : Nat) :
    (fields.foldl (fun target f => copySlot f.slot source target) target)[i]? =
      if ∃ f ∈ fields, f.slot = i then source[i]? else target[i]? := by
  induction fields generalizing target with
  | nil => simp
  | cons f fields ih =>
      have hnext : source.length = (copySlot f.slot source target).length := by
        rw [length_copySlot, h]
      rw [List.foldl_cons, ih hnext, getElem?_copySlot h]
      by_cases hf : f.slot = i <;> by_cases hfields : ∃ f ∈ fields, f.slot = i <;>
        simp [hf, hfields]

/-- **A projected record has the cells of the selected fields**, and is blank elsewhere. -/
theorem getElem?_apply (p : Projection) (h : t.IsRecord r) (i : Nat) :
    (p.apply t r)[i]? = if ∃ f ∈ p.fields, f.slot = i then r[i]? else t.blank[i]? :=
  getElem?_foldl_copySlot h p.fields i

/-- The fields that an expression refers to are among those of the projection. -/
def Covers (t : Table) (p : Projection) (e : Expr) : Prop :=
  ∀ f ∈ e.fields, ∀ field ∈ t.fields[f.index]?, field ∈ p.fields

instance (t : Table) (p : Projection) (e : Expr) : Decidable (p.Covers t e) :=
  inferInstanceAs (Decidable (∀ f ∈ e.fields, ∀ field ∈ t.fields[f.index]?, field ∈ p.fields))

/-- A selected field reads the same before and after. -/
theorem read_apply {p : Projection} {i : Nat} (h : t.IsRecord r)
    (hselected : ∀ field ∈ t.fields[i]?, field ∈ p.fields) :
    t.read i (p.apply t r) = t.read i r := by
  unfold Table.read
  split
  · next field hfield =>
      rw [Record.read, Record.read, getElem?_apply p h,
        if_pos ⟨field, hselected field hfield, rfl⟩]
  · rfl

end Projection

/-- **The fields that a filter reports are all it needs of a record.**  It gives the same
answer on two records that agree at these fields, whatever else they hold, and on a record
and any projection of it that keeps these fields. -/
theorem Expr.accepts_determined_by_fields (t : Table) (e : Expr) :
    (∀ a b, (∀ f ∈ e.fields, (t.read f.index a).Agrees (t.read f.index b)) →
      e.accepts t a = e.accepts t b) ∧
    ∀ p : Projection, p.Covers t e → ∀ r, t.IsRecord r →
      e.accepts t (p.apply t r) = e.accepts t r := by
  refine ⟨fun a b => accepts_congr, fun p hcovers r hr => accepts_congr fun f hf => .inl ?_⟩
  exact Projection.read_apply hr (hcovers f hf)

open Samples.Tickets in
/-- A compiled filter of three fields.  It cannot tell the second ticket from one with another
number and a note, nor any ticket from its title, owner and priority. -/
theorem Expr.accepts_determined_by_fields_tickets :
    ∃ p e projection, Plan.compile table secondByOwner {} = .ok p ∧ p.filter = some e ∧
      e.fields.map (·.name) = ["priority", "owner", "title"] ∧
      Projection.resolve table ["Title", "owner", "PRIORITY"] = .ok projection ∧
      records.map (e.accepts table) = [false, true, true] ∧
      (∀ r ∈ records, e.accepts table (projection.apply table r) = e.accepts table r) ∧
      e.accepts table (ticket 7 "Dark mode" 0 ⟨2030, 1, 1⟩ none ["x"] none "new") =
        e.accepts table (ticket 2 "Dark mode" 0 ⟨2024, 2, 3⟩ (some ⟨2024, 3, 1⟩) ["ui"] none "") := by
  refine ⟨_, _, _, rfl, rfl, rfl, rfl, rfl, fun r hr => ?_, ?_⟩
  · have hrecords : ∀ r ∈ records, table.IsRecord r := by decide
    exact (Expr.accepts_determined_by_fields table _).2 _ (by decide) r (hrecords r hr)
  · refine (Expr.accepts_determined_by_fields table _).1 _ _ ?_
    refine List.forall_mem_cons.mpr ⟨.inl rfl, List.forall_mem_cons.mpr ⟨.inl rfl,
      List.forall_mem_singleton.mpr (.inl rfl)⟩⟩

end RecordQuery
