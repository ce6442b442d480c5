import RecordQuery.Proofs.Kinds
import RecordQuery.Proofs.StableSort

/-!
# The order of values

`Value.order?` is the order that sorting is built on.  It answers for values of
one kind, puts null first, and goes through lists item by item; a NaN leaves it
without an answer.

What holds with NaNs and without is `LawfulOn`: swapping the sides swaps the
answer, and answers that lead forward compose.  It is proved once for values of
a kind, which are ordered as integers are (`order?_of_isKind`) or as texts, and
then carried over to null (`LawfulOn.orFirst`) and to lists (`orderLists?_lawful`).
Where no NaN can occur there is always an answer, and a lawful comparison that
always answers is a total preorder (`LawfulOn.preorderOn`).

Floating-point fields are sorted by the total order of the bits and therefore
need no such restriction, but their sequences are not: items of a list are
compared by `order?`.  `sortingOrder_preorderOn` leaves out exactly those.
-/

namespace RecordQuery

theorem lt_of_ne_of_ne : ∀ {o : Ordering}, o ≠ .eq → o ≠ .gt → o = .lt := by decide

theorem then_lt_of_ne_gt : ∀ {o : Ordering}, o ≠ .gt → o.then .lt = .lt := by decide

/-- Comparisons with a common forward direction compose. -/
theorem compare_eq_then {κ : Type} [Ord κ] [Std.TransOrd κ] {a b c : κ}
    (hab : compare a b ≠ .gt) (hbc : compare b c ≠ .gt) :
    compare a c = (compare a b).then (compare b c) := by
  cases hcase : compare a b with
  | lt => exact Std.TransCmp.lt_of_lt_of_isLE hcase (Ordering.isLE_iff_ne_gt.mpr hbc)
  | eq => exact Std.TransCmp.congr_left hcase
  | gt => exact absurd hcase hab

variable {α : Type} {S : α → Prop} {cmp : α → α → Option Ordering}

/-- What a comparison that may have no answer promises on the items with a
property. -/
structure LawfulOn (S : α → Prop) (cmp : α → α → Option Ordering) : Prop where
  swap : ∀ {a b}, S a → S b → cmp b a = (cmp a b).map Ordering.swap
  trans : ∀ {a b c o o'}, S a → S b → S c → cmp a b = some o → cmp b c = some o' →
    o ≠ .gt → o' ≠ .gt → cmp a c = some (o.then o')

namespace LawfulOn

/-- Comparing by keys is lawful, also when some items have no answer to anything. -/
theorem ofKey {κ : Type} [Ord κ] [Std.TransOrd κ] (key : α → κ) (excluded : α → Bool)
    (h : ∀ {a b}, S a → S b → cmp a b =
      if excluded a || excluded b then none else some (compare (key a) (key b))) :
    LawfulOn S cmp where
  swap {a b} ha hb := by
    rw [h ha hb, h hb ha, Bool.or_comm]
    split
    · rfl
    · rw [Option.map_some, ← Std.OrientedOrd.eq_swap]
  trans {a b c o o'} ha hb hc hab hbc ho ho' := by
    rw [h ha hb] at hab
    rw [h hb hc] at hbc
    rw [h ha hc]
    split at hab
    · cases hab
    · next hnab =>
        split at hbc
        · cases hbc
        · next hnbc =>
            cases hab
            cases hbc
            rw [if_neg (by simp_all), compare_eq_then ho ho']

/-- A lawful comparison stays lawful when one new item is put before all others. -/
theorem orFirst (h : LawfulOn S cmp) (bottom : α) (hself : cmp bottom bottom = some .eq)
    (hbefore : ∀ {a}, S a → cmp bottom a = some .lt)
    (hafter : ∀ {a}, S a → cmp a bottom = some .gt) :
    LawfulOn (fun a => a = bottom ∨ S a) cmp where
  swap {a b} ha hb := by
    rcases ha with rfl | ha <;> rcases hb with rfl | hb
    · rw [hself]; rfl
    · rw [hbefore hb, hafter hb]; rfl
    · rw [hbefore ha, hafter ha]; rfl
    · exact h.swap ha hb
  trans {a b c o o'} ha hb hc hab hbc ho ho' := by
    rcases ha with rfl | ha <;> rcases hb with rfl | hb
    · rw [hself] at hab
      cases hab
      exact hbc
    · rw [hbefore hb] at hab
      cases hab
      rcases hc with rfl | hc
      · -- the new item is behind none, so it cannot be the last of three
        rw [hafter hb] at hbc
        cases hbc
        exact absurd rfl ho'
      · exact hbefore hc
    · rw [hafter ha] at hab
      cases hab
      exact absurd rfl ho
    · rcases hc with rfl | hc
      · rw [hafter hb] at hbc
        cases hbc
        exact absurd rfl ho'
      · exact h.trans ha hb hc hab hbc ho ho'

/-- A lawful comparison that always has an answer is a total preorder. -/
theorem preorderOn (h : LawfulOn S cmp) {order : α → α → Ordering}
    (horder : ∀ {a b}, S a → S b → cmp a b = some (order a b)) : PreorderOn S order where
  swap ha hb := by
    have hswap := h.swap ha hb
    rw [horder ha hb, horder hb ha] at hswap
    exact Option.some.inj hswap
  trans {a b c} ha hb hc hab hbc := by
    have htrans := h.trans ha hb hc (horder ha hb) (horder hb hc) hab hbc
    rw [horder ha hc] at htrans
    rw [Option.some.inj htrans]
    exact fun hgt => (Ordering.then_eq_gt.mp hgt).elim hab fun hgt => hbc hgt.2

end LawfulOn

/-! ## Values of one kind -/

/-- The nanoseconds from the start of 1970 to a timestamp. -/
def Timestamp.instant (t : Timestamp) : Int :=
  t.secs.toInt * 1000000000 + t.nanos

/-- Seconds and nanoseconds are compared one after the other, which is to compare
the instants. -/
theorem Timestamp.order_eq_compare_instant (s t : Timestamp) :
    s.order t = compare s.instant t.instant := by
  have hs := s.nanos_lt
  have ht := t.nanos_lt
  unfold order instant
  rcases Int.lt_trichotomy s.secs.toInt t.secs.toInt with hlt | heq | hgt
  · rw [Std.compare_eq_lt.mpr hlt]
    exact (Std.compare_eq_lt.mpr (by omega)).symm
  · rw [Std.compare_eq_iff_eq.mpr heq, Ordering.eq_then]
    rcases Nat.lt_trichotomy s.nanos t.nanos with hlt | heq' | hgt
    · rw [Std.compare_eq_lt.mpr hlt]
      exact (Std.compare_eq_lt.mpr (by omega)).symm
    · rw [Std.compare_eq_iff_eq.mpr heq']
      exact (Std.compare_eq_iff_eq.mpr (by omega)).symm
    · rw [Std.compare_eq_gt.mpr hgt]
      exact (Std.compare_eq_gt.mpr (by omega)).symm
  · rw [Std.compare_eq_gt.mpr hgt]
    exact (Std.compare_eq_gt.mpr (by omega)).symm

theorem compare_natCast (m n : Nat) : compare (m : Int) n = compare m n := by
  rcases Nat.lt_trichotomy m n with hlt | heq | hgt
  · rw [Std.compare_eq_lt.mpr hlt, Std.compare_eq_lt.mpr (Int.ofNat_lt.mpr hlt)]
  · rw [heq, Std.compare_self, Std.compare_self]
  · rw [Std.compare_eq_gt.mpr hgt, Std.compare_eq_gt.mpr (Int.ofNat_lt.mpr hgt)]

namespace Value

/-- The place of a scalar value among those of its kind; texts have none. -/
def place : Value → Int
  | bool b => b.toNat
  | number (.signed n) => n.toInt
  | number (.unsigned n) => n.toNat
  | number (.float x) => x.rank
  | timestamp t => t.instant
  | enum d => d.toNat
  | _ => 0

/-- The text of a text value. -/
def asText : Value → String
  | string s => s
  | _ => ""

/-- Values of one kind other than texts are ordered as integers are, unless one of
them is a NaN. -/
theorem order?_of_isKind {a b : Value} {k : Kind} (ha : a.IsKind k) (hb : b.IsKind k)
    (hk : k ≠ .string) :
    a.order? b = if a.isNaN || b.isNaN then none else some (compare a.place b.place) := by
  cases ha with
  | bool x =>
      cases hb with
      | bool y => cases x <;> cases y <;> rfl
  | signed | unsigned | float => cases hb; rfl
  | timestamp s =>
      cases hb with
      | timestamp t => exact congrArg some (s.order_eq_compare_instant t)
  | enum d =>
      cases hb with
      | enum e => exact congrArg some (compare_natCast _ _).symm
  | string => exact absurd rfl hk

theorem order?_of_isString {a b : Value} (ha : a.IsKind .string) (hb : b.IsKind .string) :
    a.order? b = some (compare a.asText b.asText) := by
  cases ha
  cases hb
  rfl

/-- The order is lawful on the values of one kind. -/
theorem isKind_order?_lawful (k : Kind) : LawfulOn (·.IsKind k) order? := by
  by_cases hk : k = .string
  · subst hk
    exact .ofKey asText (fun _ => false) fun ha hb => order?_of_isString ha hb
  · exact .ofKey place isNaN fun ha hb => order?_of_isKind ha hb hk

/-! ## Null and lists -/

theorem order?_null_left {v : Value} {k : Kind} (h : v.IsKind k) : null.order? v = some .lt := by
  cases h <;> rfl

theorem order?_null_right {v : Value} {k : Kind} (h : v.IsKind k) : v.order? null = some .gt := by
  cases h <;> rfl

/-- Putting null in front of them keeps it lawful. -/
theorem hasItemShape_order?_lawful (k : Kind) : LawfulOn (·.HasItemShape k) order? :=
  (isKind_order?_lawful k).orFirst null rfl order?_null_left order?_null_right

/-- The heads of two lists decide, or they are equal and the tails do. -/
theorem orderLists?_cons_eq_some {a b : Value} {as bs : List Value} {o : Ordering} :
    orderLists? (a :: as) (b :: bs) = some o ↔
      a.order? b = some .eq ∧ orderLists? as bs = some o ∨ a.order? b = some o ∧ o ≠ .eq := by
  rw [orderLists?]
  rcases a.order? b with _ | _ | _ | _ <;> cases o <;> simp

/-- Swapping two lists swaps the answer, which the first items that differ give. -/
theorem orderLists?_swap {S : Value → Prop} (h : LawfulOn S order?) {as bs : List Value}
    (has : ∀ a ∈ as, S a) (hbs : ∀ b ∈ bs, S b) :
    orderLists? bs as = (orderLists? as bs).map Ordering.swap := by
  induction as generalizing bs with
  | nil => cases bs <;> rfl
  | cons a as ih =>
      cases bs with
      | nil => rfl
      | cons b bs =>
          have hheads := h.swap (has a List.mem_cons_self) (hbs b List.mem_cons_self)
          have htails := ih (fun x hx => has x (List.mem_cons_of_mem a hx))
            (fun y hy => hbs y (List.mem_cons_of_mem b hy))
          rw [orderLists?, orderLists?, hheads]
          rcases a.order? b with _ | _ | _ | _
          · rfl
          · rfl
          · exact htails
          · rfl

/-- Transitivity of three lists from that of their heads and of their tails. -/
theorem orderLists?_cons_trans {a b c : Value} {as bs cs : List Value} {o o' : Ordering}
    (hheads : ∀ {p q}, a.order? b = some p → b.order? c = some q → p ≠ .gt → q ≠ .gt →
      a.order? c = some (p.then q))
    (htails : ∀ {p q}, orderLists? as bs = some p → orderLists? bs cs = some q → p ≠ .gt →
      q ≠ .gt → orderLists? as cs = some (p.then q))
    (hab : orderLists? (a :: as) (b :: bs) = some o)
    (hbc : orderLists? (b :: bs) (c :: cs) = some o') (ho : o ≠ .gt) (ho' : o' ≠ .gt) :
    orderLists? (a :: as) (c :: cs) = some (o.then o') := by
  rw [orderLists?_cons_eq_some] at hab hbc ⊢
  rcases hab with ⟨heq, hab⟩ | ⟨hlt, hne⟩
  · rcases hbc with ⟨heq', hbc⟩ | ⟨hlt', hne'⟩
    · exact Or.inl ⟨hheads heq heq' (by decide) (by decide), htails hab hbc ho ho'⟩
    · -- the heads of the last two lists decide, before the tails of the first two do
      obtain rfl : o' = .lt := lt_of_ne_of_ne hne' ho'
      rw [then_lt_of_ne_gt ho]
      exact Or.inr ⟨hheads heq hlt' (by decide) (by decide), by decide⟩
  · -- the heads of the first two lists decide, whatever comes next
    obtain rfl : o = .lt := lt_of_ne_of_ne hne ho
    rw [Ordering.lt_then]
    refine Or.inr ⟨?_, by decide⟩
    rcases hbc with ⟨heq', -⟩ | ⟨hlt', -⟩
    · exact hheads hlt heq' (by decide) (by decide)
    · exact hheads hlt hlt' (by decide) ho'

/-- Of three lists the first unequal items decide, wherever they stand: what lies
behind them, be it a NaN, is never reached. -/
theorem orderLists?_trans {S : Value → Prop} (h : LawfulOn S order?) {as bs cs : List Value}
    (has : ∀ a ∈ as, S a) (hbs : ∀ b ∈ bs, S b) (hcs : ∀ c ∈ cs, S c) {o o' : Ordering}
    (hab : orderLists? as bs = some o) (hbc : orderLists? bs cs = some o')
    (ho : o ≠ .gt) (ho' : o' ≠ .gt) : orderLists? as cs = some (o.then o') := by
  induction as generalizing bs cs o o' with
  | nil =>
      cases bs with
      | nil => cases hab; exact hbc
      | cons b bs =>
          cases hab
          cases cs with
          | nil => cases hbc; exact absurd rfl ho'
          | cons c cs => rfl
  | cons a as ih =>
      cases bs with
      | nil => cases hab; exact absurd rfl ho
      | cons b bs =>
          cases cs with
          | nil => cases hbc; exact absurd rfl ho'
          | cons c cs =>
              refine orderLists?_cons_trans ?heads ?tails hab hbc ho ho'
              case heads =>
                exact h.trans (has a List.mem_cons_self) (hbs b List.mem_cons_self)
                  (hcs c List.mem_cons_self)
              case tails =>
                exact ih (fun x hx => has x (List.mem_cons_of_mem a hx))
                  (fun y hy => hbs y (List.mem_cons_of_mem b hy))
                  (fun z hz => hcs z (List.mem_cons_of_mem c hz))

/-- **A lawful order of items makes the order of their lists lawful.** -/
theorem orderLists?_lawful {S : Value → Prop} (h : LawfulOn S order?) :
    LawfulOn (fun as : List Value => ∀ a ∈ as, S a) orderLists? where
  swap has hbs := orderLists?_swap h has hbs
  trans has hbs hcs hab hbc ho ho' := orderLists?_trans h has hbs hcs hab hbc ho ho'

/-- The order of the values of one shape is lawful, with NaNs and without. -/
theorem hasShape_order?_lawful (t : FieldType) : LawfulOn (·.HasShape t) order? := by
  by_cases hseq : t.sequence
  · have hlists := orderLists?_lawful (hasItemShape_order?_lawful t.scalar.kind)
    constructor
    · rintro a b ha hb
      obtain ⟨as, rfl, has⟩ := (hasShape_sequence hseq).mp ha
      obtain ⟨bs, rfl, hbs⟩ := (hasShape_sequence hseq).mp hb
      exact hlists.swap has hbs
    · rintro a b c o o' ha hb hc
      obtain ⟨as, rfl, has⟩ := (hasShape_sequence hseq).mp ha
      obtain ⟨bs, rfl, hbs⟩ := (hasShape_sequence hseq).mp hb
      obtain ⟨cs, rfl, hcs⟩ := (hasShape_sequence hseq).mp hc
      exact hlists.trans has hbs hcs
  · simpa only [hasShape_single hseq] using hasItemShape_order?_lawful t.scalar.kind

/-! ## Where there is always an answer -/

theorem isNaN_of_isKind {v : Value} {k : Kind} (h : v.IsKind k) (hk : k ≠ .float) :
    v.isNaN = false := by
  cases h with
  | float => exact absurd rfl hk
  | bool | signed | unsigned | string | timestamp | enum => rfl

theorem order?_isSome_of_hasItemShape {a b : Value} {k : Kind} (hk : k ≠ .float)
    (ha : a.HasItemShape k) (hb : b.HasItemShape k) : (a.order? b).isSome := by
  rcases ha with rfl | ha <;> rcases hb with rfl | hb
  · rfl
  · rw [order?_null_left hb]; rfl
  · rw [order?_null_right ha]; rfl
  · by_cases hstring : k = .string
    · subst hstring
      rw [order?_of_isString ha hb]; rfl
    · rw [order?_of_isKind ha hb hstring, isNaN_of_isKind ha hk, isNaN_of_isKind hb hk]; rfl

/-- Lists of items with an order have an order. -/
theorem orderLists?_isSome {as bs : List Value}
    (h : ∀ a ∈ as, ∀ b ∈ bs, (a.order? b).isSome) : (orderLists? as bs).isSome := by
  induction as generalizing bs with
  | nil => cases bs <;> rfl
  | cons a as ih =>
      cases bs with
      | nil => rfl
      | cons b bs =>
          obtain ⟨o, ho⟩ :=
            Option.isSome_iff_exists.mp (h a List.mem_cons_self b List.mem_cons_self)
          have htails := ih fun x hx y hy =>
            h x (List.mem_cons_of_mem a hx) y (List.mem_cons_of_mem b hy)
          rw [orderLists?, ho]
          cases o with
          | eq => exact htails
          | lt | gt => rfl

/-- Without floating-point numbers the values of one shape always have an order. -/
theorem order?_isSome_of_hasShape {a b : Value} {t : FieldType} (ht : t.scalar.kind ≠ .float)
    (ha : a.HasShape t) (hb : b.HasShape t) : (a.order? b).isSome := by
  by_cases hseq : t.sequence
  · obtain ⟨as, rfl, has⟩ := (hasShape_sequence hseq).mp ha
    obtain ⟨bs, rfl, hbs⟩ := (hasShape_sequence hseq).mp hb
    exact orderLists?_isSome fun x hx y hy =>
      order?_isSome_of_hasItemShape ht (has x hx) (hbs y hy)
  · exact order?_isSome_of_hasItemShape ht ((hasShape_single hseq).mp ha)
      ((hasShape_single hseq).mp hb)

end Value

/-! ## The order that sorts -/

/-- The floating-point types. -/
def Scalar.isFloat : Scalar → Bool
  | single | double => true
  | _ => false

/-- The sequences of floating-point numbers, nullable or not. -/
def FieldType.isFloatSequence (t : FieldType) : Bool :=
  t.sequence && t.scalar.isFloat

theorem Scalar.kind_eq_float {s : Scalar} : s.kind = .float ↔ s.isFloat := by
  cases s with
  | integer k => cases hk : k.signed <;> simp [kind, isFloat, hk]
  | bool | single | double | string | timestamp | enum => simp [kind, isFloat]

/-- The place of a floating-point number in the order of all bit patterns. -/
def Value.totalPlace : Value → Int
  | .number (.float x) => x.totalRank
  | _ => 0

/-- Floating-point numbers are sorted by a total preorder, and null in front of them. -/
theorem sortingOrder_preorderOn_float :
    PreorderOn (·.HasItemShape .float) sortingOrder := by
  have hfloats : LawfulOn (·.IsKind .float) fun a b => some (sortingOrder a b) := by
    refine .ofKey Value.totalPlace (fun _ => false) fun ha hb => ?_
    cases ha
    cases hb
    rfl
  have hlawful := hfloats.orFirst .null rfl (fun ha => by cases ha; rfl)
    (fun ha => by cases ha; rfl)
  exact hlawful.preorderOn fun _ _ => rfl

/-- Apart from two floating-point numbers values are sorted by `Value.order?`. -/
theorem sortingOrder_eq_getD {a b : Value} (h : ¬ a.IsKind .float ∨ ¬ b.IsKind .float) :
    sortingOrder a b = (a.order? b).getD .eq := by
  unfold sortingOrder
  split
  · next x y => exact h.elim (absurd (.float x)) (absurd (.float y))
  · rfl

theorem Value.not_isKind_float_of_hasShape {v : Value} {t : FieldType} (h : v.HasShape t)
    (ht : t.scalar.kind ≠ .float) : ¬ v.IsKind .float := by
  intro hfloat
  by_cases hseq : t.sequence
  · obtain ⟨items, rfl, -⟩ := (hasShape_sequence hseq).mp h
    cases hfloat
  · rcases (hasShape_single hseq).mp h with rfl | hkind
    · cases hfloat
    · exact ht (hkind.unique hfloat)

/-- **The order that sorts is a total preorder** on the values of every field type
but the sequences of floating-point numbers. -/
theorem sortingOrder_preorderOn {t : FieldType} (ht : ¬ t.isFloatSequence) :
    PreorderOn (·.HasShape t) sortingOrder := by
  by_cases hfloat : t.scalar.kind = .float
  · have hseq : ¬ t.sequence := fun hseq =>
      ht (by rw [FieldType.isFloatSequence, hseq, Scalar.kind_eq_float.mp hfloat]; rfl)
    simpa only [Value.hasShape_single hseq, hfloat] using sortingOrder_preorderOn_float
  · refine (Value.hasShape_order?_lawful t).preorderOn fun {a b} ha hb => ?_
    rw [sortingOrder_eq_getD (.inl (Value.not_isKind_float_of_hasShape ha hfloat))]
    obtain ⟨o, ho⟩ := Option.isSome_iff_exists.mp (Value.order?_isSome_of_hasShape hfloat ha hb)
    rw [ho]
    rfl

end RecordQuery
