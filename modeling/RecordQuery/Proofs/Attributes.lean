import RecordQuery.Naming.Attribute
import RecordQuery.Proofs.Outcome

/-!
# Reading attributes

The entries of an attribute are read one after the other, and reading stops at the first
that is not accepted.  When all of them are, what was read has a closed form: whether `skip`
is among the entries, and the last name or rule that they give.  `ItemOptions.read_eq_ok`
and `ContainerOptions.read_eq_ok` say so for the attributes of a field or variant and for
those of a declaration.

Only the first `filter` attribute counts: what stands behind it is not looked at
(`filterEntries_append`).
-/

namespace RecordQuery.Naming

variable {α : Type} {entries : List Entry} {before behind attributes : List Attribute}

/-! ## What entries give -/

/-- The name that an entry gives to a field or variant. -/
def Entry.newName? : Entry → Option String
  | .assign "rename" value => value
  | _ => none

/-- The rule that an entry gives to a declaration. -/
def Entry.newRule? : Entry → Option Rule
  | .assign "rename_all" (some name) => Rule.parse? name
  | _ => none

/-- What the last of some entries gives, of those that give anything. -/
def lastGiven (give : Entry → Option α) (entries : List Entry) : Option α :=
  (entries.filterMap give).getLast?

/-- The last entry that gives a value wins. -/
theorem lastGiven_cons (give : Entry → Option α) (e : Entry) (entries : List Entry) :
    lastGiven give (e :: entries) = (lastGiven give entries).or (give e) := by
  rw [lastGiven, lastGiven, List.filterMap_cons]
  cases give e with
  | none => simp
  | some a => simp [List.getLast?_cons, Option.or_some]

/-! ## The attribute that counts -/

/-- One of the attributes is a `filter` attribute. -/
def HasFilter (attributes : List Attribute) : Prop :=
  ∃ a ∈ attributes, a.name = "filter"

/-- A `filter` attribute with some entries. -/
def filterAttribute (entries : List Entry) : Attribute :=
  ⟨"filter", some entries⟩

@[simp] theorem filterEntries_filterAttribute :
    filterEntries (filterAttribute entries :: behind) = .ok entries := rfl

/-- **The first `filter` attribute hides those behind it.** -/
theorem filterEntries_append (h : HasFilter before) :
    filterEntries (before ++ behind) = filterEntries before := by
  induction before with
  | nil =>
      obtain ⟨a, ha, -⟩ := h
      cases ha
  | cons first before ih =>
      rw [List.cons_append, filterEntries, filterEntries]
      by_cases hname : first.name = "filter"
      · rw [if_pos hname, if_pos hname]
      · obtain ⟨a, ha, hfilter⟩ := h
        rcases List.mem_cons.mp ha with rfl | ha
        · exact absurd hfilter hname
        · rw [if_neg hname, if_neg hname]
          exact ih ⟨a, ha, hfilter⟩

/-- Other attributes hide nothing. -/
theorem filterEntries_append_of_not (h : ¬ HasFilter before) :
    filterEntries (before ++ behind) = filterEntries behind := by
  induction before with
  | nil => rfl
  | cons first before ih =>
      have hname : first.name ≠ "filter" := fun hname => h ⟨first, List.mem_cons_self, hname⟩
      rw [List.cons_append, filterEntries, if_neg hname]
      exact ih fun ⟨a, ha, hfilter⟩ => h ⟨a, List.mem_cons_of_mem first ha, hfilter⟩

/-! ## Fields and variants -/

namespace ItemOptions

variable {o o' : ItemOptions}

/-- The entries of a field or variant. -/
inductive Accepts : Entry → Prop
  | skip : Accepts (.word "skip")
  | rename (name : String) : Accepts (.assign "rename" (some name))

/-- What has been read after one more entry. -/
def after (o : ItemOptions) (e : Entry) : ItemOptions :=
  ⟨o.skip || .word "skip" == e, e.newName?.or o.rename⟩

/-- An entry is read or refused by itself; what was read before has no say in it. -/
theorem step_eq_ok (o : ItemOptions) (e : Entry) (o' : ItemOptions) :
    step o e = .ok o' ↔ Accepts e ∧ o' = o.after e := by
  unfold step
  split
  · simp [Accepts.skip, after, Entry.newName?, eq_comm]
  · next value =>
      cases value with
      | none =>
          refine iff_of_false nofun fun h => ?_
          cases h.1
      | some name =>
          have hskip : (Entry.word "skip" == .assign "rename" (some name)) = false := rfl
          simp [Accepts.rename, after, hskip, Entry.newName?, requireText, bind, Except.bind,
            pure, Except.pure, eq_comm]
  · next hskip hrename =>
      refine iff_of_false nofun fun h => ?_
      cases h.1 with
      | skip => exact hskip rfl
      | rename name => exact hrename _ rfl

/-- Of all entries read one after the other there remain whether one of them skips and the
last new name. -/
theorem foldl_after (o : ItemOptions) (entries : List Entry) :
    entries.foldl after o =
      ⟨o.skip || entries.contains (.word "skip"),
        (lastGiven Entry.newName? entries).or o.rename⟩ := by
  induction entries generalizing o with
  | nil => simp [lastGiven]
  | cons e entries ih =>
      rw [List.foldl_cons, ih, lastGiven_cons, List.contains_cons, Option.or_assoc]
      simp [after, Bool.or_assoc]

/-- **Reading entries succeeds when each is accepted**, and what is read is told by all of
them together. -/
theorem foldlM_step_eq_ok :
    entries.foldlM step o = .ok o' ↔ (∀ e ∈ entries, Accepts e) ∧
      o' = ⟨o.skip || entries.contains (.word "skip"),
        (lastGiven Entry.newName? entries).or o.rename⟩ := by
  rw [← foldl_after]
  exact Outcome.foldlM_eq_ok step_eq_ok

/-- **What the attributes of a field or variant say**, if it is accepted: `skip` if that is
an entry of the first `filter` attribute, and the last name that this attribute gives. -/
theorem read_eq_ok :
    read attributes = .ok o ↔ ∃ entries, filterEntries attributes = .ok entries ∧
      (∀ e ∈ entries, Accepts e) ∧
      o = ⟨entries.contains (.word "skip"), lastGiven Entry.newName? entries⟩ := by
  rw [read, Outcome.bind_eq_ok]
  refine exists_congr fun entries => and_congr_right fun _ => ?_
  rw [foldlM_step_eq_ok, Bool.false_or, Option.or_none]

end ItemOptions

/-! ## Declarations -/

namespace ContainerOptions

variable {o o' : ContainerOptions}

/-- The entries of a declaration. -/
def Accepts (e : Entry) : Prop :=
  ∃ rule, e.newRule? = some rule

/-- What has been read after one more entry. -/
def after (o : ContainerOptions) (e : Entry) : ContainerOptions :=
  ⟨e.newRule?.or o.renameAll⟩

/-- An entry of a container is read or refused by itself. -/
theorem step_eq_ok (o : ContainerOptions) (e : Entry) (o' : ContainerOptions) :
    step o e = .ok o' ↔ Accepts e ∧ o' = o.after e := by
  unfold step Accepts after
  split
  · next value =>
      cases value with
      | none => simp [requireText, Entry.newRule?, bind, Except.bind]
      | some name =>
          cases hrule : Rule.parse? name <;>
            simp [requireText, Rule.parse, Entry.newRule?, hrule, bind, Except.bind, pure,
              Except.pure, eq_comm]
  · next hrename =>
      have hnone : e.newRule? = none := by
        unfold Entry.newRule?
        split
        · exact absurd rfl (hrename _)
        · rfl
      simp [hnone]

/-- Of all entries of a container there remains the last rule. -/
theorem foldl_after (o : ContainerOptions) (entries : List Entry) :
    entries.foldl after o = ⟨(lastGiven Entry.newRule? entries).or o.renameAll⟩ := by
  induction entries generalizing o with
  | nil => simp [lastGiven]
  | cons e entries ih => rw [List.foldl_cons, ih, lastGiven_cons, Option.or_assoc, after]

/-- Reading the entries of a container succeeds when each is accepted. -/
theorem foldlM_step_eq_ok :
    entries.foldlM step o = .ok o' ↔ (∀ e ∈ entries, Accepts e) ∧
      o' = ⟨(lastGiven Entry.newRule? entries).or o.renameAll⟩ := by
  rw [← foldl_after]
  exact Outcome.foldlM_eq_ok step_eq_ok

/-- **What the attributes of a declaration say**, if they are accepted: the last rule that
the first `filter` attribute gives. -/
theorem read_eq_ok :
    read attributes = .ok o ↔ ∃ entries, filterEntries attributes = .ok entries ∧
      (∀ e ∈ entries, Accepts e) ∧ o = ⟨lastGiven Entry.newRule? entries⟩ := by
  rw [read, Outcome.bind_eq_ok]
  refine exists_congr fun entries => and_congr_right fun _ => ?_
  rw [foldlM_step_eq_ok, Option.or_none]

end ContainerOptions

end RecordQuery.Naming
