import Mathlib.Data.List.Forall2

/-!
# Outcomes of computations that may fail

How a successful result of a composed computation splits into the results of its
parts.  Every inversion of a compiled request goes through these facts.  A failed
one carries the error of the first of its parts that fails (`error?_mapM`,
`error?_foldlM`).  Two computations that differ in their errors alone are compared
by their `toOption`.
-/

namespace RecordQuery.Outcome

variable {ε α β : Type}

/-- A computation and its continuation succeed together. -/
theorem bind_eq_ok {x : Except ε α} {f : α → Except ε β} {b : β} :
    x >>= f = .ok b ↔ ∃ a, x = .ok a ∧ f a = .ok b := by
  cases x with
  | error e => simp [bind, Except.bind]
  | ok a => simp [bind, Except.bind]

theorem map_eq_ok {x : Except ε α} {f : α → β} {b : β} :
    x.map f = .ok b ↔ ∃ a, x = .ok a ∧ f a = b := by
  cases x with
  | error e => simp [Except.map]
  | ok a => simp [Except.map]

theorem map_map {γ : Type} (x : Except ε α) (f : α → β) (g : β → γ) :
    (x.map f).map g = x.map fun a => g (f a) := by
  cases x <;> rfl

/-- A list of computations succeeds when each of them does, with their results in
order. -/
theorem mapM_eq_ok {f : α → Except ε β} {xs : List α} {ys : List β} :
    xs.mapM f = .ok ys ↔ List.Forall₂ (fun x y => f x = .ok y) xs ys := by
  induction xs generalizing ys with
  | nil => cases ys <;> simp [pure, Except.pure]
  | cons x xs ih =>
      rw [List.mapM_cons, bind_eq_ok, List.forall₂_cons_left_iff]
      constructor
      · rintro ⟨y, hy, h⟩
        obtain ⟨rest, hrest, h⟩ := bind_eq_ok.mp h
        cases h
        exact ⟨y, rest, hy, ih.mp hrest, rfl⟩
      · rintro ⟨y, rest, hy, hrest, rfl⟩
        exact ⟨y, hy, bind_eq_ok.mpr ⟨rest, ih.mpr hrest, rfl⟩⟩

/-- A list of computations depends on what each of its own items gives. -/
theorem mapM_congr {f g : α → Except ε β} {xs : List α} (h : ∀ x ∈ xs, f x = g x) :
    xs.mapM f = xs.mapM g := by
  induction xs with
  | nil => rfl
  | cons x xs ih =>
      rw [List.mapM_cons, List.mapM_cons, h x List.mem_cons_self,
        ih fun x' hx' => h x' (List.mem_cons_of_mem x hx')]

/-- Computations that cannot fail on a list give what they give, item by item. -/
theorem mapM_eq_ok_map {f : α → Except ε β} {g : α → β} {xs : List α}
    (h : ∀ x ∈ xs, f x = .ok (g x)) : xs.mapM f = .ok (xs.map g) := by
  rw [mapM_eq_ok, List.forall₂_map_right_iff, List.forall₂_same]
  exact h

/-- Every result of a successful list of computations is the result of one of
them. -/
theorem exists_of_mem_mapM {f : α → Except ε β} {xs : List α} {ys : List β} {y : β}
    (h : xs.mapM f = .ok ys) (hy : y ∈ ys) : ∃ x ∈ xs, f x = .ok y := by
  have hall := mapM_eq_ok.mp h
  clear h
  induction hall with
  | nil => cases hy
  | cons hhead _ ih =>
      rcases List.mem_cons.mp hy with rfl | hy
      · exact ⟨_, List.mem_cons_self, hhead⟩
      · obtain ⟨x, hx, hfx⟩ := ih hy
        exact ⟨x, List.mem_cons_of_mem _ hx, hfx⟩

/-- Something is true of one of the results when it is true of the result of one of the
computations. -/
theorem exists_mem_mapM_iff {f : α → Except ε β} {P : β → Prop} {xs : List α} {ys : List β}
    (h : xs.mapM f = .ok ys) : (∃ y ∈ ys, P y) ↔ ∃ x ∈ xs, ∃ y, f x = .ok y ∧ P y := by
  have hall := mapM_eq_ok.mp h
  clear h
  induction hall with
  | nil => simp
  | cons hhead _ ih => simp [hhead, ih]

/-- A test of every source can be made on the results instead. -/
theorem all_eq_all_of_forall₂ {xs : List α} {ys : List β} {f : α → Bool} {g : β → Bool}
    (h : List.Forall₂ (fun x y => f x = g y) xs ys) : xs.all f = ys.all g := by
  induction h with
  | nil => rfl
  | cons hhead _ ih => rw [List.all_cons, List.all_cons, hhead, ih]

/-- The error of a computation, if it fails. -/
def error? : Except ε α → Option ε
  | .ok _ => none
  | .error e => some e

theorem error?_eq_some {x : Except ε α} {e : ε} : error? x = some e ↔ x = .error e := by
  cases x <;> simp [error?]

theorem error?_eq_none {x : Except ε α} : error? x = none ↔ ∃ a, x = .ok a := by
  cases x <;> simp [error?]

@[simp] theorem error?_map (x : Except ε α) (f : α → β) : error? (x.map f) = error? x := by
  cases x <;> rfl

/-- A step whose error does not depend on what it is given fails after all that
comes before it. -/
theorem error?_bind {x : Except ε α} {f : α → Except ε β} {rest : Option ε}
    (h : ∀ a, error? (f a) = rest) : error? (x >>= f) = (error? x).or rest := by
  cases x with
  | error e => rfl
  | ok a => exact h a

@[simp] theorem error?_bind_pure (x : Except ε α) (f : α → β) :
    error? (x >>= fun a => pure (f a)) = error? x := by
  cases x <;> rfl

/-- **The error of a list of computations is the first one**, as if all of them had been
made. -/
theorem error?_mapM (f : α → Except ε β) (xs : List α) :
    error? (xs.mapM f) = xs.findSome? fun x => error? (f x) := by
  induction xs with
  | nil => rfl
  | cons x xs ih =>
      have hrest : ∀ y, error? (xs.mapM f >>= fun ys => pure (y :: ys)) =
          xs.findSome? fun x => error? (f x) := by
        intro y
        rw [error?_bind_pure, ih]
      rw [List.mapM_cons, error?_bind hrest, List.findSome?_cons]
      cases error? (f x) <;> rfl

/-- A list of computations succeeds when each of them does. -/
theorem exists_mapM_iff {f : α → Except ε β} {xs : List α} :
    (∃ ys, xs.mapM f = .ok ys) ↔ ∀ x ∈ xs, ∃ y, f x = .ok y := by
  simp only [← error?_eq_none, error?_mapM, List.findSome?_eq_none_iff]

/-- A fold whose steps fail whatever has been gathered so far. -/
theorem error?_foldlM {γ : Type} {step : γ → α → Except ε γ} {stepError : α → Option ε}
    (h : ∀ acc x, error? (step acc x) = stepError x) (acc : γ) (xs : List α) :
    error? (xs.foldlM step acc) = xs.findSome? stepError := by
  induction xs generalizing acc with
  | nil => rfl
  | cons x xs ih =>
      rw [List.foldlM_cons, error?_bind ih, h, List.findSome?_cons]
      cases stepError x <;> rfl

/-- A fold of which each step succeeds just on what is accepted. -/
theorem foldlM_eq_ok {γ : Type} {step : γ → α → Except ε γ} {after : γ → α → γ}
    {accepts : α → Prop} (h : ∀ acc x acc', step acc x = .ok acc' ↔ accepts x ∧ acc' = after acc x)
    {acc acc' : γ} {xs : List α} :
    xs.foldlM step acc = .ok acc' ↔ (∀ x ∈ xs, accepts x) ∧ acc' = xs.foldl after acc := by
  induction xs generalizing acc with
  | nil => simp [pure, Except.pure, eq_comm]
  | cons x xs ih =>
      rw [List.foldlM_cons, bind_eq_ok, List.forall_mem_cons, List.foldl_cons]
      constructor
      · rintro ⟨next, hnext, hrest⟩
        obtain ⟨hx, rfl⟩ := (h acc x next).mp hnext
        obtain ⟨hxs, hresult⟩ := ih.mp hrest
        exact ⟨⟨hx, hxs⟩, hresult⟩
      · rintro ⟨⟨hx, hxs⟩, hresult⟩
        exact ⟨after acc x, (h acc x _).mpr ⟨hx, rfl⟩, ih.mpr ⟨hxs, hresult⟩⟩

/-- Computations go on alike when what is made of their results only depends on the part of
them that agrees. -/
theorem bind_congr_map {γ : Type} {x y : Except ε α} {part : α → γ} {f : α → Except ε β}
    (h : x.map part = y.map part) (hf : ∀ a b, part a = part b → f a = f b) :
    x >>= f = y >>= f := by
  cases x with
  | error e =>
      cases y with
      | error e' =>
          cases h
          rfl
      | ok b => cases h
  | ok a =>
      cases y with
      | error e' => cases h
      | ok b => exact hf a b (Except.ok.inj h)

/-- A further step leaves a result as it is, unless there is no result. -/
theorem bind_eq_self_iff {x : Except ε α} {f : α → Except ε α} :
    x >>= f = x ↔ ∀ a, x = .ok a → f a = .ok a := by
  cases x with
  | error e => exact iff_of_true rfl nofun
  | ok a => exact ⟨fun h _ ha => Except.ok.inj ha ▸ h, fun h => h a rfl⟩

/-- A further step leaves a part of a result as it is, unless there is none. -/
theorem map_bind_eq_map_iff {γ : Type} {x : Except ε α} {f : α → Except ε α} {part : α → γ} :
    (x >>= f).map part = x.map part ↔ ∀ a, x = .ok a → (f a).map part = .ok (part a) := by
  cases x with
  | error e => exact iff_of_true rfl nofun
  | ok a => exact ⟨fun h _ ha => Except.ok.inj ha ▸ h, fun h => h a rfl⟩

/-- Computations agree in a part of their results that some views of them show. -/
theorem map_congr_of_views {γ ι : Type} [Nonempty ι] {x y : Except ε α} {view : ι → α → β}
    {part : α → γ} (h : ∀ i, x.map (view i) = y.map (view i))
    (hpart : ∀ a b, (∀ i, view i a = view i b) → part a = part b) : x.map part = y.map part := by
  obtain ⟨i⟩ := ‹Nonempty ι›
  cases x with
  | error e =>
      cases y with
      | error e' =>
          cases h i
          rfl
      | ok b => cases h i
  | ok a =>
      cases y with
      | error e' => cases h i
      | ok b => exact congrArg Except.ok (hpart a b fun i => Except.ok.inj (h i))

/-! ## Results without errors -/

theorem toOption_eq_some {x : Except ε α} {a : α} : x.toOption = some a ↔ x = .ok a := by
  cases x <;> simp [Except.toOption]

theorem toOption_map (x : Except ε α) (f : α → β) : (x.map f).toOption = x.toOption.map f := by
  cases x <;> rfl

/-- Computations with the same results go on alike. -/
theorem toOption_bind_congr {x y : Except ε α} {f g : α → Except ε β}
    (h : x.toOption = y.toOption) (hrest : ∀ a, (f a).toOption = (g a).toOption) :
    (x >>= f).toOption = (y >>= g).toOption := by
  cases x with
  | error e =>
      cases y with
      | error e' => rfl
      | ok b => cases h
  | ok a =>
      cases y with
      | error e' => cases h
      | ok b =>
          cases h
          exact hrest a

/-- Computations on two lists agree, but for their errors, when they do item by item. -/
theorem toOption_mapM_congr {γ : Type} {f : α → Except ε β} {g : γ → Except ε β} (source : γ → α)
    {xs : List γ} (h : ∀ x ∈ xs, (f (source x)).toOption = (g x).toOption) :
    ((xs.map source).mapM f).toOption = (xs.mapM g).toOption := by
  induction xs with
  | nil => rfl
  | cons x xs ih =>
      rw [List.map_cons, List.mapM_cons, List.mapM_cons]
      refine toOption_bind_congr (h x List.mem_cons_self) fun y => ?_
      exact toOption_bind_congr (ih fun x' hx' => h x' (List.mem_cons_of_mem x hx')) fun ys => rfl

end RecordQuery.Outcome
