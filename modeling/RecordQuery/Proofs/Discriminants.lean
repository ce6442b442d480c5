import RecordQuery.Proofs.VariantNames

/-!
# Discriminants of declared variants

A variant has the number of its literal, and without one the number after that of the variant
in front of it.  `Numbered` is this rule on the natural numbers.  The table of a declaration
counts in 32-bit words instead and starts again behind the greatest one, so that its
discriminants are the numbers of the rule up to multiples of `2 ^ 32`.

They are those numbers themselves exactly when no variant without a literal stands directly
behind one that has the greatest word (`variantTable_numbered_iff`).
-/

namespace RecordQuery.Naming

variable {container : ContainerOptions} {v : VariantDecl} {e : VariantEntry}
  {declared rest : List VariantDecl} {entries others : List VariantEntry} {next : ℕ}
  {numbers numbers' : List ℕ} {d : UInt32}

/-- The numbers of some variants, of which the first has the number `next` unless it has a
literal. -/
inductive Numbered : ℕ → List VariantDecl → List ℕ → Prop
  | nil (next : ℕ) : Numbered next [] []
  | literal {next n : ℕ} {v : VariantDecl} {rest : List VariantDecl} {numbers : List ℕ}
      {text : String} (htext : v.discriminant = some text)
      (hread : IntegerLiteral.readLiteral? text = some n) (h : Numbered (n + 1) rest numbers) :
      Numbered next (v :: rest) (n :: numbers)
  | following {next : ℕ} {v : VariantDecl} {rest : List VariantDecl} {numbers : List ℕ}
      (hnone : v.discriminant = none) (h : Numbered (next + 1) rest numbers) :
      Numbered next (v :: rest) (next :: numbers)

/-- The rule leaves no choice. -/
theorem Numbered.unique (h : Numbered next declared numbers)
    (h' : Numbered next declared numbers') : numbers = numbers' := by
  induction h generalizing numbers' with
  | nil => cases h'; rfl
  | literal htext hread _ ih =>
      cases h' with
      | literal htext' hread' hrest =>
          rw [htext, Option.some.injEq] at htext'
          rw [← htext', hread, Option.some.injEq] at hread'
          rw [← hread'] at hrest ⊢
          rw [ih hrest]
      | following hnone => rw [htext] at hnone; cases hnone
  | following hnone _ ih =>
      cases h' with
      | literal htext => rw [hnone] at htext; cases htext
      | following _ hrest => rw [ih hrest]

/-! ## Words -/

/-- A literal is read as its number, which must be that of a word. -/
theorem readDiscriminant_eq_ok {text : String} :
    readDiscriminant text = .ok d ↔ IntegerLiteral.readLiteral? text = some d.toNat := by
  -- Where the words are known, a reduction of the cases below would count up to their number.
  obtain ⟨word, hread, hword⟩ : ∃ word : ℤ → Option UInt32,
      unsigned32? = word ∧ ∀ n : ℕ, word n = some d ↔ n = d.toNat :=
    ⟨unsigned32?, rfl, fun _ => unsigned32?_natCast⟩
  rw [readDiscriminant, hread]
  cases IntegerLiteral.readLiteral? text with
  | none => exact iff_of_false nofun nofun
  | some n =>
      rw [Option.some.injEq, ← hword]
      dsimp only
      cases word n with
      | none => exact iff_of_false nofun nofun
      | some d' => rw [Except.ok.injEq, Option.some.injEq]

/-- Counting up goes back to 0 after the greatest word. -/
theorem toNat_add_one (d : UInt32) : (d + 1).toNat = (d.toNat + 1) % UInt32.size :=
  UInt32.toNat_add d 1

/-- Every word of a table is the number of its variant, up to multiples of the number of
words. -/
theorem exists_numbered (hd : d.toNat = next % UInt32.size)
    (h : variantEntries container d declared = .ok entries) :
    ∃ numbers, Numbered next declared numbers ∧
      List.Forall₂ (fun e n => e.discriminant.toNat = n % UInt32.size) entries numbers := by
  induction declared generalizing d next entries with
  | nil =>
      cases h
      exact ⟨[], .nil next, .nil⟩
  | cons v rest ih =>
      obtain ⟨-, options, -, -, d', hnumber, others, hothers, rfl⟩ :=
        variantEntries_cons_eq_ok.mp h
      unfold VariantDecl.number at hnumber
      split at hnumber
      next text htext =>
        rw [readDiscriminant_eq_ok] at hnumber
        obtain ⟨numbers, hnumbers, hwords⟩ := ih (toNat_add_one d') hothers
        exact ⟨_, .literal htext hnumber hnumbers,
          .cons (Nat.mod_eq_of_lt d'.toNat_lt).symm hwords⟩
      next hnone =>
        cases hnumber
        have hnext : (d + 1).toNat = (next + 1) % UInt32.size := by
          rw [toNat_add_one, hd, Nat.mod_add_mod]
        obtain ⟨numbers, hnumbers, hwords⟩ := ih hnext hothers
        exact ⟨_, .following hnone hnumbers, .cons hd hwords⟩

/-! ## The greatest word -/

/-- The greatest discriminant. -/
def greatestWord : UInt32 := 4294967295

/-- No variant without a literal stands directly behind one with the greatest discriminant. -/
def NoOverrun (declared : List VariantDecl) (entries : List VariantEntry) : Prop :=
  (declared.zip entries).IsChain fun before after =>
    after.1.discriminant = none → before.2.discriminant ≠ greatestWord

/-- Whether a variant overruns is a matter of it and the one in front of it. -/
theorem noOverrun_cons_cons {v' : VariantDecl} {e' : VariantEntry} :
    NoOverrun (v :: v' :: rest) (e :: e' :: others) ↔
      (v'.discriminant = none → e.discriminant ≠ greatestWord) ∧
        NoOverrun (v' :: rest) (e' :: others) :=
  List.isChain_cons_cons

theorem toNat_add_one_eq_iff : (d + 1).toNat = d.toNat + 1 ↔ d ≠ greatestWord := by
  have hlt : d.toNat < UInt32.size := d.toNat_lt
  have hgreatest : greatestWord.toNat + 1 = UInt32.size := rfl
  rw [toNat_add_one, ne_eq, ← UInt32.toNat_inj]
  constructor
  · rintro hnext heq
    rw [heq, hgreatest, Nat.mod_self] at hnext
    cases hnext
  · intro hne
    exact Nat.mod_eq_of_lt (by omega)

/-- Behind a variant whose discriminant is its number, the table keeps to the numbers as long
as nothing counts on from the greatest word. -/
theorem map_toNat_eq_iff_noOverrun (hnumbers : Numbered (e.discriminant.toNat + 1) rest numbers)
    (h : variantEntries container (e.discriminant + 1) rest = .ok others) :
    others.map (·.discriminant.toNat) = numbers ↔ NoOverrun (v :: rest) (e :: others) := by
  induction rest generalizing v e numbers others with
  | nil =>
      cases h
      cases hnumbers
      exact iff_of_true rfl (.singleton _)
  | cons v' rest ih =>
      obtain ⟨-, options, -, -, d', hnumber, others', hothers, rfl⟩ :=
        variantEntries_cons_eq_ok.mp h
      unfold VariantDecl.number at hnumber
      rw [noOverrun_cons_cons, List.map_cons]
      cases hnumbers with
      | literal htext hread hrest =>
          rw [htext] at hnumber ⊢
          rw [readDiscriminant_eq_ok, hread, Option.some.injEq] at hnumber
          subst hnumber
          rw [List.cons.injEq]
          exact and_congr (iff_of_true rfl nofun) (ih hrest hothers)
      | following hnone hrest =>
          rw [hnone] at hnumber ⊢
          cases hnumber
          rw [List.cons.injEq, forall_prop_of_true rfl, ← toNat_add_one_eq_iff]
          refine and_congr_right fun hnext => ih ?_ hothers
          rwa [← hnext] at hrest

/-- **The numbers are as declared unless one of them overran**: that is, unless a variant
without a number of its own follows the greatest word. -/
theorem map_toNat_eq_iff (hnumbers : Numbered d.toNat declared numbers)
    (h : variantEntries container d declared = .ok entries) :
    entries.map (·.discriminant.toNat) = numbers ↔ NoOverrun declared entries := by
  cases declared with
  | nil =>
      cases h
      cases hnumbers
      exact iff_of_true rfl .nil
  | cons v rest =>
      obtain ⟨-, options, -, -, d', hnumber, others, hothers, rfl⟩ :=
        variantEntries_cons_eq_ok.mp h
      unfold VariantDecl.number at hnumber
      rw [List.map_cons]
      cases hnumbers with
      | literal htext hread hrest =>
          rw [htext, readDiscriminant_eq_ok, hread, Option.some.injEq] at hnumber
          subst hnumber
          rw [List.cons.injEq]
          exact (and_iff_right rfl).trans (map_toNat_eq_iff_noOverrun hrest hothers)
      | following hnone hrest =>
          rw [hnone] at hnumber
          cases hnumber
          rw [List.cons.injEq]
          exact (and_iff_right rfl).trans (map_toNat_eq_iff_noOverrun hrest hothers)

/-- **The discriminants of a table are the numbers of the rule**, up to multiples of the
number of words.  They are these numbers themselves, so that they differ and are ordered as
the rule has it, exactly when no variant without a literal stands directly behind one with
the greatest word. -/
theorem variantTable_numbered_iff {item : Declaration} (h : item.variantTable = .ok entries) :
    ∃ declared numbers, item.shape = .enum declared ∧ Numbered 0 declared numbers ∧
      List.Forall₂ (fun e n => e.discriminant.toNat = n % UInt32.size) entries numbers ∧
      (entries.map (·.discriminant.toNat) = numbers ↔ NoOverrun declared entries) := by
  obtain ⟨container, declared, -, hshape, hentries⟩ := variantTable_eq_ok h
  have hzero : (0 : UInt32).toNat = 0 % UInt32.size := rfl
  obtain ⟨numbers, hnumbers, hwords⟩ := exists_numbered hzero hentries
  exact ⟨declared, numbers, hshape, hnumbers, hwords, map_toNat_eq_iff (d := 0) hnumbers hentries⟩

/-- The states of a task have the numbers 0, 5 and 6, and so does the table. -/
theorem variantTable_numbered_iff_taskStates :
    taskStates.variantTable = .ok
        [⟨"InProgress", "in_progress", 0⟩, ⟨"Finished", "done", 5⟩, ⟨"Closed", "closed", 6⟩] ∧
      ∃ declared, taskStates.shape = .enum declared ∧ Numbered 0 declared [0, 5, 6] := by
  have htable : taskStates.variantTable = .ok
      [⟨"InProgress", "in_progress", 0⟩, ⟨"Finished", "done", 5⟩, ⟨"Closed", "closed", 6⟩] := by
    decide +kernel
  obtain ⟨declared, numbers, hshape, hnumbers, -, hiff⟩ := variantTable_numbered_iff htable
  refine ⟨htable, declared, hshape, ?_⟩
  cases hshape
  have hnumbers' : [0, 5, 6] = numbers := hiff.mpr (by
    refine .cons_cons ?_ (.cons_cons ?_ (.singleton _)) <;> decide)
  rwa [← hnumbers'] at hnumbers

/-- An enumeration with a variant that counts on from the greatest word. -/
def overrun : Declaration where
  generic := false
  attributes := []
  shape := .enum [
    ⟨"First", none, false, []⟩, ⟨"Last", some "4294967295", false, []⟩,
    ⟨"After", none, false, []⟩]

/-- **Behind the greatest word the table starts again**: the numbers of three variants are
different, but the last one has the discriminant of the first. -/
theorem after_greatest_word_restarts :
    let numbers := [0, 4294967295, 4294967296]
    let entries : List VariantEntry :=
      [⟨"First", "First", 0⟩, ⟨"Last", "Last", 4294967295⟩, ⟨"After", "After", 0⟩]
    overrun.variantTable = .ok entries ∧
      ∃ declared, overrun.shape = .enum declared ∧
        Numbered 0 declared numbers ∧ numbers.Nodup ∧
        ¬ Numbered 0 declared (entries.map (·.discriminant.toNat)) ∧
        ¬ (entries.map (·.discriminant)).Nodup := by
  intro numbers entries
  have hread : IntegerLiteral.readLiteral? "4294967295" = some 4294967295 := by decide +kernel
  obtain ⟨declared, hshape, hnumbers⟩ :
      ∃ declared, overrun.shape = .enum declared ∧ Numbered 0 declared numbers :=
    ⟨_, rfl, by exact .following rfl (.literal rfl hread (.following rfl (.nil _)))⟩
  refine ⟨by decide +kernel, declared, hshape, hnumbers, by decide, fun h => ?_, by decide⟩
  exact absurd (hnumbers.unique h) (by decide)

end RecordQuery.Naming
