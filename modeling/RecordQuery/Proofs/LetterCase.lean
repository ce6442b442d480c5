import RecordQuery.Proofs.Resolution

/-!
# Names in any letter case

A requested name is compared with the registered ones in two ways.  If it is ASCII, the
letters `A` to `Z` are folded and all else must be the same; otherwise the lower-case
forms of both names must be the same.  Folding is lower-casing on ASCII names
(`Text.lower_of_isAscii`) and never changes a lower-case form (`Text.lower_eq_of_sameFolded`),
so that one relation is behind both ways: names match when they have one lower-case form,
save that an ASCII name never asks for one that is not (`namesMatch_iff`).

The exception breaks the symmetry of the relation, because a letter beyond ASCII can have an
ASCII letter as its lower-case form; the sign for kelvin does.  `resolvedAlike_iff_lower`
says which names a table cannot tell apart, and `kelvin_resolved_by_itself_alone` is a table
that can tell two names with one lower-case form.
-/

namespace RecordQuery

namespace Text

/-! ## ASCII letters -/

/-- What is true of the capital letters and their small forms, and of every other character
and itself, is true of every character and its small form. -/
theorem forall_toLower {P : Char → Char → Prop}
    (hcapital : ∀ n : Fin 26, P (Char.ofNat (65 + n)) (Char.ofNat (97 + n)))
    (hself : ∀ c, ¬ (65 ≤ c.toNat ∧ c.toNat ≤ 90) → P c c) (c : Char) : P c c.toLower := by
  by_cases h : 'A'.val ≤ c.val ∧ c.val ≤ 'Z'.val
  · have hc : 65 ≤ c.toNat ∧ c.toNat ≤ 90 := by simpa [UInt32.le_iff_toNat_le] using h
    have hall : ∀ n : Fin 26, (Char.ofNat (65 + n)).toLower = Char.ofNat (97 + n) := by decide
    obtain ⟨n, hn⟩ : ∃ n : Fin 26, c = Char.ofNat (65 + n) := by
      refine ⟨⟨c.toNat - 65, by omega⟩, ?_⟩
      rw [Nat.add_sub_cancel' hc.1, Char.ofNat_toNat]
    rw [hn, hall]
    exact hcapital n
  · have hlower : c.toLower = c := dif_neg h
    rw [hlower]
    exact hself c (by simpa [UInt32.le_iff_toNat_le] using h)

/-- No other letter becomes the capital sigma, the one letter whose lower case depends on
its place. -/
theorem toLower_eq_sigma_iff (c : Char) : c.toLower = 'Σ' ↔ c = 'Σ' :=
  forall_toLower (P := fun c d => d = 'Σ' ↔ c = 'Σ') (by decide) (fun _ _ => Iff.rfl) c

theorem toNat_toLower_lt_iff (c : Char) : c.toLower.toNat < 128 ↔ c.toNat < 128 :=
  forall_toLower (P := fun c d => d.toNat < 128 ↔ c.toNat < 128) (by decide)
    (fun _ _ => Iff.rfl) c

/-- Letters are cased in either form. -/
theorem isCased_toLower (c : Char) : isCased c.toLower = isCased c := by
  have hupper : ∀ n : Fin 26, isUpper (Char.ofNat (65 + n)) := by decide
  have hlower : ∀ n : Fin 26, isLower (Char.ofNat (97 + n)) := by decide
  refine forall_toLower (P := fun c d => isCased d = isCased c) (fun n => ?_) (fun _ _ => rfl) c
  simp [isCased, hupper n, hlower n]

/-- No letter is ignorable. -/
theorem isIgnorable_toLower (c : Char) : isIgnorable c.toLower = isIgnorable c := by
  have hranges : ∀ r ∈ Casing.ignorableRanges,
      r.2 < 65 ∨ 90 < r.1 ∧ r.2 < 97 ∨ 122 < r.1 := by decide +kernel
  have hcode : ∀ n : Fin 26, (Char.ofNat (65 + n)).toNat = 65 + n ∧
      (Char.ofNat (97 + n)).toNat = 97 + n := by decide
  refine forall_toLower (P := fun c d => isIgnorable d = isIgnorable c) (fun n => ?_)
    (fun _ _ => rfl) c
  have hnone : ∀ m, 65 ≤ m → m ≤ 90 ∨ 97 ≤ m → m ≤ 122 →
      (Casing.ignorableRanges.any fun r => r.1 ≤ m && m ≤ r.2) = false := by
    intro m hleast hgap hmost
    refine List.any_eq_false.mpr fun r hr => ?_
    have := hranges r hr
    simp only [Bool.and_eq_true, decide_eq_true_eq]
    omega
  have hn := n.isLt
  rw [isIgnorable, isIgnorable, (hcode n).1, (hcode n).2, hnone _ (by omega) (by omega) (by omega),
    hnone _ (by omega) (by omega) (by omega)]

/-- An ASCII character in lower case is its small form. -/
theorem lowerOf_of_lt {c : Char} (h : c.toNat < 128) : lowerOf c = [c.toLower] := by
  have hcapital : ∀ n : Fin 26, lowerOf (Char.ofNat (65 + n)) = [Char.ofNat (97 + n)] := by decide
  -- All other characters that change their code point are beyond ASCII.
  have hshifts : ∀ s ∈ Casing.lowerShifts,
      s.run.first = 65 ∧ s.run.last = 90 ∨ 128 ≤ s.run.first := by decide +kernel
  refine forall_toLower (P := fun c d => c.toNat < 128 → lowerOf c = [d]) (fun n _ => hcapital n)
    (fun c hc h => ?_) c h
  have hlong : Casing.longLowers.lookup c.toNat = none := by
    have hne : c.toNat ≠ 0x130 := by omega
    simp [Casing.longLowers, hne]
  have hfind : Casing.lowerShifts.find? (·.run.covers c.toNat) = none := by
    refine List.find?_eq_none.mpr fun s hs => ?_
    have := hshifts s hs
    simp only [Casing.Run.covers, Bool.and_eq_true, decide_eq_true_eq]
    omega
  simp only [lowerOf, mapCase, hlong, hfind]

/-- The lower case of a letter is that of its small ASCII form. -/
theorem lowerOf_toLower (c : Char) : lowerOf c.toLower = lowerOf c := by
  refine forall_toLower (P := fun c d => lowerOf d = lowerOf c) (fun n => ?_) (fun _ _ => rfl) c
  have hcode : ∀ n : Fin 26, (Char.ofNat (65 + n)).toNat < 128 ∧
      (Char.ofNat (97 + n)).toNat < 128 ∧
      (Char.ofNat (65 + n)).toLower = (Char.ofNat (97 + n)).toLower := by decide
  obtain ⟨hcapital, hsmall, hlower⟩ := hcode n
  rw [lowerOf_of_lt hcapital, lowerOf_of_lt hsmall, hlower]

/-! ## Lower-case forms -/

theorem meetsCased_map_toLower (s : List Char) :
    meetsCased (s.map Char.toLower) = meetsCased s := by
  have hdrop : (s.map Char.toLower).dropWhile isIgnorable =
      (s.dropWhile isIgnorable).map Char.toLower := by
    rw [List.dropWhile_map]
    exact congrArg (fun p => (s.dropWhile p).map Char.toLower) (funext isIgnorable_toLower)
  rw [meetsCased, meetsCased, hdrop]
  cases s.dropWhile isIgnorable with
  | nil => rfl
  | cons c rest => exact isCased_toLower c

/-- Small letters in place of capital ones leave the lower-case form as it is, also where it
depends on what stands around a letter. -/
theorem lowerAfter_map_toLower (before after : List Char) :
    lowerAfter (before.map Char.toLower) (after.map Char.toLower) = lowerAfter before after := by
  induction after generalizing before with
  | nil => rfl
  | cons c after ih =>
      have hrest := ih (c :: before)
      rw [List.map_cons] at hrest
      rw [List.map_cons, lowerAfter, lowerAfter, hrest, meetsCased_map_toLower,
        meetsCased_map_toLower, lowerOf_toLower]
      simp only [toLower_eq_sigma_iff]

/-- Behind any characters ASCII text has its ASCII lower case. -/
theorem lowerAfter_of_ascii (before : List Char) {after : List Char}
    (h : ∀ c ∈ after, c.toNat < 128) : lowerAfter before after = after.map Char.toLower := by
  induction after generalizing before with
  | nil => rfl
  | cons c after ih =>
      obtain ⟨hc, hafter⟩ := List.forall_mem_cons.mp h
      have hsigma : c ≠ 'Σ' := by
        rintro rfl
        exact absurd hc (by decide)
      rw [lowerAfter, if_neg hsigma, lowerOf_of_lt hc, ih _ hafter, List.map_cons,
        List.singleton_append]

open Ascii (sameFolded isAscii fold)

variable {s s' : String}

theorem isAscii_iff : isAscii s ↔ ∀ c ∈ s.toList, c.toNat < 128 := by
  simp [isAscii]

/-- Of ASCII texts the lower case is the ASCII fold. -/
theorem lower_of_isAscii (h : isAscii s) : lower s = String.ofList (fold s) := by
  rw [lower, lowerAfter_of_ascii [] (isAscii_iff.mp h), fold]

/-- **Names that agree up to ASCII case have one lower-case form.** -/
theorem lower_eq_of_sameFolded (h : sameFolded s s') : lower s = lower s' := by
  have hfold : s.toList.map Char.toLower = s'.toList.map Char.toLower := beq_iff_eq.mp h
  have hlower := lowerAfter_map_toLower [] s.toList
  rw [hfold] at hlower
  rw [lower, lower, ← hlower]
  exact congrArg String.ofList (lowerAfter_map_toLower [] s'.toList)

/-- Only ASCII texts fold to the fold of an ASCII text. -/
theorem isAscii_of_sameFolded (h : sameFolded s s') (hs' : isAscii s') : isAscii s := by
  have hfold : s.toList.map Char.toLower = s'.toList.map Char.toLower := beq_iff_eq.mp h
  rw [isAscii_iff] at hs' ⊢
  intro c hc
  obtain ⟨d, hd, hcd⟩ := List.mem_map.mp (hfold ▸ List.mem_map_of_mem hc)
  rw [← toNat_toLower_lt_iff c, ← hcd, toNat_toLower_lt_iff]
  exact hs' d hd

/-- ASCII names with one lower-case form agree up to case. -/
theorem sameFolded_of_lower_eq (hs : isAscii s) (hs' : isAscii s') (h : lower s = lower s') :
    sameFolded s s' := by
  rw [lower_of_isAscii hs, lower_of_isAscii hs', String.ofList_inj] at h
  exact beq_iff_eq.mpr h

end Text

/-! ## Names of a table -/

open Text (lower)
open Text.Ascii (isAscii)

/-- **Names match when they have one lower-case form**, save that an ASCII name never asks
for one that is not. -/
theorem namesMatch_iff {registered requested : String} :
    namesMatch registered requested ↔
      lower registered = lower requested ∧ (isAscii requested → isAscii registered) := by
  rw [namesMatch, Bool.or_eq_true, Bool.and_eq_true, beq_iff_eq, Bool.not_eq_true']
  constructor
  · rintro (hsame | ⟨hascii, hlower⟩)
    · exact ⟨Text.lower_eq_of_sameFolded hsame, Text.isAscii_of_sameFolded hsame⟩
    · exact ⟨hlower, fun h => by simp [hascii] at h⟩
  · rintro ⟨hlower, hascii⟩
    cases hrequested : isAscii requested with
    | false => exact .inr ⟨rfl, hlower⟩
    | true => exact .inl (Text.sameFolded_of_lower_eq (hascii hrequested) hrequested hlower)

namespace Table

variable {t : Table} {a b : String}

/-- Two names are resolved alike: to one field at one position, or neither of them to any. -/
def ResolvedAlike (t : Table) (a b : String) : Prop :=
  (∃ found, t.resolve a = .ok found ∧ t.resolve b = .ok found) ∨
    (t.resolve a = .error (.unknownField a) ∧ t.resolve b = .error (.unknownField b))

/-- Names are resolved alike when the same field is found for them; the error names them as
they were written and is left aside. -/
theorem resolvedAlike_iff : t.ResolvedAlike a b ↔ t.find? a = t.find? b := by
  rw [ResolvedAlike, resolve, resolve]
  cases t.find? a with
  | none => cases t.find? b <;> simp
  | some found =>
      cases t.find? b with
      | none => simp
      | some found' => simp [eq_comm]

/-- Names that match the same registered names are resolved alike. -/
theorem resolvedAlike_of_namesMatch
    (h : ∀ f ∈ t.fields, (namesMatch f.name a ↔ namesMatch f.name b)) : t.ResolvedAlike a b := by
  have hcandidates : t.candidates a = t.candidates b := by
    refine List.filter_congr fun found hfound => ?_
    rw [Bool.eq_iff_iff]
    exact h found.1 (List.fst_mem_of_mem_zipIdx hfound)
  rw [resolvedAlike_iff, find?, find?, hcandidates]

/-- A table with one registered name. -/
def ofName (name : String) : Table :=
  .ofColumns "Single" [(name, .plain .string)]

theorem find?_ofName_self (name : String) : ((ofName name).find? name).isSome := by
  have hname : namesMatch name name := namesMatch_self name
  simp [find?, candidates, ofName, ofColumns, hname]

/-- In a table of one name the name is found when it matches. -/
theorem namesMatch_of_find?_ofName {name requested : String}
    (h : ((ofName name).find? requested).isSome) : namesMatch name requested := by
  by_contra hnot
  simp [find?, candidates, ofName, ofColumns, hnot] at h

/-- If every table resolves two names alike, each of them finds the field registered under
the other. -/
theorem namesMatch_of_resolvedAlike (h : ∀ t : Table, t.ResolvedAlike a b) : namesMatch a b := by
  have hfind : (ofName a).find? a = (ofName a).find? b := resolvedAlike_iff.mp (h (ofName a))
  have hself := find?_ofName_self a
  rw [hfind] at hself
  exact namesMatch_of_find?_ofName hself

theorem ResolvedAlike.symm (h : t.ResolvedAlike a b) : t.ResolvedAlike b a := by
  rw [resolvedAlike_iff] at h ⊢
  exact h.symm

/-- Names with one lower-case form, both of them ASCII or neither, match the same registered
names. -/
theorem resolvedAlike_of_isAscii_iff (hlower : lower a = lower b)
    (hascii : isAscii a ↔ isAscii b) : t.ResolvedAlike a b :=
  resolvedAlike_of_namesMatch fun f _ => by rw [namesMatch_iff, namesMatch_iff, hlower, hascii]

/-- Names with one lower-case form match the same registered names in a table that
registers only ASCII names with that form. -/
theorem resolvedAlike_of_ascii_names (hlower : lower a = lower b)
    (hnames : ∀ f ∈ t.fields, lower f.name = lower a → isAscii f.name) : t.ResolvedAlike a b := by
  refine resolvedAlike_of_namesMatch fun f hf => ?_
  rw [namesMatch_iff, namesMatch_iff, ← hlower]
  constructor
  · rintro ⟨hform, -⟩
    exact ⟨hform, fun _ => hnames f hf hform⟩
  · rintro ⟨hform, -⟩
    exact ⟨hform, fun _ => hnames f hf hform⟩

end Table

/-- **Which names no table tells apart.**  One name matches another when the two have one
lower-case form, save that an ASCII name never asks for one that is not.  So two names are
resolved alike by every table exactly if they have one lower-case form and both are ASCII or
neither is; and names with one lower-case form are resolved alike, whatever letters they
use, by each table whose names of that form are all ASCII. -/
theorem resolvedAlike_iff_lower (a b : String) :
    (namesMatch a b ↔ lower a = lower b ∧ (isAscii b → isAscii a)) ∧
    ((∀ t : Table, t.ResolvedAlike a b) ↔ lower a = lower b ∧ (isAscii a ↔ isAscii b)) ∧
    (∀ t : Table, lower a = lower b →
      (∀ f ∈ t.fields, lower f.name = lower a → isAscii f.name) → t.ResolvedAlike a b) := by
  refine ⟨namesMatch_iff, ⟨fun halike => ?_, fun ⟨hlower, hascii⟩ t => ?_⟩, fun t => ?_⟩
  · have hba := namesMatch_iff.mp (Table.namesMatch_of_resolvedAlike halike)
    have hab := namesMatch_iff.mp (Table.namesMatch_of_resolvedAlike fun t => (halike t).symm)
    exact ⟨hba.1, hab.2, hba.2⟩
  · exact Table.resolvedAlike_of_isAscii_iff hlower hascii
  · exact Table.resolvedAlike_of_ascii_names

/-- The sign for kelvin has the small letter `k` as its lower-case form.  A field registered
under the sign is found under the sign and not under the letter, and of the two names only
the sign asks for the letter. -/
theorem kelvin_resolved_by_itself_alone :
    lower "k" = lower "\u212a" ∧ ¬ (Table.ofName "\u212a").ResolvedAlike "k" "\u212a" ∧
      namesMatch "k" "\u212a" ∧ ¬ namesMatch "\u212a" "k" := by
  have hlower : lower "k" = lower "\u212a" := by decide +kernel
  have hsign : isAscii "\u212a" = false := by decide
  refine ⟨hlower, fun halike => ?_, namesMatch_iff.mpr ⟨hlower, by simp [hsign]⟩, fun hmatch => ?_⟩
  · have hself := Table.find?_ofName_self "\u212a"
    rw [← Table.resolvedAlike_iff.mp halike] at hself
    have hmatch := namesMatch_iff.mp (Table.namesMatch_of_find?_ofName hself)
    exact absurd (hmatch.2 (by decide)) (by decide)
  · exact absurd ((namesMatch_iff.mp hmatch).2 (by decide)) (by decide)

end RecordQuery
