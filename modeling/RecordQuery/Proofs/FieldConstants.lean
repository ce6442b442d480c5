import Mathlib.Data.List.Forall2
import RecordQuery.Proofs.AcceptedDeclarations
import RecordQuery.Proofs.LetterCase

/-!
# Constants of declared fields

The constant that holds the registered name of a field is named after the identifier of the
field, in capitals and with an underscore between its words.  Two identifiers give one name
exactly when they have the same words up to ASCII case (`constantName_eq_iff`), however the
words are told apart: `birth_date` and `birthDate` are different identifiers with the words
`birth` and `date`.

A declaration is checked for its registered names and not for its constants.  So
`constants_nodup_iff` says which accepted declarations have a constant for each field of their
own.  Identifiers in one convention, without capitals, do; and so does a declaration whose rule
makes the registered names of the words alone, because then two fields with one constant have
the same registered name up to case (`sameFolded_apply_of_sameWords`).
-/

namespace RecordQuery

/-! ## Capital letters -/

namespace Text

theorem isUpper_iff_toNat {c : Char} : c.isUpper ↔ 65 ≤ c.toNat ∧ c.toNat ≤ 90 := by
  have hrange : c.isUpper = decide (65 ≤ c.val ∧ c.val ≤ 90) := rfl
  rw [hrange, decide_eq_true_eq, UInt32.le_iff_toNat_le, UInt32.le_iff_toNat_le]
  rfl

theorem isLower_iff_toNat {c : Char} : c.isLower ↔ 97 ≤ c.toNat ∧ c.toNat ≤ 122 := by
  have hrange : c.isLower = (decide (97 ≤ c.val) && decide (c.val ≤ 122)) := rfl
  rw [hrange, Bool.and_eq_true, decide_eq_true_eq, decide_eq_true_eq, UInt32.le_iff_toNat_le,
    UInt32.le_iff_toNat_le]
  rfl

/-- What is true of the small ASCII letters and their capital forms, and of every other
character and itself, is true of every character and its capital form. -/
theorem forall_toUpper {P : Char → Char → Prop}
    (hsmall : ∀ n : Fin 26, P (Char.ofNat (97 + n)) (Char.ofNat (65 + n)))
    (hself : ∀ c, ¬ (97 ≤ c.toNat ∧ c.toNat ≤ 122) → P c c) (c : Char) : P c c.toUpper := by
  by_cases h : 'a'.val ≤ c.val ∧ c.val ≤ 'z'.val
  · have hc : 97 ≤ c.toNat ∧ c.toNat ≤ 122 := by simpa [UInt32.le_iff_toNat_le] using h
    have hall : ∀ n : Fin 26, (Char.ofNat (97 + n)).toUpper = Char.ofNat (65 + n) := by decide
    obtain ⟨n, hn⟩ : ∃ n : Fin 26, c = Char.ofNat (97 + n) := by
      refine ⟨⟨c.toNat - 97, by omega⟩, ?_⟩
      rw [Nat.add_sub_cancel' hc.1, Char.ofNat_toNat]
    rw [hn, hall]
    exact hsmall n
  · have hupper : c.toUpper = c := dif_neg h
    rw [hupper]
    exact hself c (by simpa [UInt32.le_iff_toNat_le] using h)

theorem toLower_toUpper (c : Char) : c.toUpper.toLower = c.toLower :=
  forall_toUpper (P := fun c d => d.toLower = c.toLower) (by decide) (fun _ _ => rfl) c

theorem toUpper_toLower (c : Char) : c.toLower.toUpper = c.toUpper :=
  forall_toLower (P := fun c d => d.toUpper = c.toUpper) (by decide) (fun _ _ => rfl) c

theorem toLower_toLower (c : Char) : c.toLower.toLower = c.toLower :=
  forall_toLower (P := fun c d => d.toLower = c.toLower) (by decide) (fun _ _ => rfl) c

/-- Of the runs of a table of letters only the first reaches into ASCII. -/
theorem any_covers {first last : ℕ} {more : List Casing.Run} (hmore : ∀ r ∈ more, 128 ≤ r.first)
    {n : ℕ} (hn : n < 128) :
    ((⟨first, last, 1⟩ :: more).any fun r => r.covers n) = decide (first ≤ n ∧ n ≤ last) := by
  have hnone : (more.any fun r => r.covers n) = false := List.any_eq_false.mpr fun r hr => by
    have := hmore r hr
    simp only [Casing.Run.covers, Bool.and_eq_true, decide_eq_true_eq]
    omega
  rw [List.any_cons, hnone, Bool.or_false, Casing.Run.covers, Nat.mod_one]
  simp

/-- The ASCII capitals. -/
theorem isUpper_of_lt {c : Char} (h : c.toNat < 128) :
    isUpper c = decide (65 ≤ c.toNat ∧ c.toNat ≤ 90) :=
  any_covers (show ∀ r ∈ Casing.upperRuns.tail, 128 ≤ r.first by decide +kernel) h

/-- The small ASCII letters. -/
theorem isLower_of_lt {c : Char} (h : c.toNat < 128) :
    isLower c = decide (97 ≤ c.toNat ∧ c.toNat ≤ 122) :=
  any_covers (show ∀ r ∈ Casing.lowerRuns.tail, 128 ≤ r.first by decide +kernel) h

/-- A capital of any alphabet is no small ASCII letter, so that the ASCII case leaves it
alone. -/
theorem toUpper_of_isUpper {c : Char} (h : isUpper c) : c.toUpper = c := by
  refine dif_neg fun hsmall => ?_
  have hrange : 97 ≤ c.toNat ∧ c.toNat ≤ 122 := by simpa [UInt32.le_iff_toNat_le] using hsmall
  rw [isUpper_of_lt (by omega), decide_eq_true_eq] at h
  omega

/-- What is no capital is no ASCII capital either. -/
theorem toLower_of_not_isUpper {c : Char} (h : ¬ isUpper c) : c.toLower = c := by
  refine dif_neg fun hcapital => h ?_
  have hrange : 65 ≤ c.toNat ∧ c.toNat ≤ 90 := by simpa [UInt32.le_iff_toNat_le] using hcapital
  rw [isUpper_of_lt (by omega), decide_eq_true_eq]
  exact hrange

/-- An ASCII character in upper case is its capital form. -/
theorem upperOf_of_lt {c : Char} (h : c.toNat < 128) : upperOf c = [c.toUpper] := by
  have hsmall : ∀ n : Fin 26, upperOf (Char.ofNat (97 + n)) = [Char.ofNat (65 + n)] := by decide
  -- All other characters that change their code point are beyond ASCII.
  have hshifts : ∀ s ∈ Casing.upperShifts,
      s.run.first = 97 ∧ s.run.last = 122 ∨ 128 ≤ s.run.first := by decide +kernel
  have hlongs : ∀ p ∈ Casing.longUppers, 128 ≤ p.1 := by decide +kernel
  refine forall_toUpper (P := fun c d => c.toNat < 128 → upperOf c = [d]) (fun n _ => hsmall n)
    (fun c hc h => ?_) c h
  have hlong : Casing.longUppers.lookup c.toNat = none := by
    refine List.lookup_eq_none_iff.mpr fun p hp => ?_
    have := hlongs p hp
    rw [bne_iff_ne]
    omega
  have hfind : Casing.upperShifts.find? (·.run.covers c.toNat) = none := by
    refine List.find?_eq_none.mpr fun s hs => ?_
    have := hshifts s hs
    simp only [Casing.Run.covers, Bool.and_eq_true, decide_eq_true_eq]
    omega
  simp only [upperOf, mapCase, hlong, hfind]

/-- No other character becomes the underscore in capitals, so that words stay apart. -/
theorem eq_underscore_of_toUpper {c : Char} (h : c.toUpper = '_') : c = '_' :=
  forall_toUpper (P := fun c d => d = '_' → c = '_') (by decide) (fun _ _ h => h) c h

end Text

namespace Naming

/-! ## Words -/

/-- The first word of a name and the others.  A word ends at a separator and in front of a
capital that stands behind any other letter; `boundary` tells that such a letter stands in
front. -/
def wordsFrom (boundary : Bool) : List Char → List Char × List (List Char)
  | [] => ([], [])
  | c :: rest =>
    if Text.isUpper c then
      let words := wordsFrom false rest
      if boundary then ([], (c :: words.1) :: words.2) else (c :: words.1, words.2)
    else if isSeparator c then
      let words := wordsFrom false rest
      ([], words.1 :: words.2)
    else
      let words := wordsFrom true rest
      (c :: words.1, words.2)

/-- The words that the constant of an identifier is named by; some may be empty. -/
def constantWords (ident : String) : List (List Char) :=
  let words := wordsFrom false ident.toList
  words.1 :: words.2

/-- The identifiers have the same words up to ASCII case. -/
def SameWords (x y : String) : Prop :=
  (constantWords x).map (·.map Char.toLower) = (constantWords y).map (·.map Char.toLower)

instance (x y : String) : Decidable (SameWords x y) :=
  inferInstanceAs (Decidable (_ = _))

variable {boundary : Bool} {s w : List Char} {ws vs : List (List Char)} {x y : String}

/-- A capital begins a word and never stands between two. -/
theorem isSeparator_of_isUpper {c : Char} (h : Text.isUpper c) : isSeparator c = false := by
  by_contra hsep
  rw [Bool.not_eq_false, isSeparator, Bool.or_eq_true, beq_iff_eq, beq_iff_eq] at hsep
  rcases hsep with rfl | rfl <;> exact absurd h (by decide)

theorem joinWords_cons_cons (v w : List Char) (rest : List (List Char)) :
    joinWords (v :: w :: rest) = v ++ '_' :: joinWords (w :: rest) := rfl

theorem joinWords_cons_head (c : Char) (w : List Char) (rest : List (List Char)) :
    joinWords ((c :: w) :: rest) = c :: joinWords (w :: rest) := by
  cases rest <;> rfl

/-- **A constant is made of the words of its identifier**, in capitals and with underscores
between them. -/
theorem constantFrom_eq_joinWords (boundary : Bool) (s : List Char) :
    constantFrom boundary s =
      joinWords (((wordsFrom boundary s).1 :: (wordsFrom boundary s).2).map
        (·.map Char.toUpper)) := by
  induction s generalizing boundary with
  | nil => rfl
  | cons c rest ih =>
      unfold constantFrom wordsFrom
      rw [ih false, ih true]
      simp only [List.map_cons]
      split
      · next hupper =>
          split
          · simp only [List.map_cons, joinWords_cons_cons, joinWords_cons_head, List.map_nil,
              List.nil_append, Text.toUpper_of_isUpper hupper]
          · simp only [List.map_cons, joinWords_cons_head, Text.toUpper_of_isUpper hupper]
      · split
        · rfl
        · simp only [List.map_cons, joinWords_cons_head]

/-- The words are made of the characters of the name, and nothing that separates them stands
in a word. -/
theorem mem_and_not_isSeparator (boundary : Bool) (s : List Char) :
    ∀ w ∈ (wordsFrom boundary s).1 :: (wordsFrom boundary s).2,
      ∀ c ∈ w, c ∈ s ∧ ¬ isSeparator c := by
  induction s generalizing boundary with
  | nil => simp [wordsFrom]
  | cons c rest ih =>
      have hlonger : ∀ {b w}, w ∈ (wordsFrom b rest).1 :: (wordsFrom b rest).2 →
          ∀ d ∈ w, d ∈ c :: rest ∧ ¬ isSeparator d := fun hw d hd =>
        ⟨List.mem_cons_of_mem c (ih _ _ hw d hd).1, (ih _ _ hw d hd).2⟩
      have hrest : ∀ b, (∀ d ∈ (wordsFrom b rest).1, d ∈ c :: rest ∧ ¬ isSeparator d) ∧
          ∀ w ∈ (wordsFrom b rest).2, ∀ d ∈ w, d ∈ c :: rest ∧ ¬ isSeparator d :=
        fun b => List.forall_mem_cons.mp fun w hw => hlonger hw
      unfold wordsFrom
      split
      · next hupper =>
          have hc : ¬ isSeparator c := by rw [isSeparator_of_isUpper hupper]; decide
          split
          · simp only [List.forall_mem_cons]
            exact ⟨nofun, ⟨⟨List.mem_cons_self, hc⟩, (hrest false).1⟩, (hrest false).2⟩
          · simp only [List.forall_mem_cons]
            exact ⟨⟨⟨List.mem_cons_self, hc⟩, (hrest false).1⟩, (hrest false).2⟩
      · split
        · simp only [List.forall_mem_cons]
          exact ⟨nofun, (hrest false).1, (hrest false).2⟩
        · next hc =>
            simp only [List.forall_mem_cons]
            exact ⟨⟨⟨List.mem_cons_self, hc⟩, (hrest true).1⟩, (hrest true).2⟩

/-- Joining words is putting an underscore between each two of them. -/
theorem joinWords_eq_intercalate (ws : List (List Char)) :
    joinWords ws = ['_'].intercalate ws := by
  induction ws with
  | nil => rfl
  | cons w rest ih =>
      cases rest with
      | nil => simp [joinWords]
      | cons v rest =>
          rw [joinWords_cons_cons, ih, List.intercalate_cons_cons, List.append_assoc,
            List.singleton_append]

/-- Words without underscores can be told from their join. -/
theorem joinWords_inj (hws : ∀ w ∈ ws, '_' ∉ w) (hvs : ∀ v ∈ vs, '_' ∉ v) (hws' : ws ≠ [])
    (hvs' : vs ≠ []) : joinWords ws = joinWords vs ↔ ws = vs := by
  refine ⟨fun h => ?_, congrArg joinWords⟩
  rw [joinWords_eq_intercalate, joinWords_eq_intercalate] at h
  rw [← List.splitOn_intercalate '_' hws hws', h, List.splitOn_intercalate '_' hvs hvs']

/-- The constant of an identifier is its words in capitals, joined. -/
theorem constantName_eq (x : String) :
    constantName x = String.ofList (joinWords ((constantWords x).map (·.map Char.toUpper))) :=
  congrArg String.ofList (constantFrom_eq_joinWords false x.toList)

/-- **Identifiers have one constant exactly when they have the same words** up to ASCII
case. -/
theorem constantName_eq_iff : constantName x = constantName y ↔ SameWords x y := by
  have hwords : ∀ ident : String, ∀ w ∈ (constantWords ident).map (·.map Char.toUpper),
      '_' ∉ w := by
    intro ident w hw hmem
    obtain ⟨v, hv, rfl⟩ := List.mem_map.mp hw
    obtain ⟨c, hc, hupper⟩ := List.mem_map.mp hmem
    rw [Text.eq_underscore_of_toUpper hupper] at hc
    exact (mem_and_not_isSeparator false ident.toList v hv '_' hc).2 rfl
  rw [constantName_eq, constantName_eq, String.ofList_inj, joinWords_inj (hwords x) (hwords y)
    (List.cons_ne_nil _ _) (List.cons_ne_nil _ _), SameWords]
  -- Either case of the words is the same case of the other one.
  constructor
  · intro h
    have hlower := congrArg (List.map (List.map Char.toLower)) h
    simpa [Function.comp_def, Text.toLower_toUpper] using hlower
  · intro h
    have hupper := congrArg (List.map (List.map Char.toUpper)) h
    simpa [Function.comp_def, Text.toUpper_toLower] using hupper

/-! ## Identifiers without capitals -/

/-- An identifier without capitals and hyphens. -/
def IsSmall (ident : String) : Prop :=
  ∀ c ∈ ident.toList, ¬ Text.isUpper c ∧ c ≠ '-'

instance (ident : String) : Decidable (IsSmall ident) :=
  List.decidableBAll _ _

/-- Identifiers of small ASCII letters and underscores are the common case of one without
capitals. -/
theorem isSmall_of_ascii {ident : String}
    (h : ident.toList.all fun c => c.isLower || c == '_') : IsSmall ident := by
  intro c hc
  have hchar := List.all_eq_true.mp h c hc
  rw [Bool.or_eq_true, beq_iff_eq] at hchar
  rcases hchar with hlower | rfl
  · have hrange := Text.isLower_iff_toNat.mp hlower
    rw [Text.isUpper_of_lt (by omega), decide_eq_true_eq]
    refine ⟨by omega, ?_⟩
    rintro rfl
    exact absurd hrange (by decide)
  · decide

/-- Without capitals and hyphens nothing is put between two characters. -/
theorem constantFrom_of_small (h : ∀ c ∈ s, ¬ Text.isUpper c ∧ c ≠ '-') (boundary : Bool) :
    constantFrom boundary s = s.map Char.toUpper := by
  induction s generalizing boundary with
  | nil => rfl
  | cons c rest ih =>
      obtain ⟨⟨hupper, hhyphen⟩, hrest⟩ := List.forall_mem_cons.mp h
      rw [constantFrom, if_neg hupper, ih hrest, ih hrest, List.map_cons]
      split
      · next hsep =>
          rw [isSeparator, Bool.or_eq_true, beq_iff_eq, beq_iff_eq] at hsep
          rw [hsep.resolve_right hhyphen]
          rfl
      · rfl

/-- Identifiers without capitals have different words. -/
theorem eq_of_sameWords (hx : IsSmall x) (hy : IsSmall y) (h : SameWords x y) : x = y := by
  have hname := constantName_eq_iff.mpr h
  rw [constantName, constantName, String.ofList_inj, constantFrom_of_small hx,
    constantFrom_of_small hy] at hname
  have hself : ∀ {z : String}, IsSmall z → z.toList.map Char.toLower = z.toList := fun hz =>
    (List.map_congr_left fun c hc => Text.toLower_of_not_isUpper (hz c hc).1).trans
      (List.map_id _)
  have hlower := congrArg (List.map Char.toLower) hname
  rw [List.map_map, List.map_map] at hlower
  simp only [Function.comp_def, Text.toLower_toUpper] at hlower
  rw [hself hx, hself hy] at hlower
  exact String.toList_inj.mp hlower

/-! ## Names made of words -/

/-- An ASCII letter, a digit or an underscore. -/
def IsPlainChar (c : Char) : Prop :=
  c.isAlphanum ∨ c = '_'

/-- An identifier of ASCII letters, digits and underscores. -/
def IsPlain (ident : String) : Prop :=
  ∀ c ∈ ident.toList, IsPlainChar c

instance (c : Char) : Decidable (IsPlainChar c) :=
  inferInstanceAs (Decidable (_ ∨ _))

instance (ident : String) : Decidable (IsPlain ident) :=
  List.decidableBAll _ _

/-- Plain characters are ASCII. -/
theorem IsPlainChar.toNat_lt {c : Char} (h : IsPlainChar c) : c.toNat < 128 := by
  rcases h with h | rfl
  · rcases Bool.or_eq_true_iff.mp h with hletter | hdigit
    · rcases Bool.or_eq_true_iff.mp hletter with hupper | hlower
      · have hrange := Text.isUpper_iff_toNat.mp hupper
        omega
      · have hrange := Text.isLower_iff_toNat.mp hlower
        omega
    · have hrange : 48 ≤ c.toNat ∧ c.toNat ≤ 57 := Char.isDigit_iff_toNat.mp hdigit
      omega
  · decide

/-- In a plain identifier all that is neither a capital nor an underscore ends a word. -/
theorem IsPlainChar.endsWord_eq {c : Char} (h : IsPlainChar c) :
    endsWord c = (!Text.isUpper c && !isSeparator c) := by
  have hall : ∀ n : Fin 128, let c := Char.ofNat n
      c.isAlphanum ∨ c = '_' → (decide (97 ≤ c.toNat ∧ c.toNat ≤ 122) || c.isDigit) =
        (!decide (65 ≤ c.toNat ∧ c.toNat ≤ 90) && !isSeparator c) := by decide +kernel
  have hc := hall ⟨c.toNat, h.toNat_lt⟩
  rw [Char.ofNat_toNat] at hc
  rw [endsWord, Text.isLower_of_lt h.toNat_lt, Text.isUpper_of_lt h.toNat_lt]
  exact hc h

/-- The words of a plain identifier are those of its constant that are not empty.  A word that
has been begun carries over, and it is not empty where a capital would end it. -/
theorem splitFrom_eq_filter (hplain : ∀ c ∈ s, IsPlainChar c) (current : List Char)
    (hcurrent : boundary → current ≠ []) :
    splitFrom current boundary s =
      ((current ++ (wordsFrom boundary s).1) :: (wordsFrom boundary s).2).filter
        (!·.isEmpty) := by
  induction s generalizing current boundary with
  | nil => cases current <;> simp [splitFrom, wordsFrom]
  | cons c rest ih =>
      obtain ⟨hc, hrest⟩ := List.forall_mem_cons.mp hplain
      unfold splitFrom wordsFrom
      rw [hc.endsWord_eq]
      by_cases hupper : Text.isUpper c
      · have hsep := isSeparator_of_isUpper hupper
        have hmore : ∀ front, splitFrom (front ++ [c]) false rest =
            ((front ++ (c :: (wordsFrom false rest).1)) :: (wordsFrom false rest).2).filter
              (!·.isEmpty) := fun front => by
          rw [ih hrest (front ++ [c]) Bool.noConfusion, List.append_assoc, List.singleton_append]
        cases boundary with
        | false => simp [hupper, hsep, hmore]
        | true =>
            have hnew := hmore []
            rw [List.nil_append] at hnew
            simp [hupper, hsep, hcurrent rfl, hnew]
      · by_cases hsep : isSeparator c
        · have hnew : splitFrom [] false rest = _ := ih hrest [] Bool.noConfusion
          cases current <;> simp [hupper, hsep, hnew]
        · have hmore : splitFrom (current ++ [c]) true rest = _ :=
            ih hrest (current ++ [c]) (by simp)
          simp [hupper, hsep, hmore]

/-- A rule splits a plain identifier into the words of its constant, but for the empty ones.
-/
theorem splitWords_eq_filter (hx : IsPlain x) :
    splitWords x.toList = (constantWords x).filter (!·.isEmpty) :=
  splitFrom_eq_filter hx [] Bool.noConfusion

theorem lowerWord_of_ascii (h : ∀ c ∈ w, c.toNat < 128) : lowerWord w = w.map Char.toLower :=
  Text.lowerAfter_of_ascii [] h

/-- A capital in front of an ASCII word is a matter of case. -/
theorem map_toLower_capitalize (h : ∀ c ∈ w, c.toNat < 128) :
    (capitalize w).map Char.toLower = w.map Char.toLower := by
  cases w with
  | nil => rfl
  | cons c rest =>
      rw [capitalize, Text.upperOf_of_lt (h c List.mem_cons_self), List.singleton_append,
        List.map_cons, List.map_cons, Text.toLower_toUpper]

/-- Up to ASCII case words that are joined with capitals are just joined. -/
theorem map_toLower_flatMap_capitalize (h : ∀ w ∈ ws, ∀ c ∈ w, c.toNat < 128) :
    (ws.flatMap capitalize).map Char.toLower = (ws.map (·.map Char.toLower)).flatten := by
  rw [List.map_flatMap, ← List.flatMap_def]
  exact List.flatMap_congr fun w hw => map_toLower_capitalize (h w hw)

theorem map_lowerWord (h : ∀ w ∈ ws, ∀ c ∈ w, c.toNat < 128) :
    ws.map lowerWord = ws.map (·.map Char.toLower) :=
  List.map_congr_left fun w hw => lowerWord_of_ascii (h w hw)

/-- Up to ASCII case the camel-case rule does no more than leave out what separates the
words. -/
theorem map_toLower_rename_camelCase (h : ∀ w ∈ splitWords s, ∀ c ∈ w, c.toNat < 128) :
    (Rule.camelCase.rename s).map Char.toLower =
      ((splitWords s).map (·.map Char.toLower)).flatten := by
  unfold Rule.rename
  dsimp only
  generalize splitWords s = ws at *
  cases ws with
  | nil => rfl
  | cons w rest =>
      obtain ⟨hw, hrest⟩ := List.forall_mem_cons.mp h
      rw [List.map_append, lowerWord_of_ascii hw, map_toLower_flatMap_capitalize hrest,
        List.map_cons, List.flatten_cons, List.map_map]
      simp only [Function.comp_def, Text.toLower_toLower]

/-- **A rule that sets words apart makes one name of the same words**, up to ASCII case. -/
theorem sameFolded_apply_of_sameWords {rule : Rule} (hrule : rule ≠ .lowercase) (hx : IsPlain x)
    (hy : IsPlain y) (h : SameWords x y) :
    Text.Ascii.sameFolded (rule.apply x) (rule.apply y) := by
  have hascii : ∀ {z : String}, IsPlain z →
      ∀ w ∈ splitWords z.toList, ∀ c ∈ w, c.toNat < 128 := by
    intro z hz w hw c hc
    rw [splitWords_eq_filter hz] at hw
    have hmem := mem_and_not_isSeparator false z.toList w (List.mem_of_mem_filter hw) c hc
    exact (hz c hmem.1).toNat_lt
  have hwords : (splitWords x.toList).map (·.map Char.toLower) =
      (splitWords y.toList).map (·.map Char.toLower) := by
    have hfilter : ∀ ws : List (List Char), (ws.filter (!·.isEmpty)).map (·.map Char.toLower) =
        (ws.map (·.map Char.toLower)).filter (!·.isEmpty) := fun ws => by
      simp [List.filter_map, Function.comp_def]
    rw [splitWords_eq_filter hx, splitWords_eq_filter hy, hfilter, hfilter, h]
  have hfold : (rule.rename x.toList).map Char.toLower =
      (rule.rename y.toList).map Char.toLower := by
    cases rule with
    | pascalCase =>
        simp only [Rule.rename, map_toLower_flatMap_capitalize (hascii hx),
          map_toLower_flatMap_capitalize (hascii hy), hwords]
    | camelCase =>
        rw [map_toLower_rename_camelCase (hascii hx), map_toLower_rename_camelCase (hascii hy),
          hwords]
    | lowercase => exact absurd rfl hrule
    | snakeCase =>
        simp only [Rule.rename, map_lowerWord (hascii hx), map_lowerWord (hascii hy), hwords]
  rw [Text.Ascii.sameFolded, beq_iff_eq]
  simpa [Text.Ascii.fold, Rule.apply] using hfold

/-! ## Registered fields -/

section Fields

variable {container : ContainerOptions} {table entries : List FieldEntry}
  {declared : List (FieldDecl × ℕ)} {fields : List FieldDecl} {d : Declaration}

instance (field : FieldDecl) : Decidable field.Shown :=
  match h : ItemOptions.read field.attributes with
  | .ok options =>
      decidable_of_iff (¬ options.skip) (by simp [FieldDecl.Shown, h])
  | .error _ => isFalse (by simp [FieldDecl.Shown, h])

/-- The entry is the one that the field is registered with. -/
def FieldDecl.RegisteredAs (container : ContainerOptions) (field : FieldDecl) (e : FieldEntry) :
    Prop :=
  ∃ options, ItemOptions.read field.attributes = .ok options ∧
    e = field.entry container options e.position

/-- The fields that are not skipped are registered in order, behind those of the table. -/
theorem registeredAs_foldlM (h : declared.foldlM (addField container) table = .ok entries) :
    ∃ more, entries = table ++ more ∧
      List.Forall₂ (·.RegisteredAs container ·)
        ((declared.map Prod.fst).filter (·.Shown)) more := by
  induction declared generalizing table with
  | nil =>
      cases h
      exact ⟨[], (List.append_nil _).symm, .nil⟩
  | cons first rest ih =>
      rw [List.foldlM_cons] at h
      obtain ⟨next, hnext, hrest⟩ := Outcome.bind_eq_ok.mp h
      obtain ⟨more, rfl, hmore⟩ := ih hrest
      obtain ⟨options, hread, ⟨hskip, rfl⟩ | ⟨hskip, -, rfl⟩⟩ := addField_eq_ok.mp hnext
      · have hhidden : ¬ first.1.Shown := by simp [FieldDecl.Shown, hread, hskip]
        refine ⟨more, rfl, ?_⟩
        rwa [List.map_cons, List.filter_cons_of_neg (by simpa using hhidden)]
      · have hshown : first.1.Shown := ⟨options, hread, hskip⟩
        refine ⟨_ :: more, List.append_assoc _ _ _, ?_⟩
        rw [List.map_cons, List.filter_cons_of_pos (by simpa using hshown)]
        exact .cons ⟨options, hread, rfl⟩ hmore

/-- The entries of an accepted declaration with named fields are those of its shown fields,
in their order. -/
theorem fieldTable_registeredAs (h : d.fieldTable = .ok entries)
    (hshape : d.shape = .named fields) :
    ∃ container, ContainerOptions.read d.attributes = .ok container ∧
      List.Forall₂ (·.RegisteredAs container ·) (fields.filter (·.Shown)) entries := by
  obtain ⟨container, fields', hcontainer, hshape', hfields⟩ := fieldTable_eq_ok h
  obtain rfl : fields' = fields := Shape.named.inj (hshape'.symm.trans hshape)
  obtain ⟨more, rfl, hmore⟩ := registeredAs_foldlM hfields
  rw [List.zipIdx_map_fst] at hmore
  exact ⟨container, hcontainer, hmore⟩

/-- A constant is named after the identifier, whatever name is registered. -/
theorem map_constant (h : List.Forall₂ (·.RegisteredAs container ·) fields entries) :
    entries.map (·.constant) = fields.map fun f => constantName f.ident := by
  induction h with
  | nil => rfl
  | cons hregistered _ ih =>
      obtain ⟨options, -, heq⟩ := hregistered
      rw [List.map_cons, List.map_cons, ih, heq]
      rfl

/-- Without a name of its own a field has the one that the rule makes. -/
theorem map_name {rule : Rule} (h : List.Forall₂ (·.RegisteredAs ⟨some rule⟩ ·) fields entries)
    (hread : ∀ f ∈ fields, ItemOptions.read f.attributes = .ok {}) :
    entries.map (·.name) = fields.map fun f => rule.apply f.ident := by
  induction h with
  | nil => rfl
  | cons hregistered _ ih =>
      obtain ⟨hfirst, hrest⟩ := List.forall_mem_cons.mp hread
      obtain ⟨options, hoptions, heq⟩ := hregistered
      obtain rfl : {} = options := Except.ok.inj (hfirst.symm.trans hoptions)
      rw [List.map_cons, List.map_cons, ih hrest, heq]
      rfl

/-- The constant holds a registered name. -/
def Holds (entries : List FieldEntry) (constant name : String) : Prop :=
  ∃ e ∈ entries, e.constant = constant ∧ e.name = name

/-- Registered names differ, so that a shared constant would hold two of them. -/
theorem existsUnique_holds_iff (hdistinct : Distinct entries) :
    (∀ constant ∈ entries.map (·.constant), ∃! name, Holds entries constant name) ↔
      (entries.map (·.constant)).Nodup := by
  constructor
  · intro hunique
    refine List.pairwise_map.mpr (hdistinct.imp_of_mem fun {a b} ha hb hnames hsame => hnames ?_)
    have hname := (hunique a.constant (List.mem_map_of_mem ha)).unique ⟨a, ha, rfl, rfl⟩
      ⟨b, hb, hsame.symm, rfl⟩
    rw [hname, Text.Ascii.sameFolded, beq_self_eq_true]
  · intro hnodup constant hconstant
    obtain ⟨e, he, rfl⟩ := List.mem_map.mp hconstant
    refine ⟨e.name, ⟨e, he, rfl, rfl⟩, ?_⟩
    rintro name ⟨e', he', hsame, rfl⟩
    rw [List.inj_on_of_nodup_map hnodup he' he hsame]

/-- **The declarations with a constant for each field.**  The constants of a table are named
after the identifiers of the fields that are not skipped.  Each of them holds one registered
name exactly when they differ, which the declaration is not checked for, and they differ
exactly when no two of these identifiers have the same words.  Different identifiers without
capitals do not, and neither do plain identifiers whose registered names are made by a rule
that sets words apart. -/
theorem constants_nodup_iff (h : d.fieldTable = .ok entries) (hshape : d.shape = .named fields) :
    let shown := fields.filter (·.Shown)
    let constants := entries.map (·.constant)
    constants = shown.map (fun f => constantName f.ident) ∧
    ((∀ constant ∈ constants, ∃! name, Holds entries constant name) ↔ constants.Nodup) ∧
    (constants.Nodup ↔ shown.Pairwise fun a b => ¬ SameWords a.ident b.ident) ∧
    ((shown.Pairwise fun a b => a.ident ≠ b.ident) → (∀ f ∈ shown, IsSmall f.ident) →
      constants.Nodup) ∧
    (∀ rule, ContainerOptions.read d.attributes = .ok ⟨some rule⟩ → rule ≠ .lowercase →
      (∀ f ∈ shown, IsPlain f.ident ∧ ItemOptions.read f.attributes = .ok {}) →
        constants.Nodup) := by
  intro shown constants
  obtain ⟨container, hcontainer, hregistered⟩ := fieldTable_registeredAs h hshape
  have hconstants : constants = shown.map (fun f => constantName f.ident) :=
    map_constant hregistered
  have hwords : constants.Nodup ↔ shown.Pairwise fun a b => ¬ SameWords a.ident b.ident := by
    rw [hconstants, List.nodup_iff_pairwise_ne, List.pairwise_map]
    simp only [ne_eq, constantName_eq_iff]
  have hdistinct := fieldTable_distinct h
  refine ⟨hconstants, existsUnique_holds_iff hdistinct, hwords, fun hidents hsmall => ?_,
    fun rule hrule hlowercase hplain => ?_⟩
  · refine hwords.mpr (hidents.imp_of_mem fun {a b} ha hb hne hsame => hne ?_)
    exact eq_of_sameWords (hsmall a ha) (hsmall b hb) hsame
  · obtain rfl : container = ⟨some rule⟩ := Except.ok.inj (hcontainer.symm.trans hrule)
    have hnames : (entries.map (·.name)).Pairwise fun a b => ¬ Text.Ascii.sameFolded a b :=
      List.pairwise_map.mpr hdistinct
    rw [map_name hregistered fun f hf => (hplain f hf).2, List.pairwise_map] at hnames
    refine hwords.mpr (hnames.imp_of_mem fun {a b} ha hb hdiffer hsame => hdiffer ?_)
    exact sameFolded_apply_of_sameWords hlowercase (hplain a ha).1 (hplain b hb).1 hsame

/-- The fields of a ticket: one is given its name and one is skipped. -/
def ticketFields : List FieldDecl := [
  ⟨"id", []⟩, ⟨"opened_at", []⟩,
  ⟨"assignee", [⟨"filter", some [.assign "rename" (some "owner")]⟩]⟩,
  ⟨"OPENED_AT", [⟨"filter", some [.word "skip"]⟩]⟩]

/-- A ticket, with a rule for the names of the other fields. -/
def ticketRecord : Declaration where
  generic := false
  attributes := [⟨"filter", some [.assign "rename_all" (some "camelCase")]⟩]
  shape := .named ticketFields

/-- The constants of a ticket differ, since the field that would share one is skipped. -/
theorem constants_nodup_iff_ticketRecord :
    ticketRecord.fieldTable = .ok
        [⟨"ID", "id", 0⟩, ⟨"OPENED_AT", "openedAt", 1⟩, ⟨"ASSIGNEE", "owner", 2⟩] ∧
      ticketRecord.shape = .named ticketFields ∧ ["ID", "OPENED_AT", "ASSIGNEE"].Nodup := by
  have htable : ticketRecord.fieldTable = .ok
      [⟨"ID", "id", 0⟩, ⟨"OPENED_AT", "openedAt", 1⟩, ⟨"ASSIGNEE", "owner", 2⟩] := by
    decide +kernel
  have hsmall : ∀ f ∈ ticketFields.filter (·.Shown),
      f.ident.toList.all fun c => c.isLower || c == '_' := by
    decide +kernel
  obtain ⟨-, -, -, hnodup, -⟩ := constants_nodup_iff htable rfl
  exact ⟨htable, rfl, hnodup (by decide +kernel) fun f hf => isSmall_of_ascii (hsmall f hf)⟩

/-- A record type with one field in two spellings. -/
def twoSpellings : Declaration where
  generic := false
  attributes := []
  shape := .named [⟨"birth_date", []⟩, ⟨"birthDate", []⟩]

/-- **A declaration can be accepted with one constant for two fields**, which then holds two
registered names. -/
theorem spellings_share_constant :
    let entries : List FieldEntry :=
      [⟨"BIRTH_DATE", "birth_date", 0⟩, ⟨"BIRTH_DATE", "birthDate", 1⟩]
    twoSpellings.fieldTable = .ok entries ∧
      (∃ fields, twoSpellings.shape = .named fields ∧ (fields.map (·.ident)).Nodup) ∧
      ¬ (entries.map (·.constant)).Nodup ∧
      Holds entries "BIRTH_DATE" "birth_date" ∧ Holds entries "BIRTH_DATE" "birthDate" := by
  intro entries
  refine ⟨by decide +kernel, ⟨_, rfl, by decide +kernel⟩, by decide, ?_, ?_⟩
  · exact ⟨⟨"BIRTH_DATE", "birth_date", 0⟩, by decide, rfl, rfl⟩
  · exact ⟨⟨"BIRTH_DATE", "birthDate", 1⟩, by decide, rfl, rfl⟩

end Fields

end Naming

end RecordQuery
