import RecordQuery.Proofs.FieldConstants

/-!
# Rules applied again

A rule applied to a name that it has made finds other words there than it found the first time:
camel case makes `abC` of `AB_c`, and `abC` is made of `ab` and `C`.  So a rule does not repeat
itself because the words are the same.  It does because its names are in its convention
(`Rule.Follows`), which is said without looking for words: a name in Pascal case is of one piece
and does not begin with a small letter, one in camel case is of one piece and does not begin
with a capital, and the other two rules leave no capitals.

Each rule lands in its convention (`Rule.follows_rename`) and leaves the names in it alone
(`Rule.rename_of_follows`).  On a name of one piece the latter rests on where its words begin:
every word but the first begins with a capital, which needs no other form.  What a rule changes
is only case and underscores (`letters_rename`).
-/

namespace RecordQuery

namespace Text

theorem toUpper_toUpper (c : Char) : c.toUpper.toUpper = c.toUpper :=
  forall_toUpper (P := fun c d => d.toUpper = c.toUpper) (by decide) (fun _ _ => rfl) c

/-- No ASCII letter is a capital in its small form. -/
theorem not_isUpper_toLower {c : Char} (h : c.toNat < 128) : ¬ isUpper c.toLower := by
  have hsmall : ¬ (65 ≤ c.toLower.toNat ∧ c.toLower.toNat ≤ 90) :=
    forall_toLower (P := fun _ d => ¬ (65 ≤ d.toNat ∧ d.toNat ≤ 90)) (by decide)
      (fun _ hc => hc) c
  rwa [isUpper_of_lt ((toNat_toLower_lt_iff c).mpr h), decide_eq_true_eq]

theorem toLower_eq_underscore_iff (c : Char) : c.toLower = '_' ↔ c = '_' :=
  forall_toLower (P := fun c d => d = '_' ↔ c = '_') (by decide) (fun _ _ => Iff.rfl) c

end Text

namespace Naming

variable {boundary : Bool} {current s t w : List Char} {ws : List (List Char)} {rule : Rule}
  {x : String}

/-! ## Words of a name -/

/-- The words of a name are its characters in order, without the separators. -/
theorem flatten_splitFrom (current : List Char) (boundary : Bool) (s : List Char) :
    (splitFrom current boundary s).flatten = current ++ s.filter (!isSeparator ·) := by
  induction s generalizing current boundary with
  | nil => cases current <;> simp [splitFrom]
  | cons c rest ih =>
      unfold splitFrom
      split
      · next hsep =>
          rw [List.filter_cons_of_neg (by simp [hsep])]
          split
          · next hempty =>
              rw [ih, List.isEmpty_iff.mp hempty]
          · rw [List.flatten_cons, ih, List.nil_append]
      · next hsep =>
          rw [List.filter_cons_of_pos (by simp [hsep])]
          split
          · rw [List.flatten_cons, ih, List.singleton_append]
          · rw [ih, List.append_assoc, List.singleton_append]

/-- Words are what is left without the separators. -/
theorem flatten_splitWords (s : List Char) :
    (splitWords s).flatten = s.filter (!isSeparator ·) :=
  flatten_splitFrom [] false s

/-- The first character of a name is in its first word. -/
theorem splitWords_cons {c : Char} (hsep : ¬ isSeparator c) (rest : List Char) :
    splitWords (c :: rest) = splitFrom [c] (endsWord c) rest := by
  rw [splitWords, splitFrom, if_neg hsep, if_neg (by simp), List.nil_append]

theorem mem_of_mem_splitWords {c : Char} (hw : w ∈ splitWords s) (hc : c ∈ w) :
    c ∈ s ∧ ¬ isSeparator c := by
  have hmem : c ∈ s.filter (!isSeparator ·) :=
    flatten_splitWords s ▸ List.mem_flatten_of_mem hw hc
  simpa using hmem

/-- A word of a name in small letters. -/
structure IsSmallWord (w : List Char) : Prop where
  ne_nil : w ≠ []
  small : ∀ c ∈ w, ¬ Text.isUpper c ∧ ¬ isSeparator c

/-- Small letters carry on with the word that has been begun. -/
theorem splitFrom_append (hw : ∀ c ∈ w, ¬ Text.isUpper c ∧ ¬ isSeparator c)
    (current : List Char) (boundary : Bool) (s : List Char) :
    ∃ boundary', splitFrom current boundary (w ++ s) = splitFrom (current ++ w) boundary' s := by
  induction w generalizing current boundary with
  | nil => exact ⟨boundary, by rw [List.nil_append, List.append_nil]⟩
  | cons c rest ih =>
      obtain ⟨⟨hupper, hsep⟩, hrest⟩ := List.forall_mem_cons.mp hw
      obtain ⟨boundary', hmore⟩ := ih hrest (current ++ [c]) (endsWord c)
      refine ⟨boundary', ?_⟩
      rw [List.cons_append, splitFrom, if_neg hsep, if_neg (by simp [hupper]), hmore,
        List.append_assoc, List.singleton_append]

/-- **Small words can be told from their join.** -/
theorem splitWords_joinWords (h : ∀ w ∈ ws, IsSmallWord w) : splitWords (joinWords ws) = ws := by
  induction ws with
  | nil => rfl
  | cons w rest ih =>
      obtain ⟨hw, hrest⟩ := List.forall_mem_cons.mp h
      have hnonempty : w.isEmpty = false := List.isEmpty_eq_false_iff.mpr hw.ne_nil
      cases rest with
      | nil =>
          obtain ⟨boundary', hsplit⟩ := splitFrom_append hw.small [] false []
          rw [List.append_nil, List.nil_append] at hsplit
          rw [joinWords, splitWords, hsplit, splitFrom, hnonempty, if_neg Bool.false_ne_true]
      | cons v rest =>
          obtain ⟨boundary', hsplit⟩ :=
            splitFrom_append hw.small [] false ('_' :: joinWords (v :: rest))
          rw [joinWords_cons_cons, splitWords, hsplit, List.nil_append, splitFrom,
            if_pos (by decide), hnonempty, if_neg Bool.false_ne_true]
          exact congrArg (w :: ·) (ih hrest)

/-- Joined words are the words behind each other, but for the underscores. -/
theorem filter_joinWords (ws : List (List Char)) :
    (joinWords ws).filter (· != '_') = ws.flatten.filter (· != '_') := by
  induction ws with
  | nil => rfl
  | cons w rest ih =>
      cases rest with
      | nil => rw [List.flatten_singleton]; rfl
      | cons v rest =>
          rw [joinWords_cons_cons, List.flatten_cons, List.filter_append, List.filter_append,
            List.filter_cons_of_neg (by decide), ih]

/-! ## Letters of a name -/

/-- What is left of a name without underscores and regardless of case. -/
def letters (s : List Char) : List Char :=
  (s.filter (· != '_')).map Char.toLower

/-- Letters do not depend on ASCII case. -/
theorem letters_congr (h : s.map Char.toLower = t.map Char.toLower) : letters s = letters t := by
  have hfilter : ∀ s : List Char, letters s = (s.map Char.toLower).filter (· != '_') := by
    intro s
    rw [letters, List.filter_map]
    refine congrArg _ (List.filter_congr fun c _ => ?_)
    rw [Function.comp_apply, Bool.eq_iff_iff, bne_iff_ne, bne_iff_ne, ne_eq, ne_eq,
      Text.toLower_eq_underscore_iff]
  rw [hfilter, hfilter, h]

theorem letters_map_toLower (s : List Char) : letters (s.map Char.toLower) = letters s := by
  refine letters_congr ?_
  rw [List.map_map]
  exact List.map_congr_left fun c _ => Text.toLower_toLower c

/-- Joining words adds no letter and loses none. -/
theorem letters_joinWords (ws : List (List Char)) :
    letters (joinWords ws) = letters ws.flatten :=
  congrArg (List.map Char.toLower) (filter_joinWords ws)

theorem isSeparator_toLower (c : Char) : isSeparator c.toLower = isSeparator c :=
  Text.forall_toLower (P := fun c d => isSeparator d = isSeparator c) (by decide)
    (fun _ _ => rfl) c

theorem IsPlainChar.isSeparator_eq {c : Char} (h : IsPlainChar c) :
    isSeparator c = (c == '_') := by
  have hhyphen : c ≠ '-' := by
    rintro rfl
    exact absurd h (by decide)
  rw [isSeparator, beq_false_of_ne hhyphen, Bool.or_false]

/-- A character is plain in either case. -/
theorem isPlainChar_iff_of_toLower {c d : Char} (h : d.toLower = c.toLower) :
    IsPlainChar d ↔ IsPlainChar c := by
  have hlower : ∀ c : Char, IsPlainChar c.toLower ↔ IsPlainChar c :=
    Text.forall_toLower (P := fun c d => IsPlainChar d ↔ IsPlainChar c) (by decide)
      fun _ _ => Iff.rfl
  rw [← hlower d, h, hlower c]

theorem IsPlainChar.endsWord {c : Char} (h : IsPlainChar c) (hupper : ¬ Text.isUpper c)
    (hsep : ¬ isSeparator c) : endsWord c = true := by
  rw [h.endsWord_eq]
  simp [hupper, hsep]

theorem lowerWord_of_small (hascii : ∀ c ∈ w, c.toNat < 128) (hw : ∀ c ∈ w, ¬ Text.isUpper c) :
    lowerWord w = w := by
  rw [lowerWord_of_ascii hascii]
  exact (List.map_congr_left fun c hc => Text.toLower_of_not_isUpper (hw c hc)).trans
    (List.map_id w)

section Plain

variable (hplain : ∀ c ∈ s, IsPlainChar c)

include hplain

theorem letters_flatten_splitWords : letters (splitWords s).flatten = letters s := by
  rw [flatten_splitWords, letters, letters, List.filter_filter]
  refine congrArg _ (List.filter_congr fun c hc => ?_)
  rw [(hplain c hc).isSeparator_eq, bne, Bool.and_self]

theorem ne_nil_of_mem_splitWords : ∀ w ∈ splitWords s, w ≠ [] := by
  intro w hw
  rw [splitWords, splitFrom_eq_filter hplain [] Bool.noConfusion] at hw
  simpa using List.of_mem_filter hw

theorem ascii_of_mem_splitWords : ∀ w ∈ splitWords s, ∀ c ∈ w, c.toNat < 128 :=
  fun _ hw c hc => (hplain c (mem_of_mem_splitWords hw hc).1).toNat_lt

/-- A name has no words, or a first one with a first character. -/
theorem splitWords_cases : splitWords s = [] ∨
    ∃ c w rest, splitWords s = (c :: w) :: rest ∧ ∀ d ∈ c :: w, d.toNat < 128 := by
  rcases hwords : splitWords s with _ | ⟨_ | ⟨c, w⟩, rest⟩
  · exact .inl rfl
  · exact absurd rfl (ne_nil_of_mem_splitWords hplain [] (hwords ▸ List.mem_cons_self))
  · exact .inr ⟨c, w, rest, rfl,
      ascii_of_mem_splitWords hplain _ (hwords ▸ List.mem_cons_self)⟩

/-- Pascal case and camel case put the words behind each other, in some case. -/
theorem map_toLower_rename (hrule : rule = .pascalCase ∨ rule = .camelCase) :
    (rule.rename s).map Char.toLower = (splitWords s).flatten.map Char.toLower := by
  have hascii := ascii_of_mem_splitWords hplain
  rw [List.map_flatten]
  rcases hrule with rfl | rfl
  · exact map_toLower_flatMap_capitalize hascii
  · exact map_toLower_rename_camelCase hascii

/-- **A rule changes no more than case and underscores.** -/
theorem letters_rename (rule : Rule) : letters (rule.rename s) = letters s := by
  have hwords : letters (splitWords s).flatten = letters s := letters_flatten_splitWords hplain
  cases rule with
  | pascalCase => exact (letters_congr (map_toLower_rename hplain (.inl rfl))).trans hwords
  | camelCase => exact (letters_congr (map_toLower_rename hplain (.inr rfl))).trans hwords
  | lowercase =>
      rw [Rule.rename, lowerWord_of_ascii fun c hc => (hplain c hc).toNat_lt]
      exact letters_map_toLower s
  | snakeCase =>
      rw [Rule.rename, letters_joinWords, map_lowerWord (ascii_of_mem_splitWords hplain),
        ← List.map_flatten, letters_map_toLower, hwords]

/-- A rule makes plain names of plain identifiers. -/
theorem isPlainChar_of_mem_rename (rule : Rule) : ∀ c ∈ rule.rename s, IsPlainChar c := by
  intro c hc
  by_cases hscore : c = '_'
  · exact .inr hscore
  · have hmem : c.toLower ∈ letters (rule.rename s) :=
      List.mem_map_of_mem (List.mem_filter.mpr ⟨hc, bne_iff_ne.mpr hscore⟩)
    rw [letters_rename hplain rule] at hmem
    obtain ⟨d, hd, hlower⟩ := List.mem_map.mp hmem
    exact (isPlainChar_iff_of_toLower hlower).mp (hplain d (List.mem_of_mem_filter hd))

end Plain

/-! ## Names of one piece -/

/-- Nothing in the plain name separates words. -/
def OnePiece (s : List Char) : Prop :=
  ∀ c ∈ s, IsPlainChar c ∧ ¬ isSeparator c

/-- Words put behind each other are of one piece, in whatever case. -/
theorem onePiece_of_map_toLower (ht : ∀ c ∈ t, IsPlainChar c)
    (h : t.map Char.toLower = (splitWords s).flatten.map Char.toLower) : OnePiece t := by
  intro c hc
  refine ⟨ht c hc, ?_⟩
  obtain ⟨d, hd, hlower⟩ := List.mem_map.mp (h ▸ List.mem_map_of_mem hc)
  obtain ⟨w, hw, hd⟩ := List.mem_flatten.mp hd
  rw [← isSeparator_toLower, ← hlower, isSeparator_toLower]
  exact (mem_of_mem_splitWords hw hd).2

theorem capitalize_cons {c : Char} (h : c.toNat < 128) (rest : List Char) :
    capitalize (c :: rest) = c.toUpper :: rest := by
  rw [capitalize, Text.upperOf_of_lt h, List.singleton_append]

theorem capitalize_append (hw : w ≠ []) (s : List Char) :
    capitalize (w ++ s) = capitalize w ++ s := by
  cases w with
  | nil => exact absurd rfl hw
  | cons c rest => exact (List.append_assoc _ _ _).symm

/-- A capital begins words as it is. -/
theorem capitalize_of_isUpper {c : Char} (h : IsPlainChar c) (hupper : Text.isUpper c)
    (rest : List Char) : capitalize (c :: rest) = c :: rest := by
  rw [capitalize_cons h.toNat_lt, Text.toUpper_of_isUpper hupper]

/-- Every word behind the first begins with a capital, so that all the words in Pascal case are
the name with a capital at its front. -/
theorem flatMap_capitalize_splitFrom (hs : OnePiece s) (hcurrent : current ≠ []) :
    (splitFrom current boundary s).flatMap capitalize = capitalize (current ++ s) := by
  induction s generalizing current boundary with
  | nil =>
      rw [splitFrom, if_neg (by simpa using hcurrent), List.flatMap_singleton, List.append_nil]
  | cons c rest ih =>
      obtain ⟨⟨hc, hsep⟩, hrest⟩ := List.forall_mem_cons.mp hs
      rw [splitFrom, if_neg hsep]
      -- Either the capital `c` begins the next word, or it goes to the current one.
      split
      · next hbegins =>
          have hupper : Text.isUpper c := by
            simp only [Bool.and_eq_true] at hbegins
            exact hbegins.1.1
          rw [List.flatMap_cons, ih hrest (List.cons_ne_nil c []), List.singleton_append,
            capitalize_of_isUpper hc hupper, capitalize_append hcurrent]
      · rw [ih hrest (List.append_ne_nil_of_left_ne_nil hcurrent [c]), List.append_assoc,
          List.singleton_append]

/-- The name of some words in camel case. -/
def camel : List (List Char) → List Char
  | [] => []
  | w :: rest => lowerWord w ++ rest.flatMap capitalize

/-- The camel-case rule is a matter of the words of the name. -/
theorem rename_camelCase (s : List Char) : Rule.camelCase.rename s = camel (splitWords s) := by
  rw [Rule.rename]
  cases splitWords s <;> rfl

/-- The first word goes on to the next capital, so that behind what has been begun of it the name
is in camel case as it is. -/
theorem camel_splitFrom (hs : OnePiece s) (hcurrent : current ≠ [])
    (hascii : ∀ c ∈ current, c.toNat < 128) :
    camel (splitFrom current true s) = current.map Char.toLower ++ s := by
  induction s generalizing current with
  | nil =>
      rw [splitFrom, if_neg (by simpa using hcurrent), camel, lowerWord_of_ascii hascii]
      rfl
  | cons c rest ih =>
      obtain ⟨⟨hc, hsep⟩, hrest⟩ := List.forall_mem_cons.mp hs
      have hnonempty : current.isEmpty = false := List.isEmpty_eq_false_iff.mpr hcurrent
      rw [splitFrom, if_neg hsep, hnonempty]
      by_cases hupper : Text.isUpper c
      · rw [if_pos (by simp [hupper]), camel, lowerWord_of_ascii hascii,
          flatMap_capitalize_splitFrom hrest (List.cons_ne_nil c []), List.singleton_append,
          capitalize_of_isUpper hc hupper]
      · have hlonger : ∀ d ∈ current ++ [c], d.toNat < 128 := by
          simpa [or_imp, forall_and] using And.intro hascii hc.toNat_lt
        rw [if_neg (by simp [hupper]), hc.endsWord hupper hsep,
          ih hrest (List.append_ne_nil_of_left_ne_nil hcurrent [c]) hlonger, List.map_append,
          List.append_assoc, List.map_singleton, Text.toLower_of_not_isUpper hupper,
          List.singleton_append]

/-! ## Conventions -/

namespace Rule

/-- The name is in the convention of the rule. -/
def Follows (rule : Rule) (s : List Char) : Prop :=
  match rule with
  | pascalCase => OnePiece s ∧ ∀ c ∈ s.head?, c.toUpper = c
  | camelCase => OnePiece s ∧ ∀ c ∈ s.head?, ¬ Text.isUpper c
  | lowercase => ∀ c ∈ s, ¬ Text.isUpper c
  | snakeCase => ∃ words, (∀ w ∈ words, IsSmallWord w) ∧ s = joinWords words

/-- **A rule leaves the names in its convention alone.** -/
theorem rename_of_follows (hplain : ∀ c ∈ s, IsPlainChar c) (h : rule.Follows s) :
    rule.rename s = s := by
  cases rule with
  | pascalCase =>
      obtain ⟨hpiece, hhead⟩ := h
      cases s with
      | nil => rfl
      | cons c rest =>
          obtain ⟨⟨hc, hsep⟩, hrest⟩ := List.forall_mem_cons.mp hpiece
          rw [rename, splitWords_cons hsep,
            flatMap_capitalize_splitFrom hrest (List.cons_ne_nil c []), List.singleton_append,
            capitalize_cons hc.toNat_lt, hhead c rfl]
  | camelCase =>
      obtain ⟨hpiece, hhead⟩ := h
      cases s with
      | nil => rfl
      | cons c rest =>
          obtain ⟨⟨hc, hsep⟩, hrest⟩ := List.forall_mem_cons.mp hpiece
          have hupper : ¬ Text.isUpper c := hhead c rfl
          rw [rename_camelCase, splitWords_cons hsep, hc.endsWord hupper hsep,
            camel_splitFrom hrest (List.cons_ne_nil c [])
              (List.forall_mem_singleton.mpr hc.toNat_lt),
            List.map_singleton, Text.toLower_of_not_isUpper hupper, List.singleton_append]
  | lowercase => exact lowerWord_of_small (fun c hc => (hplain c hc).toNat_lt) h
  | snakeCase =>
      obtain ⟨words, hwords, rfl⟩ := h
      have hsplit := splitWords_joinWords hwords
      have hascii := ascii_of_mem_splitWords hplain
      rw [hsplit] at hascii
      rw [rename, hsplit]
      refine congrArg joinWords ((List.map_congr_left fun w hw => ?_).trans (List.map_id words))
      exact lowerWord_of_small (hascii w hw) fun c hc => ((hwords w hw).small c hc).1

/-- **A rule lands in its convention.** -/
theorem follows_rename (hplain : ∀ c ∈ s, IsPlainChar c) (rule : Rule) :
    rule.Follows (rule.rename s) := by
  have hresult := isPlainChar_of_mem_rename hplain rule
  cases rule with
  | pascalCase =>
      refine ⟨onePiece_of_map_toLower hresult (map_toLower_rename hplain (.inl rfl)), ?_⟩
      rw [rename]
      intro first hfirst
      obtain hwords | ⟨c, w, rest, hwords, hw⟩ := splitWords_cases hplain
      · rw [hwords] at hfirst
        cases hfirst
      · rw [hwords, List.flatMap_cons, capitalize_cons (hw c List.mem_cons_self)] at hfirst
        cases hfirst
        exact Text.toUpper_toUpper c
  | camelCase =>
      refine ⟨onePiece_of_map_toLower hresult (map_toLower_rename hplain (.inr rfl)), ?_⟩
      rw [rename_camelCase]
      intro first hfirst
      obtain hwords | ⟨c, w, rest, hwords, hw⟩ := splitWords_cases hplain
      · rw [hwords] at hfirst
        cases hfirst
      · rw [hwords, camel, lowerWord_of_ascii hw] at hfirst
        cases hfirst
        exact Text.not_isUpper_toLower (hw c List.mem_cons_self)
  | lowercase =>
      intro c hc
      rw [rename, lowerWord_of_ascii fun c hc => (hplain c hc).toNat_lt] at hc
      obtain ⟨d, hd, rfl⟩ := List.mem_map.mp hc
      exact Text.not_isUpper_toLower (hplain d hd).toNat_lt
  | snakeCase =>
      refine ⟨_, List.forall_mem_map.mpr fun w hw => ?_, rfl⟩
      have hascii := ascii_of_mem_splitWords hplain w hw
      rw [lowerWord_of_ascii hascii]
      have hne : w.map Char.toLower ≠ [] := by
        simpa using ne_nil_of_mem_splitWords hplain w hw
      refine ⟨hne, List.forall_mem_map.mpr fun c hc => ⟨?_, ?_⟩⟩
      · exact Text.not_isUpper_toLower (hascii c hc)
      · rw [isSeparator_toLower]
        exact (mem_of_mem_splitWords hw hc).2

/-- The name without its underscores. -/
def withoutUnderscores (name : String) : String :=
  String.ofList (name.toList.filter (· != '_'))

/-- **A rule applied to its own names changes nothing**, for every identifier of ASCII letters,
digits and underscores; and a name is its identifier up to underscores and case, so that no
letter and no digit is lost or added. -/
theorem apply_idempotent (hx : IsPlain x) (rule : Rule) :
    rule.apply (rule.apply x) = rule.apply x ∧
      Text.Ascii.sameFolded (withoutUnderscores (rule.apply x)) (withoutUnderscores x) := by
  constructor
  · have hfollows := follows_rename hx rule
    have hplain := isPlainChar_of_mem_rename hx rule
    rw [apply, apply, String.toList_ofList, rename_of_follows hplain hfollows]
  · have hletters : letters (rule.rename x.toList) = letters x.toList := letters_rename hx rule
    rw [Text.Ascii.sameFolded, beq_iff_eq]
    simpa [Text.Ascii.fold, withoutUnderscores, apply, letters] using hletters

/-- An identifier of four words, the name of which has two. -/
theorem apply_idempotent_mixedCase :
    IsPlain "_HTTPServer2__aB_9z_" ∧
      camelCase.apply "_HTTPServer2__aB_9z_" = "httpserver2AB9z" ∧
      camelCase.apply "httpserver2AB9z" = "httpserver2AB9z" ∧
      Text.Ascii.sameFolded (withoutUnderscores "httpserver2AB9z")
        (withoutUnderscores "_HTTPServer2__aB_9z_") := by
  have hplain : IsPlain "_HTTPServer2__aB_9z_" := by decide
  have hname : camelCase.apply "_HTTPServer2__aB_9z_" = "httpserver2AB9z" := by decide +kernel
  obtain ⟨hagain, hletters⟩ := apply_idempotent hplain camelCase
  rw [hname] at hagain hletters
  exact ⟨hplain, hname, hagain, hletters⟩

end Rule

end Naming

end RecordQuery
