import ApiDocs.Source.Unit
import Mathlib

/-!
# Case rules of variants and of fields

The snake case rule for variants splits a name into words, and the Pascal case rule for fields joins
words into a name. Between the names of variants (`IsPascal`) and the names that are written in
snake case (`IsSnake`) each of the two undoes the other (`joinWords_snakeVariant`,
`snakeVariant_joinWords`). So variants that differ are written differently, in snake case and, as
long as there are no hyphens in their names, in kebab case.

Where a word begins is decided by the upper-case letters of Unicode, while only ASCII letters change
their case: beyond ASCII a capital letter begins a word as it is.
-/

namespace ApiDocs

namespace Text

/-! ## ASCII letters -/

/-- The small letter of an ASCII capital, as the library has it. -/
theorem asciiLower_eq_toLower (c : Char) : asciiLower c = c.toLower := by
  have hupper : 'A' ≤ c ∧ c ≤ 'Z' ↔ c.isUpper = true := by simp [Char.isUpper, Char.le_def]
  by_cases h : c.isUpper = true
  · rw [asciiLower, if_pos (hupper.mpr h), Char.toLower_eq_of_isUpper h]
  · rw [asciiLower, if_neg (mt hupper.mp h), Char.toLower_eq_of_not_isUpper h]

/-- The capital of a small ASCII letter, as the library has it. -/
theorem asciiUpper_eq_toUpper (c : Char) : asciiUpper c = c.toUpper := by
  have hlower : 'a' ≤ c ∧ c ≤ 'z' ↔ c.isLower = true := by simp [Char.isLower, Char.le_def]
  by_cases h : c.isLower = true
  · rw [asciiUpper, if_pos (hlower.mpr h), Char.toUpper_eq_of_isLower h]
  · rw [asciiUpper, if_neg (mt hlower.mp h), Char.toUpper_eq_of_not_isLower h]

/-- What is no ASCII capital has no small letter of its own. -/
theorem asciiLower_of_not_isUpper {c : Char} (h : c.isUpper = false) : asciiLower c = c := by
  rw [asciiLower_eq_toLower, Char.toLower_eq_of_not_isUpper (Bool.eq_false_iff.mp h)]

/-- What is no small ASCII letter has no capital of its own. -/
theorem asciiUpper_of_not_isLower {c : Char} (h : c.isLower = false) : asciiUpper c = c := by
  rw [asciiUpper_eq_toUpper, Char.toUpper_eq_of_not_isLower (Bool.eq_false_iff.mp h)]

/-- A small letter can be made a capital again, unless it was small before. -/
theorem asciiUpper_asciiLower {c : Char} (h : c.isLower = false) :
    asciiUpper (asciiLower c) = c := by
  rw [asciiUpper_eq_toUpper, asciiLower_eq_toLower, Char.toUpper_toLower_eq_toUpper,
    ← asciiUpper_eq_toUpper, asciiUpper_of_not_isLower h]

/-- A capital can be made small again, unless it was one before. -/
theorem asciiLower_asciiUpper {c : Char} (h : c.isUpper = false) :
    asciiLower (asciiUpper c) = c := by
  rw [asciiUpper_eq_toUpper, asciiLower_eq_toLower, Char.toLower_toUpper_eq_toLower,
    ← asciiLower_eq_toLower, asciiLower_of_not_isUpper h]

theorem isUpper_asciiLower (c : Char) : (asciiLower c).isUpper = false := by
  rw [asciiLower_eq_toLower, Char.isUpper_toLower_eq_false]

theorem isLower_asciiUpper (c : Char) : (asciiUpper c).isLower = false := by
  rw [asciiUpper_eq_toUpper, Char.isLower_toUpper_eq_false]

/-- No other character becomes a sign in lower case. -/
theorem asciiLower_ne {c sign : Char} (hsign : sign.isAlpha = false) (h : sign ≠ c) :
    asciiLower c ≠ sign := by
  intro heq
  have hc : c.isAlpha = false := by
    rw [← hsign, ← heq, asciiLower_eq_toLower, Char.isAlpha_toLower_eq_isAlpha]
  rw [asciiLower_of_not_isUpper (Bool.or_eq_false_iff.mp hc).1] at heq
  exact h heq.symm

theorem asciiUpper_ne {c sign : Char} (hsign : sign.isAlpha = false) (h : sign ≠ c) :
    asciiUpper c ≠ sign := by
  intro heq
  have hc : c.isAlpha = false := by
    rw [← hsign, ← heq, asciiUpper_eq_toUpper, Char.isAlpha_toUpper_eq_isAlpha]
  rw [asciiUpper_of_not_isLower (Bool.or_eq_false_iff.mp hc).2] at heq
  exact h heq.symm

/-- Among the ASCII letters the upper-case ones are the capitals. -/
theorem isUppercase_of_isAlpha {c : Char} (h : c.isAlpha = true) : isUppercase c = c.isUpper := by
  have hascii : c.toNat < 128 := by
    simp only [Char.isAlpha, Char.isUpper, Char.isLower, Bool.or_eq_true, Bool.and_eq_true,
      decide_eq_true_eq, UInt32.le_iff_toNat_le, ge_iff_le, Char.toNat_val, Char.reduceVal,
      UInt32.reduceToNat] at h
    omega
  rw [isUppercase, if_pos hascii]

theorem isUppercase_of_isUpper {c : Char} (h : c.isUpper = true) : isUppercase c = true := by
  rw [isUppercase_of_isAlpha (Bool.or_eq_true_iff.mpr (.inl h)), h]

/-- What is no capital is no ASCII capital. -/
theorem not_isUpper_of_not_isUppercase {c : Char} (h : isUppercase c = false) :
    c.isUpper = false :=
  Bool.eq_false_iff.mpr fun hupper => Bool.eq_false_iff.mp h (isUppercase_of_isUpper hupper)

theorem not_isLower_of_isUppercase {c : Char} (h : isUppercase c = true) : c.isLower = false := by
  by_contra hlower
  rw [Bool.not_eq_false] at hlower
  rw [isUppercase_of_isAlpha (Bool.or_eq_true_iff.mpr (.inr hlower))] at h
  exact Char.not_isLower_of_isUpper h hlower

end Text

namespace CaseRule

/-! ## Names of variants and names in snake case -/

/-- Whether a text is written like the name of a variant: without underscores, and with no small
ASCII letter at the beginning. -/
@[mk_iff]
structure IsPascal (cs : List Char) : Prop where
  /-- The beginning. -/
  first : ∀ c ∈ cs.head?, c.isLower = false
  /-- There are no underscores. -/
  noUnderscore : '_' ∉ cs

/-- Whether a letter may begin a word in snake case: a small ASCII letter, which stands for its
capital, or a capital beyond ASCII, which stands for itself. -/
def beginsWord (c : Char) : Bool :=
  c.isLower || Text.isUppercase c && !c.isUpper

/-- Whether `d` may come after `c` in snake case: a word begins after an underscore, and capitals
stand nowhere else. -/
def follows (c d : Char) : Bool :=
  if c = '_' then beginsWord d else !Text.isUppercase d

/-- Whether a text is written in snake case: words with single underscores between them. -/
@[mk_iff]
structure IsSnake (cs : List Char) : Prop where
  /-- The beginning. -/
  first : ∀ c ∈ cs.head?, c ≠ '_' ∧ c.isUpper = false
  /-- What comes after each character. -/
  chain : cs.IsChain fun c d => follows c d = true
  /-- The end. -/
  last : cs.getLast? ≠ some '_'

instance : DecidablePred IsPascal := fun cs =>
  decidable_of_iff ((cs.head?.all fun c => !c.isLower) = true ∧ '_' ∉ cs) <| by
    simp [Option.all_eq_true, isPascal_iff]

instance : DecidablePred IsSnake := fun cs =>
  decidable_of_iff ((cs.head?.all fun c => c ≠ '_' && !c.isUpper) = true ∧
      (cs.IsChain fun c d => follows c d = true) ∧ cs.getLast? ≠ some '_') <| by
    simp [Option.all_eq_true, isSnake_iff]

/-- The small letter of a capital begins a word. -/
theorem beginsWord_asciiLower {c : Char} (h : Text.isUppercase c = true) :
    beginsWord (Text.asciiLower c) = true := by
  by_cases hupper : c.isUpper = true
  · have hlower : (Text.asciiLower c).isLower = true := by
      rw [Text.asciiLower_eq_toLower, Char.isLower_toLower_eq_isAlpha, Char.isAlpha, hupper,
        Bool.true_or]
    rw [beginsWord, hlower, Bool.true_or]
  · rw [Bool.not_eq_true] at hupper
    rw [Text.asciiLower_of_not_isUpper hupper, beginsWord, h, hupper, Bool.not_false, Bool.and_true,
      Bool.or_true]

/-- A letter that begins a word has a capital. -/
theorem isUppercase_asciiUpper {c : Char} (h : beginsWord c = true) :
    Text.isUppercase (Text.asciiUpper c) = true := by
  by_cases hlower : c.isLower = true
  · apply Text.isUppercase_of_isUpper
    rw [Text.asciiUpper_eq_toUpper, Char.isUpper_toUpper_eq_isAlpha, Char.isAlpha, hlower,
      Bool.or_true]
  · rw [Bool.not_eq_true] at hlower
    rw [beginsWord, hlower, Bool.false_or, Bool.and_eq_true] at h
    rw [Text.asciiUpper_of_not_isLower hlower, h.1]

/-- No ASCII capital begins a word in snake case. -/
theorem not_isUpper_of_beginsWord {c : Char} (h : beginsWord c = true) : c.isUpper = false := by
  rcases Bool.or_eq_true_iff.mp h with hlower | hcapital
  · exact Bool.eq_false_iff.mpr (Char.not_isUpper_of_isLower hlower)
  · rw [Bool.and_eq_true, Bool.not_eq_true'] at hcapital
    exact hcapital.2

theorem ne_underscore_of_beginsWord {c : Char} (h : beginsWord c = true) : c ≠ '_' := by
  rintro rfl
  exact absurd h (by decide)

/-! ## Joining the words of a variant -/

/-- Inside a word, joining undoes splitting. -/
theorem joinWords_splitWords {cs : List Char} (h : '_' ∉ cs) :
    joinWords false (splitWords cs) = cs := by
  induction cs with
  | nil => rfl
  | cons c cs ih =>
    rw [List.mem_cons, not_or] at h
    have hc : Text.asciiLower c ≠ '_' := Text.asciiLower_ne (by decide) h.1
    rw [splitWords]
    split
    · rename_i hupper
      rw [joinWords, if_pos rfl, joinWords, if_neg hc, if_pos rfl, ih h.2,
        Text.asciiUpper_asciiLower (Text.not_isLower_of_isUppercase hupper)]
    · rename_i hupper
      have hkept := Text.not_isUpper_of_not_isUppercase ((Bool.not_eq_true _).mp hupper)
      rw [joinWords, if_neg hc, if_neg Bool.false_ne_true, ih h.2,
        Text.asciiLower_of_not_isUpper hkept]

/-- A variant has its name back when the words of its name in snake case are joined. -/
theorem joinWords_snakeVariant {cs : List Char} (h : IsPascal cs) :
    joinWords true (snakeVariant cs) = cs := by
  cases cs with
  | nil => rfl
  | cons c cs =>
    obtain ⟨hc, hcs⟩ := List.ne_and_not_mem_of_not_mem_cons h.noUnderscore
    have hlower : Text.asciiLower c ≠ '_' := Text.asciiLower_ne (by decide) hc
    rw [snakeVariant, joinWords, if_neg hlower, if_pos rfl, joinWords_splitWords hcs,
      Text.asciiUpper_asciiLower (h.first c rfl)]

theorem underscore_notMem_joinWords (start : Bool) (cs : List Char) :
    '_' ∉ joinWords start cs := by
  induction cs generalizing start with
  | nil => exact List.not_mem_nil
  | cons c cs ih =>
    rw [joinWords]
    split
    · exact ih true
    · rename_i hc
      rw [List.mem_cons, not_or]
      refine ⟨?_, ih false⟩
      cases start with
      | false => exact Ne.symm hc
      | true => exact (Text.asciiUpper_ne (by decide) (Ne.symm hc)).symm

/-- Whatever words are joined, the outcome is written like the name of a variant. -/
theorem isPascal_joinWords (cs : List Char) : IsPascal (joinWords true cs) := by
  refine ⟨?_, underscore_notMem_joinWords true cs⟩
  induction cs with
  | nil => exact fun c hc => absurd hc (Option.not_mem_none c)
  | cons c cs ih =>
    rw [joinWords]
    split
    · exact ih
    · intro d hd
      obtain rfl := Option.some.inj hd
      exact Text.isLower_asciiUpper c

/-! ## Splitting a name into words -/

/-- What comes after a character of a word, split into words, continues a text in snake case. -/
theorem isChain_splitWords {c : Char} (hc : c ≠ '_') {cs : List Char} (h : '_' ∉ cs) :
    ((c :: splitWords cs).IsChain fun c d => follows c d = true) ∧
      (c :: splitWords cs).getLast? ≠ some '_' := by
  induction cs generalizing c with
  | nil => exact ⟨List.isChain_singleton c, fun heq => hc (Option.some.inj heq)⟩
  | cons d cs ih =>
    -- what is written for `d` ends with a character of a word again
    rw [List.mem_cons, not_or] at h
    have hd : Text.asciiLower d ≠ '_' := Text.asciiLower_ne (by decide) h.1
    obtain ⟨hchain, hlast⟩ := ih hd h.2
    rw [splitWords]
    split
    · rename_i hupper
      have hunderscore : follows c '_' = true := by
        rw [follows, if_neg hc]
        rfl
      have hword : follows '_' (Text.asciiLower d) = true := by
        rw [follows, if_pos rfl, beginsWord_asciiLower hupper]
      rw [List.isChain_cons_cons, List.isChain_cons_cons, List.getLast?_cons_cons,
        List.getLast?_cons_cons]
      exact ⟨⟨hunderscore, hword, hchain⟩, hlast⟩
    · rename_i hupper
      rw [Bool.not_eq_true] at hupper
      have hinner : follows c (Text.asciiLower d) = true := by
        rw [follows, if_neg hc,
          Text.asciiLower_of_not_isUpper (Text.not_isUpper_of_not_isUppercase hupper), hupper]
        rfl
      rw [List.isChain_cons_cons, List.getLast?_cons_cons]
      exact ⟨⟨hinner, hchain⟩, hlast⟩

/-- The snake case of a Pascal name is a snake name. -/
theorem isSnake_snakeVariant {cs : List Char} (h : IsPascal cs) : IsSnake (snakeVariant cs) := by
  cases cs with
  | nil =>
    exact ⟨fun c hc => absurd hc (Option.not_mem_none c), List.isChain_nil,
      (Option.some_ne_none '_').symm⟩
  | cons c cs =>
    obtain ⟨hc, hcs⟩ := List.ne_and_not_mem_of_not_mem_cons h.noUnderscore
    have hlower : Text.asciiLower c ≠ '_' := Text.asciiLower_ne (by decide) hc
    obtain ⟨hchain, hlast⟩ := isChain_splitWords hlower hcs
    refine ⟨fun d hd => ?_, hchain, hlast⟩
    obtain rfl := Option.some.inj hd
    exact ⟨hlower, Text.isUpper_asciiLower c⟩

/-- The words after a character, joined and split again: the underscore that was dropped if the
character is one comes back. -/
theorem splitWords_joinWords {c : Char} {cs : List Char}
    (hchain : (c :: cs).IsChain fun c d => follows c d = true)
    (hlast : (c :: cs).getLast? ≠ some '_') :
    splitWords (joinWords (c == '_') cs) = if c = '_' then '_' :: cs else cs := by
  -- for every character before the rest, since it decides whether a word begins there
  induction cs generalizing c with
  | nil =>
    have hc : c ≠ '_' := fun heq => hlast (congrArg some heq)
    rw [if_neg hc]
    rfl
  | cons d cs ih =>
    rw [List.isChain_cons_cons] at hchain
    rw [List.getLast?_cons_cons] at hlast
    have hrest := ih hchain.2 hlast
    have hd := hchain.1
    rw [follows] at hd
    by_cases hc : c = '_'
    · -- a word begins at `d`, whose capital brings the underscore back
      rw [if_pos hc] at hd ⊢
      have hne := ne_underscore_of_beginsWord hd
      rw [if_neg hne, beq_false_of_ne hne] at hrest
      rw [joinWords, if_neg hne, if_pos (beq_iff_eq.mpr hc), splitWords,
        if_pos (isUppercase_asciiUpper hd), hrest,
        Text.asciiLower_asciiUpper (not_isUpper_of_beginsWord hd)]
    · rw [if_neg hc, Bool.not_eq_true'] at hd
      rw [if_neg hc, joinWords]
      by_cases hne : d = '_'
      · rw [if_pos hne, beq_iff_eq.mpr hne] at hrest
        rw [if_pos hne, hrest, hne]
      · rw [if_neg hne, beq_false_of_ne hne] at hrest
        rw [if_neg hne, beq_false_of_ne hc, if_neg Bool.false_ne_true, splitWords, hd,
          if_neg Bool.false_ne_true, hrest,
          Text.asciiLower_of_not_isUpper (Text.not_isUpper_of_not_isUppercase hd)]

/-- A text in snake case comes back when its words are joined and split again. -/
theorem snakeVariant_joinWords {cs : List Char} (h : IsSnake cs) :
    snakeVariant (joinWords true cs) = cs := by
  cases cs with
  | nil => rfl
  | cons c cs =>
    obtain ⟨hc, hupper⟩ := h.first c rfl
    have hrest := splitWords_joinWords h.chain h.last
    rw [if_neg hc, beq_false_of_ne hc] at hrest
    rw [joinWords, if_neg hc, if_pos rfl, snakeVariant, hrest, Text.asciiLower_asciiUpper hupper]

/-! ## Hyphens for underscores -/

/-- A sign that is no underscore comes into no name by splitting it into words. -/
theorem notMem_splitWords {sign : Char} (hsign : sign.isAlpha = false) (hne : sign ≠ '_')
    {cs : List Char} (h : sign ∉ cs) : sign ∉ splitWords cs := by
  induction cs with
  | nil => exact List.not_mem_nil
  | cons c cs ih =>
    rw [List.mem_cons, not_or] at h
    have hc : sign ≠ Text.asciiLower c := (Text.asciiLower_ne hsign h.1).symm
    rw [splitWords]
    split
    · rw [List.mem_cons, List.mem_cons, not_or, not_or]
      exact ⟨hne, hc, ih h.2⟩
    · rw [List.mem_cons, not_or]
      exact ⟨hc, ih h.2⟩

/-- Snake case brings in no signs but underscores. -/
theorem notMem_snakeVariant {sign : Char} (hsign : sign.isAlpha = false) (hne : sign ≠ '_')
    {cs : List Char} (h : sign ∉ cs) : sign ∉ snakeVariant cs := by
  cases cs with
  | nil => exact List.not_mem_nil
  | cons c cs =>
    rw [List.mem_cons, not_or] at h
    rw [snakeVariant, List.mem_cons, not_or]
    exact ⟨(Text.asciiLower_ne hsign h.1).symm, notMem_splitWords hsign hne h.2⟩

/-- Where there were no hyphens before, the underscores can be put back. -/
theorem hyphens_injOn : Set.InjOn hyphens {cs | '-' ∉ cs} := by
  have hback : Set.LeftInvOn (List.map fun c => if c = '-' then '_' else c) hyphens
      {cs | '-' ∉ cs} := by
    intro cs hcs
    rw [hyphens, List.map_map]
    refine (List.map_congr_left fun c hc => ?_).trans (List.map_id cs)
    have hne : c ≠ '-' := fun heq => hcs (heq ▸ hc)
    by_cases hunderscore : c = '_'
    · simp [hunderscore]
    · simp [hunderscore, hne]
  exact hback.injOn

/-! ## The rules on names -/

/-- **Snake case.** Distinct Pascal names have distinct snake cases. -/
theorem snakeVariant_injOn : Set.InjOn snakeVariant {cs | IsPascal cs} :=
  Set.LeftInvOn.injOn fun _ h => joinWords_snakeVariant h

/-- Pascal case joins the words of a snake name. -/
theorem pascal_onField_snake (v : String) :
    (pascal.onField (snake.onVariant v)).toList = joinWords true (snakeVariant v.toList) := by
  rw [onField, onVariant, String.toList_ofList, String.toList_ofList]
  rfl

/-- Exactly the names that are written like those of variants come back. -/
theorem pascal_onField_snake_iff (v : String) :
    pascal.onField (snake.onVariant v) = v ↔ IsPascal v.toList := by
  rw [← String.toList_inj, pascal_onField_snake]
  constructor
  · intro h
    rw [← h]
    exact isPascal_joinWords _
  · exact joinWords_snakeVariant

/-- Snake case separates the words of a Pascal name. -/
theorem snake_onVariant_pascal (f : String) :
    (snake.onVariant (pascal.onField f)).toList = snakeVariant (joinWords true f.toList) := by
  rw [onField, onVariant, String.toList_ofList, String.toList_ofList]
  rfl

/-- Camel case of the snake case of a Pascal name is its camel case. -/
theorem camel_onField_snake {v : String} (h : IsPascal v.toList) :
    camel.onField (snake.onVariant v) = camel.onVariant v := by
  have hfield : camel.onField (snake.onVariant v) =
      String.ofList (lowerFirst (pascal.onField (snake.onVariant v)).toList) := by
    rw [onField, onField, String.toList_ofList]
    rfl
  rw [hfield, (pascal_onField_snake_iff v).mpr h]
  rfl

/-- The snake case rule leads from the names of variants to the names in snake case, one to one. -/
theorem snake_onVariant_bijOn :
    Set.BijOn snake.onVariant {v | IsPascal v.toList} {f | IsSnake f.toList} := by
  have hinv : Set.InvOn pascal.onField snake.onVariant {v | IsPascal v.toList}
      {f | IsSnake f.toList} := by
    refine ⟨fun v hv => (pascal_onField_snake_iff v).mpr hv, fun f hf => ?_⟩
    rw [← String.toList_inj, snake_onVariant_pascal, snakeVariant_joinWords hf]
  refine hinv.bijOn (fun v hv => ?_) (fun f _ => ?_)
  · rw [Set.mem_ofPred_eq, onVariant, String.toList_ofList]
    exact isSnake_snakeVariant hv
  · rw [Set.mem_ofPred_eq, onField, String.toList_ofList]
    exact isPascal_joinWords f.toList

/-- Distinct Pascal names without hyphens have distinct kebab cases. -/
theorem kebab_onVariant_injOn :
    Set.InjOn kebab.onVariant {v | IsPascal v.toList ∧ '-' ∉ v.toList} := by
  rintro v ⟨hv, hvplain⟩ w ⟨hw, hwplain⟩ heq
  have hhyphens : hyphens (snakeVariant v.toList) = hyphens (snakeVariant w.toList) :=
    String.ofList_injective heq
  have hsnake := hyphens_injOn (notMem_snakeVariant (by decide) (by decide) hvplain)
    (notMem_snakeVariant (by decide) (by decide) hwplain) hhyphens
  exact String.toList_inj.mp (snakeVariant_injOn hv hw hsnake)

end CaseRule

/-! ## Enumerations -/

namespace Source

/-- A variant that is not renamed is written out under the name that the rule gives it. -/
theorem VariantTree.serialName?_of_rename {v : VariantTree}
    (h : (Serial.ofAttributes v.attributes).rename = none) (rule : CaseRule) :
    v.serialName? (some rule) =
      if (Serial.ofAttributes v.attributes).skip then none else some (rule.onVariant v.name) := by
  have hname : serialName (Serial.ofAttributes v.attributes) (some rule) CaseRule.onVariant v.name =
      rule.onVariant v.name := by
    simp only [serialName, h]
  rw [serialName?, hname]

/-- Variants have different names when they are written out by a rule that tells their own names
apart. -/
theorem nodup_serialNames {rule : CaseRule} {names : Set String}
    (hrule : Set.InjOn rule.onVariant names) {variants : List VariantTree}
    (hdistinct : variants.Pairwise fun v w => v.name ≠ w.name)
    (hnames : ∀ v ∈ variants, v.name ∈ names)
    (hplain : ∀ v ∈ variants, (Serial.ofAttributes v.attributes).rename = none) :
    (variants.filterMap (VariantTree.serialName? (some rule))).Nodup := by
  rw [List.Nodup, List.pairwise_filterMap]
  apply hdistinct.imp_of_mem
  intro v w hv hw hne name hname name' hname' heq
  rw [v.serialName?_of_rename (hplain v hv), Option.ite_none_left_eq_some] at hname
  rw [w.serialName?_of_rename (hplain w hw), Option.ite_none_left_eq_some] at hname'
  apply hne
  apply hrule (hnames v hv) (hnames w hw)
  rw [Option.some.inj hname.2, Option.some.inj hname'.2, heq]

/-- If a rule tells the names of the variants apart, an enumeration that is written out by it has as
many different names as variants that are not skipped. -/
theorem enumBodyOf_of_injOn {rule : CaseRule} {names : Set String}
    (hrule : Set.InjOn rule.onVariant names) {attributes : List Attribute}
    {variants : List VariantTree}
    (hcontainer : (Serial.ofAttributes attributes).renameAll = some rule)
    (hunit : variants.all VariantTree.isUnit = true)
    (hdistinct : variants.Pairwise fun v w => v.name ≠ w.name)
    (hnames : ∀ v ∈ variants, v.name ∈ names)
    (hplain : ∀ v ∈ variants, (Serial.ofAttributes v.attributes).rename = none) :
    ∃ written, enumBodyOf attributes variants = .enum written ∧ written.Nodup ∧
      written.length = variants.countP fun v => !(Serial.ofAttributes v.attributes).skip := by
  refine ⟨_, ?_, nodup_serialNames hrule hdistinct hnames hplain, ?_⟩
  · rw [enumBodyOf, if_pos hunit]
    simp only [hcontainer]
  · rw [List.length_filterMap_eq_countP]
    apply List.countP_congr
    intro v hv
    rw [v.serialName?_of_rename (hplain v hv)]
    cases (Serial.ofAttributes v.attributes).skip with
    | false => exact Iff.rfl
    | true => exact Iff.rfl

end Source

namespace CaseRule

open Source

/-- **Variants and fields.** A name comes back from the snake case rule for variants by the Pascal
case rule for fields if and only if it is written like the name of a variant: without underscores,
and with no small ASCII letter first. The camel case rule for fields then gives what the camel case
rule for variants gives at once. The names of variants and the names in snake case are in one-to-one
correspondence. In kebab case, too, different names without hyphens are written differently. So an
enumeration by one of the two rules has a name of its own for each variant that is written out. -/
theorem variant_and_field_rules_inverse :
    (∀ v : String, pascal.onField (snake.onVariant v) = v ↔ IsPascal v.toList) ∧
    (∀ v : String, IsPascal v.toList → camel.onField (snake.onVariant v) = camel.onVariant v) ∧
    Set.BijOn snake.onVariant {v | IsPascal v.toList} {f | IsSnake f.toList} ∧
    Set.InjOn kebab.onVariant {v | IsPascal v.toList ∧ '-' ∉ v.toList} ∧
    ∀ (attributes : List Attribute) (variants : List VariantTree),
      variants.all VariantTree.isUnit = true →
      (variants.Pairwise fun v w => v.name ≠ w.name) →
      (∀ v ∈ variants, IsPascal v.name.toList) →
      (∀ v ∈ variants, (Serial.ofAttributes v.attributes).rename = none) →
      (Serial.ofAttributes attributes).renameAll = some snake ∨
        (Serial.ofAttributes attributes).renameAll = some kebab ∧
          (∀ v ∈ variants, '-' ∉ v.name.toList) →
      ∃ written, enumBodyOf attributes variants = .enum written ∧ written.Nodup ∧
        written.length = variants.countP fun v => !(Serial.ofAttributes v.attributes).skip := by
  refine ⟨pascal_onField_snake_iff, fun v => camel_onField_snake, snake_onVariant_bijOn,
    kebab_onVariant_injOn, ?_⟩
  intro attributes variants hunit hdistinct hnames hplain hrule
  rcases hrule with hsnake | ⟨hkebab, hhyphens⟩
  · exact enumBodyOf_of_injOn snake_onVariant_bijOn.injOn hsnake hunit hdistinct hnames hplain
  · exact enumBodyOf_of_injOn kebab_onVariant_injOn hkebab hunit hdistinct
      (fun v hv => ⟨hnames v hv, hhyphens v hv⟩) hplain

/-- The attribute `serde(rename_all = "kebab-case")`. -/
def kebabAttribute : Attribute :=
  ⟨false, some "serde", .list [.word ⟨"rename_all", false, rfl⟩, .mark '=' false,
    .literal ⟨"\"kebab-case\"", .string "kebab-case"⟩]⟩

/-- Three variants, two of which differ only in a capital letter. -/
def stockVariants : List VariantTree :=
  [⟨[], "InStock", .unit⟩, ⟨[], "SoldOut", .unit⟩, ⟨[], "Soldout", .unit⟩]

/-- A name with a capital letter beyond ASCII and a run of capitals, and an enumeration in kebab
case. -/
theorem variant_and_field_rules_inverse_stockVariants :
    IsPascal "ÉtatHTTP2x".toList ∧ snake.onVariant "ÉtatHTTP2x" = "État_h_t_t_p2x" ∧
    pascal.onField "État_h_t_t_p2x" = "ÉtatHTTP2x" ∧
    camel.onField "État_h_t_t_p2x" = "étatHTTP2x" ∧
    IsSnake "État_h_t_t_p2x".toList ∧
    kebab.onVariant "SoldOut" ≠ kebab.onVariant "Soldout" ∧
    ∃ written, enumBodyOf [kebabAttribute] stockVariants = .enum written ∧ written.Nodup ∧
      written.length = 3 := by
  obtain ⟨hpascal, hcamel, hsnake, hkebab, henum⟩ := variant_and_field_rules_inverse
  have hname : IsPascal "ÉtatHTTP2x".toList := by decide +kernel
  have hwritten : snake.onVariant "ÉtatHTTP2x" = "État_h_t_t_p2x" := by decide +kernel
  have hback := (hpascal "ÉtatHTTP2x").mpr hname
  have hfirst := hcamel "ÉtatHTTP2x" hname
  have himage := hsnake.mapsTo hname
  rw [Set.mem_ofPred_eq, hwritten] at himage
  rw [hwritten] at hback hfirst
  refine ⟨hname, hwritten, hback, hfirst.trans (by decide +kernel), himage, fun heq => ?_, ?_⟩
  · have hsame := hkebab ⟨by decide +kernel, by decide +kernel⟩
      ⟨by decide +kernel, by decide +kernel⟩ heq
    exact absurd hsame (by decide)
  · exact henum [kebabAttribute] stockVariants (by decide) (by decide) (by decide +kernel)
      (by decide) (.inr ⟨by decide +kernel, by decide +kernel⟩)

end CaseRule

end ApiDocs
