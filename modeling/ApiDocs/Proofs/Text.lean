import ApiDocs.Proofs.Directive.Inheritance
import ApiDocs.Proofs.Source.Names
import ApiDocs.Text.Word

/-!
# Blanks, words and lower case

No blank is a word character, so that words and the white space between them are divided in one way
only (`takeWhile_dropWhile_eq_iff`). Trimming drops the white space around a text and nothing of the
text (`trimChars_append`). The lower-case form of a text is empty only if the text is, keeps its
blanks, and has an at sign only where the text has one.
-/

namespace ApiDocs.Text

/-! ## Words and blanks -/

theorem not_isWord_of_isBlank {c : Char} (h : isBlank c = true) : isWord c = false := by
  have hall : ∀ n ∈ blankCodes, isWord (Char.ofNat n) = false := by decide +kernel
  rw [← Char.ofNat_toNat c]
  exact hall c.toNat (mem_blankCodes h)

/-- A text is divided in one way only into a front with some characters and a rest that starts with
another one. -/
theorem takeWhile_dropWhile_eq_iff {p : Char → Bool} {cs front rest : List Char} :
    cs.takeWhile p = front ∧ cs.dropWhile p = rest ↔
      cs = front ++ rest ∧ (∀ c ∈ front, p c = true) ∧ ∀ c ∈ rest.head?, p c = false := by
  constructor
  · rintro ⟨rfl, rfl⟩
    refine ⟨List.takeWhile_append_dropWhile.symm, fun c hc => List.mem_takeWhile_imp hc, ?_⟩
    intro c hc
    exact Bool.eq_false_iff.mpr (not_of_mem_head?_dropWhile hc)
  · rintro ⟨rfl, hfront, hrest⟩
    rw [List.takeWhile_append_of_pos hfront, List.dropWhile_append_of_pos hfront]
    cases rest with
    | nil => exact ⟨List.append_nil front, rfl⟩
    | cons c rest =>
      have hc : ¬ p c = true := Bool.eq_false_iff.mp (hrest c rfl)
      rw [List.takeWhile_cons_of_neg hc, List.dropWhile_cons_of_neg hc]
      exact ⟨List.append_nil front, rfl⟩

/-- Whether a text has something in it and no white space at its ends. -/
structure IsTight (cs : List Char) : Prop where
  /-- There is something. -/
  ne_nil : cs ≠ []
  /-- The beginning. -/
  head : ∀ c ∈ cs.head?, isBlank c = false
  /-- The end. -/
  last : ∀ c ∈ cs.getLast?, isBlank c = false

/-- A text without white space has none at its ends. -/
theorem IsTight.of_forall {cs : List Char} (hne : cs ≠ [])
    (h : ∀ c ∈ cs, isBlank c = false) : IsTight cs :=
  ⟨hne, fun c hc => h c (List.mem_of_mem_head? hc), fun c hc => h c (List.mem_of_mem_getLast? hc)⟩

/-- What stands at the ends decides, whatever is in between. -/
theorem IsTight.append {front back : List Char} (hfront : IsTight front) (middle : List Char)
    (hback : IsTight back) : IsTight (front ++ middle ++ back) := by
  refine ⟨fun hnil => hback.ne_nil (List.append_eq_nil_iff.mp hnil).2, ?_, ?_⟩
  · intro c hc
    rw [List.append_assoc, List.head?_append_of_ne_nil _ hfront.ne_nil] at hc
    exact hfront.head c hc
  · intro c hc
    rw [List.getLast?_append_of_ne_nil _ hback.ne_nil] at hc
    exact hback.last c hc

/-! ## Trimming -/

/-- Trimming drops the white space around a text, and no more. -/
theorem trimChars_append {lead cs trail : List Char} (hlead : ∀ c ∈ lead, isBlank c = true)
    (h : IsTight cs) (htrail : ∀ c ∈ trail, isBlank c = true) :
    trimChars (lead ++ cs ++ trail) = cs := by
  have hfront : (lead ++ (cs ++ trail)).dropWhile isBlank = cs ++ trail := by
    refine (takeWhile_dropWhile_eq_iff.mpr ⟨rfl, hlead, ?_⟩).2
    rw [List.head?_append_of_ne_nil _ h.ne_nil]
    exact h.head
  have hback : (trail.reverse ++ cs.reverse).dropWhile isBlank = cs.reverse := by
    refine (takeWhile_dropWhile_eq_iff.mpr ⟨rfl, ?_, ?_⟩).2
    · exact fun c hc => htrail c (List.mem_reverse.mp hc)
    · rw [List.head?_reverse]
      exact h.last
  rw [trimChars, stripWhile, List.append_assoc, hfront, dropEndWhile, List.reverse_append, hback,
    List.reverse_reverse]

/-- Nothing is trimmed where there is no white space at the ends. -/
theorem trimChars_of_isTight {cs : List Char} (h : IsTight cs) : trimChars cs = cs := by
  have htrim : trimChars ([] ++ cs ++ []) = cs := trimChars_append nofun h nofun
  rwa [List.nil_append, List.append_nil] at htrim

/-! ## Lower case -/

theorem eq_of_ofNat_eq_at {n : Nat} (h : Char.ofNat n = '@') : n = 64 := by
  by_cases hvalid : n.isValidChar
  · rw [Char.ofNat, dif_pos hvalid] at h
    exact congrArg Char.toNat h
  · rw [Char.ofNat, dif_neg hvalid] at h
    cases h

/-- No other character has an at sign in its lower-case form. -/
theorem eq_of_at_mem_lowerChar {c : Char} (h : '@' ∈ lowerChar c) : c = '@' := by
  unfold lowerChar at h
  split at h
  · have heq := List.mem_singleton.mp h
    unfold asciiLower at heq
    split at heq
    · rename_i hupper
      have hcode := eq_of_ofNat_eq_at heq.symm
      have hleast : 65 ≤ c.toNat := hupper.1
      omega
    · exact heq.symm
  · split at h
    · exact absurd h (by decide)
    · split at h
      · rename_i run shift hfind
        -- the code point from which a shift would lead to the sign is in none of the runs
        have hmiss : (caseShifts.all fun s => !s.1.contains (64 - s.2).toNat) = true := by
          decide +kernel
        have hcode := eq_of_ofNat_eq_at (List.mem_singleton.mp h).symm
        have hback : ((64 : Int) - shift).toNat = c.toNat := by omega
        have hhit := List.find?_some hfind
        have hnot := List.all_eq_true.mp hmiss _ (List.mem_of_find?_eq_some hfind)
        simp only [hback, hhit] at hnot
        cases hnot
      · exact (List.mem_singleton.mp h).symm

theorem lowerChar_of_isBlank {c : Char} (h : isBlank c = true) : lowerChar c = [c] := by
  have hall : ∀ n ∈ blankCodes, lowerChar (Char.ofNat n) = [Char.ofNat n] := by decide +kernel
  rw [← Char.ofNat_toNat c]
  exact hall c.toNat (mem_blankCodes h)

/-- Blanks stay in the lower-case form of a text. -/
theorem mem_lowerFrom_of_isBlank {c : Char} (h : isBlank c = true) {before cs : List Char}
    (hc : c ∈ cs) : c ∈ lowerFrom before cs := by
  induction cs generalizing before with
  | nil => cases hc
  | cons d cs ih =>
    rw [lowerFrom]
    rcases List.mem_cons.mp hc with rfl | hc
    · have hsigma : c ≠ 'Σ' := by
        rintro rfl
        cases h
      rw [if_neg hsigma, lowerChar_of_isBlank h]
      exact List.mem_cons_self
    · exact List.mem_append_right _ (ih hc)

theorem lowerChar_ne_nil (c : Char) : lowerChar c ≠ [] := by
  unfold lowerChar
  split
  · exact List.cons_ne_nil _ _
  · split
    · exact List.cons_ne_nil _ _
    · split <;> exact List.cons_ne_nil _ _

/-- Lower case takes nothing away, wherever a text stands. -/
theorem lowerFrom_eq_nil_iff {before cs : List Char} : lowerFrom before cs = [] ↔ cs = [] := by
  cases cs with
  | nil => exact ⟨fun _ => rfl, fun _ => rfl⟩
  | cons c cs =>
    rw [lowerFrom, List.append_eq_nil_iff]
    refine ⟨fun ⟨hnil, _⟩ => absurd hnil ?_, nofun⟩
    split
    · exact List.cons_ne_nil _ _
    · exact lowerChar_ne_nil c

/-- Only the empty text has an empty lower case. -/
theorem lower_eq_empty_iff {s : String} : lower s = "" ↔ s = "" := by
  rw [lower, ← String.toList_eq_nil_iff, String.toList_ofList, lowerFrom_eq_nil_iff,
    String.toList_eq_nil_iff]

/-- A text starts with an at sign if its lower-case form does. -/
theorem head?_of_head?_lowerFrom {before cs : List Char}
    (h : (lowerFrom before cs).head? = some '@') : cs.head? = some '@' := by
  cases cs with
  | nil => cases h
  | cons c cs =>
    rw [lowerFrom] at h
    split at h
    · split at h <;> cases h
    · rw [List.head?_append_of_ne_nil _ (lowerChar_ne_nil c)] at h
      rw [List.head?_cons, eq_of_at_mem_lowerChar (List.mem_of_mem_head? h)]

end ApiDocs.Text
