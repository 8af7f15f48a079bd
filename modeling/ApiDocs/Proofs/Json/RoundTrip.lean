import ApiDocs.Json.Printer
import ApiDocs.Json.Reader
import Mathlib.Data.List.Nodup
import Mathlib.Tactic.Common
import Mathlib.Tactic.SplitIfs

/-!
# Reading JSON text that was written

The text of a value is read back as that value, in every style that sets its parts apart by blanks.
This needs that the numbers in it read back, that no object has a name twice, and that it is not
deeper than the reader goes (`Readable`). The main statement is `readValue_render`, for a text that
may go on after the value; `parse?_render` is about a text that ends there.
-/

namespace ApiDocs.Json

/-! ## Blanks -/

theorem skipGap_append {gap : List Char} (h : ∀ c ∈ gap, isGap c) (cs : List Char) :
    skipGap (gap ++ cs) = skipGap cs :=
  List.dropWhile_append_of_pos h

theorem skipGap_cons {c : Char} (h : isGap c = false) (cs : List Char) :
    skipGap (c :: cs) = c :: cs :=
  List.dropWhile_cons_of_neg (by simp [h])

/-- Whether a style sets parts apart by blanks, and names from their values by a colon. -/
structure Style.IsBlank (style : Style) : Prop where
  /-- Before items and closing brackets there are blanks. -/
  lineBreak : ∀ depth, ∀ c ∈ style.lineBreak depth, isGap c
  /-- After a name there are a colon and blanks. -/
  colon : ∃ gap, style.colon = ':' :: gap ∧ ∀ c ∈ gap, isGap c

/-- The compact style has no blanks at all. -/
theorem Style.compact_isBlank : Style.compact.IsBlank :=
  ⟨fun _ => nofun, [], rfl, nofun⟩

/-- The indented style has line breaks and spaces only. -/
theorem Style.indented_isBlank (width : Nat) : (Style.indented width).IsBlank := by
  refine ⟨fun depth c hc => ?_, [' '], rfl, ?_⟩
  · rcases List.mem_cons.mp hc with rfl | hblank
    · rfl
    · rw [List.eq_of_mem_replicate hblank]
      rfl
  · intro c hc
    rw [List.mem_singleton.mp hc]
    rfl

/-! ## Texts -/

theorem hexValue?_hexDigit : ∀ n < 16, hexValue? (hexDigit n) = some n := by
  decide

/-- The code of a control character is read back from its four digits. -/
theorem hex4?_hexDigit {n : Nat} (h : n < 32) :
    hex4? '0' '0' (hexDigit (n / 16)) (hexDigit (n % 16)) = some n := by
  have hhigh := hexValue?_hexDigit (n / 16) (by omega)
  have hlow := hexValue?_hexDigit (n % 16) (by omega)
  have hzero : hexValue? '0' = some 0 := rfl
  have hsum : ((0 * 16 + 0) * 16 + n / 16) * 16 + n % 16 = n := by omega
  simp only [hex4?, hzero, hhigh, hlow, Option.bind_eq_bind, Option.bind_some, hsum]
  rfl

/-- An escaped character is read as the character. -/
theorem readText_escapeChar (c : Char) (acc rest : List Char) :
    readText acc (escapeChar c ++ rest) = readText (c :: acc) rest := by
  unfold escapeChar
  split_ifs with hquote hslash hline hreturn htab hback hform hcontrol
  · rw [hquote]
    rfl
  · rw [hslash]
    rfl
  · rw [hline]
    rfl
  · rw [hreturn]
    rfl
  · rw [htab]
    rfl
  · rw [← Char.ofNat_toNat c, hback]
    rfl
  · rw [← Char.ofNat_toNat c, hform]
    rfl
  · -- one unit stands for the character, since it is below the units that come in pairs
    have htrailing : isTrailing c.toNat = false := by
      simp only [isTrailing, Bool.and_eq_false_iff, decide_eq_false_iff_not]
      omega
    have hleading : isLeading c.toNat = false := by
      simp only [isLeading, Bool.and_eq_false_iff, decide_eq_false_iff_not]
      omega
    simp only [List.cons_append, List.nil_append]
    rw [readText, hex4?_hexDigit hcontrol]
    simp only [htrailing, hleading, Bool.false_eq_true, if_false, Char.ofNat_toNat]
  · rw [List.singleton_append, readText]
    · simp [hcontrol, hslash]
    · exact fun h => hquote h
    · intro _ _ _ _ _ h
      exact absurd h hslash
    · intro _ _ h
      exact absurd h hslash

/-- **Texts.** What is escaped character by character is read back up to the closing quote. -/
theorem readText_flatMap_escapeChar (cs acc rest : List Char) :
    readText acc (cs.flatMap escapeChar ++ '"' :: rest) =
      some (String.ofList (acc.reverse ++ cs), rest) := by
  induction cs generalizing acc with
  | nil =>
    rw [List.flatMap_nil, List.nil_append, List.append_nil]
    rfl
  | cons c cs ih =>
    rw [List.flatMap_cons, List.append_assoc, readText_escapeChar, ih, List.reverse_cons,
      List.append_assoc, List.singleton_append]

/-- A quoted text is read back. -/
theorem readText_quote (s : String) (rest : List Char) :
    ∃ cs, quote s ++ rest = '"' :: cs ∧ readText [] cs = some (s, rest) := by
  refine ⟨s.toList.flatMap escapeChar ++ '"' :: rest, ?_, ?_⟩
  · rw [quote, List.cons_append, List.append_assoc, List.singleton_append]
  · rw [readText_flatMap_escapeChar, List.reverse_nil, List.nil_append, String.ofList_toList]

/-! ## Numbers -/

/-- Whether a character may belong to a number that was begun. -/
def goesOn (c : Char) : Bool :=
  c.isDigit || c == '.' || c == 'e' || c == 'E'

/-- Whether a text goes on with something that is no part of a number. -/
def EndsNumber (cs : List Char) : Prop :=
  ∀ c ∈ cs.head?, goesOn c = false

theorem goesOn_of_isGap {c : Char} (h : isGap c) : goesOn c = false := by
  simp only [isGap, Bool.or_eq_true, beq_iff_eq] at h
  rcases h with ((rfl | rfl) | rfl) | rfl <;> rfl

theorem endsNumber_nil : EndsNumber [] :=
  nofun

theorem endsNumber_cons {c : Char} (h : goesOn c = false) (cs : List Char) :
    EndsNumber (c :: cs) := by
  intro c' hc'
  rw [← Option.some.inj hc']
  exact h

/-- Blanks before such a text end a number as well. -/
theorem EndsNumber.append {gap cs : List Char} (h : EndsNumber cs) (hgap : ∀ c ∈ gap, isGap c) :
    EndsNumber (gap ++ cs) := by
  cases gap with
  | nil => exact h
  | cons c gap => exact endsNumber_cons (goesOn_of_isGap (hgap c List.mem_cons_self)) _

/-- Whether a number is read back from its text. -/
structure Number.ReadsBack (n : Number) : Prop where
  /-- The text starts with a digit or a sign. -/
  starts : ∃ c cs, n.chars = c :: cs ∧ (c.isDigit ∨ c = '-')
  /-- It is read back. -/
  reads : ∀ rest, EndsNumber rest → readNumber (n.chars ++ rest) = some (n, rest)

/-- The digits of a number are taken as far as they go. -/
theorem takeDigits_natChars (n : Nat) {rest : List Char} (h : EndsNumber rest) :
    takeDigits (natChars n ++ rest) = (natChars n, rest) := by
  have hdigits : ∀ c ∈ natChars n, c.isDigit = true := fun c hc =>
    Nat.isDigit_of_mem_toDigits (by decide) (by decide) hc
  rw [takeDigits, List.takeWhile_append_of_pos hdigits, List.dropWhile_append_of_pos hdigits]
  cases rest with
  | nil => rw [List.takeWhile_nil, List.dropWhile_nil, List.append_nil]
  | cons c rest =>
    have hc : ¬ c.isDigit = true := by
      have hends := h c rfl
      simp only [goesOn, Bool.or_eq_false_iff] at hends
      simp [hends.1]
    rw [List.takeWhile_cons_of_neg hc, List.dropWhile_cons_of_neg hc, List.append_nil]

/-- Reading on makes a number no smaller, so an overflow is never undone by later digits. -/
theorem le_ofDigitChars (digits : List Char) (acc : Nat) :
    acc ≤ Nat.ofDigitChars 10 digits acc := by
  induction digits generalizing acc with
  | nil => exact Nat.le_refl acc
  | cons c digits ih =>
    have hrest := ih (10 * acc + (c.toNat - '0'.toNat))
    exact Nat.le_trans (by omega) hrest

/-- Digits of a number of 64 bits are all read. -/
theorem appendDigits_eq {digits : List Char} {acc : Nat}
    (h : Nat.ofDigitChars 10 digits acc ≤ maxWhole) :
    appendDigits acc digits = (Nat.ofDigitChars 10 digits acc, 0) := by
  induction digits generalizing acc with
  | nil => rfl
  | cons c digits ih =>
    have hgrown : acc * 10 + digitValue c = 10 * acc + (c.toNat - '0'.toNat) := by
      rw [Nat.mul_comm]
      rfl
    have hle := le_ofDigitChars digits (10 * acc + (c.toNat - '0'.toNat))
    rw [appendDigits, hgrown]
    change (if maxWhole < 10 * acc + (c.toNat - '0'.toNat) then _ else _) = _
    rw [if_neg (Nat.not_lt.mpr (Nat.le_trans hle h))]
    exact ih h

/-- A natural number has no leading zero. -/
theorem natChars_cons (n : Nat) : ∃ c cs, natChars n = c :: cs ∧ (c = '0' → n = 0) := by
  induction n using Nat.strongRecOn with
  | ind n ih =>
    by_cases hsmall : n < 10
    · refine ⟨n.digitChar, [], Nat.toDigits_of_lt_base hsmall, fun hzero => ?_⟩
      have hchar := Nat.toNat_digitChar_of_lt_ten hsmall
      rw [hzero] at hchar
      have : ('0' : Char).toNat = 48 := rfl
      omega
    · obtain ⟨c, cs, hchars, hzero⟩ := ih (n / 10) (by omega)
      refine ⟨c, cs ++ [(n % 10).digitChar], ?_, fun hc => ?_⟩
      · rw [natChars, Nat.toDigits_of_base_le (by decide) (by omega)]
        rw [natChars] at hchars
        rw [hchars, List.cons_append]
      · have := hzero hc
        omega

/-- A number within the bound is read back from its digits. -/
theorem readUnsigned_natChars {n : Nat} (h : n ≤ maxWhole) {rest : List Char}
    (hrest : EndsNumber rest) :
    readUnsigned false (natChars n ++ rest) = some (.whole n, rest) := by
  have hvalue : Nat.ofDigitChars 10 (natChars n) 0 = n :=
    Nat.ofDigitChars_toDigits (by decide) (by decide)
  have happend : appendDigits 0 (natChars n) = (n, 0) := by
    rw [appendDigits_eq (by rw [hvalue]; exact h), hvalue]
  unfold readUnsigned
  rw [takeDigits_natChars n hrest]
  split
  · rename_i heq
    obtain ⟨c, cs, hchars, -⟩ := natChars_cons n
    rw [hchars] at heq
    cases heq
  · rename_i heq
    obtain ⟨c, cs, hchars, hzero⟩ := natChars_cons n
    have hdigits := (Prod.mk.inj heq).1
    rw [hchars] at hdigits
    rw [hzero (List.cons.inj hdigits).1] at hchars
    cases hchars.symm.trans (show natChars 0 = ['0'] from rfl)
    cases hdigits
  · rename_i heq
    obtain ⟨rfl, rfl⟩ := Prod.mk.inj heq
    simp only [happend]
    split
    · exact absurd (hrest '.' rfl) (by decide)
    · exact absurd (hrest 'e' rfl) (by decide)
    · exact absurd (hrest 'E' rfl) (by decide)
    · rfl

/-- Natural numbers of 64 bits are read back. -/
theorem Number.readsBack_natCast {n : Nat} (h : n ≤ maxWhole) :
    (Number.whole n).ReadsBack := by
  have hchars : (Number.whole n).chars = natChars n := by
    rw [chars, intChars, if_neg (by omega), Int.natAbs_natCast]
  obtain ⟨c, cs, heq, -⟩ := natChars_cons n
  have hdigit : c.isDigit = true :=
    Nat.isDigit_of_mem_toDigits (by decide) (by decide) (heq ▸ List.mem_cons_self)
  refine ⟨⟨c, cs, hchars.trans heq, Or.inl hdigit⟩, fun rest hrest => ?_⟩
  have hread := readUnsigned_natChars h hrest
  rw [hchars, readNumber]
  · exact hread
  · intro rest' hsign
    rw [heq, List.cons_append] at hsign
    rw [(List.cons.inj hsign).1] at hdigit
    cases hdigit

/-! ## Members -/

/-- A member with a new name goes to the end. -/
theorem put_of_notMem {name : String} {value : Json} {members : List (String × Json)}
    (h : name ∉ members.map Prod.fst) : put name value members = members ++ [(name, value)] := by
  induction members with
  | nil => rfl
  | cons member rest ih =>
    obtain ⟨key, old⟩ := member
    rw [List.map_cons, List.mem_cons, not_or] at h
    rw [put, if_neg (Ne.symm h.1), ih h.2, List.cons_append]

theorem foldl_put_append (acc members : List (String × Json))
    (h : ((acc ++ members).map Prod.fst).Nodup) :
    members.foldl (fun acc (name, value) => put name value acc) acc = acc ++ members := by
  induction members generalizing acc with
  | nil => rw [List.foldl_nil, List.append_nil]
  | cons member rest ih =>
    obtain ⟨name, value⟩ := member
    rw [List.append_cons] at h
    have hfirst : name ∉ acc.map Prod.fst := by
      rw [List.map_append, List.map_append] at h
      have hnodup := (List.nodup_append.mp h).1
      intro hmem
      exact (List.nodup_append.mp hnodup).2.2 _ hmem _ List.mem_cons_self rfl
    calc rest.foldl (fun acc (name, value) => put name value acc) (put name value acc)
        = rest.foldl (fun acc (name, value) => put name value acc) (acc ++ [(name, value)]) := by
          rw [put_of_notMem hfirst]
      _ = acc ++ [(name, value)] ++ rest := ih _ h
      _ = acc ++ (name, value) :: rest := (List.append_cons _ _ _).symm

/-- Members with different names are read as they stand. -/
theorem mergeMembers_of_nodup {members : List (String × Json)}
    (h : (members.map Prod.fst).Nodup) : mergeMembers members = members :=
  foldl_put_append [] members h

/-! ## Values -/

/-- Whether a value is read back by a reader that may open `depth` arrays and objects. -/
inductive Readable : Nat → Json → Prop where
  /-- `null` is. -/
  | null (depth : Nat) : Readable depth .null
  /-- `true` and `false` are. -/
  | bool (depth : Nat) (b : Bool) : Readable depth (.bool b)
  /-- Texts are. -/
  | string (depth : Nat) (s : String) : Readable depth (.string s)
  /-- Numbers are that read back. -/
  | number (depth : Nat) {n : Number} (h : n.ReadsBack) : Readable depth (.number n)
  /-- Arrays of such values are. -/
  | array {depth : Nat} {items : List Json} (h : ∀ item ∈ items, Readable depth item) :
    Readable (depth + 1) (.array items)
  /-- Objects of such values with different names are. -/
  | object {depth : Nat} {members : List (String × Json)} (hnames : (members.map Prod.fst).Nodup)
    (h : ∀ member ∈ members, Readable depth member.2) : Readable (depth + 1) (.object members)

/-- What a value starts with: no blank and no closing bracket. -/
def isOpening (c : Char) : Bool :=
  !isGap c && c != ']'

/-- A number starts with a character that starts no other value. -/
theorem isOpening_of_number {c : Char} (h : c.isDigit ∨ c = '-') :
    isOpening c ∧ c ≠ '[' ∧ c ≠ '\x7b' ∧ c ≠ 'n' ∧ c ≠ 't' ∧ c ≠ 'f' ∧ c ≠ '"' := by
  rcases h with hdigit | rfl
  · have hne : ∀ c' : Char, c'.isDigit = false → c ≠ c' := by
      rintro c' hc' rfl
      rw [hdigit] at hc'
      cases hc'
    refine ⟨?_, hne _ rfl, hne _ rfl, hne _ rfl, hne _ rfl, hne _ rfl, hne _ rfl⟩
    simp [isOpening, isGap, hne ' ' rfl, hne '\n' rfl, hne '\t' rfl, hne '\r' rfl, hne ']' rfl]
  · decide

theorem render_eq_cons {depth : Nat} {j : Json} (h : Readable depth j) (style : Style)
    (level : Nat) : ∃ c cs, render style level j = c :: cs ∧ isOpening c := by
  cases h with
  | null => exact ⟨'n', _, by rw [render], rfl⟩
  | bool _ b => cases b <;> exact ⟨_, _, by rw [render], rfl⟩
  | string _ s => exact ⟨'"', _, by rw [render, quote], rfl⟩
  | number _ hn =>
    obtain ⟨c, cs, hchars, hc⟩ := hn.starts
    exact ⟨c, cs, by rw [render, hchars], (isOpening_of_number hc).1⟩
  | @array _ items _ => cases items <;> exact ⟨'[', _, by rw [render], rfl⟩
  | @object _ members _ _ => cases members <;> exact ⟨'\x7b', _, by rw [render], rfl⟩

theorem isGap_of_isOpening {c : Char} (h : isOpening c) : isGap c = false := by
  simp only [isOpening, Bool.and_eq_true, Bool.not_eq_true'] at h
  exact h.1

/-- An opening character does not close an array. -/
theorem ne_of_isOpening {c : Char} (h : isOpening c) : c ≠ ']' := by
  simp only [isOpening, Bool.and_eq_true, bne_iff_ne] at h
  exact h.2

/-- Blanks before a value are skipped. -/
theorem skipGap_render {depth : Nat} {j : Json} (h : Readable depth j) (style : Style)
    (level : Nat) {gap : List Char} (hgap : ∀ c ∈ gap, isGap c) (rest : List Char) :
    skipGap (gap ++ (render style level j ++ rest)) = render style level j ++ rest := by
  obtain ⟨c, cs, hrender, hc⟩ := render_eq_cons h style level
  rw [skipGap_append hgap, hrender, List.cons_append, skipGap_cons (isGap_of_isOpening hc)]

/-- Blanks before a quoted text are skipped, and the text is left as it is. -/
theorem skipGap_quote (s : String) {gap : List Char} (hgap : ∀ c ∈ gap, isGap c)
    (rest : List Char) : skipGap (gap ++ (quote s ++ rest)) = quote s ++ rest := by
  rw [skipGap_append hgap, quote, List.cons_append, skipGap_cons rfl]

/-- Whether a reader reads a value back that is written at a level. -/
def ReadsAt (item : ValueReader) (style : Style) (level : Nat) (j : Json) : Prop :=
  ∀ rest, EndsNumber rest → item (render style level j ++ rest) = some (j, rest)

section Items

variable {style : Style} {item : ValueReader} {depth level : Nat}

/-- What follows an item is no part of a number. -/
theorem endsNumber_renderItems (hstyle : style.IsBlank) (items : List Json) (level level' : Nat)
    (rest : List Char) :
    EndsNumber (renderItems style level items ++ (style.lineBreak level' ++ ']' :: rest)) := by
  cases items with
  | nil =>
    rw [renderItems, List.nil_append]
    exact (endsNumber_cons rfl rest).append (hstyle.lineBreak level')
  | cons j items =>
    rw [renderItems]
    exact endsNumber_cons rfl _

/-- Each item takes a character at least, so the length of the text bounds their number. -/
theorem length_le_renderItems (style : Style) (level : Nat) (items : List Json) :
    items.length ≤ (renderItems style level items).length := by
  induction items with
  | nil => exact Nat.zero_le _
  | cons j items ih =>
    rw [renderItems]
    simp only [List.length_cons, List.length_append]
    omega

/-- The items after the first one are read back up to the closing bracket, if each of them is. -/
theorem readItems_renderItems (hstyle : style.IsBlank) {items : List Json} (level' : Nat)
    (hreadable : ∀ j ∈ items, Readable depth j) (hreads : ∀ j ∈ items, ReadsAt item style level j)
    (fuel : Nat) (hfuel : items.length < fuel) (rest : List Char) :
    readItems item fuel (renderItems style level items ++
      (style.lineBreak level' ++ ']' :: rest)) = some (items, rest) := by
  induction items generalizing fuel with
  | nil =>
    obtain ⟨fuel, rfl⟩ := Nat.exists_eq_add_of_lt hfuel
    rw [renderItems, List.nil_append, readItems, skipGap_append (hstyle.lineBreak level'),
      skipGap_cons rfl]
    rfl
  | cons j items ih =>
    obtain ⟨fuel, rfl⟩ := Nat.exists_eq_add_of_lt hfuel
    have hrest := ih (fun j hj => hreadable j (List.mem_cons_of_mem _ hj))
      (fun j hj => hreads j (List.mem_cons_of_mem _ hj)) ((j :: items).length + fuel)
      (by rw [List.length_cons]; omega)
    have hj := hreads j List.mem_cons_self _ (endsNumber_renderItems hstyle items level level' rest)
    rw [renderItems, readItems]
    simp only [List.cons_append, List.append_assoc]
    rw [skipGap_cons rfl]
    simp only [skipGap_render (hreadable j List.mem_cons_self) style level (hstyle.lineBreak level),
      hj, hrest, Option.bind_eq_bind, Option.bind_some]
    rfl

/-- An array is read back from what follows its opening bracket, if its items are. -/
theorem readArray_render (hstyle : style.IsBlank) {j : Json} {items : List Json} (level' : Nat)
    (hreadable : ∀ i ∈ j :: items, Readable depth i)
    (hreads : ∀ i ∈ j :: items, ReadsAt item style level i) (rest : List Char) :
    readArray item (style.lineBreak level ++ (render style level j ++
      (renderItems style level items ++ (style.lineBreak level' ++ ']' :: rest)))) =
        some (.array (j :: items), rest) := by
  have hfirst := hreadable j List.mem_cons_self
  have hread := hreads j List.mem_cons_self _
    (endsNumber_renderItems hstyle items level level' rest)
  have hfuel : items.length <
      (renderItems style level items ++ (style.lineBreak level' ++ ']' :: rest)).length + 1 := by
    have hlength := length_le_renderItems style level items
    rw [List.length_append]
    omega
  have hitems := readItems_renderItems hstyle level'
    (fun i hi => hreadable i (List.mem_cons_of_mem _ hi))
    (fun i hi => hreads i (List.mem_cons_of_mem _ hi)) _ hfuel rest
  unfold readArray
  rw [skipGap_render hfirst style level (hstyle.lineBreak level)]
  split
  · rename_i rest' heq
    obtain ⟨c, cs, hrender, hc⟩ := render_eq_cons hfirst style level
    rw [hrender, List.cons_append] at heq
    exact absurd (List.cons.inj heq).1 (ne_of_isOpening hc)
  · simp only [hread, hitems, Option.bind_eq_bind, Option.bind_some]
    rfl

end Items

section Members

variable {style : Style} {item : ValueReader} {depth level : Nat}

/-- A member is read back from its quoted name and its value. -/
theorem readMember_render (hstyle : style.IsBlank) (name : String) {value : Json}
    (hreadable : Readable depth value) (hreads : ReadsAt item style level value)
    {rest : List Char} (hrest : EndsNumber rest) :
    readMember item (quote name ++ (style.colon ++ (render style level value ++ rest))) =
      some ((name, value), rest) := by
  obtain ⟨gap, hcolon, hgap⟩ := hstyle.colon
  obtain ⟨cs, hquote, htext⟩ := readText_quote name
    (style.colon ++ (render style level value ++ rest))
  rw [hquote, readMember]
  simp only [htext, Option.bind_eq_bind, Option.bind_some]
  rw [hcolon, List.cons_append, skipGap_cons rfl]
  simp only [skipGap_render hreadable style level hgap, hreads rest hrest, Option.bind_some]
  rfl

/-- What follows the value of a member ends a number: a comma, a blank or the closing brace. -/
theorem endsNumber_renderMembers (hstyle : style.IsBlank) (members : List (String × Json))
    (level level' : Nat) (rest : List Char) :
    EndsNumber (renderMembers style level members ++
      (style.lineBreak level' ++ '\x7d' :: rest)) := by
  cases members with
  | nil =>
    rw [renderMembers, List.nil_append]
    exact (endsNumber_cons rfl rest).append (hstyle.lineBreak level')
  | cons member members =>
    rw [renderMembers]
    exact endsNumber_cons rfl _

/-- Each member takes a character at least, so the length of the text bounds their number. -/
theorem length_le_renderMembers (style : Style) (level : Nat) (members : List (String × Json)) :
    members.length ≤ (renderMembers style level members).length := by
  induction members with
  | nil => exact Nat.zero_le _
  | cons member members ih =>
    rw [renderMembers]
    simp only [List.length_cons, List.length_append]
    omega

/-- The members after the first one are read back up to the closing brace, if their values are. -/
theorem readMembers_renderMembers (hstyle : style.IsBlank) {members : List (String × Json)}
    (level' : Nat) (hreadable : ∀ m ∈ members, Readable depth m.2)
    (hreads : ∀ m ∈ members, ReadsAt item style level m.2)
    (fuel : Nat) (hfuel : members.length < fuel) (rest : List Char) :
    readMembers item fuel (renderMembers style level members ++
      (style.lineBreak level' ++ '\x7d' :: rest)) = some (members, rest) := by
  induction members generalizing fuel with
  | nil =>
    obtain ⟨fuel, rfl⟩ := Nat.exists_eq_add_of_lt hfuel
    rw [renderMembers, List.nil_append, readMembers, skipGap_append (hstyle.lineBreak level'),
      skipGap_cons rfl]
    rfl
  | cons member members ih =>
    obtain ⟨name, value⟩ := member
    obtain ⟨fuel, rfl⟩ := Nat.exists_eq_add_of_lt hfuel
    have hrest := ih (fun m hm => hreadable m (List.mem_cons_of_mem _ hm))
      (fun m hm => hreads m (List.mem_cons_of_mem _ hm)) (((name, value) :: members).length + fuel)
      (by rw [List.length_cons]; omega)
    have hmember := readMember_render hstyle name (hreadable (name, value) List.mem_cons_self)
      (hreads (name, value) List.mem_cons_self)
      (endsNumber_renderMembers hstyle members level level' rest)
    rw [renderMembers, readMembers]
    simp only [List.cons_append, List.append_assoc]
    rw [skipGap_cons rfl]
    simp only [skipGap_quote name (hstyle.lineBreak level), hmember, hrest, Option.bind_eq_bind,
      Option.bind_some]
    rfl

/-- An object is read back from what follows its opening brace, if no name stands twice in it and
the values of its members are read back. -/
theorem readObject_render (hstyle : style.IsBlank) {name : String} {value : Json}
    {members : List (String × Json)} (level' : Nat)
    (hnames : (((name, value) :: members).map Prod.fst).Nodup)
    (hreadable : ∀ m ∈ (name, value) :: members, Readable depth m.2)
    (hreads : ∀ m ∈ (name, value) :: members, ReadsAt item style level m.2) (rest : List Char) :
    readObject item (style.lineBreak level ++ (quote name ++ (style.colon ++
      (render style level value ++ (renderMembers style level members ++
        (style.lineBreak level' ++ '\x7d' :: rest)))))) =
          some (.object ((name, value) :: members), rest) := by
  have hmember := readMember_render hstyle name (hreadable _ List.mem_cons_self)
    (hreads _ List.mem_cons_self) (endsNumber_renderMembers hstyle members level level' rest)
  have hfuel : members.length < (renderMembers style level members ++
      (style.lineBreak level' ++ '\x7d' :: rest)).length + 1 := by
    have hlength := length_le_renderMembers style level members
    rw [List.length_append]
    omega
  have hmembers := readMembers_renderMembers hstyle level'
    (fun m hm => hreadable m (List.mem_cons_of_mem _ hm))
    (fun m hm => hreads m (List.mem_cons_of_mem _ hm)) _ hfuel rest
  unfold readObject
  rw [skipGap_quote name (hstyle.lineBreak level)]
  split
  · rename_i rest' heq
    cases heq
  · simp only [hmember, hmembers, Option.bind_eq_bind, Option.bind_some,
      mergeMembers_of_nodup hnames]
    rfl

end Members

/-! ## Whole texts -/

/-- What starts with neither bracket nor brace is read as a scalar. -/
theorem readValue_of_ne {c : Char} (harray : c ≠ '[') (hobject : c ≠ '\x7b') (depth : Nat)
    (cs : List Char) : readValue depth (c :: cs) = readScalar (c :: cs) := by
  cases depth with
  | zero =>
    rw [readValue]
    · exact fun _ h => harray (List.cons.inj h).1
    · exact fun _ h => hobject (List.cons.inj h).1
  | succ depth =>
    rw [readValue]
    · exact fun _ h => harray (List.cons.inj h).1
    · exact fun _ h => hobject (List.cons.inj h).1

/-- A number that reads back is read as a scalar. -/
theorem readScalar_number {n : Number} (h : n.ReadsBack) {rest : List Char}
    (hrest : EndsNumber rest) : readScalar (n.chars ++ rest) = some (.number n, rest) := by
  obtain ⟨c, cs, hchars, hc⟩ := h.starts
  obtain ⟨-, -, -, hn, ht, hf, hquote⟩ := isOpening_of_number hc
  have hread := h.reads rest hrest
  rw [hchars, List.cons_append] at hread ⊢
  rw [readScalar]
  · simp only [hread, Option.bind_eq_bind, Option.bind_some]
    rfl
  · exact fun _ h => hn (List.cons.inj h).1
  · exact fun _ h => ht (List.cons.inj h).1
  · exact fun _ h => hf (List.cons.inj h).1
  · exact fun _ h => hquote (List.cons.inj h).1

/-- **Reading back.** A value is read back from its text, and what follows it is left. -/
theorem readValue_render {depth : Nat} {j : Json} (h : Readable depth j) {style : Style}
    (hstyle : style.IsBlank) (level : Nat) : ReadsAt (readValue depth) style level j := by
  -- the members of a value are one level further in, so the level varies in the induction
  induction h generalizing level with
  | null depth =>
    intro rest _
    rw [render, List.cons_append, readValue_of_ne (by decide) (by decide)]
    rfl
  | bool depth b =>
    intro rest _
    cases b with
    | true =>
      rw [render, List.cons_append, readValue_of_ne (by decide) (by decide)]
      rfl
    | false =>
      rw [render, List.cons_append, readValue_of_ne (by decide) (by decide)]
      rfl
  | string depth s =>
    intro rest _
    obtain ⟨cs, hquote, htext⟩ := readText_quote s rest
    rw [render, hquote, readValue_of_ne (by decide) (by decide), readScalar]
    simp only [htext, Option.bind_eq_bind, Option.bind_some]
    rfl
  | number depth hn =>
    intro rest hrest
    obtain ⟨c, cs, hchars, hc⟩ := hn.starts
    obtain ⟨-, harray, hobject, -⟩ := isOpening_of_number hc
    rw [render, ← readScalar_number hn hrest, hchars, List.cons_append,
      readValue_of_ne harray hobject]
  | @array depth items hitems ih =>
    intro rest _
    cases items with
    | nil =>
      rw [render]
      rfl
    | cons j items =>
      rw [render]
      simp only [List.cons_append, List.append_assoc, List.nil_append]
      exact readArray_render hstyle level hitems (fun i hi => ih i hi (level + 1)) rest
  | @object depth members hnames hmembers ih =>
    intro rest _
    cases members with
    | nil =>
      rw [render]
      rfl
    | cons member members =>
      obtain ⟨name, value⟩ := member
      rw [render]
      simp only [List.cons_append, List.append_assoc, List.nil_append]
      exact readObject_render hstyle level hnames hmembers (fun m hm => ih m hm (level + 1)) rest

/-- **Round trip.** A value that is not too deep is the value of its text. -/
theorem parse?_render {j : Json} (h : Readable maxDepth j) {style : Style}
    (hstyle : style.IsBlank) : parse? (String.ofList (render style 0 j)) = some j := by
  have hread := readValue_render h hstyle 0 [] endsNumber_nil
  have hskip : skipGap ([] ++ (render style 0 j ++ [])) = render style 0 j ++ [] :=
    skipGap_render h style 0 (List.forall_mem_nil _) []
  rw [List.append_nil] at hread hskip
  rw [List.nil_append] at hskip
  rw [parse?, String.toList_ofList, hskip, hread]
  rfl

end ApiDocs.Json
