import ApiDocs.Directive.Fields
import ApiDocs.Proofs.Text

/-!
# Rows of fields

The fields of a parameter stand in a row: one after the other, with white space between them
(`Row`). Reading takes a row from the front of a text exactly where one stands there
(`takeFields_eq_some_iff`), and otherwise looks for the first one in the text
(`findFields_eq_some_iff`, `findFields_eq_none_iff`).
-/

namespace ApiDocs

namespace Directive

/-! ## Single fields -/

/-- A run is as long as it can be. -/
theorem takeRun_eq_some_iff {p : Char → Bool} {cs rest : List Char} {run : String} :
    takeRun p cs = some (run, rest) ↔
      run ≠ "" ∧ cs = run.toList ++ rest ∧ (∀ c ∈ run.toList, p c = true) ∧
        ∀ c ∈ rest.head?, p c = false := by
  rw [← Text.takeWhile_dropWhile_eq_iff, takeRun]
  cases hfront : cs.takeWhile p with
  | nil =>
    refine ⟨nofun, fun ⟨hne, hrun, _⟩ => absurd ?_ hne⟩
    exact String.toList_eq_nil_iff.mp hrun.symm
  | cons c front =>
    simp only [Option.some.injEq, Prod.mk.injEq]
    constructor
    · rintro ⟨rfl, rfl⟩
      exact ⟨by simp, String.toList_ofList.symm, rfl⟩
    · rintro ⟨-, hrun, rfl⟩
      exact ⟨hrun ▸ String.ofList_toList, rfl⟩

namespace FieldShape

/-- Whether a text may be a field. -/
def Fits : FieldShape → String → Prop
  | solid, field => field ≠ "" ∧ ∀ c ∈ field.toList, Text.isBlank c = false
  | word, field => field ≠ "" ∧ ∀ c ∈ field.toList, Text.isWord c = true
  | quoted, field => '"' ∉ field.toList

instance decidableFits (shape : FieldShape) (field : String) : Decidable (shape.Fits field) :=
  match shape with
  | solid =>
    decidable_of_iff (field ≠ "" ∧ (field.toList.all fun c => !Text.isBlank c) = true)
      (by simp [Fits])
  | word => decidable_of_iff (field ≠ "" ∧ field.toList.all Text.isWord = true) (by simp [Fits])
  | quoted => decidable_of_iff (field.toList.contains '"' = false) (by simp [Fits])

/-- A field as it stands in a line. -/
def write : FieldShape → String → List Char
  | solid, field => field.toList
  | word, field => field.toList
  | quoted, field => '"' :: field.toList ++ ['"']

/-- Whether a field comes to its end before a text. -/
def Stops : FieldShape → List Char → Prop
  | solid, rest => ∀ c ∈ rest.head?, Text.isBlank c = true
  | word, rest => ∀ c ∈ rest.head?, Text.isWord c = false
  | quoted, _ => True

/-- A text in quotes reaches to the next quote. -/
theorem take_quoted_eq_some_iff {cs rest : List Char} {field : String} :
    quoted.take cs = some (field, rest) ↔
      '"' ∉ field.toList ∧ cs = '"' :: field.toList ++ ['"'] ++ rest := by
  constructor
  · intro h
    obtain ⟨cs, rfl⟩ : ∃ inner, cs = '"' :: inner := by
      by_contra hnone
      rw [take] at h
      · cases h
      · exact fun inner heq => hnone ⟨inner, heq⟩
    obtain ⟨front, hfront⟩ : ∃ front, cs.takeWhile (· != '"') = front := ⟨_, rfl⟩
    obtain ⟨back, hback⟩ : ∃ back, cs.dropWhile (· != '"') = back := ⟨_, rfl⟩
    obtain ⟨rfl, hinner, hstop⟩ := Text.takeWhile_dropWhile_eq_iff.mp ⟨hfront, hback⟩
    rw [take, hfront, hback] at h
    cases back with
    | nil => cases h
    | cons c back =>
      obtain rfl : c = '"' := by simpa using hstop c rfl
      obtain ⟨rfl, rfl⟩ : String.ofList front = field ∧ back = rest := by simpa using h
      rw [String.toList_ofList]
      refine ⟨fun hquote => ?_, by simp⟩
      simpa using hinner _ hquote
  · rintro ⟨hquote, rfl⟩
    have hdivide := Text.takeWhile_dropWhile_eq_iff.mpr
      (show field.toList ++ '"' :: rest = field.toList ++ '"' :: rest ∧
          (∀ c ∈ field.toList, (c != '"') = true) ∧
            ∀ c ∈ ('"' :: rest).head?, (c != '"') = false by
        refine ⟨rfl, fun c hc => ?_, by simp⟩
        exact bne_iff_ne.mpr fun heq => hquote (heq ▸ hc))
    rw [List.cons_append, List.cons_append, List.append_assoc, List.singleton_append, take,
      hdivide.1, hdivide.2, String.ofList_toList]
    rfl

/-- A field that can be taken is written at the front. -/
theorem take_eq_some_iff {shape : FieldShape} {cs rest : List Char} {field : String} :
    shape.take cs = some (field, rest) ↔
      shape.Fits field ∧ cs = shape.write field ++ rest ∧ shape.Stops rest := by
  cases shape with
  | solid =>
    rw [take, takeRun_eq_some_iff, Fits, write, Stops]
    simp only [Bool.not_eq_true', Bool.not_eq_false', and_assoc, and_left_comm]
  | word =>
    rw [take, takeRun_eq_some_iff, Fits, write, Stops]
    simp only [and_assoc, and_left_comm]
  | quoted =>
    rw [take_quoted_eq_some_iff, Fits, write, Stops, and_true]

/-- White space ends every field. -/
theorem stops_of_isBlank (shape : FieldShape) {rest : List Char}
    (h : ∀ c ∈ rest.head?, Text.isBlank c = true) : shape.Stops rest := by
  cases shape with
  | solid => exact h
  | word => exact fun c hc => Text.not_isWord_of_isBlank (h c hc)
  | quoted => exact trivial

/-- A field has no white space at its ends, quoted or not. -/
theorem isTight_write {shape : FieldShape} {field : String} (h : shape.Fits field) :
    Text.IsTight (shape.write field) := by
  cases shape with
  | solid => exact .of_forall (fun hnil => h.1 (String.toList_eq_nil_iff.mp hnil)) h.2
  | word =>
    refine .of_forall (fun hnil => h.1 (String.toList_eq_nil_iff.mp hnil)) fun c hc => ?_
    refine Bool.eq_false_iff.mpr fun hblank => ?_
    exact Bool.eq_false_iff.mp (Text.not_isWord_of_isBlank hblank) (h.2 c hc)
  | quoted =>
    have hquote : Text.IsTight ['"'] := .of_forall (List.cons_ne_nil _ _) (by simp; rfl)
    exact hquote.append field.toList hquote

end FieldShape

/-! ## Rows -/

/-- White space, at least one character of it. -/
structure Gap where
  /-- The characters. -/
  chars : List Char
  /-- There is one. -/
  ne_nil : chars ≠ []
  /-- They are blanks. -/
  blank : ∀ c ∈ chars, Text.isBlank c = true

/-- A single space. -/
def Gap.space : Gap :=
  ⟨[' '], List.cons_ne_nil _ _, List.all_eq_true.mp rfl⟩

/-- A text that may be a field of a shape. -/
structure FieldText (shape : FieldShape) where
  /-- The text. -/
  text : String
  /-- It has the shape. -/
  fits : shape.Fits text

/-- Fields of the given shapes with white space between them. -/
inductive Row : List FieldShape → Type where
  /-- The last field. -/
  | last {shape : FieldShape} (field : FieldText shape) : Row [shape]
  /-- A field with others after it. -/
  | more {shape : FieldShape} {shapes : List FieldShape} (field : FieldText shape) (gap : Gap)
      (rest : Row shapes) : Row (shape :: shapes)

namespace Row

variable {shapes : List FieldShape}

/-- A row as it stands in a line. -/
def text : {shapes : List FieldShape} → Row shapes → List Char
  | _, @last shape field => shape.write field.text
  | _, @more shape _ field gap rest => shape.write field.text ++ gap.chars ++ rest.text

/-- The fields of a row. -/
def fields : {shapes : List FieldShape} → Row shapes → List String
  | _, last field => [field.text]
  | _, more field _ rest => field.text :: rest.fields

/-- A row has no white space at its ends. -/
theorem isTight_text (row : Row shapes) : Text.IsTight row.text := by
  induction row with
  | last field => exact FieldShape.isTight_write field.fits
  | more field gap rest ih => exact (FieldShape.isTight_write field.fits).append gap.chars ih

theorem shapes_ne_nil (row : Row shapes) : shapes ≠ [] := by
  cases row <;> exact List.cons_ne_nil _ _

/-- A row whose last field is quoted ends with a quote. -/
theorem getLast?_text (row : Row shapes) (h : shapes.getLast? = some .quoted) :
    row.text.getLast? = some '"' := by
  induction row with
  | @last shape field =>
    obtain rfl : shape = .quoted := Option.some.inj h
    exact List.getLast?_concat
  | @more shape shapes field gap row ih =>
    rw [← List.singleton_append, List.getLast?_append_of_ne_nil [shape] row.shapes_ne_nil] at h
    rw [text, List.getLast?_append_of_ne_nil _ row.isTight_text.ne_nil]
    exact ih h

end Row

/-! ## Reading a row -/

/-- Several fields are taken one by one, with white space after each but the last. -/
theorem takeFields_cons {shape : FieldShape} {shapes : List FieldShape} (h : shapes ≠ [])
    (cs : List Char) :
    takeFields (shape :: shapes) cs =
      (shape.take cs).bind fun taken =>
        (takeRun Text.isBlank taken.2).bind fun blanks =>
          (takeFields shapes blanks.2).map (taken.1 :: ·) := by
  cases shapes with
  | nil => exact absurd rfl h
  | cons next shapes =>
    simp only [takeFields, Option.map_eq_bind]
    rfl

theorem takeFields_text_append {shapes : List FieldShape} (row : Row shapes) {rest : List Char}
    (hstop : ∀ shape ∈ shapes.getLast?, shape.Stops rest) :
    takeFields shapes (row.text ++ rest) = some row.fields := by
  induction row with
  | @last shape field =>
    have htake : shape.take (shape.write field.text ++ rest) = some (field.text, rest) :=
      FieldShape.take_eq_some_iff.mpr ⟨field.fits, rfl, hstop shape rfl⟩
    rw [Row.text, takeFields, htake]
    rfl
  | @more shape shapes field gap row ih =>
    obtain ⟨hne, hhead, -⟩ := row.isTight_text
    -- the row goes on behind the gap, so that all of the gap is taken and no more
    have hfield : shape.take (shape.write field.text ++ (gap.chars ++ (row.text ++ rest))) =
        some (field.text, gap.chars ++ (row.text ++ rest)) := by
      refine FieldShape.take_eq_some_iff.mpr ⟨field.fits, rfl, shape.stops_of_isBlank ?_⟩
      rw [List.head?_append_of_ne_nil _ gap.ne_nil]
      exact fun c hc => gap.blank c (List.mem_of_mem_head? hc)
    have hgap : takeRun Text.isBlank (gap.chars ++ (row.text ++ rest)) =
        some (String.ofList gap.chars, row.text ++ rest) := by
      refine takeRun_eq_some_iff.mpr ⟨by simp [gap.ne_nil], ?_, ?_, ?_⟩
      · rw [String.toList_ofList]
      · rw [String.toList_ofList]
        exact gap.blank
      · rw [List.head?_append_of_ne_nil _ hne]
        exact hhead
    have hlast : shapes.getLast? = (shape :: shapes).getLast? :=
      (List.getLast?_append_of_ne_nil [shape] row.shapes_ne_nil).symm
    rw [takeFields_cons row.shapes_ne_nil, Row.text, List.append_assoc, List.append_assoc, hfield,
      Option.bind_some, hgap, Option.bind_some, ih fun next hnext => hstop next (hlast ▸ hnext)]
    rfl

/-- The fields that can be taken from the front of a text are those of a row that stands there. -/
theorem takeFields_eq_some_iff {shapes : List FieldShape} (hne : shapes ≠ []) {cs : List Char}
    {fields : List String} :
    takeFields shapes cs = some fields ↔
      ∃ (row : Row shapes) (rest : List Char), row.fields = fields ∧ cs = row.text ++ rest ∧
        ∀ shape ∈ shapes.getLast?, shape.Stops rest := by
  constructor
  · intro h
    induction shapes generalizing cs fields with
    | nil => exact absurd rfl hne
    | cons shape shapes ih =>
      -- only the last field is taken without white space behind it
      by_cases hlast : shapes = []
      · subst hlast
        obtain ⟨⟨field, rest⟩, htake, rfl⟩ := Option.map_eq_some_iff.mp h
        obtain ⟨hfits, rfl, hstop⟩ := FieldShape.take_eq_some_iff.mp htake
        exact ⟨.last ⟨field, hfits⟩, rest, rfl, rfl, fun _ heq => by cases heq; exact hstop⟩
      · rw [takeFields_cons hlast] at h
        obtain ⟨⟨field, rest⟩, htake, h⟩ := Option.bind_eq_some_iff.mp h
        obtain ⟨⟨blanks, rest'⟩, hblanks, h⟩ := Option.bind_eq_some_iff.mp h
        obtain ⟨others, hothers, rfl⟩ := Option.map_eq_some_iff.mp h
        obtain ⟨hfits, rfl, -⟩ := FieldShape.take_eq_some_iff.mp htake
        obtain ⟨hnonempty, rfl, hblank, -⟩ := takeRun_eq_some_iff.mp hblanks
        obtain ⟨row, rest, rfl, rfl, hstop⟩ := ih hlast hothers
        have hgap : blanks.toList ≠ [] := fun hnil =>
          hnonempty (String.toList_eq_nil_iff.mp hnil)
        refine ⟨.more ⟨field, hfits⟩ ⟨blanks.toList, hgap, hblank⟩ row, rest, rfl, ?_, ?_⟩
        · rw [Row.text, List.append_assoc, List.append_assoc]
        · intro last hmem
          rw [← List.singleton_append, List.getLast?_append_of_ne_nil [shape] hlast] at hmem
          exact hstop last hmem
  · rintro ⟨row, rest, rfl, rfl, hstop⟩
    exact takeFields_text_append row hstop

/-! ## Finding a row -/

variable {shapes : List FieldShape}

/-- Whether a row stands somewhere in a text. -/
def HasRow (shapes : List FieldShape) (cs : List Char) : Prop :=
  ∃ (before : List Char) (row : Row shapes) (after : List Char), cs = before ++ row.text ++ after

/-- Whether the first row in a text has the given fields. -/
def FirstRow (shapes : List FieldShape) (fields : List String) (cs : List Char) : Prop :=
  ∃ (before : List Char) (row : Row shapes) (after : List Char),
    cs = before ++ row.text ++ after ∧ row.fields = fields ∧
      ∀ (earlier : List Char) (other : Row shapes) (later : List Char),
        cs = earlier ++ other.text ++ later → before.length ≤ earlier.length

theorem takeFields_nil (hne : shapes ≠ []) : takeFields shapes [] = none := by
  refine Option.eq_none_iff_forall_ne_some.mpr fun fields hfields => ?_
  obtain ⟨row, rest, -, hnil, -⟩ := (takeFields_eq_some_iff hne).mp hfields
  exact row.isTight_text.ne_nil (List.append_eq_nil_iff.mp hnil.symm).1

/-- No fields are found just if none can be taken from any point of the text on. -/
theorem findFields_eq_none_iff_forall (hne : shapes ≠ []) {cs : List Char} :
    findFields shapes cs = none ↔ ∀ rest, rest <:+ cs → takeFields shapes rest = none := by
  induction cs with
  | nil => simp [findFields, takeFields_nil hne]
  | cons c cs ih =>
    simp only [List.suffix_cons_iff, forall_eq_or_imp]
    rw [← ih, findFields]
    cases takeFields shapes (c :: cs) with
    | none => simp
    | some fields => simp

/-- The fields that are found are taken at the first place where any can be. -/
theorem findFields_eq_some_iff_exists (hne : shapes ≠ []) {cs : List Char} {fields : List String} :
    findFields shapes cs = some fields ↔
      ∃ rest, rest <:+ cs ∧ takeFields shapes rest = some fields ∧
        ∀ longer, longer <:+ cs → rest.length < longer.length →
          takeFields shapes longer = none := by
  induction cs with
  | nil => simp [findFields, takeFields_nil hne]
  | cons c cs ih =>
    rw [findFields]
    cases htake : takeFields shapes (c :: cs) with
    | some here =>
      constructor
      · rintro ⟨⟩
        refine ⟨c :: cs, List.suffix_rfl, htake, fun longer hlonger hlength => ?_⟩
        exact absurd hlength (Nat.not_lt.mpr hlonger.length_le)
      · rintro ⟨rest, hrest, hfields, hfirst⟩
        rcases List.suffix_cons_iff.mp hrest with rfl | hrest
        · exact htake.symm.trans hfields
        -- a place further on is not the first
        · have hnone := hfirst (c :: cs) List.suffix_rfl (Nat.lt_succ_of_le hrest.length_le)
          rw [htake] at hnone
          cases hnone
    | none =>
      refine ih.trans ⟨?_, ?_⟩
      · rintro ⟨rest, hrest, hfields, hfirst⟩
        refine ⟨rest, hrest.trans (List.suffix_cons c cs), hfields, ?_⟩
        intro longer hlonger hlength
        rcases List.suffix_cons_iff.mp hlonger with rfl | hlonger
        · exact htake
        · exact hfirst longer hlonger hlength
      · rintro ⟨rest, hrest, hfields, hfirst⟩
        rcases List.suffix_cons_iff.mp hrest with rfl | hrest
        · rw [htake] at hfields
          cases hfields
        · exact ⟨rest, hrest, hfields, fun longer hlonger =>
            hfirst longer (hlonger.trans (List.suffix_cons c cs))⟩

section Quoted

variable (hlast : shapes.getLast? = some .quoted)

include hlast

theorem stops_of_getLast?_eq_quoted (rest : List Char) :
    ∀ shape ∈ shapes.getLast?, shape.Stops rest := by
  rw [hlast]
  rintro _ ⟨⟩
  trivial

theorem ne_nil_of_getLast?_eq_quoted : shapes ≠ [] := by
  rintro rfl
  cases hlast

/-- A row that ends with a quote may be followed by anything. -/
theorem takeFields_eq_some_iff_of_quoted {cs : List Char} {fields : List String} :
    takeFields shapes cs = some fields ↔
      ∃ (row : Row shapes) (rest : List Char), row.fields = fields ∧ cs = row.text ++ rest := by
  rw [takeFields_eq_some_iff (ne_nil_of_getLast?_eq_quoted hlast)]
  refine exists₂_congr fun row rest => and_congr_right fun _ => and_iff_left ?_
  exact stops_of_getLast?_eq_quoted hlast rest

/-- The first row is found, with anything before it and behind it. -/
theorem findFields_eq_some_iff {cs : List Char} {fields : List String} :
    findFields shapes cs = some fields ↔ FirstRow shapes fields cs := by
  rw [findFields_eq_some_iff_exists (ne_nil_of_getLast?_eq_quoted hlast)]
  constructor
  · rintro ⟨rest, ⟨before, rfl⟩, htake, hfirst⟩
    obtain ⟨row, after, hfields, rfl⟩ := (takeFields_eq_some_iff_of_quoted hlast).mp htake
    refine ⟨before, row, after, (List.append_assoc _ _ _).symm, hfields, ?_⟩
    intro earlier other later heq
    rw [List.append_assoc] at heq
    -- a row further to the left would have been taken before this one
    by_contra hearlier
    have hlonger : (row.text ++ after).length < (other.text ++ later).length := by
      have hlength := congrArg List.length heq
      simp only [List.length_append] at hlength ⊢
      omega
    have hnone := hfirst _ ⟨earlier, heq.symm⟩ hlonger
    rw [(takeFields_eq_some_iff_of_quoted hlast).mpr ⟨other, later, rfl, rfl⟩] at hnone
    cases hnone
  · rintro ⟨before, row, after, rfl, hfields, hfirst⟩
    refine ⟨row.text ++ after, ⟨before, (List.append_assoc _ _ _).symm⟩,
      (takeFields_eq_some_iff_of_quoted hlast).mpr ⟨row, after, hfields, rfl⟩, ?_⟩
    rintro longer ⟨earlier, heq⟩ hlonger
    refine Option.eq_none_iff_forall_ne_some.mpr fun others hothers => ?_
    obtain ⟨other, later, -, rfl⟩ := (takeFields_eq_some_iff_of_quoted hlast).mp hothers
    have hbefore := hfirst earlier other later (by rw [← heq, List.append_assoc])
    have hlength := congrArg List.length heq
    simp only [List.length_append] at hlength hlonger
    omega

theorem findFields_text (row : Row shapes) : findFields shapes row.text = some row.fields :=
  (findFields_eq_some_iff hlast).mpr
    ⟨[], row, [], (List.append_nil _).symm, rfl, fun _ _ _ _ => Nat.zero_le _⟩

/-- **Rows.** No fields are found just if no row stands in the text. -/
theorem findFields_eq_none_iff {cs : List Char} :
    findFields shapes cs = none ↔ ¬ HasRow shapes cs := by
  rw [findFields_eq_none_iff_forall (ne_nil_of_getLast?_eq_quoted hlast)]
  constructor
  · rintro hnone ⟨before, row, after, rfl⟩
    have htake := hnone (row.text ++ after) ⟨before, (List.append_assoc _ _ _).symm⟩
    rw [(takeFields_eq_some_iff_of_quoted hlast).mpr ⟨row, after, rfl, rfl⟩] at htake
    cases htake
  · rintro hnone rest ⟨before, rfl⟩
    refine Option.eq_none_iff_forall_ne_some.mpr fun fields hfields => hnone ?_
    obtain ⟨row, after, -, rfl⟩ := (takeFields_eq_some_iff_of_quoted hlast).mp hfields
    exact ⟨before, row, after, (List.append_assoc _ _ _).symm⟩

end Quoted

end Directive

end ApiDocs
