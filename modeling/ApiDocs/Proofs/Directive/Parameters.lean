import ApiDocs.Directive.Apply
import ApiDocs.Proofs.Directive.Rows

/-!
# Lines about parameters

A line with a keyword and a row of fields adds one parameter and changes nothing else
(`parameter_line_read`). The row need not be all of the line: the first one that stands anywhere
behind the keyword counts, and only a line without any is refused (`parameter_line_outcome`).
-/

namespace ApiDocs

namespace Directive

/-! ## Keywords -/

/-- The keywords in lower case. -/
def spellings : List String :=
  ["@title", "@catalog", "@desc", "@description", "@remark", "@url", "@api_status", "@header",
    "@path_var", "@query", "@param_mode", "@param", "@resp", "@response", "@resp_fail",
    "@response_fail"]

/-- A keyword that is known has one of the spellings, in whatever case. -/
theorem Keyword.lower_mem_spellings {word : String}
    (h : ∀ other, Keyword.ofWord word ≠ .unknown other) : Text.lower word ∈ spellings := by
  unfold Keyword.ofWord at h
  split at h <;> simp_all [spellings]

/-- A word that is a keyword starts with an at sign and has no white space in it. -/
theorem Keyword.word_of_ne_unknown {word : String}
    (h : ∀ other, Keyword.ofWord word ≠ .unknown other) :
    word.toList.head? = some '@' ∧ ∀ c ∈ word.toList, Text.isBlank c = false := by
  have hall : (spellings.all fun spelling => spelling.toList.head? == some '@' &&
      spelling.toList.all fun c => !Text.isBlank c) = true := by
    decide +kernel
  have hword := List.all_eq_true.mp hall _ (Keyword.lower_mem_spellings h)
  rw [Text.lower, String.toList_ofList, Bool.and_eq_true, beq_iff_eq, List.all_eq_true] at hword
  refine ⟨Text.head?_of_head?_lowerFrom hword.1, fun c hc => Bool.eq_false_iff.mpr fun hblank => ?_⟩
  have hnot := hword.2 c (Text.mem_lowerFrom_of_isBlank hblank hc)
  rw [hblank] at hnot
  cases hnot

/-- A word with an at sign is never the name of an operation, which has none. -/
theorem sameName_eq_false {word operation : String} (hword : '@' ∈ word.toList)
    (hoperation : '@' ∉ operation.toList) : sameName word operation = false := by
  refine beq_eq_false_iff_ne.mpr fun heq => hoperation ?_
  have hmem : '@' ∈ plainName word :=
    List.mem_flatMap.mpr ⟨'@', List.mem_filter.mpr ⟨hword, rfl⟩, List.mem_cons_self⟩
  rw [heq] at hmem
  obtain ⟨c, hc, hsign⟩ := List.mem_flatMap.mp hmem
  exact Text.eq_of_at_mem_lowerChar hsign ▸ List.mem_of_mem_filter hc

/-! ## Directives -/

/-- The keyword and the payload of a line. A line that says nothing has none, and neither has one
that gives the title by the name of the operation. -/
def directive? (operation line : String) : Option (Keyword × String) :=
  (splitLine? line).bind fun (word, payload) =>
    if !operation.isEmpty && sameName word operation then none
    else some (Keyword.ofWord word, payload)

/-- A line that is a directive is applied as such. -/
theorem applyLine_of_directive? (scope : Option TypeScope) {operation line payload : String}
    {keyword : Keyword} (h : directive? operation line = some (keyword, payload)) (doc : Document)
    (s : Session) :
    applyLine scope operation line doc s = applyKeyword scope keyword payload doc s := by
  obtain ⟨⟨word, rest⟩, hsplit, hword⟩ := Option.bind_eq_some_iff.mp h
  unfold applyLine
  rw [hsplit]
  simp only at hword ⊢
  split at hword
  · cases hword
  · rename_i htitle
    rw [if_neg htitle]
    cases hword
    rfl

/-- White space, or nothing. -/
structure Margin where
  /-- The characters. -/
  chars : List Char
  /-- They are blanks. -/
  blank : ∀ c ∈ chars, Text.isBlank c = true

/-- A line with a keyword and a row, and any white space around them. -/
def lineOf {shapes : List FieldShape} (lead : Margin) (word : String) (gap : Gap)
    (row : Row shapes) (trail : Margin) : String :=
  String.ofList (lead.chars ++ (word.toList ++ gap.chars ++ row.text) ++ trail.chars)

/-- A line is split into its keyword and its row, whatever white space is around them. -/
theorem splitLine?_lineOf {shapes : List FieldShape} {word : String}
    (h : ∀ other, Keyword.ofWord word ≠ .unknown other) (lead : Margin) (gap : Gap)
    (row : Row shapes) (trail : Margin) :
    splitLine? (lineOf lead word gap row trail) = some (word, String.ofList row.text) := by
  obtain ⟨hhead, hblank⟩ := Keyword.word_of_ne_unknown h
  have hne : word.toList ≠ [] := by
    intro hnil
    rw [hnil] at hhead
    cases hhead
  have hcore : Text.IsTight (word.toList ++ gap.chars ++ row.text) :=
    (Text.IsTight.of_forall hne hblank).append gap.chars row.isTight_text
  -- the at sign is no comment mark
  have hmarks : (word.toList ++ gap.chars ++ row.text).dropWhile (fun c => c == '/' || c == '*') =
      word.toList ++ gap.chars ++ row.text := by
    refine (Text.takeWhile_dropWhile_eq_iff.mpr ⟨(List.nil_append _).symm, nofun, ?_⟩).2
    rw [List.append_assoc, List.head?_append_of_ne_nil _ hne, hhead]
    rintro _ ⟨⟩
    rfl
  obtain ⟨hword, hrest⟩ := Text.takeWhile_dropWhile_eq_iff.mpr
    (show word.toList ++ gap.chars ++ row.text = word.toList ++ (gap.chars ++ row.text) ∧
        (∀ c ∈ word.toList, (!Text.isBlank c) = true) ∧
          ∀ c ∈ (gap.chars ++ row.text).head?, (!Text.isBlank c) = false by
      refine ⟨List.append_assoc _ _ _, fun c hc => by rw [hblank c hc]; rfl, fun c hc => ?_⟩
      rw [List.head?_append_of_ne_nil _ gap.ne_nil] at hc
      rw [gap.blank c (List.mem_of_mem_head? hc)]
      rfl)
  have hpayload : Text.trimChars (gap.chars ++ row.text ++ []) = row.text :=
    Text.trimChars_append gap.blank row.isTight_text nofun
  rw [List.append_nil] at hpayload
  rw [splitLine?, lineOf, String.toList_ofList, Text.trimChars_append lead.blank hcore trail.blank,
    hmarks, Text.trimChars_of_isTight hcore, hword, hrest, hpayload]
  split
  · rename_i hnil
    exact absurd hnil hne
  · rw [String.ofList_toList]

/-- A line with a keyword and a row is a directive with the row as its payload. -/
theorem directive?_lineOf {shapes : List FieldShape} {operation word : String}
    (hoperation : '@' ∉ operation.toList) (hword : ∀ other, Keyword.ofWord word ≠ .unknown other)
    (lead : Margin) (gap : Gap) (row : Row shapes) (trail : Margin) :
    directive? operation (lineOf lead word gap row trail) =
      some (Keyword.ofWord word, String.ofList row.text) := by
  have hsign : '@' ∈ word.toList :=
    List.mem_of_mem_head? (Keyword.word_of_ne_unknown hword).1
  simp only [directive?, splitLine?_lineOf hword, Option.bind_some,
    sameName_eq_false hsign hoperation, Bool.and_false, Bool.false_eq_true, if_false]

/-! ## Payloads -/

/-- The fields that a keyword of a parameter asks for, and what is wrong where they are missing. -/
def Keyword.form? : Keyword → Option (List FieldShape × DirectiveCause)
  | .header => some (requestShapes, .requestFields "@header")
  | .pathVariable => some (requestShapes, .requestFields "@path_var")
  | .query => some (requestShapes, .requestFields "@query")
  | .param => some (requestShapes, .requestFields "@param")
  | .response => some (responseShapes, .responseFields "@response")
  | .failure => some (responseShapes, .responseFields "@response_fail")
  | _ => none

theorem Keyword.getLast?_of_form? {keyword : Keyword} {shapes : List FieldShape}
    {cause : DirectiveCause} (h : keyword.form? = some (shapes, cause)) :
    shapes.getLast? = some .quoted := by
  cases keyword <;> cases h <;> rfl

end Directive

/-- A document with one more parameter, which a keyword and its fields describe. A header carries
numbers or texts only; a parameter of a GET request stands in the URL. -/
def Document.withParam (doc : Document) : Directive.Keyword → List String → Document
  | .header, [name, type, required, value, remark] =>
    { doc with request := { doc.request with headers := doc.request.headers ++
      [⟨name, Kind.forHeader type, isRequiredMark required, value, remark⟩] } }
  | .pathVariable, [name, type, required, value, remark] =>
    { doc with request := { doc.request with pathVariables := doc.request.pathVariables ++
      [⟨name, Kind.ofTypeName type, isRequiredMark required, value, remark⟩] } }
  | .query, [name, type, required, value, remark] =>
    { doc with request := { doc.request with query := doc.request.query ++
      [⟨name, Kind.ofTypeName type, isRequiredMark required, value, remark⟩] } }
  | .param, [name, type, required, value, remark] =>
    let param : RequestParam :=
      ⟨name, Kind.ofTypeName type, isRequiredMark required, value, remark⟩
    if doc.request.method = "get" then
      { doc with request := { doc.request with query := doc.request.query ++ [param] } }
    else { doc with request := { doc.request with params := doc.request.params ++ [param] } }
  | .response, [name, type, remark] =>
    { doc with response := { doc.response with params := doc.response.params ++
      [⟨name, Kind.ofTypeName type, remark⟩] } }
  | .failure, [name, type, remark] =>
    { doc with failure := { doc.failure with params := doc.failure.params ++
      [⟨name, Kind.ofTypeName type, remark⟩] } }
  | _, _ => doc

namespace Directive

/-- Five fields are found for a parameter of the request, or none at all. -/
theorem findFields_requestShapes (cs : List Char) :
    findFields requestShapes cs = none ∨ ∃ name type required value remark,
      findFields requestShapes cs = some [name, type, required, value, remark] := by
  rcases hfound : findFields requestShapes cs with _ | fields
  · exact .inl rfl
  · obtain ⟨-, row, -, -, rfl, -⟩ := (findFields_eq_some_iff rfl).mp hfound
    match row with
    | .more name _ (.more type _ (.more required _ (.more value _ (.last remark)))) =>
      exact .inr ⟨name.text, type.text, required.text, value.text, remark.text, rfl⟩

/-- Three fields are found for a parameter of a response, or none at all. -/
theorem findFields_responseShapes (cs : List Char) :
    findFields responseShapes cs = none ∨ ∃ name type remark,
      findFields responseShapes cs = some [name, type, remark] := by
  rcases hfound : findFields responseShapes cs with _ | fields
  · exact .inl rfl
  · obtain ⟨-, row, -, -, rfl, -⟩ := (findFields_eq_some_iff rfl).mp hfound
    match row with
    | .more name _ (.more type _ (.last remark)) =>
      exact .inr ⟨name.text, type.text, remark.text, rfl⟩

variable (scope : Option TypeScope) {shapes : List FieldShape} {cause : DirectiveCause}
  (doc : Document) (s : Session)

/-- A payload that names no type is searched for the fields of its keyword. -/
theorem applyKeyword_param {keyword : Keyword} {payload : String}
    (hkeyword : keyword.form? = some (shapes, cause)) (href : typeReference? payload = none) :
    applyKeyword scope keyword payload doc s =
      ((findFields shapes payload.toList).elim (.error ⟨payload, cause⟩)
        fun fields => .ok (doc.withParam keyword fields), s) := by
  have hrequest := findFields_requestShapes payload.toList
  have hresponse := findFields_responseShapes payload.toList
  cases keyword with
  | title | catalog | description | remark | url | status | mode | unknown => cases hkeyword
  | header =>
    cases hkeyword
    rw [applyKeyword, applyHeader, requestParam?]
    rcases hrequest with h | ⟨name, type, required, value, remark, h⟩ <;> rw [h] <;> rfl
  | pathVariable =>
    cases hkeyword
    rw [applyKeyword, applyPathVariable, requestParam?]
    rcases hrequest with h | ⟨name, type, required, value, remark, h⟩ <;> rw [h] <;> rfl
  | query | param =>
    cases hkeyword
    rw [applyKeyword, describe, href, requestParam?]
    rcases hrequest with h | ⟨name, type, required, value, remark, h⟩ <;> rw [h] <;> rfl
  | response | failure =>
    cases hkeyword
    rw [applyKeyword, describe, href, responseParam?]
    rcases hresponse with h | ⟨name, type, remark, h⟩ <;> rw [h] <;> rfl

/-- A row that ends with a quote names no type. -/
theorem typeReference?_text (hlast : shapes.getLast? = some .quoted) (row : Row shapes) :
    typeReference? (String.ofList row.text) = none := by
  rw [typeReference?, String.toList_ofList]
  refine if_neg fun hbraces => ?_
  obtain ⟨front, hfront⟩ := List.isSuffixOf_iff_suffix.mp hbraces
  have hquote := row.getLast?_text hlast
  rw [String.toList_ofList] at hfront
  rw [← hfront, List.getLast?_append_of_ne_nil _ (by decide)] at hquote
  cases hquote

end Directive

open Directive

/-- **Well-formed parameters.** A line with a keyword and the row of fields that it asks for adds
the parameter of these fields to the document and changes nothing else, whatever the white space in
the line. An operation is named by an identifier, in which there is no at sign. -/
theorem parameter_line_read (scope : Option TypeScope) {operation word : String}
    {shapes : List FieldShape} {cause : DirectiveCause} (hoperation : '@' ∉ operation.toList)
    (hword : (Keyword.ofWord word).form? = some (shapes, cause)) (lead trail : Margin) (gap : Gap)
    (row : Row shapes) (doc : Document) (s : Session) :
    applyLine scope operation (lineOf lead word gap row trail) doc s =
      (.ok (doc.withParam (Keyword.ofWord word) row.fields), s) := by
  have hlast := Keyword.getLast?_of_form? hword
  have hknown : ∀ other, Keyword.ofWord word ≠ .unknown other := by
    intro other hunknown
    rw [hunknown] at hword
    cases hword
  rw [applyLine_of_directive? scope (directive?_lineOf hoperation hknown lead gap row trail),
    applyKeyword_param scope doc s hword (typeReference?_text hlast row), String.toList_ofList,
    findFields_text hlast row, Option.elim_some]

/-- The fields of a header, with quotes, braces and slashes in them. -/
def keyRow : Row requestShapes :=
  .more ⟨"X-\"Key\"/\x7b\x7d", by decide⟩ .space
    (.more ⟨"int", by decide⟩ ⟨['\t', ' '], List.cons_ne_nil _ _, List.all_eq_true.mp rfl⟩
      (.more ⟨"必填", by decide +kernel⟩ .space
        (.more ⟨"bearer \x7b\x7bTOKEN\x7d\x7d", by decide⟩ .space
          (.last ⟨"a key // 用户", by decide⟩))))

/-- A header with quotes in its name, and with characters outside of ASCII. -/
theorem parameter_line_read_keyRow :
    '@' ∉ "list_books".toList ∧
      (Keyword.ofWord "@Header").form? = some (requestShapes, .requestFields "@header") ∧
        lineOf ⟨[' '], List.all_eq_true.mp rfl⟩ "@Header" .space keyRow ⟨[], nofun⟩ =
          " @Header X-\"Key\"/\x7b\x7d int\t 必填 \"bearer \x7b\x7bTOKEN\x7d\x7d\" \"a key // 用户\"" ∧
        applyLine none "list_books"
            (lineOf ⟨[' '], List.all_eq_true.mp rfl⟩ "@Header" .space keyRow ⟨[], nofun⟩) {} {} =
          (.ok { request := { headers := [⟨"X-\"Key\"/\x7b\x7d", .number, true,
            "bearer \x7b\x7bTOKEN\x7d\x7d", "a key // 用户"⟩] } }, {}) := by
  have hkeyword : Keyword.ofWord "@Header" = .header := by decide +kernel
  have hform : (Keyword.ofWord "@Header").form? =
      some (requestShapes, .requestFields "@header") := by
    rw [hkeyword]
    rfl
  refine ⟨by decide, hform, by decide +kernel, ?_⟩
  rw [parameter_line_read none (by decide) hform, hkeyword]
  refine congrArg (Except.ok · , _) ?_
  decide +kernel

/-- **All parameters.** A line about a parameter whose payload names no type is accepted exactly
where a row of the fields that its keyword asks for stands somewhere in the payload; the first one
counts, and what stands around it is passed over. Any other such line is refused and changes
nothing. -/
theorem parameter_line_outcome (scope : Option TypeScope) {operation line payload : String}
    {keyword : Keyword} {shapes : List FieldShape} {cause : DirectiveCause}
    (hline : directive? operation line = some (keyword, payload))
    (hkeyword : keyword.form? = some (shapes, cause)) (href : typeReference? payload = none)
    (doc : Document) (s : Session) :
    (∀ doc' s', applyLine scope operation line doc s = (.ok doc', s') ↔
      s' = s ∧ ∃ fields, FirstRow shapes fields payload.toList ∧
        doc' = doc.withParam keyword fields) ∧
      ∀ e s', applyLine scope operation line doc s = (.error e, s') ↔
        s' = s ∧ e = ⟨payload, cause⟩ ∧ ¬ HasRow shapes payload.toList := by
  have hlast := Keyword.getLast?_of_form? hkeyword
  rw [applyLine_of_directive? scope hline, applyKeyword_param scope doc s hkeyword href]
  simp only [← findFields_eq_some_iff hlast, ← findFields_eq_none_iff hlast]
  cases findFields shapes payload.toList with
  | some fields =>
    refine ⟨fun doc' s' => ⟨?_, ?_⟩, fun e s' => ⟨nofun, fun hnone => nomatch hnone.2.2⟩⟩
    · rintro ⟨⟩
      exact ⟨rfl, fields, rfl, rfl⟩
    · rintro ⟨rfl, _, ⟨⟩, rfl⟩
      rfl
  | none =>
    refine ⟨fun doc' s' => ⟨nofun, ?_⟩, fun e s' => ⟨?_, ?_⟩⟩
    · rintro ⟨-, _, ⟨⟩, -⟩
    · rintro ⟨⟩
      exact ⟨rfl, rfl, rfl⟩
    · rintro ⟨rfl, rfl, -⟩
      rfl

/-- A payload with words around the fields of a header. -/
def strayPayload : String :=
  "my token string true \"\" \"a key\" and more"

/-- A row is found in the middle of a payload. -/
theorem parameter_line_outcome_strayPayload :
    directive? "" ("@header " ++ strayPayload) = some (.header, strayPayload) ∧
      Keyword.header.form? = some (requestShapes, .requestFields "@header") ∧
      typeReference? strayPayload = none ∧
      (∀ row : Row requestShapes, row.text ≠ strayPayload.toList) ∧
      applyLine none "" ("@header " ++ strayPayload) {} {} =
        (.ok { request := { headers := [⟨"token", .string, true, "", "a key"⟩] } }, {}) := by
  have hline : directive? "" ("@header " ++ strayPayload) = some (.header, strayPayload) := by
    decide +kernel
  have href : typeReference? strayPayload = none := by decide +kernel
  refine ⟨hline, rfl, href, ?_, ?_⟩
  · intro row htext
    have htake := takeFields_text_append row (stops_of_getLast?_eq_quoted rfl [])
    rw [List.append_nil, htext] at htake
    have hnone : takeFields requestShapes strayPayload.toList = none := by decide +kernel
    rw [hnone] at htake
    cases htake
  · refine ((parameter_line_outcome none hline rfl href {} {}).1 _ _).mpr
      ⟨rfl, ["token", "string", "true", "", "a key"], (findFields_eq_some_iff rfl).mp ?_, ?_⟩
    · decide +kernel
    · decide +kernel

end ApiDocs
