import ApiDocs.Proofs.Directive.Parameters
import ApiDocs.Proofs.Directive.Responses

/-!
# Method, encoding and parameters of a request

A line can do four things to the request of a document (`RequestChange`): it leaves method, URL,
encoding, parameters and example as they are, sets method and URL, sets the encoding, or adds
parameters. So a GET request keeps its parameters in the URL whatever lines follow each other
(`get_stays_urlEncoded`). Lines that set the method or the encoding do not look back at parameters
that are there already, and a request is consistent exactly where none of these is left behind
(`request_consistent_iff`).
-/

namespace ApiDocs

open Directive

/-! ## One line -/

/-- A request with the parameters that a line describes: in the URL where the method is GET, in the
body otherwise. A JSON request takes over the example of their type. -/
def Request.withDescribed (r : Request) (described : Described RequestParam) : Request :=
  { r with
    query := if r.method = "get" then r.query ++ described.1 else r.query
    params := if r.method = "get" then r.params else r.params ++ described.1
    bodyExample := if r.mode = .json then described.2.elim r.bodyExample (·.pretty 4)
      else r.bodyExample }

/-- What a line does to a request, with the parameters that it describes if it is about these. -/
inductive RequestChange (r : Request) : Option (Described RequestParam) → Request → Prop where
  /-- It is about something else, or is refused. -/
  | other (status : Status) (headers pathVariables query : List RequestParam) :
      RequestChange r none { r with status, headers, pathVariables, query }
  /-- It sets method and URL, and the encoding that the method starts with. -/
  | url {method url : String} (hmethod : method ≠ "") (hurl : url ≠ "") :
      RequestChange r none { r with method, url, mode := BodyMode.ofMethod method }
  /-- It sets the encoding. -/
  | mode {mode : BodyMode} (h : mode = .urlEncoded ∨ r.method ≠ "get") :
      RequestChange r none { r with mode }
  /-- It adds parameters, perhaps with the example of a type. -/
  | param {described : Described RequestParam} (h : ∀ sample ∈ described.2, sample.IsRecord) :
      RequestChange r (some described) (r.withDescribed described)

theorem RequestChange.refl (r : Request) : RequestChange r none r :=
  .other r.status r.headers r.pathVariables r.query

/-- Parameters that are described go to the request. -/
theorem request_withParams (doc : Document) (described : Described RequestParam) :
    (withParams doc described).request = doc.request.withDescribed described := by
  obtain ⟨params, sample⟩ := described
  unfold withParams withQuery Request.withDescribed
  cases sample with
  | none => by_cases hget : doc.request.method = "get" <;> simp [hget]
  | some value =>
    by_cases hget : doc.request.method = "get" <;>
      by_cases hjson : doc.request.mode = .json <;> simp [hget, hjson]

/-- A line of documentation and all that it is read with. -/
structure DocLine where
  /-- The line. -/
  text : String
  /-- The name of the operation, empty where there is none. -/
  operation : String
  /-- Where types are resolved. -/
  scope : Option TypeScope
  /-- What is known of the types when the line is read. -/
  session : Session

namespace DocLine

/-- What the line describes of the parameters of the request, if it is about them. -/
def described? (l : DocLine) : Option (Described RequestParam) :=
  match directive? l.operation l.text with
  | some (.param, payload) =>
    (describe l.scope requestParam (requestParam? RequestParam.ofFields) (.requestFields "@param")
      payload l.session).1.toOption
  | _ => none

/-- The document after the line; a line that is refused leaves it as it is. -/
def apply (l : DocLine) (doc : Document) : Document :=
  (applyLine l.scope l.operation l.text doc l.session).1.toOption.getD doc

/-- A line that is no directive sets the title at most. -/
theorem apply_of_directive?_eq_none {l : DocLine} (h : directive? l.operation l.text = none)
    (doc : Document) : (l.apply doc).request = doc.request := by
  unfold apply applyLine
  unfold directive? at h
  cases hsplit : splitLine? l.text with
  | none => rfl
  | some parts =>
    rw [hsplit] at h
    simp only [Option.bind_some, ite_eq_left_iff, reduceCtorEq, imp_false, not_not] at h
    simp only [if_pos h]
    rfl

/-- What a line does to the request, keyword by keyword. -/
theorem change (l : DocLine) (doc : Document) :
    RequestChange doc.request l.described? (l.apply doc).request := by
  cases hline : directive? l.operation l.text with
  | none =>
    rw [described?, hline, apply_of_directive?_eq_none hline]
    exact .refl _
  | some directive =>
    obtain ⟨keyword, payload⟩ := directive
    rw [described?, hline, apply, applyLine_of_directive? l.scope hline]
    cases keyword with
    | title | catalog | description | remark | unknown =>
      simp only [applyKeyword, Directive.pass, Except.toOption, Option.getD_some]
      exact .refl _
    | status => exact .other (Status.ofCode payload) _ _ _
    | url =>
      rw [applyKeyword, applyUrl]
      have hwords : ∀ word ∈ Text.words payload.toList, String.ofList word ≠ "" := by
        intro word hword hempty
        have hnil : word = [] := by simpa using congrArg String.toList hempty
        rw [hnil] at hword
        cases (List.mem_filter.mp hword).2
      generalize Text.words payload.toList = words at hwords
      obtain _ | ⟨method, _ | ⟨url, _ | ⟨third, words⟩⟩⟩ := words
      · exact .refl _
      · exact .refl _
      · exact .url (mt Text.lower_eq_empty_iff.mp (hwords method (by simp))) (hwords url (by simp))
      · exact .refl _
    | header =>
      rw [applyKeyword, applyHeader]
      cases requestParam? RequestParam.header payload with
      | some p => exact .other _ (_ ++ [p]) _ _
      | none => exact .refl _
    | pathVariable =>
      rw [applyKeyword, applyPathVariable]
      cases requestParam? RequestParam.ofFields payload with
      | some p => exact .other _ _ (_ ++ [p]) _
      | none => exact .refl _
    | mode =>
      rw [applyKeyword, applyMode]
      cases BodyMode.parse? payload with
      | none => exact .refl _
      | some mode =>
        by_cases hget : mode ≠ .urlEncoded ∧ doc.request.method = "get"
        · simp only [if_pos hget]
          exact .refl _
        · simp only [if_neg hget]
          exact .mode (by simpa [imp_iff_not_or] using hget)
    | query =>
      rw [applyKeyword]
      generalize describe _ _ _ _ _ _ = result
      obtain ⟨e | described, s⟩ := result
      · exact .refl _
      · exact .other _ _ _ (_ ++ _)
    | param =>
      rw [applyKeyword]
      simp only
      obtain ⟨⟨e | described, s⟩, hresult⟩ : ∃ result, describe l.scope requestParam
        (requestParam? RequestParam.ofFields) (.requestFields "@param") payload l.session =
          result := ⟨_, rfl⟩
      · rw [hresult]
        exact .refl _
      · rw [hresult]
        show RequestChange doc.request (some described) (withParams doc described).request
        rw [request_withParams]
        -- an example is that of an expansion
        obtain ⟨params, sample?⟩ := described
        refine .param ?_
        rintro sample ⟨⟩
        exact isRecord_of_describe hresult
    | response | failure =>
      rw [applyKeyword]
      generalize describe _ _ _ _ _ _ = result
      obtain ⟨e | described, s⟩ := result <;> exact .refl _

end DocLine

/-! ## GET requests -/

/-- Whether a GET request is encoded in the URL, and there is a method if and only if there is a
URL. -/
structure Request.IsSettled (r : Request) : Prop where
  /-- The encoding. -/
  mode : r.method = "get" → r.mode = .urlEncoded
  /-- Method and URL. -/
  empty_iff : r.method = "" ↔ r.url = ""

/-- A request stays settled in every change. -/
theorem RequestChange.isSettled {r r' : Request} {described : Option (Described RequestParam)}
    (hchange : RequestChange r described r') (h : r.IsSettled) : r'.IsSettled := by
  cases hchange with
  | other => exact ⟨h.mode, h.empty_iff⟩
  | url hmethod hurl =>
    refine ⟨?_, iff_of_false hmethod hurl⟩
    rintro rfl
    rfl
  | mode hmode =>
    exact ⟨fun hget => hmode.resolve_right fun hother => hother hget, h.empty_iff⟩
  | param => exact ⟨h.mode, h.empty_iff⟩

/-- Documents start without method and URL, and in the URL encoding. -/
theorem isSettled_of_start {start : Document}
    (hstart : start = {} ∨ ∃ general : Document, start = general.seeded) :
    start.request.IsSettled := by
  rcases hstart with rfl | ⟨general, rfl⟩ <;> exact ⟨fun _ => rfl, iff_of_true rfl rfl⟩

/-! ## Many lines -/

namespace DocLine

/-- The document after some lines, one after the other. Each line comes with what is known when it
is read, which may be more than before. -/
def applyAll (lines : List DocLine) (doc : Document) : Document :=
  lines.foldl (fun doc l => l.apply doc) doc

theorem applyAll_cons (l : DocLine) (rest : List DocLine) (doc : Document) :
    applyAll (l :: rest) doc = applyAll rest (l.apply doc) := by
  rw [applyAll, List.foldl_cons, applyAll]

/-- **Lines.** A request stays settled, whatever lines follow. -/
theorem applyAll_isSettled (lines : List DocLine) {doc : Document} (h : doc.request.IsSettled) :
    (applyAll lines doc).request.IsSettled := by
  induction lines generalizing doc with
  | nil => exact h
  | cons l rest ih =>
    rw [applyAll_cons]
    exact ih ((l.change doc).isSettled h)

end DocLine

open DocLine

/-- **GET requests.** Whatever lines are applied, in any order and accepted or refused, a GET
request is encoded in the URL, and there is a method if and only if there is a URL. -/
theorem get_stays_urlEncoded {start : Document}
    (hstart : start = {} ∨ ∃ general : Document, start = general.seeded) (lines : List DocLine) :
    ((applyAll lines start).request.method = "get" →
        (applyAll lines start).request.mode = .urlEncoded) ∧
      ((applyAll lines start).request.method = "" ↔ (applyAll lines start).request.url = "") := by
  obtain ⟨hmode, hempty⟩ := applyAll_isSettled lines (isSettled_of_start hstart)
  exact ⟨hmode, hempty⟩

/-- A line of an operation, where no types are known. -/
def listLine (text : String) : DocLine :=
  ⟨text, "list_books", none, {}⟩

/-- An encoding before the method, one that does not go with it, and a URL without a method. -/
def getLines : List DocLine :=
  ["@param_mode json", "@url GET /books", "@param_mode json", "@url /books"].map listLine

/-- Two lines ask for another encoding, and a URL without a method follows; it stays a `GET`
request. -/
theorem get_stays_urlEncoded_getLines :
    (∃ general : Document, ({ catalog := "Books" } : Document).seeded = general.seeded) ∧
      (applyAll getLines ({ catalog := "Books" } : Document).seeded).request.method = "get" ∧
      (applyAll getLines ({ catalog := "Books" } : Document).seeded).request.mode = .urlEncoded ∧
      (applyAll getLines ({ catalog := "Books" } : Document).seeded).request.url ≠ "" := by
  have hmethod : (applyAll getLines
      ({ catalog := "Books" } : Document).seeded).request.method = "get" := by
    decide +kernel
  obtain ⟨hmode, hempty⟩ := get_stays_urlEncoded (.inr ⟨{ catalog := "Books" }, rfl⟩) getLines
  refine ⟨⟨_, rfl⟩, hmethod, hmode hmethod, fun hurl => ?_⟩
  exact absurd (hmethod.symm.trans (hempty.mpr hurl)) (by decide)

/-! ## Consistent requests -/

/-- A line about parameters that has been applied. -/
structure Addition where
  /-- The request before it. -/
  request : Request
  /-- What it describes. -/
  described : Described RequestParam

namespace DocLine

/-- The lines about parameters among some lines. -/
def additions : List DocLine → Document → List Addition
  | [], _ => []
  | l :: rest, doc =>
    (l.described?.map fun described => ⟨doc.request, described⟩).toList ++
      additions rest (l.apply doc)

/-- What holds after lines, from what one line does to it: it holds of the request before them, and
each line about parameters keeps it. -/
theorem applyAll_iff {P : Request → Prop} {K : Request → Described RequestParam → Prop}
    (hchange : ∀ {r r' : Request} {described : Option (Described RequestParam)},
      RequestChange r described r' → (P r' ↔ P r ∧ ∀ d ∈ described, K r d))
    (lines : List DocLine) (doc : Document) :
    P (applyAll lines doc).request ↔
      P doc.request ∧ ∀ a ∈ additions lines doc, K a.request a.described := by
  induction lines generalizing doc with
  | nil => simp [applyAll, additions]
  | cons l rest ih =>
    rw [applyAll_cons, ih, hchange (l.change doc), additions, List.forall_mem_append, and_assoc]
    cases l.described? <;> simp

end DocLine

/-- A line puts parameters into the body only while the method is not GET. -/
theorem RequestChange.params_eq_nil_iff {r r' : Request}
    {described : Option (Described RequestParam)} (h : RequestChange r described r') :
    r'.params = [] ↔ r.params = [] ∧ ∀ d ∈ described, r.method = "get" ∨ d.1 = [] := by
  cases h with
  | other | url | mode => simp
  | param =>
    by_cases hget : r.method = "get" <;> simp [Request.withDescribed, hget]

/-- A line takes over an example only while the encoding is JSON. -/
theorem RequestChange.bodyExample_eq_empty_iff {r r' : Request}
    {described : Option (Described RequestParam)} (h : RequestChange r described r') :
    r'.bodyExample = "" ↔ r.bodyExample = "" ∧ ∀ d ∈ described, r.mode = .json → d.2 = none := by
  cases h with
  | other | url | mode => simp
  | @param described hrecord =>
    obtain ⟨params, sample?⟩ := described
    by_cases hjson : r.mode = .json
    · cases sample? with
      | none => simp [Request.withDescribed]
      | some sample => simp [Request.withDescribed, hjson, (hrecord sample rfl).2.pretty_ne_empty]
    · simp [Request.withDescribed, hjson]

/-- **Consistent requests.** A GET request has no parameters and no example in its body, and only a
JSON request has an example, exactly if the lines that follow those about parameters have left
nothing behind: no parameter was put into the body of what is now a GET request, and no example was
taken over by a JSON request that is no such request any more. -/
theorem request_consistent_iff {start : Document}
    (hstart : start = {} ∨ ∃ general : Document, start = general.seeded) (lines : List DocLine) :
    (((applyAll lines start).request.method = "get" →
        (applyAll lines start).request.params = [] ∧
          (applyAll lines start).request.bodyExample = "") ∧
      ((applyAll lines start).request.bodyExample ≠ "" →
        (applyAll lines start).request.mode = .json)) ↔
      ((applyAll lines start).request.method = "get" →
        ∀ a ∈ additions lines start, a.request.method = "get" ∨ a.described.1 = []) ∧
      ∀ a ∈ additions lines start, a.request.mode = .json → a.described.2 ≠ none →
        (applyAll lines start).request.mode = .json := by
  obtain ⟨hnoParams, hnoExample⟩ :
      start.request.params = [] ∧ start.request.bodyExample = "" := by
    rcases hstart with rfl | ⟨general, rfl⟩ <;> exact ⟨rfl, rfl⟩
  have hsettled : (applyAll lines start).request.IsSettled :=
    applyAll_isSettled lines (isSettled_of_start hstart)
  have hparams : (applyAll lines start).request.params = [] ↔ _ :=
    (applyAll_iff (P := fun r => r.params = []) RequestChange.params_eq_nil_iff lines start).trans
      (and_iff_right hnoParams)
  have hexample : (applyAll lines start).request.bodyExample = "" ↔ _ :=
    (applyAll_iff (P := fun r => r.bodyExample = "") RequestChange.bodyExample_eq_empty_iff lines
      start).trans (and_iff_right hnoExample)
  constructor
  · rintro ⟨hget, hjson⟩
    refine ⟨fun hmethod => hparams.mp (hget hmethod).1, fun a ha hmode hsome => ?_⟩
    exact hjson fun hempty => hsome (hexample.mp hempty a ha hmode)
  · rintro ⟨hget, hjson⟩
    have hmode : (applyAll lines start).request.bodyExample ≠ "" →
        (applyAll lines start).request.mode = .json := by
      intro hne
      by_contra hother
      refine hne (hexample.mpr fun a ha hmode => ?_)
      by_contra hsome
      exact hother (hjson a ha hmode hsome)
    refine ⟨fun hmethod => ⟨hparams.mpr (hget hmethod), ?_⟩, hmode⟩
    -- a GET request is no JSON request
    by_contra hne
    have hboth := (hsettled.mode hmethod).symm.trans (hmode hne)
    cases hboth

/-- What is known where there is one structure. -/
def bookTypes : Session :=
  ({} : Session).addScanned
    [{ path := ⟨"a.rs"⟩, module := "crate::a",
       types := [⟨"Book", .struct
        [⟨"title", "title", .named "String", false, false, false, false, "the title"⟩]⟩] }]

/-- A JSON request with the example of a type. -/
def createLines : List DocLine :=
  ["@url POST /books", "@param Book\x7b\x7d"].map
    fun text => ⟨text, "create_book", some ⟨Loader.none, 0⟩, bookTypes⟩

/-- A request with a body example and the mode that goes with it. -/
theorem request_consistent_iff_createLines :
    (∃ general : Document, ({} : Document).seeded = general.seeded) ∧
      additions createLines ({} : Document).seeded ≠ [] ∧
      (applyAll createLines ({} : Document).seeded).request.bodyExample ≠ "" ∧
      (applyAll createLines ({} : Document).seeded).request.mode = .json := by
  have hexample : (applyAll createLines ({} : Document).seeded).request.bodyExample ≠ "" := by
    decide +kernel
  have hconsistent := (request_consistent_iff (.inr ⟨{}, rfl⟩) createLines).mpr
    ⟨by decide +kernel, by decide +kernel⟩
  refine ⟨⟨_, rfl⟩, fun hnil => ?_, hexample, hconsistent.2 hexample⟩
  have hlength : (additions createLines ({} : Document).seeded).length = 1 := by decide +kernel
  rw [hnil] at hlength
  cases hlength

/-- The document of lines that are all accepted. -/
def acceptedBook (lines : List String) : Option Document :=
  (Assembly.applyLines ⟨Loader.none, 0⟩ "create_book" lines {} bookTypes).1.toOption

/-- Each line is read with what the lines before it have set: a method or an encoding that comes
late leaves a parameter or an example in the body of a GET request, and an example in form data. -/
theorem request_inconsistent_of_late_lines :
    ((acceptedBook ["@param page int true \"1\" \"\"", "@url GET /books"]).any fun doc =>
      doc.request.method = "get" ∧ doc.request.params ≠ []) ∧
    ((acceptedBook ["@url POST /books", "@param Book\x7b\x7d", "@url GET /books"]).any fun doc =>
      doc.request.method = "get" ∧ doc.request.bodyExample ≠ "") ∧
    ((acceptedBook ["@url POST /books", "@param Book\x7b\x7d", "@param_mode form-data"]).any
      fun doc => doc.request.bodyExample ≠ "" ∧ doc.request.mode ≠ .json) := by
  decide +kernel

end ApiDocs
