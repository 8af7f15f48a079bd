import ApiDocs.Directive.Edit
import ApiDocs.Proofs.Text

/-!
# Lines that are refused

An editor changes its document in place, part by part, and takes nothing back. Still a line is
either applied as a whole or not at all: each keyword looks at its payload before it writes
anything, so that a step of an editor comes out as the line applied to the document
(`Editor.step_eq`). A line that is refused leaves the editor as it was, and a run over lines comes
out as if the refused ones had not been there (`refused_lines_leave_no_trace`).
-/

namespace ApiDocs

open Directive

/-! ## What is wrong with a line -/

namespace Directive

/-- The characters of a line without white space and comment marks around them. -/
def plainLine (text : String) : List Char :=
  Text.trimChars ((Text.trimChars text.toList).dropWhile fun c => c == '/' || c == '*')

/-- A line is its first word, and a payload behind it without the white space around that. -/
theorem plainLine_of_splitLine? {text word payload : String}
    (h : splitLine? text = some (word, payload)) :
    ∃ rest, plainLine text = word.toList ++ rest ∧
      (∀ c ∈ word.toList, Text.isBlank c = false) ∧
      (∀ c ∈ rest.head?, Text.isBlank c = true) ∧
      payload = String.ofList (Text.trimChars rest) := by
  unfold splitLine? at h
  rw [plainLine]
  simp only at h
  generalize Text.trimChars ((Text.trimChars text.toList).dropWhile _) = cs at h ⊢
  cases hfront : cs.takeWhile (fun c => !Text.isBlank c) with
  | nil =>
    rw [hfront] at h
    cases h
  | cons c front =>
    rw [hfront] at h
    cases h
    obtain ⟨hline, hword, hrest⟩ := Text.takeWhile_dropWhile_eq_iff.mp ⟨hfront, rfl⟩
    rw [String.toList_ofList]
    exact ⟨_, hline, by simpa using hword, by simpa using hrest, rfl⟩

/-- A payload that describes no parameters leaves the session as it is. -/
theorem describe_eq_error {α : Type} {scope : Option TypeScope} {ofField : Field → α}
    {single? : String → Option α} {cause : DirectiveCause} {payload : String} {s s' : Session}
    {err : DirectiveError}
    (h : describe scope ofField single? cause payload s = (.error err, s')) :
    s' = s ∧ err.line = payload := by
  unfold describe at h
  cases htype : typeReference? payload with
  | some name =>
    rw [htype] at h
    rcases hexpand : expand scope name s with ⟨_ | e, s₁⟩ <;> simp [hexpand] at h
  | none =>
    rw [htype] at h
    cases hsingle : single? payload with
    | some p => simp [hsingle] at h
    | none =>
      rw [hsingle] at h
      cases h
      exact ⟨rfl, rfl⟩

/-- A failure to describe something is a failure of the directive. -/
theorem put_eq_error {α : Type} {add : Described α → Document} {s' : Session}
    {result : Except DirectiveError (Described α) × Session} {err : DirectiveError}
    (h : put add result = (.error err, s')) : result = (.error err, s') := by
  obtain ⟨e | described, s⟩ := result <;> cases h
  rfl

/-- What is refused is the payload of a keyword, and the session is left as it is. -/
theorem applyKeyword_eq_error {scope : Option TypeScope} {keyword : Keyword} {payload : String}
    {doc : Document} {s s' : Session} {err : DirectiveError}
    (h : applyKeyword scope keyword payload doc s = (.error err, s')) :
    (∀ word, keyword ≠ .unknown word) ∧ s' = s ∧ err.line = payload := by
  constructor
  · rintro word rfl
    cases h
  cases keyword with
  | title | catalog | description | remark | status | unknown => cases h
  | url =>
    rw [applyKeyword, applyUrl] at h
    split at h
    · cases h
    · cases h
      exact ⟨rfl, rfl⟩
  | header =>
    rw [applyKeyword, applyHeader] at h
    split at h
    · cases h
    · cases h
      exact ⟨rfl, rfl⟩
  | pathVariable =>
    rw [applyKeyword, applyPathVariable] at h
    split at h
    · cases h
    · cases h
      exact ⟨rfl, rfl⟩
  | mode =>
    rw [applyKeyword, applyMode] at h
    split at h
    · cases h
      exact ⟨rfl, rfl⟩
    · split at h
      · cases h
        exact ⟨rfl, rfl⟩
      · cases h
  | query | param | response | failure => exact describe_eq_error (put_eq_error h)

end Directive

/-! ## Steps of an editor -/

/-- The editor after a line that gives a document or is refused. -/
def Editor.after (e : Editor) :
    Except DirectiveError Document × Session → Except DirectiveError Unit × Editor
  | (.ok doc, s) => (.ok (), ⟨doc, s⟩)
  | (.error err, s) => (.error err, ⟨e.doc, s⟩)

namespace Edit

variable (e : Editor)

theorem run_url (payload : String) :
    (url payload).run.run e = e.after (applyUrl payload e.doc, e.session) := by
  unfold url applyUrl
  obtain _ | ⟨method, _ | ⟨url, _ | ⟨third, words⟩⟩⟩ := Text.words payload.toList <;> rfl

theorem run_mode (payload : String) :
    (mode payload).run.run e = e.after (applyMode payload e.doc, e.session) := by
  unfold mode applyMode
  cases BodyMode.parse? payload with
  | none => rfl
  | some mode =>
    change (if mode ≠ .urlEncoded ∧ e.doc.request.method = "get" then refuse payload .modeOfGet
      else onRequest fun r => { r with mode := mode }).run.run e = _
    by_cases hget : mode ≠ .urlEncoded ∧ e.doc.request.method = "get"
    · simp only [if_pos hget]
      rfl
    · simp only [if_neg hget]
      rfl

theorem run_header (payload : String) :
    (header payload).run.run e = e.after (applyHeader payload e.doc, e.session) := by
  unfold header applyHeader
  cases requestParam? RequestParam.header payload <;> rfl

theorem run_pathVariable (payload : String) :
    (pathVariable payload).run.run e = e.after (applyPathVariable payload e.doc, e.session) := by
  unfold pathVariable applyPathVariable
  cases requestParam? RequestParam.ofFields payload <;> rfl

/-- What is found in the session is written into the document afterwards. -/
theorem run_onSession_bind {α : Type}
    {find : Session → Except DirectiveError (Described α) × Session}
    {write : Described α → Edit Unit} {add : Described α → Document}
    (h : ∀ described s, (write described).run.run ⟨e.doc, s⟩ = (.ok (), ⟨add described, s⟩)) :
    (onSession find >>= write).run.run e = e.after (put add (find e.session)) := by
  have hrun : (onSession find >>= write).run.run e =
      (ExceptT.bindCont write (find e.session).1).run ⟨e.doc, (find e.session).2⟩ := rfl
  rw [hrun]
  rcases find e.session with ⟨err | described, s⟩
  · rfl
  · exact h described s

/-- The directive with effects does to an editor what the one without effects does to its
document. -/
theorem run_param (scope : Option TypeScope) (payload : String) :
    (param scope payload).run.run e =
      e.after (applyKeyword scope .param payload e.doc e.session) := by
  refine run_onSession_bind e fun described s => ?_
  obtain ⟨params, _ | value⟩ := described <;>
    refine congrArg (fun doc => (Except.ok (), Editor.mk doc s)) ?_ <;>
    unfold withParams withQuery <;>
    by_cases hget : e.doc.request.method = "get"
  · simp [hget]
  · simp [hget]
  · by_cases hjson : e.doc.request.mode = .json <;> simp [hget, hjson]
  · by_cases hjson : e.doc.request.mode = .json <;> simp [hget, hjson]

/-- **Keywords.** An editor does what a keyword does to a document, and leaves the document as it is
where the payload is refused. -/
theorem run_keyword (scope : Option TypeScope) (word : Keyword) (payload : String) :
    (keyword scope word payload).run.run e =
      e.after (applyKeyword scope word payload e.doc e.session) := by
  cases word with
  | title | catalog | description | remark | status | unknown => rfl
  | url => exact run_url e payload
  | mode => exact run_mode e payload
  | header => exact run_header e payload
  | pathVariable => exact run_pathVariable e payload
  | query => exact run_onSession_bind e fun _ _ => rfl
  | param => exact run_param e scope payload
  | response | failure =>
    refine run_onSession_bind e fun described s => ?_
    obtain ⟨params, _ | value⟩ := described <;> rfl

end Edit

namespace Editor

/-- **Lines.** An editor does what a line does to a document, and leaves the document as it is where
the line is refused. -/
theorem step_eq (scope : Option TypeScope) (operation text : String) (e : Editor) :
    e.step scope operation text = e.after (applyLine scope operation text e.doc e.session) := by
  unfold step Edit.line applyLine
  cases splitLine? text with
  | none => rfl
  | some parts =>
    obtain ⟨word, payload⟩ := parts
    by_cases htitle : (!operation.isEmpty && sameName word operation) = true
    · simp only [if_pos htitle]
      rfl
    · simp only [if_neg htitle]
      exact Edit.run_keyword e scope (Keyword.ofWord word) payload

/-- **One line.** A line that is refused leaves the editor as it was. What is reported is the part
behind its keyword. -/
theorem of_step_eq_error {scope : Option TypeScope} {operation text : String} {e e' : Editor}
    {err : DirectiveError} (h : e.step scope operation text = (.error err, e')) :
    e' = e ∧ ∃ word, splitLine? text = some (word, err.line) ∧
      ∀ other, Keyword.ofWord word ≠ .unknown other := by
  rw [step_eq] at h
  obtain ⟨⟨err' | doc, s⟩, hline⟩ : ∃ result,
    applyLine scope operation text e.doc e.session = result := ⟨_, rfl⟩
  · rw [hline] at h
    cases h
    unfold applyLine at hline
    cases hsplit : splitLine? text with
    | none =>
      rw [hsplit] at hline
      cases hline
    | some parts =>
      obtain ⟨word, payload⟩ := parts
      rw [hsplit] at hline
      simp only at hline
      split at hline
      · cases hline
      · obtain ⟨hknown, rfl, rfl⟩ := applyKeyword_eq_error hline
        exact ⟨rfl, word, rfl, hknown⟩
  · rw [hline] at h
    cases h

end Editor

/-! ## Runs -/

/-- A line of documentation, and the name of the operation that it belongs to, empty where there is
none. -/
structure OperationLine where
  /-- The name of the operation. -/
  operation : String
  /-- The line. -/
  text : String

/-- Edits a document by some lines, up to the first that is refused. -/
def Edit.lines (scope : Option TypeScope) (ls : List OperationLine) : Edit Unit :=
  forM ls fun l => Edit.line scope l.operation l.text

namespace Editor

variable (scope : Option TypeScope)

/-- The editor after some lines, one after the other, whether they are refused or not. -/
def applyAll (lines : List OperationLine) (e : Editor) : Editor :=
  lines.foldl (fun e l => (e.step scope l.operation l.text).2) e

/-- The lines that are not refused, each after all lines before it. -/
def accepted : List OperationLine → Editor → List OperationLine
  | [], _ => []
  | l :: rest, e =>
    match e.step scope l.operation l.text with
    | (.ok _, e) => l :: accepted rest e
    | (.error _, e) => accepted rest e

/-- **One more line.** A line in front is refused and without effect, or is the first one that is
accepted. -/
theorem accepted_cons (l : OperationLine) (rest : List OperationLine) (e : Editor) :
    (accepted scope (l :: rest) e = accepted scope rest e ∧
      applyAll scope (l :: rest) e = applyAll scope rest e) ∨
    ∃ e', e.step scope l.operation l.text = (.ok (), e') ∧
      accepted scope (l :: rest) e = l :: accepted scope rest e' ∧
      applyAll scope (l :: rest) e = applyAll scope rest e' := by
  obtain ⟨⟨err | u, e'⟩, hstep⟩ : ∃ result, e.step scope l.operation l.text = result := ⟨_, rfl⟩
  · obtain ⟨rfl, -⟩ := of_step_eq_error hstep
    left
    simp only [accepted, applyAll, List.foldl_cons, hstep, and_self]
  · right
    refine ⟨e', hstep, ?_⟩
    simp only [accepted, applyAll, List.foldl_cons, hstep, and_self]

/-- **Refused lines.** The accepted lines alone lead to the same document. -/
theorem applyAll_accepted (lines : List OperationLine) (e : Editor) :
    applyAll scope (accepted scope lines e) e = applyAll scope lines e := by
  induction lines generalizing e with
  | nil => rfl
  | cons l rest ih =>
    obtain ⟨haccepted, hall⟩ | ⟨e', hstep, haccepted, hall⟩ := accepted_cons scope l rest e
    · rw [haccepted, hall, ih]
    · rw [haccepted, hall, ← ih e', applyAll, List.foldl_cons, hstep]
      rfl

/-- The lines that are not refused make up one edit, which is not refused either. -/
theorem run_accepted (lines : List OperationLine) (e : Editor) :
    (Edit.lines scope (accepted scope lines e)).run.run e = (.ok (), applyAll scope lines e) := by
  induction lines generalizing e with
  | nil => rfl
  | cons l rest ih =>
    obtain ⟨haccepted, hall⟩ | ⟨e', hstep, haccepted, hall⟩ := accepted_cons scope l rest e
    · rw [haccepted, hall, ih]
    · rw [step] at hstep
      rw [haccepted, hall, ← ih e', Edit.lines, List.forM_cons, ExceptT.run_bind, StateT.run_bind,
        hstep]
      rfl

end Editor

open Editor

/-- **Refused lines.** A line that is refused leaves the document as it was, and so the catalog, the
resolved names and the requests to the loader; what is reported is the part behind the keyword of
the line, without the white space around it. So a run that goes on after refused lines ends as the
run over the other lines alone, in which no line is refused. -/
theorem refused_lines_leave_no_trace (scope : Option TypeScope) :
    (∀ (operation text : String) (e e' : Editor) (err : DirectiveError),
      e.step scope operation text = (.error err, e') →
        e' = e ∧ ∃ word rest, plainLine text = word.toList ++ rest ∧
          (∀ other, Keyword.ofWord word ≠ .unknown other) ∧
          (∀ c ∈ word.toList, Text.isBlank c = false) ∧
          (∀ c ∈ rest.head?, Text.isBlank c = true) ∧
          err.line = String.ofList (Text.trimChars rest)) ∧
    ∀ (lines : List OperationLine) (e : Editor),
      applyAll scope (accepted scope lines e) e = applyAll scope lines e ∧
      (Edit.lines scope (accepted scope lines e)).run.run e = (.ok (), applyAll scope lines e) := by
  refine ⟨fun operation text e e' err h => ?_, fun lines e => ?_⟩
  · obtain ⟨heq, word, hsplit, hknown⟩ := of_step_eq_error h
    obtain ⟨rest, hline, hword, hrest, hpayload⟩ := plainLine_of_splitLine? hsplit
    exact ⟨heq, word, rest, hline, hknown, hword, hrest, hpayload⟩
  · exact ⟨applyAll_accepted scope lines e, run_accepted scope lines e⟩

/-- A run in which the encoding, the parameter and the second URL are refused. -/
def refusedRun : List OperationLine :=
  ["@url GET /books", "/// @param_mode  json ", "@param page int", "@url /books",
    "@param page int true \"1\" \"\""].map (⟨"list_books", ·⟩)

/-- Three of five lines are refused, the first of them for an encoding that does not go with
`GET`. -/
theorem refused_lines_leave_no_trace_refusedRun :
    (applyAll none (refusedRun.take 1) {}).step none "list_books" "/// @param_mode  json " =
        (.error ⟨"json", .modeOfGet⟩, applyAll none (refusedRun.take 1) {}) ∧
      (accepted none refusedRun {}).map OperationLine.text =
        ["@url GET /books", "@param page int true \"1\" \"\""] ∧
      applyAll none (accepted none refusedRun {}) {} = applyAll none refusedRun {} := by
  obtain ⟨hline, hrun⟩ := refused_lines_leave_no_trace none
  have hrefused : ((applyAll none (refusedRun.take 1) {}).step none "list_books"
      "/// @param_mode  json ").1 = .error ⟨"json", .modeOfGet⟩ := by
    rfl
  refine ⟨?_, by decide +kernel, (hrun refusedRun {}).1⟩
  obtain ⟨heq, -⟩ := hline _ _ _ _ _ (Prod.ext hrefused rfl)
  exact Prod.ext hrefused heq

end ApiDocs
