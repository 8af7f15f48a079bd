import ApiDocs.Directive.Apply

/-!
# Editing a document in place

An editor holds a document, and the session in which types are looked up. A line of documentation
changes the parts of the document one after the other, or is refused on the way. After a line that
was refused the editor holds whatever was changed up to then.
-/

namespace ApiDocs

/-- A document that is being written, and the state of the run. -/
structure Editor where
  /-- The document so far. -/
  doc : Document := {}
  /-- What is known of the types. -/
  session : Session := {}

/-- A step of an editor. It may be refused, and does not take back what was done before. -/
abbrev Edit (α : Type) := ExceptT DirectiveError (StateM Editor) α

namespace Edit

open Directive

/-! ## Small steps -/

/-- Changes the document. -/
def onDoc (change : Document → Document) : Edit Unit :=
  modify fun e => { e with doc := change e.doc }

/-- Changes the request. -/
def onRequest (change : Request → Request) : Edit Unit :=
  onDoc fun doc => { doc with request := change doc.request }

/-- Refuses a payload. -/
def refuse {α : Type} (payload : String) (cause : DirectiveCause) : Edit α :=
  throw ⟨payload, cause⟩

/-- Takes what a payload must have, and refuses one without it. -/
def need {α : Type} (payload : String) (cause : DirectiveCause) : Option α → Edit α
  | some a => pure a
  | none => refuse payload cause

/-- Looks something up in the session, which may change also where nothing is found. -/
def onSession {α : Type} (find : Session → Except DirectiveError α × Session) : Edit α :=
  ExceptT.mk fun e =>
    let found := find e.session
    (found.1, { e with session := found.2 })

/-! ## Single keywords -/

/-- Sets the method, the URL, and the encoding that the method starts with. -/
def url (payload : String) : Edit Unit :=
  match Text.words payload.toList with
  | [method, url] => do
    onRequest fun r => { r with method := Text.lower (String.ofList method) }
    onRequest fun r => { r with url := String.ofList url }
    onRequest fun r => { r with mode := BodyMode.ofMethod r.method }
  | _ => refuse payload .urlFields

/-- Sets the encoding. -/
def mode (payload : String) : Edit Unit := do
  let mode ← need payload .unknownMode (BodyMode.parse? payload)
  let method := (← get).doc.request.method
  if mode ≠ .urlEncoded ∧ method = "get" then refuse payload .modeOfGet
  else onRequest fun r => { r with mode := mode }

/-- Adds a header. -/
def header (payload : String) : Edit Unit := do
  let p ← need payload (.requestFields "@header") (requestParam? RequestParam.header payload)
  onRequest fun r => { r with headers := r.headers ++ [p] }

/-- Adds a variable in the URL. -/
def pathVariable (payload : String) : Edit Unit := do
  let p ← need payload (.requestFields "@path_var") (requestParam? RequestParam.ofFields payload)
  onRequest fun r => { r with pathVariables := r.pathVariables ++ [p] }

/-- Adds parameters in the URL. -/
def query (scope : Option TypeScope) (payload : String) : Edit Unit := do
  let (params, _) ← onSession (describe scope requestParam (requestParam? RequestParam.ofFields)
    (.requestFields "@query") payload)
  onRequest fun r => { r with query := r.query ++ params }

/-- Adds parameters of the request, and then the example of their type to a JSON request. -/
def param (scope : Option TypeScope) (payload : String) : Edit Unit := do
  let (params, sample) ← onSession (describe scope requestParam
    (requestParam? RequestParam.ofFields) (.requestFields "@param") payload)
  onRequest fun r =>
    if r.method = "get" then { r with query := r.query ++ params }
    else { r with params := r.params ++ params }
  match sample with
  | some value =>
    onRequest fun r => if r.mode = .json then { r with bodyExample := value.pretty 4 } else r
  | none => pure ()

/-- Adds parameters to a response, and then the example of their type. The response stands where
`on` changes it. -/
def reply (on : (Response → Response) → Edit Unit) (scope : Option TypeScope)
    (cause : DirectiveCause) (payload : String) : Edit Unit := do
  let (params, sample) ← onSession (describe scope responseParam responseParam? cause payload)
  on fun r => { r with params := r.params ++ params }
  match sample with
  | some value => on fun r => { r with sample := mergeSample r.sample value }
  | none => pure ()

/-! ## Lines -/

/-- Edits a document by a keyword and its payload. -/
def keyword (scope : Option TypeScope) (keyword : Keyword) (payload : String) : Edit Unit :=
  match keyword with
  | .title => onDoc fun doc => { doc with title := payload }
  | .catalog => onDoc fun doc => { doc with catalog := appendCatalog doc.catalog payload }
  | .description => onDoc fun doc => { doc with description := appendLine doc.description payload }
  | .remark => onDoc fun doc => { doc with remark := appendLine doc.remark payload }
  | .url => url payload
  | .status => onRequest fun r => { r with status := Status.ofCode payload }
  | .header => header payload
  | .pathVariable => pathVariable payload
  | .query => query scope payload
  | .mode => mode payload
  | .param => param scope payload
  | .response =>
    reply (fun change => onDoc fun doc => { doc with response := change doc.response }) scope
      (.responseFields "@response") payload
  | .failure =>
    reply (fun change => onDoc fun doc => { doc with failure := change doc.failure }) scope
      (.responseFields "@response_fail") payload
  | .unknown _ => pure ()

/-- Edits a document by one line of documentation. -/
def line (scope : Option TypeScope) (operation text : String) : Edit Unit :=
  match splitLine? text with
  | none => pure ()
  | some (word, payload) =>
    if !operation.isEmpty && sameName word operation then
      onDoc fun doc => { doc with title := if payload.isEmpty then word else payload }
    else keyword scope (Keyword.ofWord word) payload

end Edit

namespace Editor

/-- Edits a document by a line: what is wrong with the line, if anything is, and the editor
afterwards. -/
def step (scope : Option TypeScope) (operation text : String) (e : Editor) :
    Except DirectiveError Unit × Editor :=
  (Edit.line scope operation text).run.run e

end Editor

end ApiDocs
