import ApiDocs.Directive.Fields
import ApiDocs.Directive.Keyword
import ApiDocs.Document.Basic
import ApiDocs.Expansion
import ApiDocs.Json.Printer
import ApiDocs.Json.Reader

/-!
# Applying directive lines

Each line of the documentation of an operation is applied to its document. The first word says what
the rest describes; a line that starts with no keyword is left out. A payload that ends with a pair
of braces names a type, whose fields are the parameters.
-/

namespace ApiDocs

/-- What is wrong with a directive line. -/
inductive DirectiveCause where
  /-- The fields of a request parameter are not there. -/
  | requestFields (keyword : String)
  /-- The fields of a response parameter are not there. -/
  | responseFields (keyword : String)
  /-- A method and a URL are not there. -/
  | urlFields
  /-- The encoding is unknown. -/
  | unknownMode
  /-- The encoding does not go with the method. -/
  | modeOfGet
  deriving DecidableEq

/-- The message of a cause. -/
def DirectiveCause.message : DirectiveCause → String
  | .requestFields keyword =>
    "cannot parse " ++ keyword
      ++ ", expected [name] [type] [required] [\"value\"] [\"remark\"]"
  | .responseFields keyword =>
    "cannot parse " ++ keyword ++ ", expected [name] [type] [\"remark\"]"
  | .urlFields => "@url expects [method] [url]"
  | .unknownMode => "unsupported @param_mode"
  | .modeOfGet => "GET requests only support urlencoded params"

/-- A directive line that breaks the rules of its keyword. -/
structure DirectiveError where
  /-- The line after its keyword. -/
  line : String
  /-- What is wrong. -/
  cause : DirectiveCause
  deriving DecidableEq

/-- The message of a directive error. -/
def DirectiveError.message (e : DirectiveError) : String :=
  e.cause.message ++ ": \"" ++ e.line ++ "\""

/-- Where type names are resolved: the loader and the number of the unit. -/
structure TypeScope where
  /-- The loader. -/
  loader : Loader
  /-- The unit. -/
  unit : Nat

namespace Directive

/-! ## Types in directives -/

/-- The type that a payload names. -/
def typeReference? (payload : String) : Option String :=
  let cs := payload.toList
  if "\x7b\x7d".toList.isSuffixOf cs then
    some (String.ofList (Text.trimChars
      (Text.dropEndWhile (fun c => c == '\x7b' || c == '\x7d') cs)))
  else none

/-- Expands the type with a name, where types can be resolved. -/
def expand (scope : Option TypeScope) (name : String) (s : Session) :
    Option Expansion × Session :=
  if name.isEmpty then (none, s)
  else
    match scope with
    | none => (none, s)
    | some scope =>
      match s.expandNamed scope.loader name scope.unit with
      | (some e, s) => (some e, s)
      | (none, s) => (none, s.note [.noFields name])

/-- The request parameter of a field. -/
def requestParam (f : Field) : RequestParam :=
  ⟨f.name, f.kind, f.required, f.value, f.remark⟩

/-- The response parameter of a field. -/
def responseParam (f : Field) : ResponseParam :=
  ⟨f.name, f.kind, f.remark⟩

/-! ## Parameters -/

/-- The five fields of a request parameter, put together. -/
def ofRequestFields (make : String → String → String → String → String → RequestParam) :
    List String → Option RequestParam
  | [name, type, required, value, remark] => some (make name type required value remark)
  | _ => none

/-- The three fields of a response parameter, put together. -/
def ofResponseFields : List String → Option ResponseParam
  | [name, type, remark] => some (ResponseParam.ofFields name type remark)
  | _ => none

/-- The request parameter that a payload describes. -/
def requestParam? (make : String → String → String → String → String → RequestParam)
    (payload : String) : Option RequestParam :=
  (findFields requestShapes payload.toList).bind (ofRequestFields make)

/-- The response parameter that a payload describes. -/
def responseParam? (payload : String) : Option ResponseParam :=
  (findFields responseShapes payload.toList).bind ofResponseFields

/-- Parameters, with the example of the type that they come from. -/
abbrev Described (α : Type) := List α × Option Json

/-- The parameters that a payload describes: the fields of a type, or a single one. -/
def describe (scope : Option TypeScope) (ofField : Field → α) (single? : String → Option α)
    (cause : DirectiveCause) (payload : String) (s : Session) :
    Except DirectiveError (Described α) × Session :=
  match typeReference? payload with
  | some name =>
    match expand scope name s with
    | (some e, s) => (.ok (e.allFields.map ofField, some e.sample), s)
    | (none, s) => (.ok ([], none), s)
  | none =>
    match single? payload with
    | some p => (.ok ([p], none), s)
    | none => (.error ⟨payload, cause⟩, s)

/-! ## Single keywords -/

/-- Adds a line to a text. -/
def appendLine (text line : String) : String :=
  if text.isEmpty then line else text ++ "\n" ++ line

/-- Adds a part to a catalog, with one slash between them and none around them. -/
def appendCatalog (catalog part : String) : String :=
  let joined := if part.toList.head? == some '/' then catalog ++ part else catalog ++ "/" ++ part
  String.ofList (Text.stripWhile (· == '/') joined.toList)

/-- Sets the method and the URL, and the encoding that the method starts with. -/
def applyUrl (payload : String) (doc : Document) : Except DirectiveError Document :=
  match Text.words payload.toList with
  | [method, url] =>
    let method := Text.lower (String.ofList method)
    .ok { doc with request := { doc.request with
      method := method, url := String.ofList url, mode := BodyMode.ofMethod method } }
  | _ => .error ⟨payload, .urlFields⟩

/-- Sets the encoding. -/
def applyMode (payload : String) (doc : Document) : Except DirectiveError Document :=
  match BodyMode.parse? payload with
  | none => .error ⟨payload, .unknownMode⟩
  | some mode =>
    if mode ≠ .urlEncoded ∧ doc.request.method = "get" then .error ⟨payload, .modeOfGet⟩
    else .ok { doc with request := { doc.request with mode := mode } }

/-- Adds a header. -/
def applyHeader (payload : String) (doc : Document) : Except DirectiveError Document :=
  match requestParam? RequestParam.header payload with
  | some p => .ok { doc with request := { doc.request with headers := doc.request.headers ++ [p] } }
  | none => .error ⟨payload, .requestFields "@header"⟩

/-- Adds a variable in the URL. -/
def applyPathVariable (payload : String) (doc : Document) : Except DirectiveError Document :=
  match requestParam? RequestParam.ofFields payload with
  | some p => .ok { doc with request := { doc.request with
      pathVariables := doc.request.pathVariables ++ [p] } }
  | none => .error ⟨payload, .requestFields "@path_var"⟩

/-- Adds parameters in the URL. -/
def withQuery (doc : Document) (params : List RequestParam) : Document :=
  { doc with request := { doc.request with query := doc.request.query ++ params } }

/-- Adds parameters of the request: in the URL where the method is GET, in the body otherwise. A
JSON request takes over the example of their type. -/
def withParams (doc : Document) (described : Described RequestParam) : Document :=
  let (params, sample) := described
  let doc := if doc.request.method = "get" then withQuery doc params
    else { doc with request := { doc.request with params := doc.request.params ++ params } }
  match sample with
  | some value =>
    if doc.request.mode = .json then
      { doc with request := { doc.request with bodyExample := value.pretty 4 } }
    else doc
  | none => doc

/-- The example of a response with another one inside: it becomes the data of an object that is
there already. -/
def mergeSample (old : String) (sample : Json) : String :=
  if old.isEmpty then sample.pretty 4
  else if old.toList.head? == some '\x7b' then
    match Json.parse? old with
    | some (.object members) => (Json.object (Json.put "data" sample members)).pretty 4
    | _ => old
  else old

/-- Adds parameters to a response. -/
def mergeResponse (r : Response) (described : Described ResponseParam) : Response :=
  let (params, sample) := described
  { sample := match sample with
      | some value => mergeSample r.sample value
      | none => r.sample
    params := r.params ++ params }

/-! ## Lines -/

/-- A name in lower case without underscores. -/
def plainName (s : String) : List Char :=
  (s.toList.filter (· != '_')).flatMap Text.lowerChar

/-- Whether two names differ in case and underscores only. -/
def sameName (a b : String) : Bool :=
  plainName a == plainName b

/-- The first word of a line without comment marks, and the rest. -/
def splitLine? (line : String) : Option (String × String) :=
  let cs := Text.trimChars ((Text.trimChars line.toList).dropWhile fun c => c == '/' || c == '*')
  match cs.takeWhile (fun c => !Text.isBlank c) with
  | [] => none
  | word =>
    some (String.ofList word,
      String.ofList (Text.trimChars (cs.dropWhile fun c => !Text.isBlank c)))

/-- A document with an unchanged session. -/
def pass (result : Except DirectiveError Document) (s : Session) :
    Except DirectiveError Document × Session :=
  (result, s)

/-- A document with what a payload describes, if it does. -/
def put (add : Described α → Document) (result : Except DirectiveError (Described α) × Session) :
    Except DirectiveError Document × Session :=
  (result.1.map add, result.2)

/-- Applies a directive to a document. -/
def applyKeyword (scope : Option TypeScope) (keyword : Keyword) (payload : String)
    (doc : Document) (s : Session) : Except DirectiveError Document × Session :=
  match keyword with
  | .title => pass (.ok { doc with title := payload }) s
  | .catalog => pass (.ok { doc with catalog := appendCatalog doc.catalog payload }) s
  | .description => pass (.ok { doc with description := appendLine doc.description payload }) s
  | .remark => pass (.ok { doc with remark := appendLine doc.remark payload }) s
  | .url => pass (applyUrl payload doc) s
  | .status =>
    pass (.ok { doc with request := { doc.request with status := Status.ofCode payload } }) s
  | .header => pass (applyHeader payload doc) s
  | .pathVariable => pass (applyPathVariable payload doc) s
  | .query =>
    put (fun described => withQuery doc described.1)
      (describe scope requestParam (requestParam? RequestParam.ofFields) (.requestFields "@query")
        payload s)
  | .mode => pass (applyMode payload doc) s
  | .param =>
    put (withParams doc)
      (describe scope requestParam (requestParam? RequestParam.ofFields) (.requestFields "@param")
        payload s)
  | .response =>
    put (fun described => { doc with response := mergeResponse doc.response described })
      (describe scope responseParam responseParam? (.responseFields "@response") payload s)
  | .failure =>
    put (fun described => { doc with failure := mergeResponse doc.failure described })
      (describe scope responseParam responseParam? (.responseFields "@response_fail") payload s)
  | .unknown _ => pass (.ok doc) s

/-- Applies one line of documentation to a document. A line that starts with the name of the
operation gives the title; `operation` is empty where there is none. -/
def applyLine (scope : Option TypeScope) (operation line : String) (doc : Document)
    (s : Session) : Except DirectiveError Document × Session :=
  match splitLine? line with
  | none => (.ok doc, s)
  | some (word, payload) =>
    if !operation.isEmpty && sameName word operation then
      (.ok { doc with title := if payload.isEmpty then word else payload }, s)
    else applyKeyword scope (Keyword.ofWord word) payload doc s

end Directive

end ApiDocs
