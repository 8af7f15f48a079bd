import ApiDocs.Document.Basic
import ApiDocs.Json.Printer
import ApiDocs.Json.Reader

/-!
# Documents as JSON

The JSON value of a document and the document of a JSON value. Fields have a fixed order; an empty
example body is left out. Reading needs every other field, and ignores fields it does not know.
-/

namespace ApiDocs

/-! ## Writing -/

/-- The JSON value of a request parameter. -/
def RequestParam.toJson (p : RequestParam) : Json :=
  .object [("name", .string p.name), ("type", .string p.kind.name), ("required", .bool p.required),
    ("value", .string p.value), ("remark", .string p.remark)]

/-- The JSON value of a response parameter. -/
def ResponseParam.toJson (p : ResponseParam) : Json :=
  .object [("name", .string p.name), ("type", .string p.kind.name), ("remark", .string p.remark)]

/-- The JSON value of a request. -/
def Request.toJson (r : Request) : Json :=
  .object ([("method", .string r.method), ("url", .string r.url),
    ("api_status", .string r.status.code),
    ("headers", .array (r.headers.map RequestParam.toJson)),
    ("path_variables", .array (r.pathVariables.map RequestParam.toJson)),
    ("query", .array (r.query.map RequestParam.toJson)),
    ("param_mode", .string r.mode.name),
    ("params", .array (r.params.map RequestParam.toJson))] ++
    if r.bodyExample.isEmpty then [] else [("param_json", .string r.bodyExample)])

/-- The JSON value of a response. -/
def Response.toJson (r : Response) : Json :=
  .object [("example", .string r.sample), ("params", .array (r.params.map ResponseParam.toJson))]

/-- The JSON value of a document. -/
def Document.toJson (d : Document) : Json :=
  .object [("title", .string d.title), ("catalog", .string d.catalog),
    ("description", .string d.description), ("remark", .string d.remark),
    ("order", .whole d.order.toNat), ("request", d.request.toJson), ("response", d.response.toJson),
    ("response_fail", d.failure.toJson)]

/-- The JSON text of a list of documents, indented by two blanks. -/
def Document.listText (docs : List Document) : String :=
  Json.pretty 2 (.array (docs.map Document.toJson))

/-- The JSON text of one document, without blanks. -/
def Document.text (d : Document) : String :=
  d.toJson.compact

/-! ## Reading -/

namespace Json

/-- The text under a name that must be there. -/
def stringAt? (j : Json) (name : String) : Option String := do
  (← j.member? name).string?

/-- The values under a name that must be there, each read by `f`. -/
def listAt? {α : Type} (j : Json) (name : String) (f : Json → Option α) : Option (List α) := do
  (← (← j.member? name).array?).mapM f

end Json

/-- Reads a request parameter. -/
def RequestParam.ofJson? (j : Json) : Option RequestParam := do
  let name ← j.stringAt? "name"
  let kind ← Kind.ofName? (← j.stringAt? "type")
  let required ← (← j.member? "required").bool?
  let value ← j.stringAt? "value"
  let remark ← j.stringAt? "remark"
  return { name, kind, required, value, remark }

/-- Reads a response parameter. -/
def ResponseParam.ofJson? (j : Json) : Option ResponseParam := do
  let name ← j.stringAt? "name"
  let kind ← Kind.ofName? (← j.stringAt? "type")
  let remark ← j.stringAt? "remark"
  return { name, kind, remark }

/-- Reads a request. -/
def Request.ofJson? (j : Json) : Option Request := do
  let method ← j.stringAt? "method"
  let url ← j.stringAt? "url"
  let status ← Status.ofCode? (← j.stringAt? "api_status")
  let headers ← j.listAt? "headers" RequestParam.ofJson?
  let pathVariables ← j.listAt? "path_variables" RequestParam.ofJson?
  let query ← j.listAt? "query" RequestParam.ofJson?
  let mode ← BodyMode.ofName? (← j.stringAt? "param_mode")
  let params ← j.listAt? "params" RequestParam.ofJson?
  let bodyExample ← match j.member? "param_json" with
    | some value => value.string?
    | none => some ""
  return { method, url, status, headers, pathVariables, query, mode, params, bodyExample }

/-- Reads a response. -/
def Response.ofJson? (j : Json) : Option Response := do
  let sample ← j.stringAt? "example"
  let params ← j.listAt? "params" ResponseParam.ofJson?
  return { sample, params }

/-- Reads a document number, which has at most 32 bits. -/
def Document.orderOfJson? (j : Json) : Option UInt32 := do
  let n ← j.whole?
  if 0 ≤ n ∧ n < (Decimal.twoTo 32 : Nat) then some (UInt32.ofNat n.toNat) else none

/-- Reads a document. -/
def Document.ofJson? (j : Json) : Option Document := do
  let title ← j.stringAt? "title"
  let catalog ← j.stringAt? "catalog"
  let description ← j.stringAt? "description"
  let remark ← j.stringAt? "remark"
  let order ← Document.orderOfJson? (← j.member? "order")
  let request ← Request.ofJson? (← j.member? "request")
  let response ← Response.ofJson? (← j.member? "response")
  let failure ← Response.ofJson? (← j.member? "response_fail")
  return { title, catalog, description, remark, order, request, response, failure }

/-- Reads a list of documents. -/
def Document.listOfJson? (j : Json) : Option (List Document) := do
  (← j.array?).mapM Document.ofJson?

end ApiDocs
