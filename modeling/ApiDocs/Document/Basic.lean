import ApiDocs.Kind
import ApiDocs.Text.Lowercase

/-!
# API documents

One document describes one operation: its request, its response on success and its response on
failure. Operations of a file start from the file's general document by `Document.seeded`.
-/

namespace ApiDocs

/-! ## Parameters -/

/-- The spellings of "required". -/
def isRequiredMark (token : String) : Bool :=
  Text.lowerAscii token == "true" || ["1", "是", "必填"].contains token

/-- A parameter of a request. -/
structure RequestParam where
  /-- Its name, with dots between the names of nested fields. -/
  name : String
  /-- The kind of its values. -/
  kind : Kind
  /-- Whether a request must carry it. -/
  required : Bool
  /-- An example value. -/
  value : String
  /-- What it means. -/
  remark : String
  deriving DecidableEq

/-- The parameter described by the five fields of an annotation line. -/
def RequestParam.ofFields (name typeName required value remark : String) : RequestParam :=
  { name, kind := Kind.ofTypeName typeName, required := isRequiredMark required, value, remark }

/-- The header described by the five fields of an annotation line. -/
def RequestParam.header (name typeName required value remark : String) : RequestParam :=
  { RequestParam.ofFields name typeName required value remark with kind := Kind.forHeader typeName }

/-- A parameter of a response. -/
structure ResponseParam where
  /-- Its name, with dots between the names of nested fields. -/
  name : String
  /-- The kind of its values. -/
  kind : Kind
  /-- What it means. -/
  remark : String
  deriving DecidableEq

/-- The parameter described by the three fields of an annotation line. -/
def ResponseParam.ofFields (name typeName remark : String) : ResponseParam :=
  { name, kind := Kind.ofTypeName typeName, remark }

/-! ## Body encoding and life cycle -/

/-- How the parameters of a request are encoded. -/
inductive BodyMode where
  /-- As part of a URL. -/
  | urlEncoded
  /-- As form data. -/
  | formData
  /-- As a JSON body. -/
  | json
  deriving DecidableEq

namespace BodyMode

/-- Every encoding. -/
def all : List BodyMode := [urlEncoded, formData, json]

/-- The name an encoding has in documents. -/
def name : BodyMode → String
  | urlEncoded => "urlencoded"
  | formData => "formdata"
  | json => "json"

/-- The encoding with the given name. -/
def ofName? (text : String) : Option BodyMode :=
  all.find? fun m => m.name == text

/-- The encoding a method starts with. -/
def ofMethod (method : String) : BodyMode :=
  if method = "post" then json else urlEncoded

/-- The encoding an annotation names, in any case and with or without a hyphen. -/
def parse? (text : String) : Option BodyMode :=
  match Text.lower text with
  | "urlencoded" => some urlEncoded
  | "url-encoded" => some urlEncoded
  | "formdata" => some formData
  | "form-data" => some formData
  | "json" => some json
  | _ => none

end BodyMode

/-- Where an operation is in its life cycle. -/
inductive Status where
  /-- Not said. -/
  | none
  /-- Being developed. -/
  | developing
  /-- Being tested. -/
  | testing
  /-- Done. -/
  | completed
  /-- To be changed. -/
  | needsRevision
  /-- No longer to be used. -/
  | deprecated
  deriving DecidableEq

namespace Status

/-- Every status. -/
def all : List Status := [none, developing, testing, completed, needsRevision, deprecated]

/-- The code a status has in documents. -/
def code : Status → String
  | none => "0"
  | developing => "1"
  | testing => "2"
  | completed => "3"
  | needsRevision => "4"
  | deprecated => "5"

/-- The status with the given code. -/
def ofCode? (text : String) : Option Status :=
  all.find? fun s => s.code == text

/-- The status an annotation names; an unknown code says nothing. -/
def ofCode (text : String) : Status :=
  (ofCode? text).getD none

end Status

/-! ## Documents -/

/-- The request of an operation. -/
structure Request where
  /-- The method in lower case. -/
  method : String := ""
  /-- The URL. -/
  url : String := ""
  /-- The life cycle of the operation. -/
  status : Status := .none
  /-- Headers. -/
  headers : List RequestParam := []
  /-- Variables in the URL. -/
  pathVariables : List RequestParam := []
  /-- Parameters in the URL. -/
  query : List RequestParam := []
  /-- How the parameters are encoded. -/
  mode : BodyMode := .urlEncoded
  /-- Parameters in the body. -/
  params : List RequestParam := []
  /-- An example body, for JSON requests described by a type. -/
  bodyExample : String := ""
  deriving DecidableEq

/-- A response of an operation. -/
structure Response where
  /-- An example body. -/
  sample : String := ""
  /-- The parameters of the body. -/
  params : List ResponseParam := []
  deriving DecidableEq

/-- The document of one operation. -/
structure Document where
  /-- What the operation is called. -/
  title : String := ""
  /-- The catalog it stands in: segments divided by slashes. -/
  catalog : String := ""
  /-- What it does. -/
  description : String := ""
  /-- What else is to be said. -/
  remark : String := ""
  /-- Its number in the file, of 32 bits; 99 if it was never numbered. -/
  order : UInt32 := 99
  /-- The request. -/
  request : Request := {}
  /-- The response on success. -/
  response : Response := {}
  /-- The response on failure. -/
  failure : Response := {}
  deriving DecidableEq

namespace Document

/-- The document an operation starts from: it takes over the catalog, the remark, the headers and
the response on success of the general document. -/
def seeded (general : Document) : Document :=
  { catalog := general.catalog
    remark := general.remark
    request := { headers := general.request.headers }
    response := general.response }

/-- A document without a title or a URL is left out. -/
def isIncomplete (doc : Document) : Bool :=
  doc.title.isEmpty || doc.request.url.isEmpty

/-- The title below the catalog. -/
def name (doc : Document) : String :=
  if doc.catalog.isEmpty then doc.title else doc.catalog ++ "/" ++ doc.title

end Document

end ApiDocs
