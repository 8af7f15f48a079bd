import ApiDocs.Text.Lowercase

/-!
# Keywords of directive lines

The first word of a directive line says what the rest of it describes.
-/

namespace ApiDocs.Directive

/-- What a directive line describes. -/
inductive Keyword where
  /-- The title of the operation. -/
  | title
  /-- A part of the catalog. -/
  | catalog
  /-- A line of the description. -/
  | description
  /-- A line of the remark. -/
  | remark
  /-- The method and the URL. -/
  | url
  /-- The status in the life cycle. -/
  | status
  /-- A header of the request. -/
  | header
  /-- A variable in the URL. -/
  | pathVariable
  /-- A parameter in the URL. -/
  | query
  /-- The encoding of the parameters. -/
  | mode
  /-- A parameter of the request. -/
  | param
  /-- A parameter of the response on success. -/
  | response
  /-- A parameter of the response on failure. -/
  | failure
  /-- Nothing: the word, in lower case, is no keyword. -/
  | unknown (word : String)
  deriving DecidableEq

/-- The keyword that a word is, in any case. -/
def Keyword.ofWord (word : String) : Keyword :=
  match Text.lower word with
  | "@title" => title
  | "@catalog" => catalog
  | "@desc" | "@description" => description
  | "@remark" => remark
  | "@url" => url
  | "@api_status" => status
  | "@header" => header
  | "@path_var" => pathVariable
  | "@query" => query
  | "@param_mode" => mode
  | "@param" => param
  | "@resp" | "@response" => response
  | "@resp_fail" | "@response_fail" => failure
  | other => unknown other

end ApiDocs.Directive
