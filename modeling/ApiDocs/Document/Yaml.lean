import ApiDocs.Document.Json
import ApiDocs.Yaml.Printer

/-!
# Documents as YAML

A list of documents in YAML has the same members in the same order as in JSON.
-/

namespace ApiDocs.Document

/-- The YAML text of a list of documents. -/
def listYaml (docs : List Document) : String :=
  Yaml.render (.array (docs.map toJson))

end ApiDocs.Document
