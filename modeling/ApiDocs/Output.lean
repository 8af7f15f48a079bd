import ApiDocs.Document.Yaml
import ApiDocs.FileTree.Basic
import ApiDocs.Session

/-!
# Writing documents out

The text of documents in a format, and files that texts are written to. Folders around a file are
made where they are missing.
-/

namespace ApiDocs

/-- The text of documents in a format. -/
def OutputFormat.render (format : OutputFormat) (docs : List Document) : String :=
  match format with
  | .yaml => Document.listYaml docs
  | .json => Document.listText docs

/-- The text of documents in a format; this is reported. -/
def Session.render (format : OutputFormat) (docs : List Document) (s : Session) :
    String × Session :=
  (format.render docs, s.note [.serializing docs.length format])

/-- Why a text could not be written to a file. -/
inductive WriteError where
  /-- The folder around the file cannot be made. -/
  | folder (path : FilePath) (error : FileError)
  /-- The file cannot be written. -/
  | file (path : FilePath) (error : FileError)
  deriving DecidableEq

/-- The messages of a write error, from the outermost cause to the innermost. -/
def WriteError.messages : WriteError → List String
  | .folder path error => ["Failed to create directory: " ++ path.text, error.message]
  | .file path error => ["Failed to write to file: " ++ path.text, error.message]

/-- Makes the folders around a file. -/
def FileTree.makeParent (t : FileTree) (path : FilePath) : Except WriteError Unit × FileTree :=
  match path.parent? with
  | none => (.ok (), t)
  | some outer =>
    match t.makeFolders outer with
    | (.ok _, t) => (.ok (), t)
    | (.error e, t) => (.error (.folder outer e), t)

/-- Writes a text to a file and makes the folders around it. -/
def FileTree.write (t : FileTree) (path : FilePath) (text : String) :
    Except WriteError Unit × FileTree :=
  match t.makeParent path with
  | (.error e, t) => (.error e, t)
  | (.ok _, t) =>
    match t.writeText path text with
    | .ok t => (.ok (), t)
    | .error e => (.error (.file path e), t)

/-- What writing a text to a file reports. -/
def writeEvents (path : FilePath) (text : String) (result : Except WriteError Unit) : Journal :=
  match result with
  | .ok _ => [.writing path, .wrote text.utf8ByteSize path]
  | .error _ => [.writing path]

end ApiDocs
