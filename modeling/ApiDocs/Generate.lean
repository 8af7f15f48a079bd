import ApiDocs.FileTree.Load
import ApiDocs.FileTree.Scan

/-!
# Generating documents

From the source files below a folder to the documents of their operations.
-/

namespace ApiDocs

/-- What to document. -/
structure Config where
  /-- The folder. -/
  root : FilePath
  /-- The folders of other crates by their names. -/
  externs : List (String × FilePath) := []

/-- Adds the folder of another crate, in the place of one with the same name. -/
def Config.withExtern (c : Config) (name : String) (folder : FilePath) : Config :=
  { c with externs := c.externs.filter (fun e => e.1 != name) ++ [(name, folder)] }

namespace Session

/-- Reads, parses and adds source files one after the other. -/
def indexFiles (t : FileTree) (root : FilePath) : List FilePath → Session →
    Except Failure Unit × Session
  | [], s => (.ok (), s)
  | path :: rest, s =>
    match t.readText path with
    | .error e => (.error (.file e), s)
    | .ok text =>
      match s.parse ⟨path, Layout.moduleOf root path, text⟩ with
      | (none, s) => (.error (.malformed path), s)
      | (some us, s) =>
        let s := { s with catalog := { s.catalog with files := s.catalog.files ++ [path] } }
        indexFiles t root rest (s.addScanned us)

/-- Adds all source files below a folder; `root` is the module root of the crate. -/
def index (t : FileTree) (folder root : FilePath) (s : Session) :
    Except Failure Unit × Session :=
  match t.scan folder "rs" with
  | .error e => (.error e, s)
  | .ok paths =>
    match indexFiles t root paths (s.note [.found paths.length folder]) with
    | (.error e, s) => (.error e, s)
    | (.ok _, s) =>
      (.ok (), s.note [.indexed paths.length s.catalog.decls.length s.catalog.uniqueKeys])

/-- The documents of all operations below a folder. -/
def generate (t : FileTree) (config : Config) (s : Session) :
    Except Failure (List Document) × Session :=
  match t.canonical config.root with
  | .error e => (.error (.argument (config.root.text ++ ": " ++ e.message)), s)
  | .ok folder =>
    let root := t.moduleRoot folder
    match (s.note [.moduleRoot root]).index t folder root with
    | (.error e, s) => (.error e, s)
    | (.ok _, s) => s.assemble (t.loader ⟨root, config.externs⟩)

end Session

end ApiDocs
