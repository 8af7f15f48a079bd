import ApiDocs.FilePath
import ApiDocs.ModulePath
import ApiDocs.Text.Quoted

/-!
# The journal of a run

What a run reports while it works, in order. Each event has a level and a message.
-/

namespace ApiDocs

/-- Why a file could not be read or written. -/
inductive FileError where
  /-- Nothing is there. -/
  | notFound
  /-- Something is there already. -/
  | exists
  /-- A file stands where a folder is needed. -/
  | notDirectory
  /-- A folder stands where a file is needed. -/
  | isDirectory
  /-- A name or the whole path is too long. -/
  | tooLong
  /-- The bytes of the file are no text. -/
  | notText
  deriving DecidableEq

/-- The message of a file error. -/
def FileError.message : FileError → String
  | .notFound => "No such file or directory (os error 2)"
  | .exists => "File exists (os error 17)"
  | .notDirectory => "Not a directory (os error 20)"
  | .isDirectory => "Is a directory (os error 21)"
  | .tooLong => "File name too long (os error 36)"
  | .notText => "stream did not contain valid UTF-8"

/-- Why a module could not be loaded. -/
inductive LoadError where
  /-- The loader does not know the module. -/
  | unknownModule (module : ModulePath)
  /-- No source folder is known for the crate. -/
  | unknownCrate (name : String)
  /-- The module has no file, and neither has any module around it. -/
  | noFile (module : ModulePath)
  /-- The file of the module cannot be read. -/
  | unreadable (path : FilePath) (error : FileError)
  deriving DecidableEq

/-- The messages of a load error, from the outermost cause to the innermost. -/
def LoadError.messages : LoadError → List String
  | .unknownModule module => ["unknown module " ++ module]
  | .unknownCrate name => ["No source directory known for crate `" ++ name ++ "`"]
  | .noFile module => ["Module file not found for `" ++ module ++ "`"]
  | .unreadable path error => ["Failed to read file: " ++ path.text, error.message]

/-- The format of the documents. -/
inductive OutputFormat where
  /-- YAML. -/
  | yaml
  /-- JSON. -/
  | json
  deriving DecidableEq

/-- The name of a format, as types have names. -/
def OutputFormat.label : OutputFormat → String
  | .yaml => "Yaml"
  | .json => "Json"

/-- The name of a format in capitals. -/
def OutputFormat.acronym : OutputFormat → String
  | .yaml => "YAML"
  | .json => "JSON"

/-- How much an event matters. -/
inductive Level where
  /-- For those who look for mistakes. -/
  | debug
  /-- For everyone. -/
  | info
  /-- Something may be wrong. -/
  | warn
  deriving DecidableEq

/-- The place of a level in the order of levels. -/
def Level.rank : Level → Nat
  | .debug => 0
  | .info => 1
  | .warn => 2

/-- The name of a level. -/
def Level.name : Level → String
  | .debug => "DEBUG"
  | .info => "INFO"
  | .warn => "WARN"

/-- Something that a run reports. -/
inductive Event where
  /-- A source file is parsed. -/
  | parsing (path : FilePath)
  /-- A source file was parsed into modules. -/
  | parsed (path : FilePath) (modules : Nat)
  /-- A declared type is registered. -/
  | collecting (type : ModulePath)
  /-- A second type has the same short key. -/
  | ambiguous (key : String)
  /-- The loader is asked for a module. -/
  | loading (module : ModulePath)
  /-- The loader could not give a module. -/
  | notLoaded (module : ModulePath) (error : LoadError)
  /-- A loaded source is malformed. -/
  | malformed (module : ModulePath) (path : FilePath)
  /-- A folder was searched for source files. -/
  | found (count : Nat) (root : FilePath)
  /-- The files of a folder were indexed. -/
  | indexed (files types keys : Nat)
  /-- Types can be resolved now. -/
  | ready (types : Nat)
  /-- A type name was resolved. -/
  | resolved (name : String) (module type : ModulePath)
  /-- A type name could not be resolved. -/
  | unresolved (name : String) (module : ModulePath)
  /-- A type to be expanded is no structure. -/
  | notStruct (type : ModulePath)
  /-- A structure is expanded. -/
  | expanding (type : ModulePath)
  /-- A structure contains itself. -/
  | cycle (name : String)
  /-- A type named in a directive has no fields. -/
  | noFields (name : String)
  /-- The folder of the root module is known. -/
  | moduleRoot (path : FilePath)
  /-- The comments of a file are read. -/
  | reading (path : FilePath)
  /-- A directive line of an operation is applied. -/
  | applying (operation line : String)
  /-- An operation has no title or URL. -/
  | incomplete (operation : String)
  /-- A document is complete. -/
  | document (order : UInt32) (name : String)
  /-- All documents are complete. -/
  | documents (count : Nat)
  /-- Documents are written out. -/
  | serializing (count : Nat) (format : OutputFormat)
  /-- A file is written. -/
  | writing (path : FilePath)
  /-- A file was written. -/
  | wrote (bytes : Nat) (path : FilePath)
  /-- The arguments of the command line are known. -/
  | arguments (text : String)
  /-- The folder to document. -/
  | project (path : FilePath)
  /-- The format of the documents. -/
  | format (format : OutputFormat)
  /-- The file that documents are written to, if there is one. -/
  | output (path : Option FilePath)
  /-- The source folder of another crate. -/
  | externCrate (name : String) (path : FilePath)
  /-- The work starts. -/
  | starting
  /-- No operation is documented. -/
  | noOperations
  /-- The documents are put into a format. -/
  | serializingTo (format : OutputFormat)
  /-- The documents are written to a file. -/
  | writingTo (path : FilePath)
  /-- The documents were written to a file. -/
  | wroteTo (path : FilePath)
  /-- The work is done. -/
  | complete
  /-- A summary follows. -/
  | summary
  /-- The number of documents. -/
  | documentCount (count : Nat)
  /-- The catalogs of the documents. -/
  | catalogs (names : List String)

namespace Event

/-- The level of an event. -/
def level : Event → Level
  | malformed _ _ | noOperations => .warn
  | document _ _ | documents _ | project _ | format _ | output _ | externCrate _ _ | starting
  | serializingTo _ | writingTo _ | wroteTo _ | complete | summary | documentCount _
  | catalogs _ => .info
  | _ => .debug

/-- The message about a source file that is malformed. -/
def malformedMessage (path : FilePath) : String :=
  "Failed to parse Rust syntax in file: " ++ path.text

/-- The message of an event. -/
def message : Event → String
  | parsing path => "Parsing file: " ++ path.text
  | parsed path modules =>
    "Successfully parsed file: " ++ path.text ++ " (" ++ toString modules ++ " modules)"
  | collecting type => "Collecting type: " ++ type
  | ambiguous key => "Unique key " ++ key ++ " is ambiguous, dropping it"
  | loading module => "Loading module: " ++ module
  | notLoaded module error =>
    "Module " ++ module ++ " not loaded: " ++ String.intercalate ": " error.messages
  | malformed module path => "Skipping module " ++ module ++ ": " ++ malformedMessage path
  | found count root => "Found " ++ toString count ++ " source files under " ++ root.text
  | indexed files types keys =>
    "Indexed " ++ toString files ++ " files, " ++ toString types ++ " types, " ++ toString keys
      ++ " unique keys"
  | ready types => "Initializing TypeResolver with " ++ toString types ++ " types"
  | resolved name module type => "Resolved " ++ name ++ " in " ++ module ++ " to " ++ type
  | unresolved name module => "Unresolved type " ++ name ++ " in " ++ module
  | notStruct type => type ++ " is not a struct"
  | expanding type => "Expanding struct: " ++ type
  | cycle name => "Cycle through " ++ name ++ ", leaving it opaque"
  | noFields name => "Type " ++ name ++ " has no fields to document"
  | moduleRoot path => "Module root: " ++ path.text
  | reading path => "Parsing comments of " ++ path.text
  | applying operation line => "  > " ++ operation ++ "(): " ++ line
  | incomplete operation => "Skipping " ++ operation ++ "(): no title or url"
  | document order name => "Generated document (" ++ toString order.toNat ++ ") " ++ name
  | documents count => "Generated " ++ toString count ++ " API documents"
  | serializing count f =>
    "Serializing " ++ toString count ++ " API documents to " ++ f.acronym
  | writing path => "Writing content to file: " ++ path.text
  | wrote bytes path => "Successfully wrote " ++ toString bytes ++ " bytes to " ++ path.text
  | arguments text => "Parsed arguments: " ++ text
  | project path => "Project path: " ++ path.text
  | format f => "Output format: " ++ f.label
  | output (some path) => "Output file: " ++ path.text
  | output none => "Output: stdout"
  | externCrate name path => "Extern crate: " ++ name ++ " = " ++ path.text
  | starting => "Starting API document generation..."
  | noOperations => "No annotated operations found in the project"
  | serializingTo f => "Serializing to " ++ f.label ++ " format..."
  | writingTo path => "Writing output to: " ++ path.text
  | wroteTo path => "Successfully wrote API documents to " ++ path.text
  | complete => "Generation complete!"
  | summary => "Summary:"
  | documentCount count => "  - Documents: " ++ toString count
  | catalogs names =>
    "  - Catalogs: [" ++ String.intercalate ", " (names.map (Text.quoted false)) ++ "]"

/-- The module that the loader is asked for. -/
def loading? : Event → Option ModulePath
  | loading module => some module
  | _ => none

end Event

/-- The events of a run, oldest first. -/
abbrev Journal := List Event

/-- The modules that the loader was asked for. -/
def Journal.loads (journal : Journal) : List ModulePath :=
  journal.filterMap Event.loading?

/-- The lines of a journal from a level on. -/
def Journal.lines (journal : Journal) (level : Level) : List String :=
  (journal.filter fun e => decide (level.rank ≤ e.level.rank)).map fun e =>
    e.level.name ++ " " ++ e.message

end ApiDocs
