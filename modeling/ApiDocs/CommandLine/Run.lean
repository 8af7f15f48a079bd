import ApiDocs.CommandLine.Arguments
import ApiDocs.Output

/-!
# Following the command line

The arguments are checked against the file tree, the documents are made and put into their format,
and the text goes to the output file or is printed.
-/

namespace ApiDocs

/-! ## Checking -/

/-- Why arguments cannot be followed in a file tree. -/
inductive ArgumentError where
  /-- Nothing is at the path of the project. -/
  | noProject (path : FilePath)
  /-- The project is no folder. -/
  | projectNotFolder (path : FilePath)
  /-- A crate is no folder. -/
  | externNotFolder (name : String) (path : FilePath)
  deriving DecidableEq

/-- The message of an argument error. -/
def ArgumentError.message : ArgumentError → String
  | .noProject path => "Project path does not exist: " ++ path.text
  | .projectNotFolder path => "Project path is not a directory: " ++ path.text
  | .externNotFolder name path =>
    "Extern crate `" ++ name ++ "` is not a directory: " ++ path.text

namespace Arguments

/-- What is wrong with the arguments, if anything. -/
def fault? (t : FileTree) (a : Arguments) : Option ArgumentError :=
  if !t.hasPath a.root then some (.noProject a.root)
  else if !t.isFolder a.root then some (.projectNotFolder a.root)
  else (a.externs.find? fun e => !t.isFolder e.2).map fun e => .externNotFolder e.1 e.2

/-- What is reported of sound arguments. -/
def events (a : Arguments) : Journal :=
  [.project a.root, .format a.format, .output a.output]
    ++ a.externs.map fun (name, folder) => .externCrate name folder

/-- Checks the arguments. -/
def check (t : FileTree) (a : Arguments) (s : Session) : Except ArgumentError Unit × Session :=
  let s := s.note [.arguments a.describe]
  match a.fault? t with
  | some e => (.error e, s)
  | none => (.ok (), s.note a.events)

end Arguments

/-! ## Running -/

/-- Why a run fails. -/
inductive RunError where
  /-- The documents cannot be made. -/
  | generate (root : FilePath) (failure : Failure)
  /-- The output file cannot be written. -/
  | write (error : WriteError)
  deriving DecidableEq

/-- The messages of a failure, from the outermost cause to the innermost. -/
def Failure.messages (f : Failure) : List String :=
  match f with
  | .file error => [f.message, error.message]
  | _ => [f.message]

/-- The messages of a run error, from the outermost cause to the innermost. -/
def RunError.messages : RunError → List String
  | .generate root failure =>
    ("Failed to generate documents for " ++ root.text) :: failure.messages
  | .write error => error.messages

/-- What a run leaves behind. -/
structure Outcome where
  /-- Why it failed, if it did. -/
  error : Option RunError := none
  /-- What was printed. -/
  printed : String := ""
  /-- The file tree. -/
  tree : FileTree
  /-- The session. -/
  session : Session

/-- The texts in order, each once. -/
def sortedOnce (texts : List String) : List String :=
  texts.mergeSort.eraseReps

/-- What is reported at the end of a run. -/
def summaryEvents (docs : List Document) : Journal :=
  [.complete, .summary, .documentCount docs.length,
    .catalogs (sortedOnce (docs.map Document.catalog))]

/-- Writes the text of the documents to the output file, or prints it. -/
def Arguments.deliver (t : FileTree) (a : Arguments) (docs : List Document) (text : String)
    (s : Session) : Outcome :=
  match a.output with
  | none => { printed := text ++ "\n", tree := t, session := s.note (summaryEvents docs) }
  | some path =>
    let (result, t) := t.write path text
    let s := s.note (.writingTo path :: writeEvents path text result)
    match result with
    | .error e => { error := some (.write e), tree := t, session := s }
    | .ok _ => { tree := t, session := s.note (.wroteTo path :: summaryEvents docs) }

/-- Makes the documents and writes them out. -/
def Arguments.run (t : FileTree) (a : Arguments) (s : Session) : Outcome :=
  match (s.note [.starting]).generate t a.config with
  | (.error e, s) => { error := some (.generate a.root e), tree := t, session := s }
  | (.ok docs, s) =>
    let s := s.note ((if docs.isEmpty then [.noOperations] else []) ++ [.serializingTo a.format])
    let (text, s) := s.render a.format docs
    a.deliver t docs text s

/-! ## The program -/

/-- The name and the version of the program. -/
def versionText : String := "apidoc-from-source 0.1.0\n"

/-- How the program is used. -/
def usageText : String :=
  "Usage: apidoc-from-source [OPTIONS] <PROJECT_PATH>\n\n"
    ++ "Arguments:\n"
    ++ "  <PROJECT_PATH>  Directory whose source files carry the API annotations\n\n"
    ++ "Options:\n"
    ++ "  -f, --format <OUTPUT_FORMAT>  Output format (yaml or json) [default: json]\n"
    ++ "  -o, --output <FILE>           Output file path (if not specified, outputs to stdout)\n"
    ++ "  -e, --extern <NAME=DIR>       Source directory of another crate, as NAME=DIR\n"
    ++ "  -v, --verbose                 Enable verbose output\n"
    ++ "  -h, --help                    Print help\n"
    ++ "  -V, --version                 Print version\n"

/-- What the program leaves behind. -/
structure ExitState where
  /-- The exit code. -/
  code : Nat
  /-- What was printed. -/
  printed : String := ""
  /-- What was complained about. -/
  complaint : String := ""
  /-- The file tree. -/
  tree : FileTree
  /-- What was reported. -/
  journal : Journal := []

/-- A cause of an error on lines of its own, with a number where there are several. -/
def causeText (number : Option Nat) (message : String) : String :=
  let (first, others) := match number with
    | some n =>
      let digits := toString n
      (String.ofList (List.replicate (5 - digits.length) ' ') ++ digits ++ ": ", "       ")
    | none => ("    ", "    ")
  "\n" ++ first ++ String.intercalate ("\n" ++ others)
    ((Text.cutAt (· == '\n') message.toList).map String.ofList)

/-- The complaint about an error, given its messages from the outermost cause to the innermost. -/
def errorText (messages : List String) : String :=
  match messages with
  | [] => ""
  | [message] => "Error: " ++ message ++ "\n"
  | [message, cause] =>
    "Error: " ++ message ++ "\n\nCaused by:" ++ causeText none cause ++ "\n"
  | message :: causes =>
    "Error: " ++ message ++ "\n\nCaused by:"
      ++ String.join (causes.zipIdx.map fun (cause, n) => causeText (some n) cause) ++ "\n"

/-- What the program does where the arguments cannot be followed. -/
def UsageError.exit (t : FileTree) : UsageError → ExitState
  | .help => { code := 0, printed := usageText, tree := t }
  | .version => { code := 0, printed := versionText, tree := t }
  | _ => { code := 2, complaint := usageText, tree := t }

/-- Runs the program with the arguments of a command line. -/
def runProgram (t : FileTree) (arguments : List String) : ExitState :=
  match Arguments.parse arguments with
  | .error e => e.exit t
  | .ok a =>
    match a.check t {} with
    | (.error e, s) =>
      { code := 1, complaint := errorText [e.message], tree := t, journal := s.journal }
    | (.ok _, s) =>
      let outcome := a.run t s
      let complaint := match outcome.error with
        | some e => errorText e.messages
        | none => ""
      { code := if outcome.error.isSome then 1 else 0, printed := outcome.printed, complaint,
        tree := outcome.tree, journal := outcome.session.journal }

end ApiDocs
