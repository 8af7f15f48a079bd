import ApiDocs.Generate

/-!
# Arguments of the command line

The arguments are read from left to right. The value of an option stands in the same argument or in
the next one; it is checked when the next option or the folder is met, or at the end. After two
hyphens no argument is an option.
-/

namespace ApiDocs

/-- What the command line asks for. -/
structure Arguments where
  /-- The folder to document. -/
  root : FilePath
  /-- The format of the documents. -/
  format : OutputFormat
  /-- The file that documents are written to. -/
  output : Option FilePath
  /-- The folders of other crates. -/
  externs : List (String × FilePath)
  /-- Whether everything is reported. -/
  verbose : Bool
  deriving DecidableEq

/-- Why the arguments cannot be followed. -/
inductive UsageError where
  /-- The folder is missing. -/
  | missing
  /-- Nobody knows the argument. -/
  | unknown
  /-- An option has no value, or one that it does not take. -/
  | badValue
  /-- A crate is not given as a name and a folder. -/
  | badExtern
  /-- An option is given twice. -/
  | repeated
  /-- An option that takes no value has one. -/
  | extraValue
  /-- Help is asked for. -/
  | help
  /-- The version is asked for. -/
  | version
  deriving DecidableEq

/-- What to document. -/
def Arguments.config (a : Arguments) : Config :=
  a.externs.foldl (fun c (name, folder) => c.withExtern name folder) { root := a.root }

namespace Arguments

/-! ## Values -/

/-- The format with a name. -/
def format? (value : String) : Option OutputFormat :=
  if value = "yaml" then some .yaml else if value = "json" then some .json else none

/-- The name and the folder of a crate, which stand on both sides of the first equals sign. -/
def crate? (value : String) : Option (String × FilePath) :=
  let cs := value.toList
  let name := Text.trimChars (cs.takeWhile (· != '='))
  let folder := Text.trimChars ((cs.dropWhile (· != '=')).drop 1)
  if name.isEmpty || folder.isEmpty then none
  else some (String.ofList name, ⟨String.ofList folder⟩)

/-! ## Reading -/

/-- What takes a value. -/
inductive Place where
  /-- The folder. -/
  | root
  /-- The format. -/
  | format
  /-- The output file. -/
  | output
  /-- A crate. -/
  | crate
  deriving DecidableEq

/-- The arguments read so far. -/
structure Draft where
  /-- Whether the folder was met. -/
  hasRoot : Bool := false
  /-- The folder. -/
  root : Option FilePath := none
  /-- The format. -/
  format : Option OutputFormat := none
  /-- The output file. -/
  output : Option FilePath := none
  /-- The crates. -/
  externs : List (String × FilePath) := []
  /-- Whether everything is reported. -/
  verbose : Bool := false
  /-- What was met last and is not checked yet, with its value if that was met too. -/
  pending : Option (Place × Option String) := none

namespace Draft

/-- Takes a path, which must not be empty. -/
def path (value : String) : Except UsageError FilePath :=
  if value.isEmpty then .error .badValue else .ok ⟨value⟩

/-- Takes a value. Only crates may be given more than once. -/
def accept (d : Draft) (place : Place) (value : String) : Except UsageError Draft :=
  match place with
  | .root => (path value).map fun p => { d with root := some p }
  | .format =>
    if d.format.isSome then .error .repeated
    else
      match format? value with
      | some f => .ok { d with format := some f }
      | none => .error .badValue
  | .output =>
    if d.output.isSome then .error .repeated
    else (path value).map fun p => { d with output := some p }
  | .crate =>
    match crate? value with
    | some e => .ok { d with externs := d.externs ++ [e] }
    | none => .error .badExtern

/-- Checks what was met last. -/
def settle (d : Draft) : Except UsageError Draft :=
  match d.pending with
  | none => .ok d
  | some (_, none) => .error .badValue
  | some (place, some value) => { d with pending := none }.accept place value

/-- Whether the next argument may be the value of an option. -/
def awaits (d : Draft) : Option Place :=
  match d.pending with
  | some (place, none) => some place
  | _ => none

/-- Meets an option, with its value if that stands in the same argument. -/
def meetOption (d : Draft) (place : Place) (value : Option String) : Except UsageError Draft :=
  match d.settle with
  | .error e => .error e
  | .ok d =>
    match value with
    | some value => d.accept place value
    | none => .ok { d with pending := some (place, none) }

/-- Meets the wish for everything to be reported. -/
def meetVerbose (d : Draft) : Except UsageError Draft :=
  match d.settle with
  | .error e => .error e
  | .ok d => if d.verbose then .error .repeated else .ok { d with verbose := true }

/-- Meets an option after which nothing else counts. -/
def meetLast (d : Draft) (e : UsageError) : Except UsageError Draft :=
  match d.settle with
  | .error e => .error e
  | .ok _ => .error e

/-- Meets an argument that is no option. -/
def meetPlain (d : Draft) (value : String) : Except UsageError Draft :=
  if d.hasRoot then .error .unknown
  else
    match d.settle with
    | .error e => .error e
    | .ok d => .ok { d with hasRoot := true, pending := some (.root, some value) }

/-- Options of one letter behind one hyphen. The rest behind one that takes a value is its value,
after an equals sign or not. -/
def meetLetters (d : Draft) : List Char → Except UsageError Draft
  | [] => .ok d
  | c :: rest =>
    let value := match rest with
      | [] => none
      | '=' :: value => some (String.ofList value)
      | value => some (String.ofList value)
    match c with
    | 'f' => d.meetOption .format value
    | 'o' => d.meetOption .output value
    | 'e' => d.meetOption .crate value
    | 'v' =>
      match d.meetVerbose with
      | .ok d => d.meetLetters rest
      | .error e => .error e
    | 'h' => d.meetLast .help
    | 'V' => d.meetLast .version
    | _ => .error .unknown

/-- An option with a long name, with its value if one follows an equals sign. -/
def meetName (d : Draft) (name : String) (value : Option String) : Except UsageError Draft :=
  let flag (result : Except UsageError Draft) : Except UsageError Draft :=
    if value.isSome then .error .extraValue else result
  match name with
  | "format" => d.meetOption .format value
  | "output" => d.meetOption .output value
  | "extern" => d.meetOption .crate value
  | "verbose" => flag d.meetVerbose
  | "help" => flag (d.meetLast .help)
  | "version" => flag (d.meetLast .version)
  | _ => .error .unknown

/-- An argument that may be an option. A single hyphen is none. -/
def meet (d : Draft) (argument : String) : Except UsageError Draft :=
  match argument.toList with
  | '-' :: '-' :: cs =>
    let name := cs.takeWhile (· != '=')
    let value := match cs.dropWhile (· != '=') with
      | [] => none
      | _ :: value => some (String.ofList value)
    d.meetName (String.ofList name) value
  | '-' :: c :: cs => d.meetLetters (c :: cs)
  | _ =>
    match d.awaits with
    | some place => .ok { d with pending := some (place, some argument) }
    | none => d.meetPlain argument

/-- Meets arguments one after the other; `plain` says that none of them is an option. -/
def meetAll (d : Draft) (plain : Bool) : List String → Except UsageError Draft
  | [] => d.settle
  | argument :: rest =>
    if !plain && argument = "--" then d.meetAll true rest
    else
      match if plain then d.meetPlain argument else d.meet argument with
      | .ok d => d.meetAll plain rest
      | .error e => .error e

/-- The arguments, once all are read. Without a format, JSON is written. -/
def finish (d : Draft) : Except UsageError Arguments :=
  match d.root with
  | none => .error .missing
  | some root =>
    .ok ⟨root, d.format.getD .json, d.output, d.externs, d.verbose⟩

end Draft

/-- Reads the arguments of a command line. -/
def parse (arguments : List String) : Except UsageError Arguments :=
  match Draft.meetAll {} false arguments with
  | .ok d => d.finish
  | .error e => .error e

/-! ## Showing -/

/-- A path in quotes. -/
def quotedPath (p : FilePath) : String :=
  Text.quoted true p.text

/-- The arguments as a text, with the name of each. -/
def describe (a : Arguments) : String :=
  let output := match a.output with
    | none => "None"
    | some p => "Some(" ++ quotedPath p ++ ")"
  let externs := a.externs.map fun (name, folder) =>
    "(" ++ Text.quoted false name ++ ", " ++ quotedPath folder ++ ")"
  "CliArgs \x7b project_path: " ++ quotedPath a.root ++ ", output_format: " ++ a.format.label
    ++ ", output_path: " ++ output ++ ", externs: [" ++ String.intercalate ", " externs
    ++ "], verbose: " ++ (if a.verbose then "true" else "false") ++ " \x7d"

end Arguments

end ApiDocs
