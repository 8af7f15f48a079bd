import ApiDocs.Directive.Apply

/-!
# Assembling documents

The documents of all scanned files, in the order of the file paths. The documentation of a file is
read in the order of the source, inline modules at the place where they are written. What is no
function adds to the general document of the file, from which each operation after it starts.
-/

namespace ApiDocs

/-- Why documents cannot be made. -/
inductive Failure where
  /-- A file cannot be read. -/
  | file (error : FileError)
  /-- A source file is malformed. -/
  | malformed (file : FilePath)
  /-- A directive line is wrong; `operation` is empty where it belongs to none. -/
  | directive (file : FilePath) (operation : String) (error : DirectiveError)
  /-- An argument is wrong. -/
  | argument (text : String)
  deriving DecidableEq

/-- The message of a failure. -/
def Failure.message : Failure → String
  | .file error => "IO 错误: " ++ error.message
  | .malformed path => "解析错误 " ++ path.text ++ ": " ++ Event.malformedMessage path
  | .directive path operation error =>
    let place := if operation.isEmpty then "" else " " ++ operation ++ "()"
    "注释语法错误 " ++ path.text ++ place ++ ": " ++ error.message
  | .argument text => "无效参数: " ++ text

namespace Assembly

/-! ## The order of declarations -/

/-- A documented declaration and the number of its unit. -/
structure Visit where
  /-- The unit. -/
  unit : Nat
  /-- The declaration, which is no module. -/
  decl : Decl

/-- The first of some units that has a module path. -/
def unitOfModule? (c : Catalog) (units : List Nat) (module : ModulePath) : Option Nat :=
  units.find? fun id => (c.units[id]?.map SourceUnit.module) == some module

/-- The declarations of a unit in the order in which they are read, with the modules of the same
file at their places, nested at most `depth` times. -/
def visits (c : Catalog) (units : List Nat) : Nat → Nat → List Visit
  | 0, _ => []
  | depth + 1, unit =>
    ((c.units[unit]?.map SourceUnit.decls).getD []).flatMap fun decl =>
      match decl with
      | .module path =>
        match unitOfModule? c units path with
        | some inner => visits c units depth inner
        | none => []
      | decl => [⟨unit, decl⟩]

/-- Groups the units that follow each other and have the same file. -/
def groupByFile (c : Catalog) : List Nat → List (List Nat)
  | [] => []
  | unit :: rest =>
    match groupByFile c rest with
    | [] => [[unit]]
    | group :: groups =>
      match group with
      | [] => [unit] :: groups
      | next :: _ =>
        if (c.pathOf unit).same (c.pathOf next) then (unit :: group) :: groups
        else [unit] :: group :: groups

/-- The scanned units, grouped by their files. The unit of the file itself comes first. -/
def files (c : Catalog) : List (List Nat) :=
  groupByFile c c.scannedUnits

/-! ## One file -/

/-- What is known in the middle of a file. -/
structure Progress where
  /-- The general document. -/
  general : Document := {}
  /-- The documents made so far, in all files. -/
  docs : List Document
  /-- The number of the next document of the file. -/
  order : UInt32 := 1

/-- Applies lines one after the other, up to the first that is wrong. Lines of an operation are
reported. -/
def applyLines (scope : TypeScope) (operation : String) :
    List String → Document → Session → Except DirectiveError Document × Session
  | [], doc, s => (.ok doc, s)
  | line :: rest, doc, s =>
    let s := if operation.isEmpty then s else s.note [.applying operation line]
    match Directive.applyLine (some scope) operation line doc s with
    | (.ok doc, s) => applyLines scope operation rest doc s
    | (.error e, s) => (.error e, s)

/-- Adds the document of an operation, unless it has no title or URL. -/
def finish (name : String) (doc : Document) (p : Progress) (s : Session) : Progress × Session :=
  if doc.isIncomplete then (p, s.note [.incomplete name])
  else
    let doc := { doc with order := p.order }
    ({ p with docs := p.docs ++ [doc], order := p.order + 1 },
      s.note [.document doc.order doc.name])

/-- Reads a declaration. -/
def visit (loader : Loader) (v : Visit) (p : Progress) (s : Session) :
    Except Failure Progress × Session :=
  let scope : TypeScope := ⟨loader, v.unit⟩
  let fail (operation : String) (e : DirectiveError) : Except Failure Progress :=
    .error (.directive (s.catalog.pathOf v.unit) operation e)
  match v.decl with
  | .general lines =>
    match applyLines scope "" lines p.general s with
    | (.ok general, s) => (.ok { p with general := general }, s)
    | (.error e, s) => (fail "" e, s)
  | .operation name lines =>
    match applyLines scope name lines p.general.seeded s with
    | (.ok doc, s) =>
      let (p, s) := finish name doc p s
      (.ok p, s)
    | (.error e, s) => (fail name e, s)
  | .module _ => (.ok p, s)

/-- Reads declarations one after the other. -/
def visitAll (loader : Loader) : List Visit → Progress → Session →
    Except Failure Progress × Session
  | [], p, s => (.ok p, s)
  | v :: rest, p, s =>
    match visit loader v p s with
    | (.ok p, s) => visitAll loader rest p s
    | (.error e, s) => (.error e, s)

/-! ## All files -/

/-- Reads the units of files one after the other, and adds their documents to `docs`. -/
def assembleFiles (loader : Loader) : List (List Nat) → List Document → Session →
    Except Failure (List Document) × Session
  | [], docs, s => (.ok docs, s)
  | [] :: rest, docs, s => assembleFiles loader rest docs s
  | (unit :: others) :: rest, docs, s =>
    let units := unit :: others
    let s := s.note [.reading (s.catalog.pathOf unit)]
    match visitAll loader (visits s.catalog units units.length unit) { docs := docs } s with
    | (.ok p, s) => assembleFiles loader rest p.docs s
    | (.error e, s) => (.error e, s)

end Assembly

namespace Session

/-- Makes types ready to be resolved. -/
def start (s : Session) : Session :=
  s.note [.ready s.catalog.decls.length]

/-- The documents of all scanned files. -/
def assemble (loader : Loader) (s : Session) : Except Failure (List Document) × Session :=
  let s := s.start
  match Assembly.assembleFiles loader (Assembly.files s.catalog) [] s with
  | (.ok docs, s) => (.ok docs, s.note [.documents docs.length])
  | (.error e, s) => (.error e, s)

end Session

end ApiDocs
