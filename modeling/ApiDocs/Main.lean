import ApiDocs.CommandLine.Run

/-!
# The program

The outer layer of the command line: it looks at the folders that the arguments name, runs the
program on them, makes the folders and files that are new, and prints.
-/

namespace ApiDocs.Program

/-- The names on an absolute path. -/
def placeOf (path : String) : List String :=
  (FilePath.mk path).components.filterMap fun c =>
    match c with
    | .name text => some text
    | _ => none

/-- The place that a path leads to, if something is there. -/
def place? (path : String) : IO (Option (List String)) := do
  try
    let real ← IO.FS.realPath path
    if ← real.pathExists then return some (placeOf real.toString) else return none
  catch _ => return none

/-- What stands at a place. The text is read of source files only. -/
def entryAt (place : List String) : IO Entry := do
  let path := (FileTree.pathOfPlace place).text
  if ← (← IO.FS.realPath path).isDir then return .folder
  else if (FilePath.mk path).extension? == some "rs".toList then
    return .file (String.fromUTF8? (← IO.FS.readBinFile path))
  else return .file none

/-- The entries at a place and below it. -/
partial def entriesBelow (place : List String) : IO (List (List String × Entry)) := do
  let entry ← entryAt place
  if entry = .folder then
    let names := (← (← IO.FS.realPath (FileTree.pathOfPlace place).text).readDir).toList.map
      (·.fileName)
    let inner ← names.mapM fun name => entriesBelow (place ++ [name])
    return (place, entry) :: inner.flatten
  else return [(place, entry)]

/-- Adds a place with all that is below it. -/
def addBelow (t : FileTree) (place : List String) : IO FileTree := do
  let known := (t.insert place (← entryAt place)).entries
  let found := (← entriesBelow place).filter fun e => !known.any fun k => k.1 == e.1
  return { t with entries := known ++ found }

/-- Adds the manifest in a folder and the sources beside it, if it has one. -/
def addManifest (t : FileTree) (place : List String) : IO FileTree := do
  let manifest := place ++ ["Cargo.toml"]
  let sources := place ++ ["src"]
  match ← place? (FileTree.pathOfPlace manifest).text with
  | none => return t
  | some _ =>
    let t := t.insert manifest (← entryAt manifest)
    match ← place? (FileTree.pathOfPlace sources).text with
    | none => return t
    | some _ => addBelow t sources

/-- The places of the folders around a path, as it is written and as it is followed. -/
def placesAround (path : FilePath) : IO (List (List String)) := do
  let written ← path.ancestors.filterMapM fun p => place? (if p.text.isEmpty then "." else p.text)
  let followed := written.flatMap fun place => (List.range (place.length + 1)).map place.take
  return (written ++ followed).eraseDups

/-- Adds a folder of sources, and the manifests around it. -/
def addSources (t : FileTree) (path : FilePath) : IO FileTree := do
  match ← place? path.text with
  | none => return t
  | some place =>
    let t ← addBelow t place
    (← placesAround path).foldlM addManifest t

/-- Adds what stands at a path and around it. -/
def addAround (t : FileTree) (path : FilePath) : IO FileTree := do
  (← placesAround path).foldlM (fun t place => return t.insert place (← entryAt place)) t

/-- The file tree that the arguments of a command line speak of. -/
def treeFor (arguments : List String) : IO FileTree := do
  let home := (← place? ".").getD []
  let t := ({ home := home, entries := [] } : FileTree).insert home .folder
  match Arguments.parse arguments with
  | .error _ => return t
  | .ok a =>
    let t ← (a.root :: a.externs.map Prod.snd).foldlM addSources t
    a.output.toList.foldlM addAround t

/-- Makes a folder or a file. -/
def makeEntry (e : List String × Entry) : IO Unit := do
  let path := (FileTree.pathOfPlace e.1).text
  match e.2 with
  | .folder => IO.FS.createDir path
  | .file text => IO.FS.writeFile path (text.getD "")

/-- Runs the program. -/
def run (arguments : List String) : IO UInt32 := do
  let t ← treeFor arguments
  let state := runProgram t arguments
  let level := match Arguments.parse arguments with
    | .ok a => if a.verbose then Level.debug else Level.info
    | .error _ => Level.info
  (state.tree.entries.filter (!t.entries.contains ·)).forM makeEntry
  (state.journal.lines level).forM (IO.eprintln ·)
  IO.print state.printed
  IO.eprint state.complaint
  return state.code.toUInt32

end ApiDocs.Program

/-- Runs the program on the arguments of the command line. -/
def main (arguments : List String) : IO UInt32 :=
  ApiDocs.Program.run arguments
