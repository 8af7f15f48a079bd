import ApiDocs.Assembly
import ApiDocs.FileTree.Basic

/-!
# Scanning for source files

The source files below a folder, in the order of their paths. The walk does not go into hidden
folders and folders with build results, tests or examples; hidden files and files with tests are
left out.
-/

namespace ApiDocs.FileTree

/-- The folders without production code. -/
def skippedFolders : List String := ["target", "tests", "benches", "examples"]

/-- Whether a name is hidden. -/
def isHiddenName (name : String) : Bool :=
  name.toList.head? == some '.'

/-- Whether a file name has the extension, and is no name of a file with tests. -/
def isSourceName (extension name : String) : Bool :=
  let p : FilePath := ⟨name⟩
  let stem := (p.stem?).getD []
  p.extension? == some extension.toList
    && !(stem == "tests".toList || "_test".toList.isSuffixOf stem
      || "_tests".toList.isSuffixOf stem)

/-- The name of an entry in a folder, and what it is, if it stands there. -/
def listed? (place : List String) (e : List String × Entry) : Option (String × Entry) :=
  match e.1.getLast? with
  | some name => if e.1.dropLast = place then some (name, e.2) else none
  | none => none

/-- What is in a folder, in the order in which the folder lists it. -/
def listing (t : FileTree) (place : List String) : List (String × Entry) :=
  t.entries.filterMap (listed? place)

/-- Whether a walk goes on with something that a folder lists. -/
def isKept : String × Entry → Bool
  | (name, .folder) => !isHiddenName name && !skippedFolders.contains name
  | (name, .file _) => !isHiddenName name

/-- What a walk takes from something that the folder with a path lists. -/
def visit (t : FileTree) (extension : String) (path : FilePath)
    (inner : String → List FilePath) : String × Entry → List FilePath
  | (name, .folder) => if t.isFolder (path.join name) then inner name else []
  | (name, .file _) =>
    if t.isFile (path.join name) && isSourceName extension name then [path.join name] else []

/-- Walks through a folder and the folders below, up to a depth, and takes the source files, as
paths below the path of the folder. -/
def walk (t : FileTree) (extension : String) : Nat → List String → FilePath → List FilePath
  | 0, _, _ => []
  | depth + 1, place, path =>
    ((t.listing place).filter isKept).flatMap <| t.visit extension path fun name =>
      t.walk extension depth (place ++ [name]) (path.join name)

/-- The number of names of the longest place. -/
def depth (t : FileTree) : Nat :=
  (t.entries.map fun e => e.1.length).foldr max 0

/-- The source files below a place, as paths below `root`, in the order of their paths. -/
def sourceFiles (t : FileTree) (place : List String) (root : FilePath) (extension : String) :
    List FilePath :=
  (t.walk extension t.depth place root).mergeSort fun a b => a.compare b != .gt

/-- The source files below a folder. -/
def scan (t : FileTree) (root : FilePath) (extension : String) :
    Except Failure (List FilePath) :=
  match t.locate root, t.isFolder root with
  | .ok place, true => .ok (t.sourceFiles place root extension)
  | _, _ => .error (.argument ("项目路径不是目录: " ++ root.text))

end ApiDocs.FileTree
