import ApiDocs.Journal

/-!
# File trees

The folders and files that a run can see, and the current folder. Paths are followed from the root
or from the current folder, one piece at a time.
-/

namespace ApiDocs

/-- What stands at a place of a file tree. -/
inductive Entry where
  /-- A folder. -/
  | folder
  /-- A file with its text, or without one if its bytes are no text. -/
  | file (text : Option String)
  deriving DecidableEq

/-- A file tree: the place of the current folder, and the entries by their places. A place is the
list of names from the root on. -/
structure FileTree where
  /-- The current folder. -/
  home : List String
  /-- The entries. The root has none. -/
  entries : List (List String × Entry)

namespace FileTree

/-! ## Following paths -/

/-- The entry at a place. -/
def at? (t : FileTree) (place : List String) : Option Entry :=
  if place.isEmpty then some .folder
  else (t.entries.find? fun e => e.1 == place).map Prod.snd

/-- The pieces of a path between its slashes. -/
def pieces (p : FilePath) : List String :=
  (Text.cutAt (· == '/') p.text.toList).map String.ofList

/-- The place that a path starts from. -/
def start (t : FileTree) (p : FilePath) : List String :=
  if p.isAbsolute then [] else t.home

/-- Whether a name is longer than the 255 bytes that names have room for. -/
def isLongName (name : String) : Bool :=
  decide (255 < name.utf8ByteSize)

/-- Whether a path is longer than the 4095 bytes that paths have room for. -/
def isLongPath (p : FilePath) : Bool :=
  decide (4095 < p.text.utf8ByteSize)

/-- Follows pieces of a path from a place. Each place on the way must be a folder. -/
def follow (t : FileTree) (place : List String) : List String → Except FileError (List String)
  | [] => .ok place
  | piece :: rest =>
    match t.at? place with
    | none => .error .notFound
    | some (.file _) => .error .notDirectory
    | some .folder =>
      if piece = "" ∨ piece = "." then t.follow place rest
      else if piece = ".." then t.follow place.dropLast rest
      else if isLongName piece then .error .tooLong
      else t.follow (place ++ [piece]) rest

/-- The place of a path where something is. -/
def locate (t : FileTree) (p : FilePath) : Except FileError (List String) :=
  if p.text.isEmpty then .error .notFound
  else if isLongPath p then .error .tooLong
  else
    match t.follow (t.start p) (pieces p) with
    | .error e => .error e
    | .ok place => if (t.at? place).isSome then .ok place else .error .notFound

/-- What a path leads to. -/
def lookup (t : FileTree) (p : FilePath) : Except FileError Entry :=
  match t.locate p with
  | .error e => .error e
  | .ok place =>
    match t.at? place with
    | some entry => .ok entry
    | none => .error .notFound

/-- Whether a path leads to something. -/
def hasPath (t : FileTree) (p : FilePath) : Bool :=
  match t.lookup p with
  | .ok _ => true
  | .error _ => false

/-- Whether a path leads to a folder. -/
def isFolder (t : FileTree) (p : FilePath) : Bool :=
  match t.lookup p with
  | .ok .folder => true
  | _ => false

/-- Whether a path leads to a file. -/
def isFile (t : FileTree) (p : FilePath) : Bool :=
  match t.lookup p with
  | .ok (.file _) => true
  | _ => false

/-- The text of a file. -/
def readText (t : FileTree) (p : FilePath) : Except FileError String :=
  match t.lookup p with
  | .error e => .error e
  | .ok .folder => .error .isDirectory
  | .ok (.file none) => .error .notText
  | .ok (.file (some text)) => .ok text

/-- The path from the root to a place. -/
def pathOfPlace (place : List String) : FilePath :=
  ⟨"/" ++ String.intercalate "/" place⟩

/-- The path from the root to where a path leads. -/
def canonical (t : FileTree) (p : FilePath) : Except FileError FilePath :=
  match t.locate p with
  | .error e => .error e
  | .ok place => .ok (pathOfPlace place)

/-! ## Changing the tree -/

/-- Puts an entry at a place. -/
def put (t : FileTree) (place : List String) (entry : Entry) : FileTree :=
  { t with entries := t.entries.filter (fun e => e.1 != place) ++ [(place, entry)] }

/-- Puts an entry at a place, and folders at all places around it where nothing is. -/
def insert (t : FileTree) (place : List String) (entry : Entry) : FileTree :=
  let outer := (List.range place.length).map place.take
  let t := outer.foldl (fun t p => if (t.at? p).isSome then t else t.put p .folder) t
  t.put place entry

/-- The place of the folder that the last piece of a path is in, and that piece. Slashes at the end
do not count. -/
def locateLast (t : FileTree) (p : FilePath) : Except FileError (List String × String) :=
  match ((pieces p).reverse.dropWhile String.isEmpty) with
  | [] => .error (if p.text.isEmpty then .notFound else .isDirectory)
  | last :: before =>
    match if isLongPath p then .error .tooLong else t.follow (t.start p) before.reverse with
    | .error e => .error e
    | .ok place =>
      match t.at? place with
      | some .folder => if isLongName last then .error .tooLong else .ok (place, last)
      | some (.file _) => .error .notDirectory
      | none => .error .notFound

/-- Makes a folder whose outer folder is there. -/
def makeFolder (t : FileTree) (p : FilePath) : Except FileError FileTree :=
  match t.locateLast p with
  | .error e => .error e
  | .ok (place, last) =>
    if last = "." ∨ last = ".." then .error .exists
    else if (t.at? (place ++ [last])).isSome then .error .exists
    else .ok (t.put (place ++ [last]) .folder)

/-- Makes a folder, or finds that it is there. -/
def makeOrFind (t : FileTree) (p : FilePath) : Except FileError Unit × FileTree :=
  match t.makeFolder p with
  | .ok t => (.ok (), t)
  | .error e => (if t.isFolder p then .ok () else .error e, t)

/-- Makes a folder and at most `n` folders around it, where they are missing. Those that could be
made stay when another could not. -/
def makeFoldersUpTo : Nat → FileTree → FilePath → Except FileError Unit × FileTree
  | 0, t, p => t.makeOrFind p
  | n + 1, t, p =>
    if p.components.isEmpty then (.ok (), t)
    else
      match t.makeOrFind p, p.parent? with
      | (.error .notFound, t), some outer =>
        match makeFoldersUpTo n t outer with
        | (.ok _, t) => t.makeOrFind p
        | (.error e, t) => (.error e, t)
      | result, _ => result

/-- Makes a folder and all folders around it, where they are missing. -/
def makeFolders (t : FileTree) (p : FilePath) : Except FileError Unit × FileTree :=
  makeFoldersUpTo (p.components.length + 1) t p

/-- Writes a text to a file in a folder that is there. A path that ends with a slash or with dots
names no file. -/
def writeText (t : FileTree) (p : FilePath) (text : String) : Except FileError FileTree :=
  match t.locateLast p with
  | .error e => .error e
  | .ok (place, last) =>
    if p.text.toList.getLast? = some '/' ∨ last = "." ∨ last = ".."
        ∨ t.at? (place ++ [last]) = some .folder then .error .isDirectory
    else .ok (t.put (place ++ [last]) (.file (some text)))

end FileTree

end ApiDocs
