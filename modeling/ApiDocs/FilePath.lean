import ApiDocs.Text.Blank

/-!
# File paths

A file path is a text of components divided by slashes. It keeps the way it is written, and is
compared by its components: repeated slashes and inner dots make no difference.
-/

namespace ApiDocs

/-- A component of a file path. -/
inductive Component where
  /-- The slash at the front of an absolute path. -/
  | root
  /-- A dot at the front of a path. -/
  | current
  /-- Two dots. -/
  | parent
  /-- A name. -/
  | name (text : String)
  deriving DecidableEq

namespace Component

/-- The place of a component in the order of components. -/
def rank : Component → Nat
  | root => 0
  | current => 1
  | parent => 2
  | name _ => 3

/-- The order of components. -/
def compare : Component → Component → Ordering
  | name a, name b => compareOfLessAndEq a b
  | a, b => Ord.compare a.rank b.rank

/-- The text of a component. -/
def text : Component → String
  | root => "/"
  | current => "."
  | parent => ".."
  | name text => text

end Component

/-- A file path, as written. -/
structure FilePath where
  /-- The text of the path. -/
  text : String
  deriving DecidableEq

namespace FilePath

/-- The component that a piece between slashes is, after the first one. A dot is none. -/
def component? (piece : List Char) : Option Component :=
  if piece = [] ∨ piece = ['.'] then none
  else if piece = ['.', '.'] then some .parent
  else some (.name (String.ofList piece))

/-- Whether a path starts at the root. -/
def isAbsolute (p : FilePath) : Bool :=
  p.text.toList.head? == some '/'

/-- The components of a path. -/
def components (p : FilePath) : List Component :=
  match Text.cutAt (· == '/') p.text.toList with
  | [] => []
  | first :: rest =>
    let others := rest.filterMap component?
    if p.isAbsolute then .root :: others
    else if first = ['.'] then .current :: others
    else (component? first).toList ++ others

/-- The order of lists of components. -/
def compareComponents : List Component → List Component → Ordering
  | [], [] => .eq
  | [], _ :: _ => .lt
  | _ :: _, [] => .gt
  | a :: as, b :: bs => (a.compare b).then (compareComponents as bs)

/-- The order of paths, component by component. -/
def compare (p q : FilePath) : Ordering :=
  compareComponents p.components q.components

/-- Whether two paths have the same components. -/
def same (p q : FilePath) : Bool :=
  p.components == q.components

/-- Writes `q` below `p`; an absolute path stays as it is. -/
def join (p : FilePath) (q : String) : FilePath :=
  if (FilePath.mk q).isAbsolute then ⟨q⟩
  else if p.text.isEmpty || p.text.toList.getLast? == some '/' then ⟨p.text ++ q⟩
  else ⟨p.text ++ "/" ++ q⟩

/-- Drops slashes and inner dots from the end of a path that is written backwards. -/
def dropEnd : List Char → List Char
  | '/' :: rest => dropEnd rest
  | '.' :: '/' :: rest => dropEnd rest
  | cs => cs

/-- The path up to its last component, written backwards, and that component. -/
def splitLast (p : FilePath) : List Char × List Char :=
  let backwards := dropEnd p.text.toList.reverse
  (backwards.dropWhile (· != '/'), (backwards.takeWhile (· != '/')).reverse)

/-- The last component of a path, if it is a name. -/
def fileName? (p : FilePath) : Option (List Char) :=
  let name := p.splitLast.2
  if name = [] ∨ name = ['.'] ∨ name = ['.', '.'] then none else some name

/-- A file name before its last dot, and after it if there is such a dot that is not the first
character. -/
def splitExtension (name : List Char) : List Char × Option (List Char) :=
  match (name.reverse.dropWhile (· != '.')) with
  | [] | [_] => (name, none)
  | _ :: stem => (stem.reverse, some (name.reverse.takeWhile (· != '.')).reverse)

/-- The file name without its extension. -/
def stem? (p : FilePath) : Option (List Char) :=
  p.fileName?.map fun name => (splitExtension name).1

/-- The extension of the file name. -/
def extension? (p : FilePath) : Option (List Char) :=
  p.fileName?.bind fun name => (splitExtension name).2

/-- Replaces the extension of the file name, or adds one. -/
def withExtension (p : FilePath) (extension : String) : FilePath :=
  match p.stem? with
  | none => p
  | some stem =>
    ⟨String.ofList (p.splitLast.1.reverse ++ stem) ++ "." ++ extension⟩

/-- The path without its last component. -/
def parent? (p : FilePath) : Option FilePath :=
  match p.splitLast with
  | (_, []) => none
  | (before, _) =>
    match dropEnd before with
    | [] => some ⟨if before.isEmpty then "" else "/"⟩
    | rest => some ⟨String.ofList rest.reverse⟩

/-- A path and the paths that its last components are dropped from, at most `n` of them. -/
def ancestorsUpTo : Nat → FilePath → List FilePath
  | 0, p => [p]
  | n + 1, p =>
    match p.parent? with
    | none => [p]
    | some parent => p :: ancestorsUpTo n parent

/-- A path and all paths that its last components are dropped from. -/
def ancestors (p : FilePath) : List FilePath :=
  ancestorsUpTo (p.components.length + 1) p

/-- The components of `p` below `base`, if it lies there. -/
def below? (base p : FilePath) : Option (List Component) :=
  if base.components.isPrefixOf p.components then some (p.components.drop base.components.length)
  else none

end FilePath

end ApiDocs
