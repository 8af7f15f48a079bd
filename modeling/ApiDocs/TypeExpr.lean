import ApiDocs.ModulePath
import ApiDocs.Text.Identifier

/-!
# Shapes of field types

What the documentation needs to know of the type of a field: the name of a type, a sequence, a map,
or nothing that can be described. Optional values and pointers have the shape of their content.
-/

namespace ApiDocs

/-- The shape of a field type. -/
inductive TypeExpr where
  /-- A named type, possibly with modules before its name. -/
  | named (path : String)
  /-- A sequence of elements. -/
  | sequence (element : TypeExpr)
  /-- A map from keys to values. -/
  | map (key value : TypeExpr)
  /-- A value of any shape. -/
  | any
  /-- A type that cannot be described. -/
  | unknown
  deriving DecidableEq

namespace TypeExpr

/-- There is always the unknown type. -/
instance : Inhabited TypeExpr := ⟨.unknown⟩

/-- The text of a shape. -/
def text : TypeExpr → String
  | .named path => path
  | .sequence element => "Vec<" ++ element.text ++ ">"
  | .map key value => "Map<" ++ key.text ++ ", " ++ value.text ++ ">"
  | .any => "Value"
  | .unknown => ""

/-- Whether every name in a shape is a path of identifiers. -/
def IsWritten : TypeExpr → Prop
  | .named path => ∃ names : List String,
    (∀ name ∈ names, Text.isIdentifier name = true) ∧ path = ModulePath.ofSegments names
  | .sequence element => element.IsWritten
  | .map key value => key.IsWritten ∧ value.IsWritten
  | .any => True
  | .unknown => True

/-- The shape of a type that is written in a source. -/
structure Written where
  /-- The shape. -/
  expr : TypeExpr
  /-- Its names are paths of identifiers. -/
  valid : expr.IsWritten

namespace Written

/-- A sequence of elements. -/
def sequence (element : Written) : Written :=
  ⟨.sequence element.expr, element.valid⟩

/-- A map from keys to values. -/
def map (key value : Written) : Written :=
  ⟨.map key.expr value.expr, key.valid, value.valid⟩

/-- A value of any shape. -/
def any : Written :=
  ⟨.any, trivial⟩

/-- A type that cannot be described. -/
def unknown : Written :=
  ⟨.unknown, trivial⟩

end Written

/-- Wrappers that have the shape of their content. -/
def wrapperNames : List String :=
  ["Option", "Box", "Rc", "Arc", "Cow", "RefCell", "Cell", "Mutex", "RwLock"]

/-- Containers of a sequence of elements. -/
def sequenceNames : List String :=
  ["Vec", "VecDeque", "LinkedList", "HashSet", "BTreeSet", "BinaryHeap", "IndexSet", "SmallVec"]

/-- Containers of keys and values. -/
def mapNames : List String := ["HashMap", "BTreeMap", "IndexMap"]

/-- A segment of the path of a type: its name, whether that is written raw, and the shapes of its
type arguments. -/
structure Segment where
  /-- The name. -/
  name : String
  /-- Whether the name is written raw. -/
  raw : Bool := false
  /-- The shapes of its type arguments. -/
  args : List Written := []
  /-- The name is an identifier. -/
  valid : Text.isIdentifier name = true

/-- The type that is named by all segments of a path. -/
def Written.named (segments : List Segment) : Written where
  expr := .named (ModulePath.ofSegments (segments.map Segment.name))
  valid := by
    refine ⟨segments.map Segment.name, fun name hname => ?_, rfl⟩
    obtain ⟨segment, -, rfl⟩ := List.mem_map.mp hname
    exact segment.valid

/-- The shape of the type that a path names. The last segment decides: a wrapper stands for its
first argument, a container for a sequence or a map of its arguments, `Value` below `serde_json`
for any value; every other name stands for itself, under its whole path. -/
def ofPath (segments : List Segment) : Written :=
  match segments.getLast? with
  | none => .unknown
  | some last =>
    let first := last.args.headD .unknown
    if wrapperNames.contains last.name then first
    else if sequenceNames.contains last.name then .sequence first
    else if mapNames.contains last.name then .map first (last.args.getD 1 .unknown)
    else if last.name == "Value" && segments.any (fun s => s.name == "serde_json" && !s.raw) then
      .any
    else .named segments

end TypeExpr

end ApiDocs
