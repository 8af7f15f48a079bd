import ApiDocs.ModulePath

/-!
# Kinds of parameters

Documents tell seven kinds of values apart. A type name, as written in source or in an annotation,
is mapped to its kind by its last segment.
-/

namespace ApiDocs

/-- The kind of a parameter's value. -/
inductive Kind where
  /-- A whole number of at most 32 bits. -/
  | int
  /-- A longer whole number. -/
  | long
  /-- A number with a fraction. -/
  | number
  /-- A truth value. -/
  | boolean
  /-- A text. -/
  | string
  /-- A sequence. -/
  | array
  /-- Anything else. -/
  | object
  deriving DecidableEq

namespace Kind

/-- Every kind. -/
def all : List Kind := [int, long, number, boolean, string, array, object]

/-- The name a kind has in documents. -/
def name : Kind → String
  | int => "int"
  | long => "long"
  | number => "number"
  | boolean => "boolean"
  | string => "string"
  | array => "array"
  | object => "object"

/-- The kind with the given name. -/
def ofName? (text : String) : Option Kind :=
  all.find? fun k => k.name == text

/-- Type names of whole numbers of at most 32 bits. -/
def intNames : List String :=
  ["i8", "i16", "i32", "u8", "u16", "u32", "int", "integer", "short", "byte"]

/-- Type names of longer whole numbers. -/
def longNames : List String :=
  ["i64", "u64", "i128", "u128", "isize", "usize", "long"]

/-- Type names of numbers with a fraction. -/
def numberNames : List String :=
  ["f32", "f64", "float", "double", "number"]

/-- Type names of texts. -/
def stringNames : List String :=
  ["String", "str", "char", "string"]

/-- The kind of the type whose last segment is `segment`. -/
def ofSegment (segment : String) : Kind :=
  if segment ∈ intNames then int
  else if segment ∈ longNames then long
  else if segment ∈ numberNames then number
  else if segment = "bool" ∨ segment = "boolean" then boolean
  else if segment ∈ stringNames then string
  else if segment = "array" then array
  else object

/-- The kind of a type name. Blanks around it and leading `&` do not count; a leading bracket or
`Vec<` makes an array. -/
def ofTypeName (typeName : String) : Kind :=
  let cs := (Text.trimChars typeName.toList).dropWhile (· == '&')
  if "[".toList.isPrefixOf cs || "Vec<".toList.isPrefixOf cs then array
  else ofSegment (ModulePath.lastSegment (String.ofList cs))

/-- Whether the values are numbers. -/
def isNumeric : Kind → Bool
  | int => true
  | long => true
  | number => true
  | _ => false

/-- The kind of a header of the given type: headers carry numbers or texts. -/
def forHeader (typeName : String) : Kind :=
  if (ofTypeName typeName).isNumeric then number else string

/-- Whether a type name denotes a scalar and not a declared type. -/
def isScalarName (typeName : String) : Bool :=
  match ofTypeName typeName with
  | array => false
  | object => false
  | _ => true

end Kind

end ApiDocs
