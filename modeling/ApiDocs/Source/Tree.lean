import ApiDocs.Source.Token
import ApiDocs.TypeExpr

/-!
# Trees of a source file

The items of a source file with what the documentation needs of them: attributes, imports, the
types with their fields, functions, implementations and inline modules. Bodies of functions,
generic parameters and the like are checked when a file is read, and leave no trace.
-/

namespace ApiDocs.Source

/-- What follows the name of an attribute. -/
inductive MetaBody where
  /-- Nothing. -/
  | bare
  /-- Tokens in brackets. -/
  | list (tokens : List Token)
  /-- A value after an equals sign, with its text if it is a plain text literal. -/
  | value (text : Option String)

/-- The inside of an attribute. -/
structure Meta where
  /-- Its name, if that is a single word that is not raw. -/
  name : Option String
  /-- What follows the name. -/
  body : MetaBody

/-- An attribute. -/
structure Attribute where
  /-- Whether it stands inside of what it belongs to. -/
  inner : Bool
  /-- Its inside. -/
  content : Meta

/-- A field of a structure; the name is empty where fields have none. -/
structure FieldTree where
  /-- The attributes. -/
  attributes : List Attribute
  /-- The name. -/
  name : String
  /-- The shape of its type. -/
  type : TypeExpr.Written

/-- The fields of a structure or of a variant. -/
inductive FieldsTree where
  /-- Fields with names. -/
  | named (fields : List FieldTree)
  /-- Fields without names. -/
  | tuple (types : List TypeExpr.Written)
  /-- No fields. -/
  | unit

/-- A variant of an enumeration. -/
structure VariantTree where
  /-- The attributes. -/
  attributes : List Attribute
  /-- The name. -/
  name : String
  /-- The fields. -/
  fields : FieldsTree

/-- A tree of imported paths. -/
inductive UseTree where
  /-- A segment before the rest of the path. -/
  | segment (name : String) (rest : UseTree)
  /-- The end of a path. -/
  | name (name : String)
  /-- The end of a path, bound to another name. -/
  | renamed (name newName : String)
  /-- All names of the module before it. -/
  | all
  /-- Several trees. -/
  | group (trees : List UseTree)

/-- A function: its attributes, inner ones last, and its name. -/
structure FunctionTree where
  /-- The attributes. -/
  attributes : List Attribute
  /-- The name. -/
  name : String

/-- An item of a source file. -/
inductive Item where
  /-- Imports. -/
  | imports (attributes : List Attribute) (tree : UseTree)
  /-- A structure. -/
  | struct (attributes : List Attribute) (name : Word) (fields : FieldsTree)
  /-- An enumeration. -/
  | enum (attributes : List Attribute) (name : Word) (variants : List VariantTree)
  /-- Another name of a type. -/
  | synonym (attributes : List Attribute) (name : Word) (type : TypeExpr.Written)
  /-- A function. -/
  | function (tree : FunctionTree)
  /-- Functions that belong to a type. -/
  | methods (attributes : List Attribute) (functions : List FunctionTree)
  /-- A module that is written here. -/
  | module (attributes : List Attribute) (name : Word) (items : List Item)
  /-- A module that is written in a file of its own. -/
  | moduleFile (attributes : List Attribute) (name : String)
  /-- An item of which only the attributes matter. -/
  | other (attributes : List Attribute)
  /-- An item that nothing is known of. -/
  | skipped

/-- A source file: the attributes of the file and its items. -/
structure FileTree where
  /-- The attributes. -/
  attributes : List Attribute
  /-- The items. -/
  items : List Item

end ApiDocs.Source
