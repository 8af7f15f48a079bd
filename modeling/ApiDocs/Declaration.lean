import ApiDocs.FilePath
import ApiDocs.TypeExpr

/-!
# Declarations of a module

What the rest of the library knows of a source file: for each module in it the imports, the
declared types, and the documentation of its items in the order of the source.
-/

namespace ApiDocs

/-- An imported path. -/
structure Import where
  /-- The absolute path of what is imported, or of the module whose names are all imported. -/
  path : ModulePath
  /-- Another name for it. -/
  asName : Option String := none
  /-- Whether all names of the module are imported. -/
  glob : Bool := false
  deriving DecidableEq

namespace Import

/-- The name that an import binds. -/
def localName (i : Import) : String :=
  i.asName.getD (ModulePath.lastSegment i.path)

/-- Whether an import gives another name. -/
def isAliased (i : Import) : Bool := i.asName.isSome

end Import

/-- A field of a structure. -/
structure FieldDecl where
  /-- The name in the source. -/
  ident : String
  /-- The name when written out. -/
  name : String
  /-- The shape of the type. -/
  type : TypeExpr
  /-- Whether an attribute calls it required. -/
  required : Bool
  /-- Whether it is written out as a text. -/
  asText : Bool
  /-- Whether its own fields stand in its place. -/
  flatten : Bool
  /-- Whether it is not written out. -/
  skip : Bool
  /-- The text of its documentation. -/
  comment : String
  deriving DecidableEq

/-- What a declared type is. -/
inductive TypeBody where
  /-- A structure with named fields. -/
  | struct (fields : List FieldDecl)
  /-- Another name of a type, or a wrapper of one value. -/
  | synonym (target : TypeExpr)
  /-- An enumeration without fields, written out as the name of a variant. -/
  | enum (variants : List String)
  deriving DecidableEq

/-- A declared type. -/
structure TypeDef where
  /-- The name. -/
  name : String
  /-- What it is. -/
  body : TypeBody
  deriving DecidableEq

/-- A documented declaration. -/
inductive Decl where
  /-- The documentation of something that is no function. -/
  | general (docs : List String)
  /-- The documentation of a function. -/
  | operation (name : String) (docs : List String)
  /-- The place of a module that is written in the same file. -/
  | module (path : ModulePath)
  deriving DecidableEq

/-- One module of a source file. -/
structure SourceUnit where
  /-- The file. -/
  path : FilePath
  /-- The path of the module. -/
  module : ModulePath
  /-- What it imports. -/
  imports : List Import := []
  /-- The types it declares. -/
  types : List TypeDef := []
  /-- Its documented declarations, in the order of the source. -/
  decls : List Decl := []

/-- The last segment of the path of a unit's module. -/
def SourceUnit.moduleName (u : SourceUnit) : String :=
  ModulePath.lastSegment u.module

/-- A source file that a module was loaded from. -/
structure LoadedSource where
  /-- The file. -/
  path : FilePath
  /-- The path of the module. -/
  module : ModulePath
  /-- The text of the file. -/
  content : String

end ApiDocs
