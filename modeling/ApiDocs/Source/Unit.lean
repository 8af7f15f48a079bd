import ApiDocs.Declaration
import ApiDocs.Source.Serial

/-!
# Units of a source file

The modules of a source file with their declarations. A module that is written inside another one
is a unit of its own; its place in the outer one is marked. Modules for tests are left out.
-/

namespace ApiDocs.Source

/-! ## Attributes -/

/-- The lines of documentation that an attribute gives. -/
def Attribute.docs (a : Attribute) : List String :=
  match a.content.name, a.content.body with
  | some "doc", .value (some text) => Text.lines text
  | _, _ => []

/-- The lines of documentation that some attributes give. -/
def docLines (attributes : List Attribute) : List String :=
  attributes.flatMap Attribute.docs

/-- Whether an attribute marks something that exists for tests only. -/
def Attribute.isTest (a : Attribute) : Bool :=
  match a.content.name, a.content.body with
  | some "test", _ => true
  | some "cfg", .list [.word ⟨"test", false, _⟩] => true
  | _, _ => false

/-- Whether an attribute calls something required. -/
def Attribute.isRequired (a : Attribute) : Bool :=
  match a.content.body with
  | .list tokens => Token.anyMentions "required" tokens
  | _ => false

/-! ## Imports -/

/-- The absolute path of imported segments. A path that starts with a module written here is
relative to this one. -/
def importPath (module : ModulePath) (children : List String) (segments : List String) :
    ModulePath :=
  let path := ModulePath.ofSegments segments
  match segments with
  | first :: _ =>
    if children.contains first then ModulePath.join module path
    else ModulePath.absolute path module
  | [] => ModulePath.absolute path module

/-- The segments that a name at the end of a path imports; `self` stands for the path before it. -/
def importedSegments? (before : List String) (name : String) : Option (List String) :=
  if name = "self" then if before.isEmpty then none else some before
  else some (before ++ [name])

/-- A walk over trees of imports: the segments before the place that it has come to, and what it has
found so far. -/
structure ImportWalk where
  /-- The segments before the place. -/
  before : List String := []
  /-- The imports that were found. -/
  found : List Import := []

/-- Takes in a name at the place of a walk, which may be bound to another name. -/
def ImportWalk.takeName (module : ModulePath) (children : List String) (w : ImportWalk)
    (name : String) (asName : Option String) : ImportWalk :=
  match importedSegments? w.before name with
  | some segments =>
    { w with
      found := w.found ++ [{ path := importPath module children segments, asName := asName }] }
  | none => w

mutual

/-- Walks over a tree. A segment is added to those before the place, and is taken away again after
what is below it. -/
def UseTree.collect (module : ModulePath) (children : List String) :
    UseTree → ImportWalk → ImportWalk
  | .segment first rest, w =>
    let w := rest.collect module children { w with before := w.before ++ [first] }
    { w with before := w.before.dropLast }
  | .name leaf, w => w.takeName module children leaf none
  | .renamed leaf newName, w =>
    if newName = "_" then w else w.takeName module children leaf (some newName)
  | .all, w =>
    if w.before.isEmpty then w
    else
      { w with
        found := w.found ++ [{ path := importPath module children w.before, glob := true }] }
  | .group trees, w => collectAll module children trees w

/-- Walks over several trees, one after the other. -/
def collectAll (module : ModulePath) (children : List String) :
    List UseTree → ImportWalk → ImportWalk
  | [], w => w
  | tree :: rest, w => collectAll module children rest (tree.collect module children w)

end

/-- The imports of a tree. -/
def UseTree.imports (module : ModulePath) (children : List String) (tree : UseTree) :
    List Import :=
  (tree.collect module children {}).found

/-! ## Types -/

/-- The name under which something is written out. -/
def serialName (serial : Serial) (rule : Option CaseRule) (apply : CaseRule → String → String)
    (ident : String) : String :=
  match serial.rename, rule with
  | some name, _ => name
  | none, some rule => apply rule ident
  | none, none => ident

/-- The text of some lines of documentation: their words, with blank lines left out. -/
def commentText (lines : List String) : String :=
  String.intercalate " " ((lines.map Text.trim).filter (!·.isEmpty))

/-- The declaration of a field. -/
def FieldTree.decl (rule : Option CaseRule) (f : FieldTree) : FieldDecl :=
  let serial := Serial.ofAttributes f.attributes
  { ident := f.name
    name := serialName serial rule CaseRule.onField f.name
    type := f.type.expr
    required := f.attributes.any Attribute.isRequired
    asText := serial.asText
    flatten := serial.flatten
    skip := serial.skip
    comment := commentText (docLines f.attributes) }

/-- What a structure that is written out as its only field is: another name of the type of the
first field that is written out. -/
def transparentBody (fields : List FieldDecl) : TypeBody :=
  match fields.find? (!·.skip) with
  | some inner => .synonym (if inner.asText then .named "String" else inner.type)
  | none => .struct fields

/-- What a structure is. One without field names is another name of its only type, or a
sequence. -/
def structBodyOf (attributes : List Attribute) : FieldsTree → TypeBody
  | .named fields =>
    let container := Serial.ofAttributes attributes
    let fields := fields.map (FieldTree.decl container.renameAll)
    if container.transparent then transparentBody fields else .struct fields
  | .tuple [type] => .synonym type.expr
  | .tuple _ => .synonym (.sequence .unknown)
  | .unit => .struct []

/-- Whether a variant has no fields. -/
def VariantTree.isUnit (v : VariantTree) : Bool :=
  match v.fields with
  | .unit => true
  | _ => false

/-- The name of a variant, unless it is not written out. -/
def VariantTree.serialName? (rule : Option CaseRule) (v : VariantTree) : Option String :=
  let serial := Serial.ofAttributes v.attributes
  if serial.skip then none else some (serialName serial rule CaseRule.onVariant v.name)

/-- What an enumeration is. One with fields may have any shape. -/
def enumBodyOf (attributes : List Attribute) (variants : List VariantTree) : TypeBody :=
  if variants.all VariantTree.isUnit then
    let container := Serial.ofAttributes attributes
    .enum (variants.filterMap (VariantTree.serialName? container.renameAll))
  else .synonym .any

/-! ## Units -/

/-- The documentation of something that is no function, if it has any. -/
def generalDecl (attributes : List Attribute) : List Decl :=
  let docs := docLines attributes
  if docs.isEmpty then [] else [.general docs]

/-- The documentation of a function, if it has any. -/
def FunctionTree.decl (f : FunctionTree) : List Decl :=
  let docs := docLines f.attributes
  if docs.isEmpty then [] else [.operation f.name docs]

/-- The name of the module that an item is. -/
def Item.moduleName? : Item → Option String
  | .module _ name _ => some name.text
  | .moduleFile _ name => some name
  | _ => none

/-- The imports of an item. -/
def Item.importList (module : ModulePath) (children : List String) : Item → List Import
  | .imports _ tree => tree.imports module children
  | _ => []

/-- The type that an item declares. -/
def Item.type? : Item → Option TypeDef
  | .struct attributes name fields => some ⟨name.text, structBodyOf attributes fields⟩
  | .enum attributes name variants => some ⟨name.text, enumBodyOf attributes variants⟩
  | .synonym _ name type => some ⟨name.text, .synonym type.expr⟩
  | _ => none

/-- The documented declarations of an item. -/
def Item.decls (module : ModulePath) : Item → List Decl
  | .imports attributes _ | .struct attributes _ _ | .enum attributes _ _ | .synonym attributes _ _
  | .other attributes => generalDecl attributes
  | .function f => if f.attributes.any Attribute.isTest then [] else f.decl
  | .methods attributes functions => generalDecl attributes ++ functions.flatMap FunctionTree.decl
  | .module attributes name _ =>
    if attributes.any Attribute.isTest then []
    else generalDecl (attributes.filter (!·.inner)) ++ [.module (ModulePath.join module name.text)]
  | .moduleFile attributes _ =>
    if attributes.any Attribute.isTest then [] else generalDecl (attributes.filter (!·.inner))
  | .skipped => []

/-- The unit of a module, without the modules written in it. -/
def unitOf (path : FilePath) (module : ModulePath) (attributes : List Attribute)
    (items : List Item) : SourceUnit :=
  let children := items.filterMap Item.moduleName?
  { path := path
    module := module
    imports := items.flatMap (Item.importList module children)
    types := items.filterMap Item.type?
    decls := generalDecl attributes ++ items.flatMap (Item.decls module) }

mutual

/-- The units of the modules written in an item. -/
def Item.units (path : FilePath) (module : ModulePath) : Item → List SourceUnit
  | .module attributes name items =>
    if attributes.any Attribute.isTest then []
    else
      let inner := ModulePath.join module name.text
      unitOf path inner (attributes.filter Attribute.inner) items :: unitsBelow path inner items
  | _ => []

/-- The units of the modules written in some items. -/
def unitsBelow (path : FilePath) (module : ModulePath) : List Item → List SourceUnit
  | [] => []
  | item :: rest => item.units path module ++ unitsBelow path module rest

end

/-- The units of a source file. The first one is the file's own module. -/
def FileTree.units (path : FilePath) (module : ModulePath) (tree : FileTree) : List SourceUnit :=
  unitOf path module tree.attributes tree.items :: unitsBelow path module tree.items

/-- The units of the text of a source file, if it is well-formed. -/
def parseUnits? (path : FilePath) (module : ModulePath) (text : String) :
    Option (List SourceUnit) :=
  (parseFile? text).map (FileTree.units path module)

end ApiDocs.Source
