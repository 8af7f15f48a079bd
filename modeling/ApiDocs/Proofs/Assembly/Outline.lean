import ApiDocs.Assembly
import Mathlib.Tactic.Common

/-!
# The outline of a source file

What the documentation of a source file consists of, as it is written: the documentation of items,
and modules with what is written in them. The units of a file are its outline taken apart, one unit
for each module in the order in which the modules start (`FileTree.contents_units`).
-/

namespace ApiDocs.Source

/-- A part of a module: documentation, of the operation with the given name or of something that is
no function, or a module that is written here. -/
inductive Part where
  /-- Documentation. -/
  | doc (operation : Option String) (lines : List String)
  /-- A module. -/
  | module (name : Word) (parts : List Part)

/-! ## The outline -/

/-- The documentation that attributes give, if any. -/
def docParts (operation : Option String) (attributes : List Attribute) : List Part :=
  let lines := docLines attributes
  if lines.isEmpty then [] else [.doc operation lines]

/-- The documentation of a function. -/
def FunctionTree.parts (f : FunctionTree) : List Part :=
  docParts (some f.name) f.attributes

mutual

/-- What an item adds to the outline of its module. Something for tests adds nothing. -/
def Item.parts : Item → List Part
  | .imports attributes _ | .struct attributes _ _ | .enum attributes _ _ | .synonym attributes _ _
  | .other attributes => docParts none attributes
  | .function f => if f.attributes.any Attribute.isTest then [] else f.parts
  | .methods attributes functions =>
    docParts none attributes ++ functions.flatMap FunctionTree.parts
  | .module attributes name items =>
    if attributes.any Attribute.isTest then []
    else docParts none (attributes.filter (!·.inner)) ++
      [.module name (docParts none (attributes.filter Attribute.inner) ++ itemParts items)]
  | .moduleFile attributes _ =>
    if attributes.any Attribute.isTest then [] else docParts none (attributes.filter (!·.inner))
  | .skipped => []

/-- What items add to the outline of their module. -/
def itemParts : List Item → List Part
  | [] => []
  | item :: rest => item.parts ++ itemParts rest

end

/-- The outline of a source file. -/
def FileTree.outline (tree : FileTree) : List Part :=
  docParts none tree.attributes ++ itemParts tree.items

/-! ## Units -/

/-- The declaration that documentation is. -/
def docDecl : Option String → List String → Decl
  | none, lines => .general lines
  | some name, lines => .operation name lines

/-- The declaration that a part is in the unit of its module. -/
def Part.decl (module : ModulePath) : Part → Decl
  | .doc operation lines => docDecl operation lines
  | .module name _ => .module (ModulePath.join module name.text)

/-- What the outline tells of a unit: the path of its module and its declarations. -/
abbrev Contents := ModulePath × List Decl

/-- The contents of a unit. -/
def contents (u : SourceUnit) : Contents :=
  (u.module, u.decls)

mutual

/-- The contents of the units that a part of a module is. -/
def Part.units (module : ModulePath) : Part → List Contents
  | .doc _ _ => []
  | .module name parts =>
    let inner := ModulePath.join module name.text
    (inner, parts.map (Part.decl inner)) :: partUnits inner parts

/-- The contents of the units that parts of a module are. -/
def partUnits (module : ModulePath) : List Part → List Contents
  | [] => []
  | part :: rest => part.units module ++ partUnits module rest

end

/-- The contents of the units of a module and of those written in it. -/
def blockUnits (module : ModulePath) (parts : List Part) : List Contents :=
  (module, parts.map (Part.decl module)) :: partUnits module parts

theorem partUnits_append (module : ModulePath) (parts others : List Part) :
    partUnits module (parts ++ others) = partUnits module parts ++ partUnits module others := by
  induction parts with
  | nil => rfl
  | cons part rest ih => rw [List.cons_append, partUnits, partUnits, ih, List.append_assoc]

/-- Documentation of something that is no function is a general declaration. -/
theorem map_decl_docParts (module : ModulePath) (attributes : List Attribute) :
    (docParts none attributes).map (Part.decl module) = generalDecl attributes := by
  unfold docParts generalDecl
  simp only
  split <;> rfl

theorem partUnits_docParts (module : ModulePath) (operation : Option String)
    (attributes : List Attribute) : partUnits module (docParts operation attributes) = [] := by
  unfold docParts
  simp only
  split <;> rfl

/-- The documentation of a function is an operation. -/
theorem map_decl_functionParts (module : ModulePath) (f : FunctionTree) :
    f.parts.map (Part.decl module) = f.decl := by
  unfold FunctionTree.parts docParts FunctionTree.decl
  simp only
  split <;> rfl

theorem partUnits_functions (module : ModulePath) (functions : List FunctionTree) :
    partUnits module (functions.flatMap FunctionTree.parts) = [] := by
  induction functions with
  | nil => rfl
  | cons f rest ih =>
    rw [List.flatMap_cons, partUnits_append, ih, FunctionTree.parts, partUnits_docParts]
    rfl

/-- The declarations of an item are its parts. -/
theorem Item.map_decl_parts (module : ModulePath) (item : Item) :
    item.parts.map (Part.decl module) = item.decls module := by
  cases item with
  | function f =>
    rw [Item.parts, Item.decls]
    split
    · rfl
    · exact map_decl_functionParts module f
  | methods attributes functions =>
    rw [Item.parts, Item.decls, List.map_append, map_decl_docParts, List.map_flatMap]
    simp only [map_decl_functionParts]
  | module attributes name items =>
    rw [Item.parts, Item.decls]
    split
    · rfl
    · rw [List.map_append, map_decl_docParts]
      rfl
  | moduleFile attributes name =>
    rw [Item.parts, Item.decls]
    split
    · rfl
    · exact map_decl_docParts module _
  | skipped => rfl
  | _ attributes => exact map_decl_docParts module attributes

/-- **Declarations.** What items add to the outline is what they declare. -/
theorem map_decl_itemParts (module : ModulePath) (items : List Item) :
    (itemParts items).map (Part.decl module) = items.flatMap (Item.decls module) := by
  induction items with
  | nil => rfl
  | cons item rest ih =>
    rw [itemParts, List.map_append, item.map_decl_parts, ih, List.flatMap_cons]

/-- The unit of a module has the declarations of its outline. -/
theorem contents_unitOf (path : FilePath) (module : ModulePath) (attributes : List Attribute)
    (items : List Item) : contents (unitOf path module attributes items) =
      (module, (docParts none attributes ++ itemParts items).map (Part.decl module)) := by
  rw [List.map_append, map_decl_docParts, map_decl_itemParts]
  rfl

mutual

/-- The units of an item are those of its parts. -/
theorem Item.contents_units (path : FilePath) (module : ModulePath) :
    ∀ item : Item, (item.units path module).map contents = partUnits module item.parts
  | .module attributes name items => by
    rw [Item.units, Item.parts]
    split
    · rfl
    · rw [partUnits_append, partUnits_docParts, List.nil_append, partUnits, partUnits, Part.units,
        List.append_nil]
      simp only [List.map_cons, contents_unitOf, partUnits_append, partUnits_docParts,
        List.nil_append, contents_unitsBelow path _ items]
  | .function f => by
    rw [Item.parts]
    split
    · rfl
    · exact (partUnits_docParts module _ _).symm
  | .methods attributes functions => by
    rw [Item.parts, partUnits_append, partUnits_docParts, partUnits_functions]
    rfl
  | .moduleFile attributes name => by
    rw [Item.parts]
    split
    · rfl
    · exact (partUnits_docParts module _ _).symm
  | .skipped => rfl
  | .imports attributes _ | .struct attributes _ _ | .enum attributes _ _ | .synonym attributes _ _
  | .other attributes => (partUnits_docParts module none attributes).symm

/-- The units of items are those of their parts. -/
theorem contents_unitsBelow (path : FilePath) (module : ModulePath) :
    ∀ items : List Item, (unitsBelow path module items).map contents =
      partUnits module (itemParts items)
  | [] => rfl
  | item :: rest => by
    rw [unitsBelow, itemParts, partUnits_append, List.map_append, item.contents_units path module,
      contents_unitsBelow path module rest]

end

/-- **Units.** The units of a file are its outline, taken apart. -/
theorem FileTree.contents_units (path : FilePath) (module : ModulePath) (tree : FileTree) :
    (tree.units path module).map contents = blockUnits module tree.outline := by
  rw [FileTree.units, List.map_cons, contents_unitOf, contents_unitsBelow, blockUnits,
    FileTree.outline, partUnits_append, partUnits_docParts, List.nil_append]

end ApiDocs.Source
