import ApiDocs.Journal
import ApiDocs.Source.Unit

/-!
# The catalog of declared types

All modules that a run knows, and the types they declare. A module may declare a name once; the
first declaration counts. Besides its module and name, a type may be found by its short key, the
last segment of its module with its name, as long as no other type has the same one.
-/

namespace ApiDocs

/-- A declared type with the place of its declaration. -/
structure TypeDecl where
  /-- The name. -/
  name : String
  /-- The module. -/
  module : ModulePath
  /-- What it is. -/
  body : TypeBody
  /-- The number of the unit that declares it. -/
  unit : Nat
  deriving DecidableEq

/-- The short key of a type name in a module of the given last segment. -/
def shortKey (moduleName name : String) : String :=
  moduleName ++ "::" ++ name

namespace TypeDecl

/-- The path of a type. -/
def path (d : TypeDecl) : ModulePath :=
  d.module ++ "::" ++ d.name

/-- The short key of a type. -/
def key (d : TypeDecl) : String :=
  shortKey (ModulePath.lastSegment d.module) d.name

end TypeDecl

/-- Declared types, numbered in the order in which they came, with the ways to find them. -/
structure TypeIndex where
  /-- The declared types. -/
  decls : List TypeDecl := []
  /-- The numbers of the types by their modules and names. -/
  byName : List ((ModulePath × String) × Nat) := []
  /-- The numbers of the types by their short keys, without the keys that several types have. -/
  byKey : List (String × Nat) := []
  /-- The short keys that several types have. -/
  ambiguous : List String := []

namespace TypeIndex

/-! ## Looking up -/

/-- The type with a name in a module. -/
def find? (x : TypeIndex) (module : ModulePath) (name : String) : Option Nat :=
  x.byName.lookup (module, name)

/-- The type with a short key, if it is the only one. -/
def unique? (x : TypeIndex) (key : String) : Option Nat :=
  x.byKey.lookup key

/-- How many short keys belong to one type only. -/
def uniqueKeys (x : TypeIndex) : Nat :=
  x.byKey.length

/-- The module of the type with a number. -/
def moduleOf? (x : TypeIndex) (id : Nat) : Option ModulePath :=
  x.decls[id]?.map TypeDecl.module

/-! ## Registering -/

/-- Adds a declaration at the end, without its short key. -/
def append (x : TypeIndex) (d : TypeDecl) : TypeIndex :=
  { x with
    decls := x.decls ++ [d]
    byName := x.byName ++ [((d.module, d.name), x.decls.length)] }

/-- Adds the short key of the type with the number `id`. A key that a type of another module has is
dropped, and stays so. -/
def addKey (x : TypeIndex) (key : String) (module : ModulePath) (id : Nat) : TypeIndex :=
  if x.ambiguous.contains key then x
  else
    match x.unique? key with
    | some other =>
      if x.moduleOf? other = some module then x
      else
        { x with
          byKey := x.byKey.filter fun entry => entry.1 != key
          ambiguous := x.ambiguous ++ [key] }
    | none => { x with byKey := x.byKey ++ [(key, id)] }

/-- Adds a declaration, unless its module has the name already. -/
def register (x : TypeIndex) (d : TypeDecl) : TypeIndex :=
  if (x.find? d.module d.name).isSome then x
  else (x.append d).addKey d.key d.module x.decls.length

/-- Whether adding a declaration drops its short key. -/
def clashes (x : TypeIndex) (d : TypeDecl) : Bool :=
  (x.find? d.module d.name).isNone && !x.ambiguous.contains d.key &&
    match x.unique? d.key with
    | some other => x.moduleOf? other != some d.module
    | none => false

/-- What adding a declaration reports. -/
def registerEvents (x : TypeIndex) (d : TypeDecl) : Journal :=
  Event.collecting d.path :: (if x.clashes d then [.ambiguous d.key] else [])

/-- What adding declarations reports. -/
def registerAllEvents (x : TypeIndex) : List TypeDecl → Journal
  | [] => []
  | d :: rest => x.registerEvents d ++ registerAllEvents (x.register d) rest

end TypeIndex

/-- The modules and types that a run knows. Units are numbered in the order in which they came. -/
structure Catalog extends TypeIndex where
  /-- The units. -/
  units : List SourceUnit := []
  /-- The numbers of the units that were scanned and not loaded. -/
  scanned : List Nat := []
  /-- The modules that are known or were asked for. -/
  attempted : List ModulePath := []
  /-- The files that were read. -/
  files : List FilePath := []

namespace Catalog

/-! ## Growing -/

/-- The declarations of a unit that will get the number `n`. -/
def declsOf (u : SourceUnit) (n : Nat) : List TypeDecl :=
  u.types.map fun t => ⟨t.name, u.module, t.body, n⟩

/-- Adds a unit with its declarations. -/
def addUnit (c : Catalog) (u : SourceUnit) : Catalog :=
  { c with
    toTypeIndex := (declsOf u c.units.length).foldl TypeIndex.register c.toTypeIndex
    units := c.units ++ [u]
    attempted := c.attempted ++ [u.module] }

/-- What adding a unit reports. -/
def addUnitEvents (c : Catalog) (u : SourceUnit) : Journal :=
  c.registerAllEvents (declsOf u c.units.length)

/-- Adds units. -/
def addUnits (c : Catalog) (us : List SourceUnit) : Catalog :=
  us.foldl addUnit c

/-- What adding units reports. -/
def addUnitsEvents (c : Catalog) : List SourceUnit → Journal
  | [] => []
  | u :: rest => c.addUnitEvents u ++ addUnitsEvents (c.addUnit u) rest

/-- Adds units that were scanned. -/
def addScanned (c : Catalog) (us : List SourceUnit) : Catalog :=
  let c' := c.addUnits us
  { c' with scanned := c'.scanned ++ (List.range us.length).map (c.units.length + ·) }

/-! ## Scanned files -/

/-- The path of the file of a unit. -/
def pathOf (c : Catalog) (unit : Nat) : FilePath :=
  (c.units[unit]?.map SourceUnit.path).getD ⟨""⟩

/-- The numbers of the scanned units in the order of their file paths; units of one file stay in the
order in which they came. -/
def scannedUnits (c : Catalog) : List Nat :=
  c.scanned.mergeSort fun a b => (c.pathOf a).compare (c.pathOf b) != .gt

/-- Whether a file was read. -/
def hasFile (c : Catalog) (path : FilePath) : Bool :=
  c.files.any path.same

end Catalog

end ApiDocs
