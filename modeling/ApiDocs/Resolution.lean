import ApiDocs.Session

/-!
# Resolving type names

A type name is resolved inside the unit in which it stands. A name without a qualifier is looked for
in the unit's module, then among its imports; a qualified one by what its first segment is. Modules
are loaded where the search needs them.
-/

namespace ApiDocs.Session

/-- The type with a name in a module, which is loaded if needed. -/
def findIn (loader : Loader) (module : ModulePath) (name : String) (s : Session) :
    Option Nat × Session :=
  match s.catalog.find? module name with
  | some id => (some id, s)
  | none =>
    let s := s.ensure loader module
    (s.catalog.find? module name, s)

/-- The first hit of several searches, made one after the other. -/
def firstHit (searches : List (Session → Option Nat × Session)) (s : Session) :
    Option Nat × Session :=
  match searches with
  | [] => (none, s)
  | search :: rest =>
    match search s with
    | (some id, s) => (some id, s)
    | (none, s) => firstHit rest s

/-- The search by a short key. -/
def byKey (key : String) (s : Session) : Option Nat × Session :=
  (s.catalog.unique? key, s)

/-- The search in a module that is not loaded. -/
def inModule (module : ModulePath) (name : String) (s : Session) : Option Nat × Session :=
  (s.catalog.find? module name, s)

/-- The search for what an import denotes. -/
def byImport (loader : Loader) (i : Import) (s : Session) : Option Nat × Session :=
  match ModulePath.splitName i.path with
  | (some module, item) => findIn loader module item s
  | (none, _) => (none, s)

/-- The searches for a name without a qualifier. -/
def plainSearches (loader : Loader) (name : String) (u : SourceUnit) :
    List (Session → Option Nat × Session) :=
  [byKey (shortKey u.moduleName name), inModule u.module name]
    ++ (u.imports.filter fun i => !i.glob && i.localName == name).map (byImport loader)
    ++ (u.imports.filter Import.glob).map fun i => findIn loader i.path name

/-- Whether a segment says where a path starts. -/
def isRelative (segment : String) : Bool :=
  ["crate", "self", "super"].contains segment

/-- The searches for a name with a qualifier. -/
def qualifiedSearches (loader : Loader) (qualifier : ModulePath) (name : String)
    (u : SourceUnit) : List (Session → Option Nat × Session) :=
  let (head, tail) := ModulePath.splitHead qualifier
  if isRelative head then [findIn loader (ModulePath.absolute qualifier u.module) name]
  else
    match u.imports.find? fun i => !i.glob && i.asName == some head with
    | some i => [findIn loader (ModulePath.join i.path tail) name]
    | none =>
      (if tail.isEmpty then [byKey (shortKey head name)] else [])
        ++ ((u.imports.find? fun i => !i.glob && !i.isAliased && i.localName == head).map
            fun i => findIn loader (ModulePath.join i.path tail) name).toList
        ++ [findIn loader (ModulePath.join u.module qualifier) name, findIn loader qualifier name]

/-- The searches for a type name in a unit. -/
def searches (loader : Loader) (name : String) (u : SourceUnit) :
    List (Session → Option Nat × Session) :=
  match ModulePath.splitName name with
  | (some qualifier, name) => qualifiedSearches loader qualifier name u
  | (none, name) => plainSearches loader name u

/-- The type that a name was resolved to before. -/
def remembered? (s : Session) (unit : Nat) (name : String) : Option Nat :=
  (s.resolved.find? fun entry => entry.1 == (unit, name)).map Prod.snd

/-- The path of a type. -/
def typePath (s : Session) (id : Nat) : ModulePath :=
  (s.catalog.decls[id]?.map TypeDecl.path).getD ""

/-- A type name without blanks around it and without `::` before it. -/
def plainName (name : String) : String :=
  String.ofList (ModulePath.dropLeadingMarks (Text.trimChars name.toList))

/-- Resolves a type name in a unit. A name that was resolved before keeps its type. -/
def resolve (loader : Loader) (name : String) (unit : Nat) (s : Session) :
    Option Nat × Session :=
  let name := plainName name
  if name.isEmpty then (none, s)
  else
    match s.remembered? unit name, s.catalog.units[unit]? with
    | some id, _ => (some id, s)
    | none, none => (none, s)
    | none, some u =>
      match firstHit (searches loader name u) s with
      | (some id, s) =>
        (some id, { s with resolved := s.resolved ++ [((unit, name), id)] }.note
          [.resolved name u.module (s.typePath id)])
      | (none, s) => (none, s.note [.unresolved name u.module])

end ApiDocs.Session
