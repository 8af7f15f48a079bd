import ApiDocs.Catalog
import ApiDocs.Loader

/-!
# Sessions

A session is the state of a run: the catalog, the type names that were resolved, and the journal.
Modules that are missing come from a loader, which is asked for each module once.
-/

namespace ApiDocs

/-- The state of a run. -/
structure Session where
  /-- The modules and types that are known. -/
  catalog : Catalog := {}
  /-- The types that names were resolved to, by the unit in which the name stands. -/
  resolved : List ((Nat × String) × Nat) := []
  /-- What was reported. -/
  journal : Journal := []

namespace Session

/-- Reports events. -/
def note (s : Session) (events : Journal) : Session :=
  { s with journal := s.journal ++ events }

/-- What parsing a source file reports. -/
def parseEvents (path : FilePath) (units : Option (List SourceUnit)) : Journal :=
  match units with
  | some us => [.parsing path, .parsed path us.length]
  | none => [.parsing path]

/-- The units of a source file, if it is well-formed; parsing is reported. -/
def parse (source : LoadedSource) (s : Session) : Option (List SourceUnit) × Session :=
  let units := Source.parseUnits? source.path source.module source.content
  (units, s.note (parseEvents source.path units))

/-- Adds units that were scanned. -/
def addScanned (us : List SourceUnit) (s : Session) : Session :=
  { s with catalog := s.catalog.addScanned us }.note (s.catalog.addUnitsEvents us)

/-- Adds units that were loaded. -/
def addLoaded (us : List SourceUnit) (s : Session) : Session :=
  { s with catalog := s.catalog.addUnits us }.note (s.catalog.addUnitsEvents us)

/-- Takes in a source that was loaded for a module. A file that was read before is left out, and so
is a malformed one. -/
def takeSource (module : ModulePath) (s : Session) (source : LoadedSource) : Session :=
  if s.catalog.hasFile source.path then s
  else
    let s := { s with catalog := { s.catalog with files := s.catalog.files ++ [source.path] } }
    match s.parse source with
    | (some us, s) => s.addLoaded us
    | (none, s) => s.note [.malformed module source.path]

/-- Marks a module as asked for. -/
def ask (module : ModulePath) (s : Session) : Session :=
  { s with catalog := { s.catalog with attempted := s.catalog.attempted ++ [module] } }.note
    [.loading module]

/-- Makes sure that the types of a module are known, if the loader has it. A module that is known or
was asked for before is not asked for again. -/
def ensure (loader : Loader) (module : ModulePath) (s : Session) : Session :=
  if s.catalog.attempted.contains module then s
  else
    let s := s.ask module
    match loader.load module with
    | .ok sources => sources.foldl (takeSource module) s
    | .error error => s.note [.notLoaded module error]

end Session

end ApiDocs
