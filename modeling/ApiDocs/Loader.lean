import ApiDocs.Journal
import ApiDocs.Source.Unit

/-!
# Loaders

A loader gives the source of modules that are not known yet.
-/

namespace ApiDocs

/-- A source of modules. -/
structure Loader where
  /-- The source files of a module, or of the module around it in whose file it is written. -/
  load : ModulePath → Except LoadError (List LoadedSource)

namespace Loader

/-- A loader that has nothing. -/
def none : Loader := ⟨fun module => .error (.unknownModule module)⟩

/-- A loader of sources that are listed by the modules they are given for. -/
def ofSources (sources : List (ModulePath × LoadedSource)) : Loader where
  load module :=
    match sources.find? fun entry => entry.1 == module with
    | some (_, source) => .ok [source]
    | .none => .error (.unknownModule module)

end Loader

end ApiDocs
