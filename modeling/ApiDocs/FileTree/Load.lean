import ApiDocs.FileTree.Basic
import ApiDocs.Layout
import ApiDocs.Loader

/-!
# Loading modules from files

The file of a module is looked for below the module root of its crate. A module without a file may
be written in the file of the module around it, which is then loaded.
-/

namespace ApiDocs.FileTree

/-- The folder of the root module of a crate, from a folder in it: the sources of the nearest folder
around with a manifest, or the folder itself. -/
def moduleRoot (t : FileTree) (folder : FilePath) : FilePath :=
  match folder.ancestors.find? fun p => t.isFile (p.join "Cargo.toml") with
  | some p => p.join "src"
  | none => folder

/-- Where crates live: the module root of this one, and the folders of others by their names. -/
structure Crates where
  /-- The module root of this crate. -/
  root : FilePath
  /-- The folders of other crates. -/
  externs : List (String × FilePath)

/-- The module root of a crate. -/
def crateRoot (t : FileTree) (crates : Crates) (name : String) : Except LoadError FilePath :=
  if name = "crate" then .ok crates.root
  else
    match crates.externs.find? fun e => e.1 == name with
    | some (_, folder) => .ok (t.moduleRoot folder)
    | none => .error (.unknownCrate name)

/-- The file of a module, without regard to modules around it. -/
def moduleFile? (t : FileTree) (crates : Crates) (module : ModulePath) :
    Except LoadError (Option FilePath) :=
  match ModulePath.segments module with
  | [] => .ok none
  | name :: rest =>
    match t.crateRoot crates name with
    | .error e => .error e
    | .ok root => .ok ((Layout.candidates root rest).find? t.isFile)

/-- Loads a module, or the nearest of at most `n` modules around it that has a file. -/
def loadUpTo (t : FileTree) (crates : Crates) : Nat → ModulePath →
    Except LoadError (List LoadedSource)
  | 0, module => .error (.noFile module)
  | n + 1, module =>
    match t.moduleFile? crates module with
    | .error e => .error e
    | .ok (some path) =>
      match t.readText path with
      | .ok text => .ok [⟨path, module, text⟩]
      | .error e => .error (.unreadable path e)
    | .ok none =>
      match ModulePath.splitName module with
      | (some outer, _) => loadUpTo t crates n outer
      | (none, _) => .error (.noFile module)

/-- Loads a module, or the nearest module around it that has a file. -/
def load (t : FileTree) (crates : Crates) (module : ModulePath) :
    Except LoadError (List LoadedSource) :=
  t.loadUpTo crates (module.length + 1) module

/-- The loader of the modules in a file tree. -/
def loader (t : FileTree) (crates : Crates) : Loader where
  load := t.load crates

end ApiDocs.FileTree
