import ApiDocs.FilePath
import ApiDocs.ModulePath

/-!
# Modules and their files

Where the modules of a crate live below its module root: the module of a file, and the files that
may hold a module.
-/

namespace ApiDocs.Layout

/-- Drops the folder of programs, and the folder of one program in it; `none` if a program is a
single file. -/
def dropProgram (folders : List String) : Option (List String) :=
  match folders with
  | "bin" :: rest => if rest.isEmpty then none else some (rest.drop 1)
  | _ => some folders

/-- The module path of a file in some folders below the module root. The files `lib` and `main` at
the top hold the root module, and a file `mod` holds the module of its folder. -/
def moduleOfFile (folders : List String) (fileName : String) : ModulePath :=
  match dropProgram folders with
  | none => "crate"
  | some folders =>
    let stem := String.ofList (((FilePath.mk fileName).stem?).getD [])
    let isRootFile := folders.isEmpty && (stem == "lib" || stem == "main")
    let own := if stem == "mod" || isRootFile then [] else [stem]
    ModulePath.ofSegments ("crate" :: (folders ++ own))

/-- The module path of a file. Files outside of the module root belong to the root module. -/
def moduleOf (root file : FilePath) : ModulePath :=
  match root.below? file with
  | none => "crate"
  | some components =>
    match (components.map Component.text).reverse with
    | [] => "crate"
    | fileName :: folders => moduleOfFile folders.reverse fileName

/-- The path of the given segments, one below the other. -/
def pathOfSegments (segments : List String) : FilePath :=
  segments.foldl FilePath.join ⟨""⟩

/-- The files that may hold the module with the given segments below the crate, best one first. -/
def candidates (root : FilePath) (segments : List String) : List FilePath :=
  if segments.isEmpty then [root.join "lib.rs", root.join "main.rs"]
  else
    let base := root.join (pathOfSegments segments).text
    [base.withExtension "rs", base.join "mod.rs"]

end ApiDocs.Layout
