import ApiDocs.FileTree.Load
import ApiDocs.Proofs.FileTree.Descent
import ApiDocs.Proofs.ModulePath.Segments

/-!
# Modules and their files

The module of a file and the files of a module are said by two definitions, each with cases of its
own for `lib`, `main`, `mod` and `bin`. The files that the loader tries for a module are in this
module, and every source file is among those that the loader tries for its own module, unless it is
that of a program or a file `mod` at the top (`layout_and_loader_agree`).
-/

namespace ApiDocs

open FileTree

namespace Text

theorem not_dot_of_isIdentifier {name : String} (h : isIdentifier name = true) :
    '.' ∉ name.toList :=
  ModulePath.not_mem_of_isIdentifier h (by decide) (by decide)

/-- An identifier can be the name of a file. -/
theorem isName_of_isIdentifier {name : String} (h : isIdentifier name = true) : IsName name := by
  refine ⟨ModulePath.not_mem_of_isIdentifier h (by decide) (by decide),
    ModulePath.ne_empty_of_isIdentifier h, ?_, ?_⟩
  · rintro rfl
    exact not_dot_of_isIdentifier h (by decide)
  · rintro rfl
    exact not_dot_of_isIdentifier h (by decide)

theorem isName_rs {name : String} (h : isIdentifier name = true) : IsName (name ++ ".rs") :=
  FilePath.isName_append (isName_of_isIdentifier h) (not_dot_of_isIdentifier h) (by decide)

end Text

namespace Layout

variable {root file : FilePath} {segs folders : List String} {stem : String}

/-! ## The files of a module -/

/-- The files that may hold the module with some segments below the crate, best one first: `lib.rs`
and `main.rs` for the root module; for any other module the file with its name, and the file
`mod.rs` in the folder with its name. -/
def moduleFiles (root : FilePath) (segs : List String) : List FilePath :=
  match segs.getLast? with
  | none => [root.join "lib.rs", root.join "main.rs"]
  | some last =>
    [root.descend (segs.dropLast ++ [last ++ ".rs"]), root.descend (segs ++ ["mod.rs"])]

/-- **Files of a module.** These are the files that are tried for a module. -/
theorem candidates_eq (root : FilePath)
    (h : ∀ segment ∈ segs, Text.isIdentifier segment = true) :
    candidates root segs = moduleFiles root segs := by
  rcases List.eq_nil_or_concat segs with rfl | ⟨front, last, rfl⟩
  · rfl
  · rw [List.concat_eq_append] at h ⊢
    have hlast := h last (List.mem_append_right _ (List.mem_singleton_self last))
    have hnames : ∀ name ∈ front ++ [last], IsName name :=
      fun name hname => Text.isName_of_isIdentifier (h name hname)
    have hne : front ++ [last] ≠ [] := by simp
    have hbase : root.join (pathOfSegments (front ++ [last])).text =
        root.descend (front ++ [last]) := FilePath.join_descend hne hnames
    rw [candidates, if_neg (by simp), hbase, moduleFiles, List.getLast?_concat,
      List.dropLast_concat]
    simp only
    -- the extension replaces nothing: an identifier has no dot
    rw [root.descend_concat front (last ++ ".rs"), root.descend_concat (front ++ [last]),
      root.descend_concat front last,
      FilePath.withExtension_join (Text.isName_of_isIdentifier hlast)
        (Text.not_dot_of_isIdentifier hlast) (by decide)]
    rfl

/-- The files of the root module, and of any other one. -/
theorem mem_moduleFiles : file ∈ moduleFiles root segs ↔
    (segs = [] ∧ (file = root.descend ["lib.rs"] ∨ file = root.descend ["main.rs"])) ∨
    ∃ front last, segs = front ++ [last] ∧
      (file = root.descend (front ++ [last ++ ".rs"]) ∨
        file = root.descend (segs ++ ["mod.rs"])) := by
  rcases List.eq_nil_or_concat segs with rfl | ⟨front, last, rfl⟩
  · simp [moduleFiles, FilePath.descend]
  · rw [List.concat_eq_append]
    simp [moduleFiles]

/-! ## The module of a file -/

/-- The segments of the module of a file, which is no program of its own. -/
def segmentsOf (folders : List String) (stem : String) : List String :=
  if stem = "mod" ∨ folders = [] ∧ (stem = "lib" ∨ stem = "main") then folders
  else folders ++ [stem]

/-- The segments of a module are names of folders and of its file. -/
theorem mem_segmentsOf {segment : String} (h : segment ∈ segmentsOf folders stem) :
    segment ∈ folders ∨ segment = stem := by
  rw [segmentsOf] at h
  split at h
  · exact .inl h
  · simpa using h

/-- A path of identifiers is one of names, the extension included. -/
theorem isName_sourcePath (hfolders : ∀ folder ∈ folders, Text.isIdentifier folder = true)
    (hstem : Text.isIdentifier stem = true) : ∀ name ∈ folders ++ [stem ++ ".rs"], IsName name :=
  List.forall_mem_append.mpr
    ⟨fun folder hfolder => Text.isName_of_isIdentifier (hfolders folder hfolder),
      List.forall_mem_singleton.mpr (Text.isName_rs hstem)⟩

/-- The stem of a source file is its name without the extension. -/
theorem stem?_rs (h : Text.isIdentifier stem = true) :
    (FilePath.mk (stem ++ ".rs")).stem? = some stem.toList := by
  rw [FilePath.stem?, ← FilePath.empty_join (Text.isName_rs h),
    FilePath.fileName?_join (Text.isName_rs h), Option.map_some, String.toList_append]
  have hne : stem.toList ≠ [] := fun hnil =>
    ModulePath.ne_empty_of_isIdentifier h (String.toList_eq_nil_iff.mp hnil)
  have hsplit : FilePath.splitExtension (stem.toList ++ '.' :: ['r', 's']) =
      (stem.toList, some ['r', 's']) := FilePath.splitExtension_append hne (by decide)
  exact congrArg (some ·.1) hsplit

/-- **The module of a file.** -/
theorem moduleOf_eq (hfile : root.below? file = some ((folders ++ [stem ++ ".rs"]).map .name))
    (hstem : Text.isIdentifier stem = true) (hfolders : folders.head? ≠ some "bin") :
    moduleOf root file = ModulePath.ofSegments ("crate" :: segmentsOf folders stem) := by
  have hprogram : dropProgram folders = some folders := by
    unfold dropProgram
    split
    · exact absurd rfl hfolders
    · rfl
  have htexts : (((folders ++ [stem ++ ".rs"]).map Component.name).map Component.text).reverse =
      (stem ++ ".rs") :: folders.reverse := by
    rw [List.map_map, show Component.text ∘ Component.name = id from rfl, List.map_id,
      List.reverse_append]
    rfl
  rw [moduleOf, hfile]
  simp only
  rw [htexts]
  simp only
  rw [List.reverse_reverse, moduleOfFile, hprogram, stem?_rs hstem]
  simp only [Option.getD_some, String.ofList_toList]
  rw [segmentsOf]
  by_cases hmod : stem = "mod" <;> by_cases hnil : folders = [] <;> simp [hmod, hnil]

/-! ## Agreement -/

/-- The files of a module are in it, unless its name has a meaning of its own as a file name. -/
theorem moduleOf_of_mem_moduleFiles (h : ∀ segment ∈ segs, Text.isIdentifier segment = true)
    (hsegs : segs = [] ∨ segs.head? ≠ some "bin" ∧ segs.getLast? ≠ some "mod" ∧
      segs ≠ ["lib"] ∧ segs ≠ ["main"]) (hfile : file ∈ moduleFiles root segs) :
    moduleOf root file = ModulePath.ofSegments ("crate" :: segs) := by
  -- every file of a module is written with folders and a stem, which say the module again
  have hmodule : ∀ folders stem, (∀ folder ∈ folders, Text.isIdentifier folder = true) →
      Text.isIdentifier stem = true → folders.head? ≠ some "bin" → segmentsOf folders stem = segs →
      moduleOf root (root.descend (folders ++ [stem ++ ".rs"])) =
        ModulePath.ofSegments ("crate" :: segs) := by
    rintro folders stem hfolders hstem hbin rfl
    exact moduleOf_eq (FilePath.below?_descend (isName_sourcePath hfolders hstem)) hstem hbin
  rcases mem_moduleFiles.mp hfile with ⟨rfl, rfl | rfl⟩ | ⟨front, last, rfl, hfile⟩
  · exact hmodule [] "lib" nofun (by decide) nofun (by decide)
  · exact hmodule [] "main" nofun (by decide) nofun (by decide)
  · obtain hnil | ⟨hbin, hmod, hlib, hmain⟩ := hsegs
    · simp at hnil
    rcases hfile with rfl | rfl
    · refine hmodule front last (fun folder hfolder => h folder (List.mem_append_left _ hfolder))
        (h last (by simp)) ?_ (if_neg ?_)
      · cases front with
        | nil => exact nofun
        | cons folder front => simpa using hbin
      · rintro (rfl | ⟨rfl, rfl | rfl⟩)
        · exact hmod List.getLast?_concat
        · exact hlib rfl
        · exact hmain rfl
    · exact hmodule (front ++ [last]) "mod" h (by decide) hbin (if_pos (.inl rfl))

/-- A source file is among the files of its module. -/
theorem descend_mem_moduleFiles (h : folders ≠ [] ∨ stem ≠ "mod") :
    root.descend (folders ++ [stem ++ ".rs"]) ∈ moduleFiles root (segmentsOf folders stem) := by
  rw [mem_moduleFiles, segmentsOf]
  split
  · rename_i hcase
    rcases hcase with rfl | ⟨rfl, rfl | rfl⟩
    · obtain hnil | ⟨front, last, rfl⟩ := List.eq_nil_or_concat folders
      · exact absurd hnil (h.resolve_right fun hmod => hmod rfl)
      · exact .inr ⟨front, last, List.concat_eq_append, .inr rfl⟩
    · exact .inl ⟨rfl, .inl rfl⟩
    · exact .inl ⟨rfl, .inr rfl⟩
  · exact .inr ⟨folders, stem, rfl, .inl rfl⟩

end Layout

namespace FileTree

variable {t : FileTree} {crates : Crates} {name : String} {root : FilePath} {segs : List String}

/-- The loader looks for a module in the files of the module. -/
theorem moduleFile?_ofSegments (hroot : t.crateRoot crates name = .ok root)
    (hname : Text.isIdentifier name = true)
    (h : ∀ segment ∈ segs, Text.isIdentifier segment = true) :
    t.moduleFile? crates (ModulePath.ofSegments (name :: segs)) =
      .ok ((Layout.moduleFiles root segs).find? t.isFile) := by
  have hall : ∀ segment ∈ name :: segs, Text.isIdentifier segment = true :=
    List.forall_mem_cons.mpr ⟨hname, h⟩
  have hcolon : ∀ segment ∈ name :: segs, ':' ∉ segment.toList := fun segment hsegment hmem =>
    ModulePath.not_colon_of_isIdentifier (hall segment hsegment) hmem rfl
  rw [moduleFile?, ModulePath.segments_ofSegments (List.cons_ne_nil _ _) hcolon]
  simp only [hroot, Layout.candidates_eq root h]

end FileTree

open Layout

/-- **Layout and loader.** Below any module root: the files that the loader tries for a module are
in that module, where no segment has a meaning of its own as a file name; and a source file is among
those that the loader tries for the module of the file, unless it belongs to a program or is a file
`mod` at the top. -/
theorem layout_and_loader_agree (root : FilePath) (externs : List (String × FilePath)) :
    (∀ segs : List String, (∀ segment ∈ segs, Text.isIdentifier segment = true) →
      (segs = [] ∨ segs.head? ≠ some "bin" ∧ segs.getLast? ≠ some "mod" ∧ segs ≠ ["lib"] ∧
        segs ≠ ["main"]) →
      (∀ t : FileTree, t.moduleFile? ⟨root, externs⟩ (ModulePath.ofSegments ("crate" :: segs)) =
        .ok ((moduleFiles root segs).find? t.isFile)) ∧
      ∀ file ∈ moduleFiles root segs,
        moduleOf root file = ModulePath.ofSegments ("crate" :: segs)) ∧
    ∀ (file : FilePath) (folders : List String) (stem : String),
      root.below? file = some ((folders ++ [stem ++ ".rs"]).map .name) →
      (∀ folder ∈ folders, Text.isIdentifier folder = true) → Text.isIdentifier stem = true →
      folders.head? ≠ some "bin" → (folders ≠ [] ∨ stem ≠ "mod") →
      ∃ segs, moduleOf root file = ModulePath.ofSegments ("crate" :: segs) ∧
        (∀ t : FileTree, t.moduleFile? ⟨root, externs⟩ (moduleOf root file) =
          .ok ((moduleFiles root segs).find? t.isFile)) ∧
        ∃ candidate ∈ moduleFiles root segs, candidate.same file := by
  have hloader : ∀ (segs : List String) (t : FileTree),
      (∀ segment ∈ segs, Text.isIdentifier segment = true) →
      t.moduleFile? ⟨root, externs⟩ (ModulePath.ofSegments ("crate" :: segs)) =
        .ok ((moduleFiles root segs).find? t.isFile) :=
    fun segs t h => moduleFile?_ofSegments rfl (by decide) h
  refine ⟨fun segs h hsegs => ⟨fun t => hloader segs t h, fun file hfile =>
    moduleOf_of_mem_moduleFiles h hsegs hfile⟩, ?_⟩
  intro file folders stem hfile hfolders hstem hbin hmod
  have hmodule := moduleOf_eq hfile hstem hbin
  have hsegs : ∀ segment ∈ segmentsOf folders stem, Text.isIdentifier segment = true := by
    intro segment hsegment
    rcases mem_segmentsOf hsegment with hfolder | rfl
    · exact hfolders segment hfolder
    · exact hstem
  refine ⟨segmentsOf folders stem, hmodule, fun t => ?_,
    root.descend (folders ++ [stem ++ ".rs"]), descend_mem_moduleFiles hmod, ?_⟩
  · rw [hmodule]
    exact hloader _ t hsegs
  · exact FilePath.same_descend_of_below? (isName_sourcePath hfolders hstem) hfile

/-- Both ways below a folder that is written with a slash: for a nested module, and for the file of
a folder that is written with a dot and a slash too many. -/
theorem layout_and_loader_agree_books :
    (∀ file ∈ moduleFiles ⟨"/p/src/"⟩ ["model", "book"],
      moduleOf ⟨"/p/src/"⟩ file = "crate::model::book") ∧
    FilePath.below? ⟨"/p/src/"⟩ ⟨"/p/./src//model/mod.rs"⟩ =
      some [.name "model", .name "mod.rs"] ∧
    ∃ segs, moduleOf ⟨"/p/src/"⟩ ⟨"/p/./src//model/mod.rs"⟩ =
        ModulePath.ofSegments ("crate" :: segs) ∧
      ∃ candidate ∈ moduleFiles ⟨"/p/src/"⟩ segs, candidate.same ⟨"/p/./src//model/mod.rs"⟩ := by
  obtain ⟨hfiles, hmodules⟩ := layout_and_loader_agree ⟨"/p/src/"⟩ []
  have hbelow : FilePath.below? ⟨"/p/src/"⟩ ⟨"/p/./src//model/mod.rs"⟩ =
      some [.name "model", .name "mod.rs"] := by decide
  refine ⟨(hfiles ["model", "book"] (by decide) (by decide)).2, hbelow, ?_⟩
  obtain ⟨segs, hmodule, -, hcandidate⟩ :=
    hmodules ⟨"/p/./src//model/mod.rs"⟩ ["model"] "mod" hbelow (by decide) (by decide) (by decide)
      (by decide)
  exact ⟨segs, hmodule, hcandidate⟩

end ApiDocs
