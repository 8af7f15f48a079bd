import ApiDocs.Proofs.FileTree.Walk
import Mathlib.Data.List.Induction

/-!
# Production files

What a scan finds is said without the walk: the files below the root whose names are those of
production files (`IsProduction`). For this the tree must be one in which everything stands in a
folder (`IsClosed`), and paths must be short enough to be followed (`HasRoom`). The order in which
folders list their entries makes no difference (`scan_production_files`).
-/

namespace ApiDocs

namespace FileTree

variable {t : FileTree} {extension file : String} {place names folders : List String}
  {root p : FilePath}

/-! ## Names of production files -/

/-- Whether a file in some folders is a production file with an extension. -/
structure IsProduction (extension : String) (folders : List String) (file : String) : Prop where
  /-- No name starts with a dot. -/
  visible : ∀ name ∈ folders ++ [file], name.toList.head? ≠ some '.'
  /-- No folder holds build results, tests, benchmarks or examples. -/
  folders : ∀ folder ∈ folders, folder ∉ ["target", "tests", "benches", "examples"]
  /-- The extension is what stands behind the last dot, and what stands before it is no name for
  tests. -/
  file : ∃ stem, file = stem ++ "." ++ extension ∧ '.' ∉ extension.toList ∧ stem ≠ "tests" ∧
    ¬ "_test".toList <:+ stem.toList ∧ ¬ "_tests".toList <:+ stem.toList

/-- A name is visible if it does not start with a dot. -/
theorem isHiddenName_eq_false_iff : isHiddenName file = false ↔ file.toList.head? ≠ some '.' := by
  rw [isHiddenName, beq_eq_false_iff_ne]

/-- Which names are those of source files. -/
theorem isSourceName_iff (hfile : IsName file) (hvisible : file.toList.head? ≠ some '.') :
    isSourceName extension file ↔
      ∃ stem, file = stem ++ "." ++ extension ∧ '.' ∉ extension.toList ∧ stem ≠ "tests" ∧
        ¬ "_test".toList <:+ stem.toList ∧ ¬ "_tests".toList <:+ stem.toList := by
  have hname : (FilePath.mk file).fileName? = some file.toList := by
    rw [← FilePath.empty_join hfile, FilePath.fileName?_join hfile]
  have hsource : isSourceName extension file ↔
      (FilePath.splitExtension file.toList).2 = some extension.toList ∧
        (FilePath.splitExtension file.toList).1 ≠ "tests".toList ∧
        ¬ "_test".toList <:+ (FilePath.splitExtension file.toList).1 ∧
        ¬ "_tests".toList <:+ (FilePath.splitExtension file.toList).1 := by
    simp [isSourceName, FilePath.stem?, FilePath.extension?, hname, and_assoc,
      ← List.isSuffixOf_iff_suffix]
  rw [hsource]
  constructor
  · rintro ⟨hextension, htests, htest⟩
    obtain ⟨stem, hstem⟩ : ∃ stem : String, stem.toList = (FilePath.splitExtension file.toList).1 :=
      ⟨String.ofList _, String.toList_ofList⟩
    obtain ⟨hcs, hdot⟩ := FilePath.splitExtension_eq_some (Prod.ext hstem.symm hextension)
    rw [← hstem] at htests htest
    refine ⟨stem, ?_, hdot, fun heq => htests (congrArg String.toList heq), htest⟩
    rw [← String.toList_inj, String.toList_append, String.toList_append, List.append_assoc]
    exact hcs
  · rintro ⟨stem, rfl, hdot, htests, htest⟩
    have hstem : stem.toList ≠ [] := by
      intro hnil
      rw [String.toList_eq_nil_iff.mp hnil] at hvisible
      exact hvisible (by simp)
    have hsplit : FilePath.splitExtension (stem ++ "." ++ extension).toList =
        (stem.toList, some extension.toList) := by
      rw [String.toList_append, String.toList_append, List.append_assoc]
      exact FilePath.splitExtension_append hstem hdot
    rw [hsplit]
    exact ⟨rfl, fun heq => htests (String.toList_inj.mp heq), htest⟩

/-- No folder around a production file is left out. -/
theorem IsProduction.forall_isKept (h : IsProduction extension folders file) :
    ∀ folder ∈ folders, isKept (folder, .folder) := by
  intro folder hfolder
  have hvisible := h.visible folder (List.mem_append_left _ hfolder)
  exact isKept_folder_iff.mpr ⟨isHiddenName_eq_false_iff.mpr hvisible, h.folders folder hfolder⟩

/-- **Only production files.** What a walk finds is a production file. -/
theorem IsFound.isProduction {path : FilePath} (ht : t.IsProper)
    (h : t.IsFound extension place path folders file) : IsProduction extension folders file := by
  have hvisible := isHiddenName_eq_false_iff.mp h.visible
  have hkept := fun folder hfolder => isKept_folder_iff.mp (h.opens.forall_isKept folder hfolder)
  refine ⟨List.forall_mem_append.mpr ⟨fun folder hfolder => ?_, ?_⟩,
    fun folder hfolder => (hkept folder hfolder).2, ?_⟩
  · exact isHiddenName_eq_false_iff.mp (hkept folder hfolder).1
  · exact List.forall_mem_singleton.mpr hvisible
  · exact (isSourceName_iff (h.isName ht file (by simp)) hvisible).mp h.source

/-! ## Trees of folders -/

/-- Whether everything in a tree stands in a folder. -/
def IsClosed (t : FileTree) : Prop :=
  ∀ e ∈ t.entries, t.at? e.1.dropLast = some .folder

instance (t : FileTree) : Decidable t.IsClosed :=
  inferInstanceAs (Decidable (∀ e ∈ t.entries, t.at? e.1.dropLast = some .folder))

theorem IsClosed.at?_of_mem (h : t.IsClosed) {name : String} {entry : Entry}
    (hmem : (place ++ [name], entry) ∈ t.entries) : t.at? place = some .folder := by
  have hdrop := h _ hmem
  rwa [List.dropLast_concat] at hdrop

/-- Whether names below a folder, and the paths that are made of them, are not too long to be
followed. -/
def HasRoom (t : FileTree) (place : List String) (root : FilePath) : Prop :=
  ∀ e ∈ t.entries, ∀ names, e.1 = place ++ names →
    (∀ name ∈ names, isLongName name = false) ∧ isLongPath (root.descend names) = false

instance (t : FileTree) (place : List String) (root : FilePath) :
    Decidable (t.HasRoom place root) :=
  decidable_of_iff (∀ e ∈ t.entries, e.1 = place ++ e.1.drop place.length →
      (∀ name ∈ e.1.drop place.length, isLongName name = false) ∧
        isLongPath (root.descend (e.1.drop place.length)) = false)
    ⟨fun h e he names hnames => by
      have hroom := h e he (by rw [hnames, List.drop_left])
      rwa [hnames, List.drop_left] at hroom,
    fun h e he => h e he _⟩

section Found

variable (ht : t.IsProper) (hclosed : t.IsClosed) (hroom : t.HasRoom place root)
  (hroot : t.locate root = .ok place)
include ht hclosed hroom hroot

/-- **Paths.** Below the root, names lead from folder to folder. -/
theorem locate_descend (h : (t.at? (place ++ names)).isSome) :
    t.locate (root.descend names) = .ok (place ++ names) := by
  induction names using List.reverseRecOn with
  | nil =>
    rw [List.append_nil]
    exact hroot
  | append_singleton names name ih =>
    obtain ⟨entry, hentry⟩ := Option.isSome_iff_exists.mp h
    have hmem := mem_entries_of_at? (by simp) hentry
    have hname : IsName name := ht.isName_of_mem hmem name (by simp)
    obtain ⟨hshort, hlong⟩ := hroom _ hmem (names ++ [name]) rfl
    rw [← List.append_assoc] at hmem
    have hfolder := hclosed.at?_of_mem hmem
    -- the way to the folder around it is part of the way
    have hlocate := ih (Option.isSome_of_eq_some hfolder)
    have hne : (root.descend names).text ≠ "" := (locate_eq_ok_iff.mp hlocate).1
    rw [FilePath.descend_concat] at hlong ⊢
    refine (locate_join hname hne).mpr ⟨hlong, hshort name (by simp), h, ?_⟩
    exact ⟨place ++ names, hlocate, hfolder, (List.append_assoc ..).symm⟩

/-- **Every production file.** A walk finds a production file that is there. -/
theorem IsProduction.isFound (h : IsProduction extension folders file) {text : Option String}
    (hentry : (place ++ folders ++ [file], .file text) ∈ t.entries) :
    t.IsFound extension place root folders file := by
  have hnames : ∀ name ∈ folders ++ [file], IsName name := by
    rw [List.append_assoc] at hentry
    exact ht.isName_of_mem hentry
  have hvisible := h.visible file (by simp)
  have hat : t.at? (place ++ (folders ++ [file])) = some (.file text) := by
    rw [← List.append_assoc]
    exact (ht.at?_eq_some_iff (by simp)).mpr hentry
  have hfolder := hclosed.at?_of_mem hentry
  have hlocate := locate_descend ht hclosed hroom hroot (Option.isSome_of_eq_some hat)
  have hlocateFolder := locate_descend ht hclosed hroom hroot (Option.isSome_of_eq_some hfolder)
  obtain ⟨found, hfound, -, hopens⟩ := opens_of_isFolder (List.forall_mem_append.mp hnames).1
    (locate_eq_ok_iff.mp hroot).1 h.forall_isKept (isFolder_iff.mpr ⟨_, hlocateFolder, hfolder⟩)
  obtain rfl := Except.ok.inj (hroot.symm.trans hfound)
  exact ⟨hopens, ⟨text, hentry⟩, isHiddenName_eq_false_iff.mpr hvisible,
    (isSourceName_iff (hnames file (by simp)) hvisible).mpr h.file,
    isFile_iff.mpr ⟨_, text, hlocate, hat⟩⟩

/-- What a scan finds. -/
theorem mem_sourceFiles_iff : p ∈ t.sourceFiles place root extension ↔
    ∃ folders file text, (place ++ folders ++ [file], .file text) ∈ t.entries ∧
      IsProduction extension folders file ∧ p = root.descend (folders ++ [file]) := by
  rw [mem_sourceFiles]
  constructor
  · rintro ⟨folders, file, hfound, rfl⟩
    obtain ⟨text, hentry⟩ := hfound.entry
    exact ⟨folders, file, text, hentry, hfound.isProduction ht, rfl⟩
  · rintro ⟨folders, file, text, hentry, hproduction, rfl⟩
    exact ⟨folders, file, hproduction.isFound ht hclosed hroom hroot hentry, rfl⟩

end Found

/-! ## The order of entries -/

/-- Whether two trees are the same up to the order of their entries. -/
def IsReordered (t s : FileTree) : Prop :=
  t.home = s.home ∧ t.entries.Perm s.entries

variable {s : FileTree}

/-- The order of entries does not matter for a proper tree. -/
theorem IsProper.of_isReordered (ht : t.IsProper) (h : t.IsReordered s) : s.IsProper :=
  ⟨fun e he => ht.names e (h.2.mem_iff.mpr he), ((h.2.map _).nodup_iff).mp ht.distinct⟩

/-- At each place of a proper tree there is the same, in whatever order its entries are. -/
theorem IsReordered.at?_eq (ht : t.IsProper) (h : t.IsReordered s) : t.at? = s.at? := by
  funext place
  by_cases hplace : place = []
  · subst hplace
    rfl
  · refine Option.ext fun entry => ?_
    rw [ht.at?_eq_some_iff hplace, (ht.of_isReordered h).at?_eq_some_iff hplace, h.2.mem_iff]

/-- The order of entries does not matter for a closed tree. -/
theorem IsClosed.of_isReordered (hclosed : t.IsClosed) (ht : t.IsProper) (h : t.IsReordered s) :
    s.IsClosed := by
  intro e he
  rw [← h.at?_eq ht]
  exact hclosed e (h.2.mem_iff.mpr he)

/-- The order of entries does not matter for the length of names. -/
theorem HasRoom.of_isReordered (hroom : t.HasRoom place root) (h : t.IsReordered s) :
    s.HasRoom place root :=
  fun e he => hroom e (h.2.mem_iff.mpr he)

/-- Paths lead to the same places. -/
theorem IsReordered.locate_eq (ht : t.IsProper) (h : t.IsReordered s) : t.locate = s.locate := by
  have hfollow : t.follow = s.follow := by
    funext place pieces
    induction pieces generalizing place with
    | nil => rfl
    | cons piece rest ih => simp only [follow, h.at?_eq ht, ih]
  funext p
  rw [locate, locate, hfollow, h.at?_eq ht, start, start, h.1]

/-- A scan of a folder succeeds, and finds its source files. -/
theorem scan_eq (hroot : t.locate root = .ok place) (hfolder : t.at? place = some .folder)
    (extension : String) : t.scan root extension = .ok (t.sourceFiles place root extension) := by
  have hisFolder : t.isFolder root = true := isFolder_iff.mpr ⟨place, hroot, hfolder⟩
  rw [scan, hroot, hisFolder]

end FileTree

open FileTree

/-- **Production files.** For every tree of folders and files, and every folder in it, whatever its
name, below which paths are not too long: a scan finds the production files below the folder, in a
strict order, and the order in which folders list their entries makes no difference. -/
theorem scan_production_files (t : FileTree) (root : FilePath) (extension : String)
    (place : List String) (ht : t.IsProper) (hclosed : t.IsClosed)
    (hroot : t.locate root = .ok place) (hfolder : t.at? place = some .folder)
    (hroom : t.HasRoom place root) :
    ∃ paths, t.scan root extension = .ok paths ∧
      (paths.Pairwise fun p q => p.compare q = .lt) ∧
      (∀ p, p ∈ paths ↔ ∃ folders file text,
        (place ++ folders ++ [file], .file text) ∈ t.entries ∧
        IsProduction extension folders file ∧ p = root.descend (folders ++ [file])) ∧
      ∀ s : FileTree, t.IsReordered s → s.scan root extension = .ok paths := by
  refine ⟨t.sourceFiles place root extension, scan_eq hroot hfolder extension,
    sourceFiles_pairwise_lt ht .., fun p => mem_sourceFiles_iff ht hclosed hroom hroot, ?_⟩
  intro s h
  have hs := ht.of_isReordered h
  have hroot' : s.locate root = .ok place := by rw [← h.locate_eq ht, hroot]
  have hfolder' : s.at? place = some .folder := by rw [← h.at?_eq ht, hfolder]
  rw [scan_eq hroot' hfolder']
  refine congrArg Except.ok (eq_of_pairwise_lt (sourceFiles_pairwise_lt hs ..)
    (sourceFiles_pairwise_lt ht ..) fun p => ?_)
  rw [mem_sourceFiles_iff hs (hclosed.of_isReordered ht h) (hroom.of_isReordered h) hroot',
    mem_sourceFiles_iff ht hclosed hroom hroot]
  simp only [h.2.mem_iff]

/-- A tree with a folder that would be skipped below another one. In it there are another folder
with such a name, a file named after one, and files of all kinds that are left out. -/
def testsTree : FileTree where
  home := ["tests"]
  entries :=
    [(["tests"], .folder), (["tests", "target.rs"], .file (some "")), (["tests", "api"], .folder),
      (["tests", "api", "tests"], .folder), (["tests", "api", "tests", "a.rs"], .file (some "")),
      (["tests", "api", "b.x.rs"], .file (some "")), (["tests", "api", ".c.rs"], .file (some "")),
      (["tests", "api", "d_test.rs"], .file (some ""))]

/-- A folder may have a name that is skipped when it is given itself, and a file is not skipped for
the name of a folder. -/
theorem scan_production_files_testsTree :
    testsTree.IsProper ∧ testsTree.IsClosed ∧ testsTree.HasRoom ["tests"] ⟨"."⟩ ∧
    ∃ paths, testsTree.scan ⟨"."⟩ "rs" = .ok paths ∧
      (paths.Pairwise fun p q => p.compare q = .lt) ∧
      ⟨"./target.rs"⟩ ∈ paths ∧ ⟨"./api/b.x.rs"⟩ ∈ paths ∧
      ∀ s : FileTree, testsTree.IsReordered s → s.scan ⟨"."⟩ "rs" = .ok paths := by
  have ht : testsTree.IsProper := by decide
  have hclosed : testsTree.IsClosed := by decide
  have hroom : testsTree.HasRoom ["tests"] ⟨"."⟩ := by decide
  obtain ⟨paths, hscan, horder, hmem, hreordered⟩ :=
    scan_production_files testsTree ⟨"."⟩ "rs" ["tests"] ht hclosed (by decide) (by decide) hroom
  refine ⟨ht, hclosed, hroom, paths, hscan, horder, ?_, ?_, hreordered⟩
  · exact (hmem _).mpr ⟨[], "target.rs", some "", by decide,
      ⟨by decide, nofun, "target", by decide⟩, by decide⟩
  · exact (hmem _).mpr ⟨["api"], "b.x.rs", some "", by decide,
      ⟨by decide, by decide, "b.x", by decide⟩, by decide⟩

end ApiDocs
