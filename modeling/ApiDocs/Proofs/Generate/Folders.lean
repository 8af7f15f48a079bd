import ApiDocs.Proofs.Assembly.Twins
import ApiDocs.Proofs.FileTree.Crates
import ApiDocs.Proofs.FileTree.Loading
import ApiDocs.Proofs.Generate.Indexing
import ApiDocs.Proofs.Resolution.Faithful

/-!
# Documents of a folder

Documents can be generated for a whole crate or for a folder of it. In the first run all files of
the crate are scanned. The second one scans the files in the folder, and loads the modules outside
that names in these files lead to. The files in the folder are made into the same documents
(`generate_folder`), as long as both runs are faithful to what they know together: the types that
they look for stand in the files that they take the modules from, and names that one of them answers
by a short key are not answered otherwise. Each of these conditions is needed
(`folder_documents_differ`).
-/

namespace ApiDocs

open Assembly

/-! ## Numbers of units -/

/-- The elements of a list, by their numbers in a longer one. -/
theorem map_getElem?_range {α : Type} (l more : List α) :
    ((List.range l.length).map fun i => (l ++ more)[i]?) = l.map some := by
  refine List.ext_getElem (by rw [List.length_map, List.length_map, List.length_range]) ?_
  intro i hi hi'
  rw [List.length_map] at hi'
  rw [List.getElem_map, List.getElem_map, List.getElem_range, List.getElem?_append_left hi',
    List.getElem?_eq_getElem hi']

/-- The elements that a filter keeps, by their numbers. -/
theorem map_getElem?_filter_range {α : Type} (p : α → Bool) (l : List α) :
    (((List.range l.length).filter fun i => l[i]?.any p).map fun i => l[i]?) =
      (l.filter p).map some := by
  have hall := map_getElem?_range l []
  rw [List.append_nil] at hall
  calc (((List.range l.length).filter fun i => l[i]?.any p).map fun i => l[i]?)
      = ((List.range l.length).map fun i => l[i]?).filter (Option.any p) := by
        rw [List.filter_map]
        rfl
    _ = (l.map some).filter (Option.any p) := by rw [hall]
    _ = (l.filter p).map some := List.filter_map

/-- Numbers that stand for the same elements one after the other. -/
theorem forall₂_of_map_eq {α : Type} {f g : Nat → Option α} {is js : List Nat} {l : List α}
    (h : is.map f = l.map some) (h' : js.map g = l.map some) :
    List.Forall₂ (fun i j => ∃ a, f i = some a ∧ g j = some a) is js := by
  induction l generalizing is js with
  | nil =>
    rw [List.map_eq_nil_iff.mp h, List.map_eq_nil_iff.mp h']
    exact .nil
  | cons a l ih =>
    obtain ⟨i, is, rfl, hi, his⟩ := List.map_eq_cons_iff.mp h
    obtain ⟨j, js, rfl, hj, hjs⟩ := List.map_eq_cons_iff.mp h'
    exact .cons ⟨a, hi, hj⟩ (ih his hjs)

namespace Session

/-! ## What two runs know -/

/-- After a scan, the scanned units are those of the files. -/
theorem Scans.scannedSources_eq {paths : List FilePath} {us : List SourceUnit} {s s' : Session}
    (h : Scans paths us {} s) (hgrows : Grows s s') :
    s'.catalog.scannedSources = us := by
  obtain ⟨more, hmore⟩ := hgrows.units
  have hscanned : s'.catalog.scanned = List.range us.length := by
    rw [hgrows.scanned, h.scanned, List.range_eq_range']
    rfl
  have hunits : s'.catalog.units = us ++ more := by
    rw [← hmore, h.units]
    rfl
  calc s'.catalog.scannedSources
      = (List.range us.length).filterMap fun i => (us ++ more)[i]? := by
        rw [Catalog.scannedSources, hscanned, hunits]
    _ = ((List.range us.length).map fun i => (us ++ more)[i]?).filterMap id := by
        rw [List.filterMap_map]
        rfl
    _ = us := by
        rw [map_getElem?_range, List.filterMap_map]
        exact List.filterMap_some

/-- The owner of a place is the same among the units that were scanned, if it is one of them. -/
theorem owner?_filter_append {p : SourceUnit → Bool} {us extra : Library}
    {place : ModulePath × String}
    (h : ∀ u, Library.owner? (us ++ extra) place = some u → u ∈ us.filter p) :
    Library.owner? (us.filter p) place = Library.owner? (us ++ extra) place := by
  have hfirst : Library.owner? (us ++ extra) place = us.owner? place := by
    cases howner : us.owner? place with
    | some u => rw [Library.owner?_append, howner, Option.some_or]
    | none =>
      cases hall : Library.owner? (us ++ extra) place with
      | none => rfl
      | some u =>
        have hmem := List.mem_of_mem_filter (h u hall)
        exact absurd (List.find?_some hall) (List.find?_eq_none.mp howner u hmem)
  rw [hfirst] at h ⊢
  exact Library.owner?_filter fun u hu => (List.mem_filter.mp (h u hu)).2

/-- After a scan of some of the files of a library, the catalog is a part of it, if the types at the
places that matter are in these files. -/
theorem Scans.partOf {p : SourceUnit → Bool} {paths : List FilePath} {us extra : List SourceUnit}
    {s : Session} {sought : List (ModulePath × String)} (hindexed : s.catalog.IsIndexed)
    (h : Scans paths (us.filter p) {} s)
    (hscan : ∀ place ∈ sought, ∀ u ∈ Library.owner? (us ++ extra) place,
      place.1 ∈ (us.filter p).map SourceUnit.module → u ∈ us.filter p) :
    s.catalog.PartOf (us ++ extra) sought := by
  have hunits : s.catalog.units = us.filter p := h.units
  have hmarked : s.catalog.attempted = (us.filter p).map SourceUnit.module := h.attempted
  refine ⟨hindexed, ?_, ?_, ?_⟩
  · intro u hu
    rw [hunits] at hu
    rw [hmarked]
    exact List.mem_map_of_mem hu
  · intro u hu
    rw [hunits] at hu
    exact List.mem_append_left _ (List.mem_of_mem_filter hu)
  · intro place hplace hmodule
    rw [hmarked] at hmodule
    rw [hunits]
    exact owner?_filter_append fun u hu => hscan place hplace u hu hmodule

/-- The numbers of the units that stay when some files are left out, and those that they get. -/
theorem Scans.sameUnit {q : FilePath → Bool} {paths paths' : List FilePath} {us : List SourceUnit}
    {s s' : Session} (h : Scans paths us {} s)
    (h' : Scans paths' (us.filter fun u => q u.path) {} s') :
    List.Forall₂ (SameUnit s s') ((List.range us.length).filter (isShared q s.catalog))
      (List.range (us.filter fun u => q u.path).length) := by
  have hunits : s.catalog.units = us := h.units
  have hunits' : s'.catalog.units = us.filter fun u => q u.path := h'.units
  have hshared : (List.range us.length).filter (isShared q s.catalog) =
      (List.range us.length).filter fun i => us[i]?.any fun u => q u.path := by
    refine List.filter_congr fun i hi => ?_
    have hlt := List.mem_range.mp hi
    rw [isShared, h.pathOf_eq hlt, List.getElem?_eq_getElem hlt]
    rfl
  have hmap : ((List.range us.length).filter (isShared q s.catalog)).map
      (fun i => s.catalog.units[i]?) = (us.filter fun u => q u.path).map some := by
    rw [hshared, hunits]
    exact map_getElem?_filter_range (fun u => q u.path) us
  refine forall₂_of_map_eq hmap ?_
  rw [hunits', ← map_getElem?_range _ [], List.append_nil]

/-- Where a run starts, it knows a part of the library, and remembers nothing. -/
theorem Scans.settled_start {paths : List FilePath} {us : List SourceUnit} {s last : Session}
    {lex : Lexicon} (h : Scans paths us {} s) (hgrows : Grows s last)
    (hpart : s.catalog.PartOf lex.units (last.sought lex.readers)) :
    s.start.Settled lex last := by
  refine ⟨hpart, fun u hu => ?_, fun module hmodule => ?_, fun unit name id hmem => ?_⟩
  · rw [h.scannedSources_eq hgrows] at hu
    have hunits : s.start.catalog.units = us := h.units
    rwa [hunits]
  · have hloads : s.start.journal.loads = [] := (loads_note rfl s).trans h.loads
    rw [hloads] at hmodule
    cases hmodule
  · have hresolved : s.start.resolved = [] := h.resolved
    rw [hresolved] at hmem
    cases hmem

/-- What two runs know together is what the first one has scanned, and other units. -/
theorem Scans.allUnits_eq {paths : List FilePath} {us : List SourceUnit} {s last : Session}
    (h : Scans paths us {} s) (hgrows : Grows s last) (last' : Session) :
    ∃ extra, last.allUnits last' = us ++ extra := by
  obtain ⟨more, hmore⟩ := hgrows.units
  have hunits : s.catalog.units = us := h.units
  refine ⟨more ++ last'.catalog.units.filter fun u => decide (u ∉ last.catalog.units), ?_⟩
  rw [allUnits, ← List.append_assoc, ← hunits, hmore]

/-- **Scanning less.** Two runs without failures that are faithful to what they know together make
the files that both have scanned into the same documents, where one of them has scanned all files of
the other one. -/
theorem chapters_of_scans {loader : Loader} {q : FilePath → Bool} {paths : List FilePath}
    {us : List SourceUnit} {s s' last last' : Session} {docs docs' : List Document}
    (hq : ∀ a b : FilePath, a.same b → q a = q b) (hsingle : loader.IsSingle)
    (hcovered : ∃ sources, loader.CoveredBy sources)
    (horder : us.Pairwise fun u v => u.path.notAfter v.path) (hindexed : s.catalog.IsIndexed)
    (hindexed' : s'.catalog.IsIndexed) (hscans : Scans paths us {} s)
    (hscans' : Scans (paths.filter q) (us.filter fun u => q u.path) {} s')
    (hrun : s.assemble loader = (.ok docs, last)) (hrun' : s'.assemble loader = (.ok docs', last'))
    (hfaithful : ∀ run ∈ [last, last'],
      run.Faithful loader (last.allUnits last') last'.catalog.units [last, last']) :
    (s'.chapters loader).map Chapter.contents =
      ((s.chapters loader).filter fun c => q c.path).map Chapter.contents := by
  obtain ⟨s₁, hfiles, hstart, hsteps, hend⟩ := steps_of_assemble_ok hrun
  obtain ⟨s₁', hfiles', hstart', hsteps', hend'⟩ := steps_of_assemble_ok hrun'
  have hlast : Steps loader s last := hstart.trans (hsteps.trans hend)
  have hlast' : Steps loader s' last' := hstart'.trans (hsteps'.trans hend')
  have hfirst : last ∈ [last, last'] := List.mem_cons_self
  have hsecond : last' ∈ [last, last'] := List.mem_cons_of_mem _ List.mem_cons_self
  -- both runs start with a part of the library
  obtain ⟨extra, hlibrary⟩ := hscans.allUnits_eq hlast.grows last'
  have hpart : s.catalog.PartOf (last.allUnits last') (last.sought last'.catalog.units) := by
    have hscan := (hfaithful last hfirst).scans
    rw [hscans.scannedSources_eq hlast.grows, hlibrary] at hscan
    rw [hlibrary]
    have hall : Scans paths (us.filter fun _ => true) {} s := by rwa [List.filter_true]
    refine hall.partOf hindexed ?_
    rwa [List.filter_true]
  have hpart' : s'.catalog.PartOf (last.allUnits last') (last'.sought last'.catalog.units) := by
    have hscan := (hfaithful last' hsecond).scans
    rw [hscans'.scannedSources_eq hlast'.grows, hlibrary] at hscan
    rw [hlibrary]
    exact hscans'.partOf hindexed' hscan
  -- what names mean is the same in both runs
  have hparallel : Parallel loader
      (lexicon (last.allUnits last') last'.catalog.units [last, last']) last last' :=
    ⟨hsingle, hcovered,
      regular_of_faithful hfaithful hfirst fun _ hu => mem_allUnits.mpr (Or.inl hu),
      regular_of_faithful hfaithful hsecond fun _ hu => mem_allUnits.mpr (Or.inr hu),
      fun _ hu => hu⟩
  have htwin : s.start.Twin (lexicon (last.allUnits last') last'.catalog.units [last, last'])
      s'.start last last' :=
    ⟨hscans.settled_start hlast.grows hpart, hscans'.settled_start hlast'.grows hpart',
      fun u hu => hlast'.grows.units.subset hu⟩
  -- the files of the second run are those of the first one that are not left out
  have hgroups : List.Forall₂ (List.Forall₂ (SameUnit s.start s'.start))
      ((files s.catalog).filter (isSharedGroup q s.catalog)) (files s'.catalog) := by
    have hunits := hscans.sameUnit hscans'
    rw [files, filter_groupByFile hq s.catalog.scannedUnits_pairwise, hscans.scannedUnits_eq horder,
      files, hscans'.scannedUnits_eq (horder.filter _)]
    exact groupByFile_twin hunits
  have hvalid : ∀ group ∈ files s.catalog,
      group ≠ [] ∧ ∀ id ∈ group, id < s.catalog.units.length := by
    intro group hgroup
    refine ⟨(files_inOrder s.catalog).ne_nil group hgroup, fun id hid => ?_⟩
    have hscanned := mem_files_iff.mp ⟨group, hgroup, hid⟩
    rw [hscans.scanned] at hscanned
    rw [hscans.units, List.length_append]
    exact (List.mem_range'_1.mp hscanned).2
  exact chapters_twin hparallel hstart hvalid hgroups htwin hfiles hfiles' hend hend'

end Session

open Session

/-! ## A crate and a folder of it -/

/-- **A folder of a crate.** Documents are generated for a crate and for a folder of it that a scan
does not leave out. Where both runs come to an end without failures, and are faithful to what they
know together, the files in the folder are made into the same documents, with the same numbers. -/
theorem generate_folder {t : FileTree} {place names : List String} {outer inner : Config}
    {loader : Loader} {docs docs' : List Document} {last last' : Session} (ht : t.IsProper)
    (hcrate : t.IsCrate place) (hvisible : FileTree.IsVisible names)
    (houter : t.locate outer.root = .ok place) (hinner : t.locate inner.root = .ok (place ++ names))
    (hexterns : inner.externs = outer.externs)
    (hloader : loader = t.loader ⟨FileTree.pathOfPlace (place ++ ["src"]), outer.externs⟩)
    (hrun : generate t outer {} = (.ok docs, last))
    (hrun' : generate t inner {} = (.ok docs', last'))
    (hfaithful : ∀ run ∈ [last, last'],
      run.Faithful loader (allUnits last last') last'.catalog.units [last, last']) :
    docs = (generated t outer {}).flatMap Chapter.docs ∧
    docs' = (generated t inner {}).flatMap Chapter.docs ∧
    (generated t inner {}).map Chapter.contents =
      ((generated t outer {}).filter fun c =>
        c.path.isBelow (FileTree.pathOfPlace (place ++ names))).map Chapter.contents := by
  have hnames : ∀ name ∈ place ++ names, FileTree.IsName name :=
    ht.isName_of_at? (FileTree.isSome_at?_of_locate hinner)
  have hplace : ∀ name ∈ place, FileTree.IsName name := fun name hname =>
    hnames name (List.mem_append_left _ hname)
  have hroot : t.moduleRoot (FileTree.pathOfPlace place) =
      FileTree.pathOfPlace (place ++ ["src"]) := by
    have heq := hcrate.moduleRoot_eq (by rwa [List.append_nil])
    rwa [List.append_nil] at heq
  obtain ⟨paths, base, hscan, hindexed, hscans, hassemble, hchapters⟩ :=
    generate_cases houter hroot hrun
  obtain ⟨paths', base', hscan', hindexed', hscans', hassemble', hchapters'⟩ :=
    generate_cases hinner (hcrate.moduleRoot_eq hnames) hrun'
  rw [hexterns] at hassemble' hchapters'
  rw [← hloader] at hassemble hchapters hassemble' hchapters'
  -- the second run scans the files of the first one in the folder
  obtain ⟨-, rfl⟩ := FileTree.eq_of_scan_pathOfPlace hplace hscan
  obtain ⟨hfolder, rfl⟩ := FileTree.eq_of_scan_pathOfPlace hnames hscan'
  rw [FileTree.sourceFiles_append ht hplace hfolder hvisible, flatMap_unitsOf_filter] at hscans'
  have hdocs : ∀ {s last : Session} {docs : List Document},
      s.assemble loader = (.ok docs, last) → docs = (s.chapters loader).flatMap Chapter.docs := by
    intro s last docs h
    obtain ⟨s₁, hfiles, -⟩ := steps_of_assemble_ok h
    exact docs_eq_flatMap_chapters hfiles
  rw [hchapters, hchapters']
  refine ⟨hdocs hassemble, hdocs hassemble', ?_⟩
  refine chapters_of_scans (q := fun p => p.isBelow (FileTree.pathOfPlace (place ++ names)))
    (fun _ _ hsame => FilePath.isBelow_congr hsame _) (hloader ▸ FileTree.loader_isSingle t _)
    (hloader ▸ FileTree.loader_covered t _)
    (pairwise_flatMap_unitsOf t _ (FileTree.sourceFiles_pairwise ..)) hindexed hindexed' hscans
    hscans' hassemble hassemble' hfaithful

/-! ## Examples -/

/-- A crate with a folder `handler` that holds one file, and files beside the folder. -/
def bookCrate (handler : String) (others : List (String × String)) : FileTree where
  home := []
  entries :=
    [(["Cargo.toml"], .file (some "[package]")), (["src"], .folder), (["src", "handler"], .folder),
      (["src", "handler", "mod.rs"], .file (some handler))] ++
        others.map fun x => (["src", x.1], .file (some x.2))

/-- A source file with one operation, which answers with a type. -/
def showing (type : String) : String :=
  "/// Show\n/// @url GET /book\n/// @resp " ++ type ++ "{}\nfn show() {}"

/-- A source file with one type. -/
def bookSource : String :=
  "struct Book { id: i64 }"

/-- The whole crate. -/
def wholeCrate : Config where
  root := ⟨"."⟩

/-- The folder. -/
def handlerFolder : Config where
  root := ⟨"src/handler"⟩

/-- One type is found by its short key, which it alone has, and one is imported from the root
module. The root module has another file, with a type that the folder does not use. -/
def storeCrate : FileTree where
  home := []
  entries :=
    [(["Cargo.toml"], .file (some "[package]")), (["src"], .folder), (["src", "handler"], .folder),
      (["src", "handler", "book.rs"],
        .file (some ("use crate::Page;\n" ++ showing "Book" ++ "\n" ++ showing "Page"))),
      (["src", "handler", "model"], .folder),
      (["src", "handler", "model", "book.rs"], .file (some bookSource)),
      (["src", "lib.rs"], .file (some "struct Page { number: i64 }")),
      (["src", "main.rs"], .file (some "struct Args { verbose: bool }"))]

/-- In both runs `Book` is answered by its short key alone. The module of `Page` is loaded in one of
them. -/
theorem generate_folder_storeCrate :
    ∃ docs docs' last last', generate storeCrate wholeCrate {} = (.ok docs, last) ∧
      generate storeCrate handlerFolder {} = (.ok docs', last') ∧
      last.journal.loads = [] ∧ last'.journal.loads = ["crate"] ∧ docs'.length = 2 ∧
      (∀ run ∈ [last, last'], ∃ u ∈ last'.catalog.units,
        run.keyedAnswers u = [("Book", "crate::handler::model::book", "Book")]) ∧
      (generated storeCrate handlerFolder {}).map Chapter.contents =
        ((generated storeCrate wholeCrate {}).filter fun c =>
          c.path.isBelow ⟨"/src/handler"⟩).map Chapter.contents := by
  have houter : storeCrate.locate wholeCrate.root = .ok [] := by decide +kernel
  have hinner : storeCrate.locate handlerFolder.root = .ok ["src", "handler"] := by
    decide +kernel
  have horder : IsInOrder storeCrate [] ∧ IsInOrder storeCrate ["src", "handler"] := by
    decide +kernel
  have hrun : generate storeCrate wholeCrate {} = generateInOrder storeCrate [] [] :=
    (horder.1.generate_eq houter).1
  have hrun' : generate storeCrate handlerFolder {} =
      generateInOrder storeCrate ["src", "handler"] [] := (horder.2.generate_eq hinner).1
  have hevaluated : (generateInOrder storeCrate [] []).1.isOk ∧
      (generateInOrder storeCrate ["src", "handler"] []).1.isOk ∧
      (generateInOrder storeCrate [] []).2.journal.loads = [] ∧
      (generateInOrder storeCrate ["src", "handler"] []).2.journal.loads = ["crate"] ∧
      (generateInOrder storeCrate ["src", "handler"] []).1.toOption.map List.length = some 2 ∧
      (∀ run ∈ [(generateInOrder storeCrate [] []).2,
          (generateInOrder storeCrate ["src", "handler"] []).2],
        ∃ u ∈ (generateInOrder storeCrate ["src", "handler"] []).2.catalog.units,
          run.keyedAnswers u = [("Book", "crate::handler::model::book", "Book")]) ∧
      ∀ run ∈ [(generateInOrder storeCrate [] []).2,
          (generateInOrder storeCrate ["src", "handler"] []).2],
        run.Faithful (storeCrate.loader ⟨⟨"/src"⟩, []⟩)
          (allUnits (generateInOrder storeCrate [] []).2
            (generateInOrder storeCrate ["src", "handler"] []).2)
          (generateInOrder storeCrate ["src", "handler"] []).2.catalog.units
          [(generateInOrder storeCrate [] []).2,
            (generateInOrder storeCrate ["src", "handler"] []).2] := by
    decide +kernel
  obtain ⟨hok, hok', hloads, hloads', hlength, hkeyed, hfaithful⟩ := hevaluated
  generalize generateInOrder storeCrate [] [] = run at *
  generalize generateInOrder storeCrate ["src", "handler"] [] = run' at *
  obtain ⟨result, last⟩ := run
  obtain ⟨result', last'⟩ := run'
  obtain ⟨docs, rfl⟩ := exists_docs_of_isOk hok
  obtain ⟨docs', rfl⟩ := exists_docs_of_isOk hok'
  obtain ⟨-, -, hcontents⟩ := generate_folder (by decide +kernel) (by decide +kernel)
    (by decide +kernel) houter hinner rfl rfl hrun hrun' hfaithful
  exact ⟨docs, docs', last, last', hrun, hrun', hloads, hloads', Option.some.inj hlength, hkeyed,
    hcontents⟩

/-- The type of the answer is found by its short key, which needs the module to be scanned. -/
def keyedCrate : FileTree :=
  bookCrate (showing "model::Book") [("model.rs", bookSource)]

/-- The module of the folder is in a file beside it, too, which is not scanned with the folder. -/
def splitCrate : FileTree :=
  bookCrate (showing "Book") [("handler.rs", bookSource)]

/-- The root module is in two files, one of which is loaded. -/
def scatteredCrate : FileTree :=
  bookCrate (showing "crate::Book") [("lib.rs", ""), ("main.rs", bookSource)]

/-- The file of the root module is loaded as that of another module. -/
def renamedCrate : FileTree :=
  bookCrate (showing "crate::lib::Book") [("lib.rs", bookSource)]

/-- Whether runs on a whole crate and on its folder `handler` both succeed, and make different
documents of the files of the folder. -/
def DiffersInHandler (t : FileTree) : Prop :=
  t.IsProper ∧ t.IsCrate [] ∧ t.locate wholeCrate.root = .ok [] ∧
    t.locate handlerFolder.root = .ok ["src", "handler"] ∧
    FileTree.IsVisible ["src", "handler"] ∧ (generate t wholeCrate {}).1.isOk ∧
    (generate t handlerFolder {}).1.isOk ∧
    (generated t handlerFolder {}).map Chapter.contents ≠
      ((generated t wholeCrate {}).filter fun c =>
        c.path.isBelow ⟨"/src/handler"⟩).map Chapter.contents

/-- Where one of the runs is not faithful, the documents may differ. -/
theorem folder_documents_differ :
    DiffersInHandler keyedCrate ∧ DiffersInHandler splitCrate ∧
      DiffersInHandler scatteredCrate ∧ DiffersInHandler renamedCrate := by
  have hevaluated : ∀ t ∈ [keyedCrate, splitCrate, scatteredCrate, renamedCrate],
      t.IsProper ∧ t.IsCrate [] ∧ t.locate wholeCrate.root = .ok [] ∧
      t.locate handlerFolder.root = .ok ["src", "handler"] ∧
      FileTree.IsVisible ["src", "handler"] ∧ IsInOrder t [] ∧ IsInOrder t ["src", "handler"] ∧
      (generateInOrder t [] []).1.isOk ∧ (generateInOrder t ["src", "handler"] []).1.isOk ∧
      (generatedInOrder t ["src", "handler"] []).map Chapter.contents ≠
        ((generatedInOrder t [] []).filter fun c =>
          c.path.isBelow ⟨"/src/handler"⟩).map Chapter.contents := by
    decide +kernel
  have hdiffers : ∀ t ∈ [keyedCrate, splitCrate, scatteredCrate, renamedCrate],
      DiffersInHandler t := by
    intro t ht
    obtain ⟨hproper, hcrate, houter, hinner, hvisible, horder, horder', hok, hok', hdiffer⟩ :=
      hevaluated t ht
    obtain ⟨hrun, hgenerated⟩ := horder.generate_eq houter
    obtain ⟨hrun', hgenerated'⟩ := horder'.generate_eq hinner
    refine ⟨hproper, hcrate, houter, hinner, hvisible, ?_, ?_, ?_⟩
    · rw [hrun]
      exact hok
    · rw [hrun']
      exact hok'
    · rw [hgenerated, hgenerated']
      exact hdiffer
  simpa using hdiffers

end ApiDocs
