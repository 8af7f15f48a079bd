import ApiDocs.Proofs.Assembly.Chapters
import ApiDocs.Proofs.Catalog.Loading
import ApiDocs.Proofs.Session.Requests
import Mathlib.Data.List.Induction

/-!
# What indexing knows

Indexing a folder adds the units of its files, in the order of the files, and nothing else
(`index_scans`). So a run that generates documents starts from a session that is known but for its
reports (`generate_cases`), and reads the units in the order in which they came
(`Scans.scannedUnits_eq`).
-/

namespace ApiDocs

/-- The units of a source file, in a crate with a module root. A file that cannot be read has
none. -/
def FileTree.unitsOf (t : FileTree) (root path : FilePath) : List SourceUnit :=
  match t.readText path with
  | .ok text => LoadedSource.units ⟨path, Layout.moduleOf root path, text⟩
  | .error _ => []

theorem FileTree.path_of_mem_unitsOf {t : FileTree} {root path : FilePath} {u : SourceUnit}
    (h : u ∈ t.unitsOf root path) : u.path = path := by
  unfold unitsOf at h
  split at h
  · exact LoadedSource.path_of_mem_units h
  · cases h

namespace Session

/-- How a session changes while the units of some files are scanned. -/
structure Scans (paths : List FilePath) (us : List SourceUnit) (s s' : Session) : Prop where
  /-- The units come in. -/
  units : s'.catalog.units = s.catalog.units ++ us
  /-- They are scanned. -/
  scanned : s'.catalog.scanned =
    s.catalog.scanned ++ List.range' s.catalog.units.length us.length
  /-- Their modules are marked. -/
  attempted : s'.catalog.attempted = s.catalog.attempted ++ us.map SourceUnit.module
  /-- The files were read. -/
  files : s'.catalog.files = s.catalog.files ++ paths
  /-- No names are resolved. -/
  resolved : s'.resolved = s.resolved
  /-- No modules are asked for. -/
  loads : s'.journal.loads = s.journal.loads

variable {paths paths' : List FilePath} {us us' : List SourceUnit} {s s' s'' : Session}

theorem Scans.refl (s : Session) : Scans [] [] s s :=
  ⟨(List.append_nil _).symm, (List.append_nil _).symm, (List.append_nil _).symm,
    (List.append_nil _).symm, rfl, rfl⟩

theorem Scans.trans (h : Scans paths us s s') (h' : Scans paths' us' s' s'') :
    Scans (paths ++ paths') (us ++ us') s s'' := by
  refine ⟨?_, ?_, ?_, ?_, h'.resolved.trans h.resolved, h'.loads.trans h.loads⟩
  · rw [h'.units, h.units, List.append_assoc]
  · rw [h'.scanned, h.scanned, h.units, List.append_assoc, List.length_append, List.length_append,
      List.range'_append_1]
  · rw [h'.attempted, h.attempted, List.map_append, List.append_assoc]
  · rw [h'.files, h.files, List.append_assoc]

theorem scans_note {events : Journal} (hevents : events.loads = []) (s : Session) :
    Scans [] [] s (s.note events) :=
  have h := Scans.refl s
  ⟨h.units, h.scanned, h.attempted, h.files, h.resolved, loads_note hevents s⟩

/-- The units of one file are scanned. -/
theorem scans_markRead_addScanned (path : FilePath) (us : List SourceUnit) (s : Session) :
    Scans [path] us s ((s.markRead path).addScanned us) :=
  ⟨Catalog.units_addScanned _ us, Catalog.scanned_addScanned _ us,
    Catalog.attempted_addUnits _ us, (Catalog.addUnits_frame _ us).2.2.2.1, rfl,
    loads_addScanned us _⟩

/-- **Files.** Where all files can be read, their units are scanned in the order of the files. -/
theorem indexFiles_scans {t : FileTree} {root : FilePath}
    (h : indexFiles t root paths s = (.ok (), s')) :
    Scans paths (paths.flatMap (t.unitsOf root)) s s' := by
  induction paths generalizing s with
  | nil =>
    cases h
    exact .refl _
  | cons path rest ih =>
    unfold indexFiles at h
    split at h
    · cases h
    · rename_i text htext
      simp only [parse] at h
      split at h
      · cases h
      · rename_i us s₁ heq
        obtain ⟨hparse, rfl⟩ := Prod.mk.inj heq
        have hunits : t.unitsOf root path = us := by
          rw [FileTree.unitsOf, htext]
          exact congrArg (Option.getD · []) hparse
        rw [List.flatMap_cons, hunits]
        have hnote := scans_note (loads_parseEvents path (some us)) s
        rw [hparse] at h
        exact (hnote.trans (scans_markRead_addScanned path us _)).trans (ih h)

/-- **Indexing.** What a session knows after a folder was indexed. -/
theorem index_scans {t : FileTree} {folder root : FilePath}
    (h : s.index t folder root = (.ok (), s')) :
    ∃ paths, t.scan folder "rs" = .ok paths ∧
      Scans paths (paths.flatMap (t.unitsOf root)) s s' := by
  unfold index at h
  split at h
  · cases h
  · rename_i paths hscan
    refine ⟨paths, hscan, ?_⟩
    split at h
    · cases h
    · rename_i s₁ hfiles
      cases h
      have hfound : Journal.loads [.found paths.length folder] = [] := rfl
      have hscans := (scans_note hfound s).trans (indexFiles_scans hfiles)
      exact ⟨hscans.units, hscans.scanned, hscans.attempted, hscans.files, hscans.resolved,
        (loads_note rfl s₁).trans hscans.loads⟩

/-! ## The order of units -/

/-- Leaving files out leaves out their units. -/
theorem flatMap_unitsOf_filter (t : FileTree) (root : FilePath) (q : FilePath → Bool)
    (paths : List FilePath) :
    (paths.filter q).flatMap (t.unitsOf root) =
      (paths.flatMap (t.unitsOf root)).filter fun u => q u.path := by
  induction paths with
  | nil => rfl
  | cons path rest ih =>
    rw [List.flatMap_cons, List.filter_append, ← ih]
    by_cases hpath : q path
    · have hall : (t.unitsOf root path).filter (fun u => q u.path) = t.unitsOf root path := by
        refine List.filter_eq_self.mpr fun u hu => ?_
        rw [FileTree.path_of_mem_unitsOf hu, hpath]
      rw [List.filter_cons_of_pos hpath, List.flatMap_cons, hall]
    · have hnone : (t.unitsOf root path).filter (fun u => q u.path) = [] := by
        refine List.filter_eq_nil_iff.mpr fun u hu => ?_
        rw [FileTree.path_of_mem_unitsOf hu]
        exact hpath
      rw [List.filter_cons_of_neg hpath, hnone, List.nil_append]

/-- The units of files in order are in order. -/
theorem pairwise_flatMap_unitsOf (t : FileTree) (root : FilePath)
    (h : paths.Pairwise fun p q => p.notAfter q) :
    (paths.flatMap (t.unitsOf root)).Pairwise fun u v => u.path.notAfter v.path := by
  refine List.pairwise_flatMap.mpr ⟨fun path _ => ?_, h.imp fun hle u hu v hv => ?_⟩
  · refine List.pairwise_of_forall_mem_list fun u hu v hv => ?_
    rw [FileTree.path_of_mem_unitsOf hu, FileTree.path_of_mem_unitsOf hv]
    exact FilePath.notAfter_of_same (beq_self_eq_true _)
  · rw [FileTree.path_of_mem_unitsOf hu, FileTree.path_of_mem_unitsOf hv]
    exact hle

theorem Scans.pathOf_eq (h : Scans paths us {} s) {id : Nat} (hid : id < us.length) :
    s.catalog.pathOf id = us[id].path := by
  rw [Catalog.pathOf, h.units]
  change (us[id]?.map SourceUnit.path).getD _ = _
  rw [List.getElem?_eq_getElem hid]
  rfl

/-- Units that came in order are read in the order in which they came. -/
theorem Scans.scannedUnits_eq (h : Scans paths us {} s)
    (horder : us.Pairwise fun u v => u.path.notAfter v.path) :
    s.catalog.scannedUnits = List.range us.length := by
  have hscanned : s.catalog.scanned = List.range us.length := by
    rw [h.scanned, List.range_eq_range']
    rfl
  rw [Catalog.scannedUnits, hscanned]
  refine List.mergeSort_of_pairwise (List.pairwise_iff_getElem.mpr fun i j hi hj hij => ?_)
  rw [List.length_range] at hi hj
  rw [List.getElem_range, List.getElem_range, h.pathOf_eq hi, h.pathOf_eq hj]
  exact List.pairwise_iff_getElem.mp horder i j hi hj hij

/-! ## Runs that generate documents -/

/-- What a run that generates documents makes of each file. -/
def generated (t : FileTree) (config : Config) (s : Session) : List Assembly.Chapter :=
  match t.canonical config.root with
  | .error _ => []
  | .ok folder =>
    let root := t.moduleRoot folder
    ((s.note [.moduleRoot root]).index t folder root).2.chapters (t.loader ⟨root, config.externs⟩)

/-- **Generating.** A run without failures indexes a folder, and makes the documents of its
files. -/
theorem generate_cases {t : FileTree} {config : Config} {docs : List Document} {last : Session}
    {place : List String} {root : FilePath} (hplace : t.locate config.root = .ok place)
    (hroot : t.moduleRoot (FileTree.pathOfPlace place) = root)
    (h : generate t config {} = (.ok docs, last)) :
    ∃ paths base, t.scan (FileTree.pathOfPlace place) "rs" = .ok paths ∧ base.catalog.IsIndexed ∧
      Scans paths (paths.flatMap (t.unitsOf root)) {} base ∧
      base.assemble (t.loader ⟨root, config.externs⟩) = (.ok docs, last) ∧
      generated t config {} = base.chapters (t.loader ⟨root, config.externs⟩) := by
  have hcanonical : t.canonical config.root = .ok (FileTree.pathOfPlace place) := by
    rw [FileTree.canonical, hplace]
  rw [generate, hcanonical] at h
  rw [generated, hcanonical]
  simp only [hroot] at h ⊢
  rcases hindex : (({} : Session).note [.moduleRoot root]).index t
    (FileTree.pathOfPlace place) root with ⟨e | u, base⟩
  · rw [hindex] at h
    cases h
  · rw [hindex] at h
    obtain ⟨paths, hscan, hscans⟩ := index_scans hindex
    have hindexed := index_isIndexed (s := ({} : Session).note [.moduleRoot root])
      Catalog.empty_isIndexed t (FileTree.pathOfPlace place) root
    rw [hindex] at hindexed
    exact ⟨paths, base, hscan, hindexed, (scans_note rfl {}).trans hscans, h, rfl⟩

/-! ## Files that are found in order

Sorting does not have to be opened where there is nothing to sort, so that such runs can be
evaluated. -/

/-- What the scan of a place finds, in the order of the walk. -/
def foundFiles (t : FileTree) (place : List String) : List FilePath :=
  t.walk "rs" t.depth place (FileTree.pathOfPlace place)

/-- Indexes what the scan of a place finds, in the order of the walk. -/
def indexInOrder (t : FileTree) (place : List String) : Except Failure Unit × Session :=
  let folder := FileTree.pathOfPlace place
  let root := t.moduleRoot folder
  let paths := foundFiles t place
  match indexFiles t root paths
      ((({} : Session).note [.moduleRoot root]).note [.found paths.length folder]) with
  | (.error e, s) => (.error e, s)
  | (.ok _, s) =>
    (.ok (), s.note [.indexed paths.length s.catalog.decls.length s.catalog.uniqueKeys])

/-- The files of the units that were scanned, in the order in which they came. -/
def groupsInOrder (s : Session) : List (List Nat) :=
  Assembly.groupByFile s.catalog s.catalog.scanned

/-- Whether files are found in order, and can all be indexed. -/
structure IsInOrder (t : FileTree) (place : List String) : Prop where
  /-- The place is a folder. -/
  folder : t.locate (FileTree.pathOfPlace place) = .ok place ∧
    t.isFolder (FileTree.pathOfPlace place) = true
  /-- The files are in order. -/
  order : (foundFiles t place).Pairwise fun p q => p.notAfter q
  /-- The files can be indexed. -/
  indexed : (indexInOrder t place).1.isOk = true

instance (t : FileTree) (place : List String) : Decidable (IsInOrder t place) :=
  decidable_of_iff ((t.locate (FileTree.pathOfPlace place) = .ok place ∧
      t.isFolder (FileTree.pathOfPlace place) = true) ∧
    ((foundFiles t place).Pairwise fun p q => p.notAfter q) ∧
      (indexInOrder t place).1.isOk = true)
    ⟨fun h => ⟨h.1, h.2.1, h.2.2⟩, fun h => ⟨h.folder, h.order, h.indexed⟩⟩

variable {t : FileTree} {place : List String}

/-- In a tree that is in order, files are found as they stand there. -/
theorem IsInOrder.scan_eq (h : IsInOrder t place) :
    t.scan (FileTree.pathOfPlace place) "rs" = .ok (foundFiles t place) := by
  rw [FileTree.scan, h.folder.1, h.folder.2]
  exact congrArg Except.ok (List.mergeSort_of_pairwise h.order)

/-- In a tree that is in order, indexing needs no sorting. -/
theorem IsInOrder.index_eq (h : IsInOrder t place) :
    (({} : Session).note [.moduleRoot (t.moduleRoot (FileTree.pathOfPlace place))]).index t
      (FileTree.pathOfPlace place) (t.moduleRoot (FileTree.pathOfPlace place)) =
        indexInOrder t place := by
  rw [index, h.scan_eq]
  rfl

/-- In a tree that is in order, indexing succeeds. -/
theorem IsInOrder.indexInOrder_eq (h : IsInOrder t place) :
    indexInOrder t place = (.ok (), (indexInOrder t place).2) := by
  have hok := h.indexed
  rcases hindex : indexInOrder t place with ⟨e | u, s⟩
  · rw [hindex] at hok
    cases hok
  · rfl

/-- In a tree that is in order, the units of a file follow each other, and the files are read as
they stand there. -/
theorem IsInOrder.files_eq (h : IsInOrder t place) :
    Assembly.files (indexInOrder t place).2.catalog = groupsInOrder (indexInOrder t place).2 := by
  obtain ⟨paths, hscan, hscans⟩ := index_scans (h.index_eq.trans h.indexInOrder_eq)
  rw [h.scan_eq] at hscan
  cases hscan
  have hunits := Scans.scannedUnits_eq ((scans_note rfl {}).trans hscans)
    (pairwise_flatMap_unitsOf t _ h.order)
  rw [Assembly.files, groupsInOrder, hunits, hscans.scanned, List.range_eq_range']
  rfl

/-- A run over files that are found in order. -/
def generateInOrder (t : FileTree) (place : List String) (externs : List (String × FilePath)) :
    Except Failure (List Document) × Session :=
  let s := (indexInOrder t place).2
  let loader := t.loader ⟨t.moduleRoot (FileTree.pathOfPlace place), externs⟩
  match Assembly.assembleFiles loader (groupsInOrder s) [] s.start with
  | (.ok docs, s) => (.ok docs, s.note [.documents docs.length])
  | (.error e, s) => (.error e, s)

/-- What a run over files that are found in order makes of each of them. -/
def generatedInOrder (t : FileTree) (place : List String) (externs : List (String × FilePath)) :
    List Assembly.Chapter :=
  let s := (indexInOrder t place).2
  Assembly.chapters (t.loader ⟨t.moduleRoot (FileTree.pathOfPlace place), externs⟩)
    (groupsInOrder s) [] s.start

/-- **Evaluation.** Where files are found in order, they are read in that order. -/
theorem IsInOrder.generate_eq (h : IsInOrder t place) {config : Config}
    (hplace : t.locate config.root = .ok place) :
    generate t config {} = generateInOrder t place config.externs ∧
      generated t config {} = generatedInOrder t place config.externs := by
  have hcanonical : t.canonical config.root = .ok (FileTree.pathOfPlace place) := by
    rw [FileTree.canonical, hplace]
  constructor
  · rw [generate, hcanonical]
    simp only
    rw [h.index_eq, h.indexInOrder_eq]
    simp only
    have hcatalog : (indexInOrder t place).2.start.catalog = (indexInOrder t place).2.catalog := rfl
    rw [assemble, hcatalog, h.files_eq]
    rfl
  · rw [generated, hcanonical]
    simp only
    rw [h.index_eq, chapters, h.files_eq]
    rfl

end Session

end ApiDocs
