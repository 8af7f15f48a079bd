import ApiDocs.Proofs.Assembly.Files
import ApiDocs.Proofs.Assembly.Stitching
import ApiDocs.Proofs.Directive.Steps

/-!
# What a run reads

`assembleLogged` makes the documents of all scanned files and lists what it reads on the way. Each
file is read on its own, from the units that it has at that time; reading adds units but changes
none. So what a run reads from a file depends on the outline of the file only: it is the
documentation of the file in the order of the source, each piece once, exactly if no two modules
with documentation have the same place and name (`assemble_reads_source_order_iff`).
-/

namespace ApiDocs

namespace Assembly

open Session

/-! ## What reading does to a session -/

theorem applyLines_steps (scope : TypeScope) (operation : String) (lines : List String)
    (doc : Document) (s : Session) :
    Steps scope.loader s (applyLines scope operation lines doc s).2 := by
  induction lines generalizing doc s with
  | nil => exact .refl
  | cons line rest ih =>
    have hnote : Steps scope.loader s
        (if operation.isEmpty then s else s.note [.applying operation line]) := by
      split
      · exact .refl
      · exact .single (.note s _ rfl)
    have hline := hnote.trans (Directive.applyLine_steps scope operation line doc _)
    rw [applyLines]
    split
    · rename_i doc' s' heq
      rw [heq] at hline
      exact hline.trans (ih doc' s')
    · rename_i e s' heq
      rw [heq] at hline
      exact hline

theorem finish_steps (loader : Loader) (name : String) (doc : Document) (p : Progress)
    (s : Session) : Steps loader s (finish name doc p s).2 := by
  unfold finish
  split
  · exact .single (.note s _ rfl)
  · exact .single (.note s _ rfl)

/-- Reading a declaration is a run of steps. -/
theorem visit_steps (loader : Loader) (v : Visit) (p : Progress) (s : Session) :
    Steps loader s (visit loader v p s).2 := by
  unfold visit
  simp only
  split
  · rename_i lines _
    have hlines := applyLines_steps ⟨loader, v.unit⟩ "" lines p.general s
    split
    · rename_i general s' heq
      rw [heq] at hlines
      exact hlines
    · rename_i e s' heq
      rw [heq] at hlines
      exact hlines
  · rename_i name lines _
    have hlines := applyLines_steps ⟨loader, v.unit⟩ name lines p.general.seeded s
    split
    · rename_i doc s' heq
      rw [heq] at hlines
      exact hlines.trans (finish_steps loader name doc p s')
    · rename_i e s' heq
      rw [heq] at hlines
      exact hlines
  · exact .refl

/-- Reading declarations is a run of steps. -/
theorem visitAll_steps (loader : Loader) (vs : List Visit) (p : Progress) (s : Session) :
    Steps loader s (visitAll loader vs p s).2 := by
  induction vs generalizing p s with
  | nil => exact .refl
  | cons v rest ih =>
    have hvisit := visit_steps loader v p s
    rw [visitAll]
    split
    · rename_i p' s' heq
      rw [heq] at hvisit
      exact hvisit.trans (ih p' s')
    · rename_i e s' heq
      rw [heq] at hvisit
      exact hvisit

/-- Reading files is a run of steps, even where it fails. -/
theorem assembleFiles_steps (loader : Loader) (groups : List (List Nat)) (docs : List Document)
    (s : Session) : Steps loader s (assembleFiles loader groups docs s).2 := by
  induction groups generalizing docs s with
  | nil => exact .refl
  | cons group rest ih =>
    cases group with
    | nil => exact ih docs s
    | cons unit others =>
      have hnote : Steps loader s (s.note [.reading (s.catalog.pathOf unit)]) :=
        .single (.note s _ rfl)
      generalize hs : s.note [.reading (s.catalog.pathOf unit)] = s₁ at hnote
      have hvisits := visitAll_steps loader
        (visits s₁.catalog (unit :: others) (unit :: others).length unit) { docs := docs } s₁
      rw [assembleFiles, hs]
      split
      · rename_i p s' heq
        rw [heq] at hvisits
        exact (hnote.trans hvisits).trans (ih p.docs s')
      · rename_i e s' heq
        rw [heq] at hvisits
        exact hnote.trans hvisits

/-! ## Runs that list what they read -/

/-- Reads declarations one after the other, and lists those that are read. -/
def visitAllLogged (loader : Loader) : List Visit → Progress → Session →
    (Except Failure Progress × Session) × List Visit
  | [], p, s => ((.ok p, s), [])
  | v :: rest, p, s =>
    match visit loader v p s with
    | (.ok p, s) =>
      let (result, log) := visitAllLogged loader rest p s
      (result, v :: log)
    | (.error e, s) => ((.error e, s), [v])

/-- Reads the units of files one after the other, adds their documents to `docs`, and lists what is
read. -/
def assembleFilesLogged (loader : Loader) : List (List Nat) → List Document → Session →
    (Except Failure (List Document) × Session) × List Visit
  | [], docs, s => ((.ok docs, s), [])
  | [] :: rest, docs, s => assembleFilesLogged loader rest docs s
  | (unit :: others) :: rest, docs, s =>
    let units := unit :: others
    let s := s.note [.reading (s.catalog.pathOf unit)]
    match visitAllLogged loader (visits s.catalog units units.length unit) { docs := docs } s with
    | ((.ok p, s), log) =>
      let (result, more) := assembleFilesLogged loader rest p.docs s
      (result, log ++ more)
    | ((.error e, s), log) => ((.error e, s), log)

/-- Listing what is read changes nothing in what is made of declarations. -/
theorem visitAllLogged_fst (loader : Loader) (vs : List Visit) (p : Progress) (s : Session) :
    (visitAllLogged loader vs p s).1 = visitAll loader vs p s := by
  induction vs generalizing p s with
  | nil => rfl
  | cons v rest ih =>
    rw [visitAllLogged, visitAll]
    rcases visit loader v p s with ⟨_ | p', s'⟩
    · rfl
    · exact ih p' s'

/-- Where nothing is wrong, all is read. -/
theorem visitAllLogged_of_ok {loader : Loader} {vs : List Visit} {p p' : Progress}
    {s s' : Session} (h : visitAll loader vs p s = (.ok p', s')) :
    visitAllLogged loader vs p s = ((.ok p', s'), vs) := by
  induction vs generalizing p s with
  | nil =>
    rw [visitAll] at h
    rw [visitAllLogged, h]
  | cons v rest ih =>
    rw [visitAll] at h
    rw [visitAllLogged]
    rcases hvisit : visit loader v p s with ⟨e | p₁, s₁⟩
    · rw [hvisit] at h
      exact nomatch h
    · rw [hvisit] at h
      simp only [ih h]

/-- Listing what is read changes nothing in what is made of files. -/
theorem assembleFilesLogged_fst (loader : Loader) (groups : List (List Nat))
    (docs : List Document) (s : Session) :
    (assembleFilesLogged loader groups docs s).1 = assembleFiles loader groups docs s := by
  induction groups generalizing docs s with
  | nil => rfl
  | cons group rest ih =>
    cases group with
    | nil => exact ih docs s
    | cons unit others =>
      rw [assembleFilesLogged, assembleFiles]
      simp only
      rw [← visitAllLogged_fst]
      rcases visitAllLogged loader _ _ _ with ⟨⟨_ | p, s'⟩, log⟩
      · rfl
      · exact ih p.docs s'

/-- Where nothing is wrong, all of a file is read, and then the other files. -/
theorem assembleFilesLogged_cons_of_ok {loader : Loader} {unit : Nat} {others : List Nat}
    {rest : List (List Nat)} {docs docs' : List Document} {s : Session}
    (h : (assembleFilesLogged loader ((unit :: others) :: rest) docs s).1.1 = .ok docs') :
    ∃ p s', Steps loader s s' ∧ (assembleFilesLogged loader rest p s').1.1 = .ok docs' ∧
      (assembleFilesLogged loader ((unit :: others) :: rest) docs s).2 =
        visits s.catalog (unit :: others) (unit :: others).length unit ++
          (assembleFilesLogged loader rest p s').2 := by
  have hsteps : Steps loader s (s.note [.reading (s.catalog.pathOf unit)]) :=
    .single (.note s _ rfl)
  generalize hnote : s.note [.reading (s.catalog.pathOf unit)] = s₁ at hsteps
  have hcatalog : s₁.catalog = s.catalog := hnote ▸ rfl
  rw [assembleFilesLogged, hnote, hcatalog] at h ⊢
  generalize visits s.catalog (unit :: others) (unit :: others).length unit = vs at h ⊢
  rcases hall : visitAll loader vs { docs := docs } s₁ with ⟨e | p, s'⟩
  · rw [← visitAllLogged_fst] at hall
    rcases hlogged : visitAllLogged loader vs { docs := docs } s₁ with ⟨r, log⟩
    rw [hlogged] at hall h
    obtain rfl : r = (.error e, s') := hall
    exact nomatch h
  · have hvisits := visitAll_steps loader vs { docs := docs } s₁
    rw [hall] at hvisits
    rw [visitAllLogged_of_ok hall] at h ⊢
    exact ⟨p.docs, s', hsteps.trans hvisits, h, rfl⟩

/-! ## One file of several -/

/-- Only the units of a file are read for it. -/
theorem unit_mem_of_mem_visits {c : Catalog} {units : List Nat} {depth n : Nat} {v : Visit}
    (hn : n ∈ units) (hv : v ∈ visits c units depth n) : v.unit ∈ units := by
  induction depth generalizing n with
  | zero => exact nomatch hv
  | succ depth ih =>
    rw [visits_succ] at hv
    obtain ⟨decl, -, hread⟩ := List.mem_flatMap.mp hv
    rcases mem_visited hread with ⟨-, rfl⟩ | ⟨inner, hinner, heq⟩
    · exact hn
    · rw [heq] at hread
      exact ih hinner hread

variable {loader : Loader} {docs docs' : List Document} {s : Session} {p : Nat → Bool}

theorem filter_visits_eq_nil {c : Catalog} {units : List Nat} {depth n : Nat} (hn : n ∈ units)
    (hunits : ∀ unit ∈ units, ¬ p unit) :
    ((visits c units depth n).filter fun v => p v.unit) = [] := by
  rw [List.filter_eq_nil_iff]
  intro v hv
  exact hunits v.unit (unit_mem_of_mem_visits hn hv)

/-- From files none of whose units is asked for, nothing that is asked for is read. -/
theorem filter_log_eq_nil {groups : List (List Nat)}
    (hgroups : ∀ group ∈ groups, ∀ unit ∈ group, ¬ p unit)
    (hok : (assembleFilesLogged loader groups docs s).1.1 = .ok docs') :
    ((assembleFilesLogged loader groups docs s).2.filter fun v => p v.unit) = [] := by
  induction groups generalizing docs s with
  | nil => rfl
  | cons group rest ih =>
    have hrest : ∀ group ∈ rest, ∀ unit ∈ group, ¬ p unit :=
      fun group hmem => hgroups group (List.mem_cons_of_mem _ hmem)
    cases group with
    | nil => exact ih hrest hok
    | cons unit others =>
      obtain ⟨docs₁, s₁, -, hok₁, hlog⟩ := assembleFilesLogged_cons_of_ok hok
      rw [hlog, List.filter_append, ih hrest hok₁, List.append_nil]
      exact filter_visits_eq_nil List.mem_cons_self (hgroups _ List.mem_cons_self)

/-- What is read from the units of one file is read there, after some steps. -/
theorem filter_log_eq_visits {before after : List (List Nat)} {unit : Nat} {others : List Nat}
    (hgroups : ∀ group ∈ before ++ after, ∀ id ∈ group, ¬ p id)
    (hunits : ∀ id ∈ unit :: others, p id)
    (hok : (assembleFilesLogged loader (before ++ (unit :: others) :: after) docs s).1.1 =
      .ok docs') :
    ∃ s', Steps loader s s' ∧
      ((assembleFilesLogged loader (before ++ (unit :: others) :: after) docs s).2.filter
        fun v => p v.unit) =
          visits s'.catalog (unit :: others) (unit :: others).length unit := by
  -- by induction on the files before, from which other modules may have been loaded
  induction before generalizing docs s with
  | nil =>
    rw [List.nil_append] at hgroups hok ⊢
    obtain ⟨docs₁, s₁, -, hok₁, hlog⟩ := assembleFilesLogged_cons_of_ok hok
    refine ⟨s, .refl, ?_⟩
    rw [hlog, List.filter_append, filter_log_eq_nil hgroups hok₁, List.append_nil,
      List.filter_eq_self]
    intro v hv
    exact hunits v.unit (unit_mem_of_mem_visits List.mem_cons_self hv)
  | cons group rest ih =>
    have hrest : ∀ group ∈ rest ++ after, ∀ id ∈ group, ¬ p id :=
      fun group hmem => hgroups group (List.mem_cons_of_mem _ hmem)
    cases group with
    | nil => exact ih hrest hok
    | cons first more =>
      rw [List.cons_append] at hok ⊢
      obtain ⟨docs₁, s₁, hsteps, hok₁, hlog⟩ := assembleFilesLogged_cons_of_ok hok
      obtain ⟨s', hsteps', heq⟩ := ih hrest hok₁
      refine ⟨s', hsteps.trans hsteps', ?_⟩
      rw [hlog, List.filter_append, heq,
        filter_visits_eq_nil List.mem_cons_self (hgroups _ List.mem_cons_self), List.nil_append]

end Assembly

/-- The documents of all scanned files, with a list of what is read for them. -/
def Session.assembleLogged (loader : Loader) (s : Session) :
    (Except Failure (List Document) × Session) × List Assembly.Visit :=
  let s := s.start
  match Assembly.assembleFilesLogged loader (Assembly.files s.catalog) [] s with
  | ((.ok docs, s), log) => ((.ok docs, s.note [.documents docs.length]), log)
  | ((.error e, s), log) => ((.error e, s), log)

/-- Listing what is read changes nothing in the documents. -/
theorem Session.assembleLogged_fst (loader : Loader) (s : Session) :
    (s.assembleLogged loader).1 = s.assemble loader := by
  rw [assembleLogged, assemble, ← Assembly.assembleFilesLogged_fst]
  rcases Assembly.assembleFilesLogged loader _ _ _ with ⟨⟨_ | docs, s'⟩, log⟩
  · rfl
  · rfl

/-- Where documents are made, the list is that of the files. -/
theorem Session.assembleLogged_of_ok {loader : Loader} {s : Session} {docs : List Document}
    (h : (s.assemble loader).1 = .ok docs) :
    (Assembly.assembleFilesLogged loader (Assembly.files s.catalog) [] s.start).1.1 = .ok docs ∧
      (s.assembleLogged loader).2 =
        (Assembly.assembleFilesLogged loader (Assembly.files s.catalog) [] s.start).2 := by
  have hcatalog : s.start.catalog = s.catalog := rfl
  rw [← assembleLogged_fst, assembleLogged, hcatalog] at h
  rw [assembleLogged, hcatalog]
  rcases hrun : Assembly.assembleFilesLogged loader (Assembly.files s.catalog) [] s.start with
    ⟨⟨e | docs', s'⟩, log⟩
  · rw [hrun] at h
    exact nomatch h
  · rw [hrun] at h
    exact ⟨h, rfl⟩

/-! ## The outline of a scanned file -/

namespace Assembly

open Source Session

/-- The units of a scanned file stand in the catalog as its outline says. -/
theorem stands_of_scanned {c : Catalog} {start : Nat} {path : FilePath} {module : ModulePath}
    {tree : Source.FileTree} (h : c.Scanned start path (tree.units path module)) :
    Stands c start (blockUnits module tree.outline) := by
  intro i x hx
  rw [← tree.contents_units path module, List.getElem?_map, Option.map_eq_some_iff] at hx
  obtain ⟨u, hu, rfl⟩ := hx
  rw [h.units i u hu, Option.map_some]

/-- A file has a unit of its own and one for each module of its outline. -/
theorem length_units_eq (path : FilePath) (module : ModulePath) (tree : Source.FileTree) :
    (tree.units path module).length = partsSize tree.outline + 1 := by
  rw [← List.length_map contents, tree.contents_units, blockUnits, List.length_cons,
    length_partUnits]

/-- The outline of a file is a module among the units of the file, also after some steps. -/
theorem block_of_scanned {loader : Loader} {s s' : Session} {start : Nat} {path : FilePath}
    {module : ModulePath} {tree : Source.FileTree}
    (h : s.catalog.Scanned start path (tree.units path module)) (hsteps : Steps loader s s') :
    Block s'.catalog start (tree.units path module).length start module tree.outline := by
  refine ⟨?_, ?_, Nat.le_refl _, ?_⟩
  -- units keep their numbers, since others are only added at the end
  · intro i x hx
    obtain ⟨u, hu, rfl⟩ := Option.map_eq_some_iff.mp (stands_of_scanned h i x hx)
    obtain ⟨more, hmore⟩ := hsteps.grows.units
    rw [← hmore, List.getElem?_append_left (List.getElem?_eq_some_iff.mp hu).1, hu, Option.map_some]
  -- no unit of the file comes before the first
  · intro id u hle hlt
    omega
  · rw [length_units_eq]

end Assembly

/-- What a run reads from a file is what its units have after some steps. -/
theorem Session.filter_log_of_scanned {loader : Loader} {s : Session} {start : Nat}
    {path : FilePath} {us : List SourceUnit} {docs : List Document}
    (hfile : s.catalog.Scanned start path us) (hne : us ≠ [])
    (hok : (s.assemble loader).1 = .ok docs) :
    ∃ s', Steps loader s s' ∧
      (s.assembleLogged loader).2.filter (Assembly.isWithin start us.length) =
        Assembly.visits s'.catalog (List.range' start us.length) us.length start := by
  obtain ⟨u, us, rfl⟩ := List.exists_cons_of_ne_nil hne
  obtain ⟨hrun, hlog⟩ := assembleLogged_of_ok hok
  have hgroup := hfile.scanned
  have hcons : List.range' start (u :: us).length = start :: List.range' (start + 1) us.length :=
    List.range'_succ
  obtain ⟨before, after, hfiles, hothers⟩ :=
    Assembly.files_split (hgroup ▸ hcons ▸ List.cons_ne_nil _ _)
  -- the units of the file are those whose numbers are asked for
  have hnumbers : ∀ id, (start ≤ id && id < start + (u :: us).length) = true ↔
      id ∈ s.catalog.scanned.filter (s.catalog.isIn path) := by
    intro id
    rw [hgroup, List.mem_range'_1, Bool.and_eq_true, decide_eq_true_iff, decide_eq_true_iff]
  have hgroups : ∀ group ∈ before ++ after, ∀ id ∈ group,
      ¬ (start ≤ id && id < start + (u :: us).length) = true := by
    intro group hmem id hid hnumber
    exact hothers group hmem id hid (List.mem_filter.mp ((hnumbers id).mp hnumber)).2
  rw [hfiles, hgroup, hcons] at hrun hlog
  obtain ⟨s', hsteps, hread⟩ := Assembly.filter_log_eq_visits hgroups
    (fun id hid => (hnumbers id).mpr (hgroup ▸ hcons ▸ hid)) hrun
  refine ⟨s', .head (.note s _ rfl) hsteps, ?_⟩
  rw [hlog, hcons]
  have hlength : (start :: List.range' (start + 1) us.length).length = (u :: us).length := by
    rw [List.length_cons, List.length_cons, List.length_range']
  rw [hlength] at hread
  exact hread

/-- The documentation of a scanned file in the order of the source has the documentation of each of
its units once. -/
theorem filter_readsAll_outline {c : Catalog} {start : Nat} {path : FilePath}
    {module : ModulePath} {tree : Source.FileTree}
    (hfile : c.Scanned start path (tree.units path module)) {i : Nat} {u : SourceUnit}
    (hu : (tree.units path module)[i]? = some u) :
    (Assembly.readsAll start (start + 1) tree.outline).filter (Assembly.isOf (start + i)) =
      Assembly.docReads (start + i) u.decls := by
  have hlt := (List.getElem?_eq_some_iff.mp hu).1
  rw [Assembly.length_units_eq] at hlt
  rw [(Assembly.stands_of_scanned hfile).filter_readsAll_eq, if_pos (by omega), Assembly.ownReads,
    hfile.units i u hu]
  rfl

/-- **Reading in the order of the source.** A run lists what it reads. In the order of the source,
the documentation of a file that was scanned once has that of each of its units once. A run without
failures reads it so, with what is written in a module at the place of the module, if and only if
modules that are written in the same one and have the same name have no documentation. -/
theorem assemble_reads_source_order_iff {loader : Loader} {s : Session} {start : Nat}
    {path : FilePath} {module : ModulePath} {tree : Source.FileTree} {docs : List Document}
    (hfile : s.catalog.Scanned start path (tree.units path module))
    (hok : (s.assemble loader).1 = .ok docs) :
    (s.assembleLogged loader).1 = s.assemble loader ∧
    (∀ i u, (tree.units path module)[i]? = some u →
      (Assembly.readsAll start (start + 1) tree.outline).filter (Assembly.isOf (start + i)) =
        Assembly.docReads (start + i) u.decls) ∧
    ((s.assembleLogged loader).2.filter
        (Assembly.isWithin start (tree.units path module).length) =
      Assembly.readsAll start (start + 1) tree.outline ↔ Assembly.isUnambiguous tree.outline) := by
  refine ⟨s.assembleLogged_fst loader, fun i u hu => filter_readsAll_outline hfile hu, ?_⟩
  obtain ⟨s', hsteps, hlog⟩ := Session.filter_log_of_scanned hfile (List.cons_ne_nil _ _) hok
  have hblock := Assembly.block_of_scanned hfile hsteps
  have hlength := Assembly.length_units_eq path module tree
  rw [hlog]
  exact hblock.visits_eq_readsAll_iff (by omega)

/-- A result without a failure has documents. -/
theorem exists_docs_of_isOk {result : Except Failure (List Document)} (h : result.isOk) :
    ∃ docs, result = .ok docs := by
  cases result with
  | ok docs => exact ⟨docs, rfl⟩
  | error e => exact absurd h Bool.false_ne_true

/-- Documentation of an operation: its name and its URL. -/
def operationItem (name url : String) : Source.Item :=
  .function ⟨[⟨false, some "doc", .value (some name)⟩,
    ⟨false, some "doc", .value (some ("@url GET " ++ url))⟩], name⟩

/-- A file that has a module twice, with different operations. -/
def moduleTwice : Source.FileTree :=
  ⟨[], [.module [] ⟨"m", false, by decide⟩ [operationItem "first" "/first"],
    .module [] ⟨"m", false, by decide⟩ [operationItem "second" "/second"]]⟩

/-- A session with that file and another one. -/
def moduleTwiceSession : Session :=
  (({} : Session).addScanned (moduleTwice.units ⟨"a.rs"⟩ "crate::a")).addScanned
    [{ path := ⟨"b.rs"⟩, module := "crate::b", decls := [.operation "third" ["third"]] }]

/-- A file with a module that is written twice is not read in the order of the source. -/
theorem assemble_reads_source_order_iff_moduleTwice :
    moduleTwiceSession.catalog.Scanned 0 ⟨"a.rs"⟩ (moduleTwice.units ⟨"a.rs"⟩ "crate::a") ∧
    ∃ docs, (moduleTwiceSession.assemble Loader.none).1 = .ok docs ∧
      (moduleTwiceSession.assembleLogged Loader.none).2.filter (Assembly.isWithin 0 3) ≠
        Assembly.readsAll 0 1 moduleTwice.outline := by
  have hfile : moduleTwiceSession.catalog.Scanned 0 ⟨"a.rs"⟩
      (moduleTwice.units ⟨"a.rs"⟩ "crate::a") := by
    apply Catalog.Scanned.addScanned
    · exact Catalog.scanned_of_addScanned nofun nofun (by decide +kernel)
    · decide +kernel
    · decide +kernel
  have hfiles : Assembly.files moduleTwiceSession.catalog = [[0, 1, 2], [3]] := by
    rw [Assembly.files, Catalog.scannedUnits, List.mergeSort_of_pairwise (by decide +kernel)]
    decide +kernel
  have hok : (moduleTwiceSession.assemble Loader.none).1.isOk = true := by
    have hcatalog : moduleTwiceSession.start.catalog = moduleTwiceSession.catalog := rfl
    rw [Session.assemble, hcatalog, hfiles]
    decide +kernel
  obtain ⟨docs, hdocs⟩ := exists_docs_of_isOk hok
  refine ⟨hfile, docs, hdocs, ?_⟩
  intro hread
  have hclear := (assemble_reads_source_order_iff hfile hdocs).2.2.mp hread
  exact absurd hclear (by decide +kernel)

end ApiDocs
