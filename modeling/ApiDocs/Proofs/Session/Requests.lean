import ApiDocs.Proofs.Session.Runs

/-!
# What a run asks for and reads

The modules that a run knows or has asked for are marked, and no marked module is asked for
(`Asks`). In a run from the start the marked modules are exactly those that were asked for and those
of the units (`Moments.marks`). Files that were read are listed too, and a listed file is not read
when it comes from the loader (`asked_and_read_once`).
-/

namespace ApiDocs

/-! ## Reports that are no requests -/

theorem Journal.loads_append (j k : Journal) : Journal.loads (j ++ k) = j.loads ++ k.loads :=
  List.filterMap_append

/-- Registering types asks for no modules. -/
theorem TypeIndex.loads_registerAllEvents (x : TypeIndex) (ds : List TypeDecl) :
    (x.registerAllEvents ds).loads = [] := by
  induction ds generalizing x with
  | nil => rfl
  | cons d ds ih =>
    have hone : (x.registerEvents d).loads = [] := by
      unfold registerEvents
      split <;> rfl
    rw [registerAllEvents, Journal.loads_append, hone, ih, List.append_nil]

theorem Catalog.loads_addUnitsEvents (c : Catalog) (us : List SourceUnit) :
    (c.addUnitsEvents us).loads = [] := by
  induction us generalizing c with
  | nil => rfl
  | cons u us ih =>
    have hone : (c.addUnitEvents u).loads = [] := c.toTypeIndex.loads_registerAllEvents _
    rw [addUnitsEvents, Journal.loads_append, hone, ih, List.append_nil]

namespace Session

/-- Reports that are no requests leave the requests as they are. -/
theorem loads_note {events : Journal} (h : events.loads = []) (s : Session) :
    (s.note events).journal.loads = s.journal.loads := by
  rw [note, Journal.loads_append, h, List.append_nil]

/-- Scanned units come in without a request. -/
theorem loads_addScanned (us : List SourceUnit) (s : Session) :
    (s.addScanned us).journal.loads = s.journal.loads :=
  loads_note (s.catalog.loads_addUnitsEvents us) _

/-- Taking in a source asks for nothing further. -/
theorem loads_takeSource (module : ModulePath) (s : Session) (source : LoadedSource) :
    (takeSource module s source).journal.loads = s.journal.loads := by
  unfold takeSource
  split
  · rfl
  · simp only [parse]
    split
    · rename_i us s' heq
      rw [← (Prod.mk.inj heq).2, addLoaded, loads_note (Catalog.loads_addUnitsEvents _ us)]
      exact loads_note (loads_parseEvents _ _) _
    · rename_i s' heq
      rw [← (Prod.mk.inj heq).2, loads_note rfl]
      exact loads_note (loads_parseEvents _ _) _

/-- A request is the last one in the journal. -/
theorem loads_ask (module : ModulePath) (s : Session) :
    (s.ask module).journal.loads = s.journal.loads ++ [module] :=
  Journal.loads_append _ _

/-- A module that is not marked is asked for. -/
theorem loads_ensure_of_notMem {module : ModulePath} {s : Session}
    (h : module ∉ s.catalog.attempted) (loader : Loader) :
    (s.ensure loader module).journal.loads = s.journal.loads ++ [module] := by
  have hfold : ∀ (sources : List LoadedSource) (s : Session),
      (sources.foldl (takeSource module) s).journal.loads = s.journal.loads := by
    intro sources
    induction sources with
    | nil => exact fun _ => rfl
    | cons source rest ih => exact fun s => (ih _).trans (loads_takeSource module s source)
  unfold ensure
  rw [if_neg (by simpa using h)]
  simp only
  split
  · exact (hfold _ _).trans (loads_ask module s)
  · exact (loads_note rfl _).trans (loads_ask module s)

/-- The modules of scanned units are marked. -/
theorem attempted_addScanned (us : List SourceUnit) (s : Session) :
    (s.addScanned us).catalog.attempted = s.catalog.attempted ++ us.map SourceUnit.module :=
  Catalog.attempted_addUnits s.catalog us

/-! ## Requests -/

/-- Whether a session asks only for modules that are not marked, for each of them once, and marks
them then. -/
structure Asks (s s' : Session) : Prop where
  /-- The requests. -/
  loads : ∃ new, s'.journal.loads = s.journal.loads ++ new ∧ new.Nodup ∧
    ∀ module ∈ new, module ∉ s.catalog.attempted ∧ module ∈ s'.catalog.attempted
  /-- Modules stay marked. -/
  attempted : ∀ module ∈ s.catalog.attempted, module ∈ s'.catalog.attempted

/-- A session that asks for nothing and keeps its marks asks only for what is not marked. -/
theorem Asks.of_loads_eq {s s' : Session} (hloads : s'.journal.loads = s.journal.loads)
    (hattempted : ∀ module ∈ s.catalog.attempted, module ∈ s'.catalog.attempted) : Asks s s' :=
  ⟨⟨[], by rw [hloads, List.append_nil], List.nodup_nil, nofun⟩, hattempted⟩

theorem Asks.trans {s s' s'' : Session} (h : Asks s s') (h' : Asks s' s'') : Asks s s'' := by
  obtain ⟨new, hloads, hnodup, hnew⟩ := h.loads
  obtain ⟨new', hloads', hnodup', hnew'⟩ := h'.loads
  refine ⟨⟨new ++ new', ?_, ?_, ?_⟩, fun m hm => h'.attempted m (h.attempted m hm)⟩
  · rw [hloads', hloads, List.append_assoc]
  · refine List.nodup_append.mpr ⟨hnodup, hnodup', ?_⟩
    rintro m hm m' hm' rfl
    exact (hnew' m hm').1 (hnew m hm).2
  · intro m hm
    rcases List.mem_append.mp hm with hfirst | hsecond
    · exact ⟨(hnew m hfirst).1, h'.attempted m (hnew m hfirst).2⟩
    · exact ⟨fun hold => (hnew' m hsecond).1 (h.attempted m hold), (hnew' m hsecond).2⟩

/-- Where all modules that were asked for are marked, they stay so. -/
theorem Asks.marked {s s' : Session} (h : Asks s s')
    (hs : ∀ module ∈ s.journal.loads, module ∈ s.catalog.attempted) :
    ∀ module ∈ s'.journal.loads, module ∈ s'.catalog.attempted := by
  obtain ⟨new, hloads, -, hnew⟩ := h.loads
  intro module hmodule
  rw [hloads] at hmodule
  rcases List.mem_append.mp hmodule with hold | hlater
  · exact h.attempted module (hs module hold)
  · exact (hnew module hlater).2

/-- Asking for a module that is not marked marks it. -/
theorem ask_asks {module : ModulePath} {s : Session} (h : module ∉ s.catalog.attempted) :
    Asks s (s.ask module) := by
  refine ⟨⟨[module], loads_ask module s, List.nodup_singleton module, ?_⟩,
    fun m hm => List.mem_append_left _ hm⟩
  intro m hm
  rw [List.mem_singleton.mp hm]
  exact ⟨h, List.mem_append_right _ List.mem_cons_self⟩

/-- **A moment.** In each moment of a run, only modules that are not marked are asked for. -/
theorem Moment.asks {loader : Loader} {s s' : Session} (h : Moment loader s s') : Asks s s' := by
  cases h with
  | change h =>
    cases h with
    | note events hevents => exact .of_loads_eq (loads_note hevents s) fun _ hm => hm
    | remember entry => exact .of_loads_eq rfl fun _ hm => hm
    | ask module hnew => exact ask_asks hnew
    | take module given source =>
      refine .of_loads_eq (loads_takeSource module s source) fun m hm => ?_
      rw [takeSource_catalog]
      exact Catalog.mem_attempted_take.mpr (Or.inl hm)
  | scan us =>
    refine .of_loads_eq (loads_addScanned us s) fun m hm => ?_
    rw [attempted_addScanned]
    exact List.mem_append_left _ hm
  | read path => exact .of_loads_eq rfl fun _ hm => hm

theorem Moments.asks {loader : Loader} {s s' : Session} (h : Moments loader s s') : Asks s s' := by
  induction h with
  | refl => exact .of_loads_eq rfl fun _ hm => hm
  | tail _ hmoment ih => exact ih.trans hmoment.asks

/-! ## Marked modules -/

/-- Whether the marked modules are those that were asked for and those of the units. -/
def Marks (s : Session) : Prop :=
  ∀ module, module ∈ s.catalog.attempted ↔
    module ∈ s.journal.loads ∨ ∃ u ∈ s.catalog.units, u.module = module

/-- Marks stay right when a module is asked for. -/
theorem Marks.ask {s : Session} (h : s.Marks) (module : ModulePath) : (s.ask module).Marks := by
  intro m
  have hattempted : m ∈ (s.ask module).catalog.attempted ↔ m ∈ s.catalog.attempted ∨ m = module :=
    Catalog.mem_attempted_ask
  rw [hattempted, h m, loads_ask, List.mem_append, List.mem_singleton, or_right_comm]
  rfl

/-- Marks stay right when a source is taken in. -/
theorem Marks.takeSource {s : Session} (h : s.Marks) (module : ModulePath)
    (source : LoadedSource) : (s.takeSource module source).Marks := by
  intro m
  rw [takeSource_catalog, loads_takeSource, Catalog.mem_attempted_take, h m, or_assoc]
  refine or_congr_right ⟨?_, ?_⟩
  · rintro (⟨u, hu, hmodule⟩ | ⟨hnew, u, hu, hmodule⟩)
    · exact ⟨u, Catalog.mem_units_take.mpr (Or.inl hu), hmodule⟩
    · exact ⟨u, Catalog.mem_units_take.mpr (Or.inr ⟨hnew, hu⟩), hmodule⟩
  · rintro ⟨u, hu, hmodule⟩
    rcases Catalog.mem_units_take.mp hu with hold | ⟨hnew, hmem⟩
    · exact Or.inl ⟨u, hold, hmodule⟩
    · exact Or.inr ⟨hnew, u, hmem, hmodule⟩

/-- Marks stay right when units are scanned. -/
theorem Marks.addScanned {s : Session} (h : s.Marks) (us : List SourceUnit) :
    (s.addScanned us).Marks := by
  intro m
  have hunits : (s.addScanned us).catalog.units = s.catalog.units ++ us :=
    (Catalog.addUnits_frame _ us).2.1
  rw [attempted_addScanned, loads_addScanned, hunits, List.mem_append, h m, List.mem_map, or_assoc]
  simp only [List.mem_append, or_and_right, exists_or]

/-- Marks stay right in each moment of a run. -/
theorem Moment.marks {loader : Loader} {s s' : Session} (h : Moment loader s s')
    (hs : s.Marks) : s'.Marks := by
  cases h with
  | change h =>
    cases h with
    | note events hevents =>
      intro m
      rw [loads_note hevents]
      exact hs m
    | remember entry => exact hs
    | ask module => exact hs.ask module
    | take module given source => exact hs.takeSource module source
  | scan us => exact hs.addScanned us
  | read path => exact hs

/-- **Invariant.** In a run from the start, the marked modules are those that were asked for and
those of the units. -/
theorem Moments.marks {loader : Loader} {s : Session} (h : Moments loader {} s) : s.Marks := by
  induction h with
  | refl =>
    intro m
    simp [Journal.loads]
  | tail _ hmoment ih => exact hmoment.marks ih

/-! ## Files -/

/-- A file that was read stays so in each moment of a run. -/
theorem Moment.hasFile {loader : Loader} {s s' : Session} (h : Moment loader s s')
    {path : FilePath} (hfile : s.catalog.hasFile path) : s'.catalog.hasFile path := by
  cases h with
  | change h =>
    cases h with
    | note events => exact hfile
    | remember entry => exact hfile
    | ask module => exact hfile
    | take module given source =>
      rw [takeSource_catalog]
      exact Catalog.hasFile_take.mpr (Or.inl hfile)
  | scan us =>
    have hfiles : (s.addScanned us).catalog.files = s.catalog.files :=
      (Catalog.addUnits_frame _ us).2.2.2.1
    rw [Catalog.hasFile, hfiles]
    exact hfile
  | read file =>
    rw [Catalog.hasFile, markRead, List.any_append, Bool.or_eq_true]
    exact Or.inl hfile

/-- A file that was read stays so in all of a run. -/
theorem Moments.hasFile {loader : Loader} {s s' : Session} (h : Moments loader s s')
    {path : FilePath} (hfile : s.catalog.hasFile path) : s'.catalog.hasFile path := by
  induction h with
  | refl => exact hfile
  | tail _ hmoment ih => exact hmoment.hasFile ih

/-- A source whose file was read is left out in the rest of a run. -/
theorem Run.takeSource_eq {loader : Loader} {s s' : Session} (h : Run loader s s')
    {path : FilePath} (hfile : s.catalog.hasFile path) {source : LoadedSource}
    (hsame : source.path.same path) (module : ModulePath) :
    s'.takeSource module source = s' :=
  if_pos (Catalog.hasFile_of_same (FilePath.same_comm.mp hsame) (h.moments.hasFile hfile))

end Session

/-- Whether a source file can be read and is well-formed, in a crate with a module root. -/
def FileTree.isReadable (t : FileTree) (root path : FilePath) : Bool :=
  match t.readText path with
  | .ok text => (Source.parseUnits? path (Layout.moduleOf root path) text).isSome
  | .error _ => false

namespace Session

/-- Files are read up to the first one that cannot be. -/
theorem indexFiles_hasFile {t : FileTree} {root path : FilePath} {paths : List FilePath}
    {s : Session} (h : path ∈ paths.takeWhile (t.isReadable root)) :
    (indexFiles t root paths s).2.catalog.hasFile path := by
  induction paths generalizing s with
  | nil => cases h
  | cons first rest ih =>
    by_cases hreadable : t.isReadable root first
    · rw [List.takeWhile_cons_of_pos hreadable] at h
      unfold FileTree.isReadable at hreadable
      unfold indexFiles
      cases htext : t.readText first with
      | error e =>
        rw [htext] at hreadable
        cases hreadable
      | ok text =>
        rw [htext] at hreadable
        obtain ⟨us, hus⟩ := Option.isSome_iff_exists.mp hreadable
        simp only [parse, hus]
        rcases List.mem_cons.mp h with rfl | hrest
        · -- the file is marked before the files after it are read
          refine indexFiles_induction (P := fun s => s.catalog.hasFile path) (fun _ _ _ hs => hs)
            (fun s' file us' _ hs => ?_) ?_ t root rest
          · have hread : Moment .none s' (s'.markRead file.path) := .read s' file.path
            have hscan : Moment .none (s'.markRead file.path) _ := .scan _ us'
            exact hscan.hasFile (hread.hasFile hs)
          · rw [Catalog.hasFile, addScanned, note]
            change List.any (Catalog.addUnits _ us).files _ = true
            rw [(Catalog.addUnits_frame _ us).2.2.2.1, List.any_append, Bool.or_eq_true]
            exact Or.inr (by simp [FilePath.same])
        · exact ih hrest
    · rw [List.takeWhile_cons_of_neg hreadable] at h
      cases h

/-- Indexing marks the files up to the first one that cannot be read or is malformed. -/
theorem index_hasFile {t : FileTree} {folder root path : FilePath} {paths : List FilePath}
    (hscan : t.scan folder "rs" = .ok paths) (h : path ∈ paths.takeWhile (t.isReadable root))
    (s : Session) : (s.index t folder root).2.catalog.hasFile path := by
  have hfiles := indexFiles_hasFile (s := s.note [.found paths.length folder]) h
  rw [index, hscan]
  simp only
  split
  · rename_i e s' heq
    rw [heq] at hfiles
    exact hfiles
  · rename_i s' heq
    rw [heq] at hfiles
    exact hfiles

/-! ## Once -/

/-- **Requests and files.** At every moment of a run, no module was asked for twice. From then on,
no module is asked for that was asked for before or whose unit is known, and every other one is when
it is needed. A source with the path of one that came from the loader, or of a file that was
indexed, is left out. -/
theorem asked_and_read_once {loader : Loader} {s : Session} (h : Run loader {} s) :
    s.journal.loads.Nodup ∧
    (∀ s', Run loader s s' → ∃ new, s'.journal.loads = s.journal.loads ++ new ∧
      ∀ module ∈ new, module ∉ s.journal.loads ∧ ∀ u ∈ s.catalog.units, u.module ≠ module) ∧
    (∀ module, module ∉ s.journal.loads → (∀ u ∈ s.catalog.units, u.module ≠ module) →
      (s.ensure loader module).journal.loads = s.journal.loads ++ [module]) ∧
    (∀ module source s', Run loader (s.takeSource module source) s' →
      ∀ module' again, again.path.same source.path → s'.takeSource module' again = s') ∧
    ∀ t folder root paths s', t.scan folder "rs" = .ok paths →
      Run loader (s.index t folder root).2 s' → ∀ path ∈ paths.takeWhile (t.isReadable root),
        ∀ module again, again.path.same path → s'.takeSource module again = s' := by
  have hmarks := h.moments.marks
  refine ⟨?_, ?_, ?_, ?_, ?_⟩
  · obtain ⟨new, hloads, hnodup, -⟩ := h.moments.asks.loads
    rw [hloads]
    exact hnodup
  · intro s' h'
    obtain ⟨new, hloads, -, hnew⟩ := h'.moments.asks.loads
    refine ⟨new, hloads, fun module hmodule => ⟨fun hasked => ?_, fun u hu heq => ?_⟩⟩
    · exact (hnew module hmodule).1 ((hmarks module).mpr (Or.inl hasked))
    · exact (hnew module hmodule).1 ((hmarks module).mpr (Or.inr ⟨u, hu, heq⟩))
  · intro module hasked hunits
    refine loads_ensure_of_notMem (fun hmarked => ?_) loader
    rcases (hmarks module).mp hmarked with hload | ⟨u, hu, heq⟩
    · exact hasked hload
    · exact hunits u hu heq
  · intro module source s' hrun module' again hsame
    have hfile : (s.takeSource module source).catalog.hasFile source.path := by
      rw [takeSource_catalog]
      exact Catalog.hasFile_take.mpr (Or.inr (beq_self_eq_true _))
    exact hrun.takeSource_eq hfile hsame module'
  · intro t folder root paths s' hscan hrun path hpath module again hsame
    exact hrun.takeSource_eq (index_hasFile hscan hpath s) hsame module

/-- A session that has asked for a module that the loader has, and for one that it has not. -/
def askedSession : Session :=
  ((bookSession.resolve bookLoader "model::Book" 1).2.resolve bookLoader "crate::y::Page" 0).2

/-- Two modules are asked for here, and a third one could be; a source under another spelling of a
file that was read changes nothing. -/
theorem asked_and_read_once_askedSession :
    Run bookLoader {} askedSession ∧
    askedSession.journal.loads = ["crate::x::model", "crate::y"] ∧
    askedSession.journal.loads.Nodup ∧
    (askedSession.ensure bookLoader "crate::a").journal.loads =
      ["crate::x::model", "crate::y", "crate::a"] ∧
    ∀ s', Run bookLoader (askedSession.takeSource "crate::b"
        ⟨⟨"src/b.rs"⟩, "crate::b", "pub struct Leaf;"⟩) s' →
      s'.takeSource "crate::c" ⟨⟨"src/./b.rs"⟩, "crate::c", "pub struct Stem;"⟩ = s' := by
  have hrun : Run bookLoader {} askedSession :=
    .tail (.tail (.single (.addScanned {} _)) (.resolve bookSession "model::Book" 1))
      (.resolve _ "crate::y::Page" 0)
  have hloads : askedSession.journal.loads = ["crate::x::model", "crate::y"] := by decide +kernel
  obtain ⟨hnodup, -, hnew, hfile, -⟩ := asked_and_read_once hrun
  refine ⟨hrun, hloads, hnodup, ?_, fun s' h' => ?_⟩
  · rw [hnew "crate::a" (by rw [hloads]; decide) (by decide +kernel), hloads]
    rfl
  · exact hfile _ _ s' h' "crate::c" _ (by decide +kernel)

end Session

end ApiDocs
