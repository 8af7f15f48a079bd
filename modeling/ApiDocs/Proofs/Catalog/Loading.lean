import ApiDocs.Proofs.FilePath
import ApiDocs.Proofs.Session.Growth

/-!
# Loading modules into a catalog

What it means for a catalog that a loader is asked for a module: the module is marked, and each
source that the loader gives and whose file was not read before adds its units (`ensure_catalog`).
What a catalog knows is said in terms of its units, its files and the modules it marks, without
their order.
-/

namespace ApiDocs

/-! ## The units of a source -/

namespace Source

mutual

/-- The units of an item stand in its file. -/
theorem Item.path_of_mem_units {path : FilePath} {module : ModulePath} {u : SourceUnit} :
    ∀ item : Item, u ∈ item.units path module → u.path = path
  | .module attributes name items => by
    intro h
    rw [Item.units] at h
    split at h
    · cases h
    · rcases List.mem_cons.mp h with rfl | hbelow
      · rfl
      · exact path_of_mem_unitsBelow items hbelow
  | .function _ | .methods _ _ | .moduleFile _ _ | .skipped | .imports _ _ | .struct _ _ _
  | .enum _ _ _ | .synonym _ _ _ | .other _ => fun h => by
    rw [Item.units] at h
    · cases h
    · exact nofun

/-- The units of items stand in their file. -/
theorem path_of_mem_unitsBelow {path : FilePath} {module : ModulePath} {u : SourceUnit} :
    ∀ items : List Item, u ∈ unitsBelow path module items → u.path = path
  | [] => nofun
  | item :: rest => by
    intro h
    rw [unitsBelow] at h
    rcases List.mem_append.mp h with hitem | hrest
    · exact item.path_of_mem_units hitem
    · exact path_of_mem_unitsBelow rest hrest

end

end Source

deriving instance DecidableEq for SourceUnit, LoadedSource

/-- The units of a source stand in its file. -/
theorem LoadedSource.path_of_mem_units {x : LoadedSource} {u : SourceUnit} (h : u ∈ x.units) :
    u.path = x.path := by
  rw [units, Source.parseUnits?] at h
  cases hparse : Source.parseFile? x.content with
  | none =>
    rw [hparse] at h
    cases h
  | some tree =>
    rw [hparse] at h
    rcases List.mem_cons.mp h with rfl | hbelow
    · rfl
    · exact Source.path_of_mem_unitsBelow tree.items hbelow

/-- The sources that a loader gives for a module, none where it fails. -/
def Loader.given (loader : Loader) (module : ModulePath) : List LoadedSource :=
  match loader.load module with
  | .ok sources => sources
  | .error _ => []

namespace Catalog

/-! ## Known types -/

/-- Whether a unit declares a type of a name in a module. -/
def Knows (c : Catalog) (module : ModulePath) (name : String) : Prop :=
  ∃ u ∈ c.units, u.module = module ∧ ∃ t ∈ u.types, t.name = name

/-- A type that is known stays known when units are added. -/
theorem Knows.mono {c c' : Catalog} {module : ModulePath} {name : String}
    (h : c.Knows module name) (hunits : ∀ u ∈ c.units, u ∈ c'.units) : c'.Knows module name := by
  obtain ⟨u, hu, hmodule, htype⟩ := h
  exact ⟨u, hunits u hu, hmodule, htype⟩

/-- A type is found exactly where a unit declares it. -/
theorem find?_isSome_iff {c : Catalog} (h : c.IsIndexed) {module : ModulePath} {name : String} :
    (c.find? module name).isSome ↔ c.Knows module name := by
  have hplaces := h.mem_places (module, name)
  constructor
  · intro hsome
    obtain ⟨id, hid⟩ := Option.isSome_iff_exists.mp hsome
    obtain ⟨d, hd, hplace⟩ := (h.find_iff module name id).mp hid
    have hoffered := hplaces.mp (List.mem_map.mpr ⟨d, List.mem_of_getElem? hd, hplace⟩)
    obtain ⟨o, ho, hoplace⟩ := List.mem_map.mp hoffered
    obtain ⟨u, hu, hmodule, htype⟩ := mem_offered.mp ho
    obtain ⟨rfl, rfl⟩ := Prod.mk.inj hoplace
    exact ⟨u, List.mem_of_getElem? hu, hmodule, _, htype, rfl⟩
  · rintro ⟨u, hu, rfl, t, ht, rfl⟩
    obtain ⟨n, hn⟩ := List.mem_iff_getElem?.mp hu
    have hoffered : (⟨t.name, u.module, t.body, n⟩ : TypeDecl) ∈ offered c.units :=
      mem_offered.mpr ⟨u, hn, rfl, ht⟩
    obtain ⟨d, hd, hplace⟩ := List.mem_map.mp (h.known _ hoffered)
    obtain ⟨id, hid⟩ := List.mem_iff_getElem?.mp hd
    rw [(h.find_iff u.module t.name id).mpr ⟨d, hid, hplace⟩]
    rfl

/-! ## Taking in a source -/

/-- The modules of units are marked when these are added. -/
theorem attempted_addUnits (c : Catalog) (us : List SourceUnit) :
    (c.addUnits us).attempted = c.attempted ++ us.map SourceUnit.module := by
  induction us generalizing c with
  | nil => exact (List.append_nil _).symm
  | cons u us ih =>
    rw [List.map_cons, List.append_cons]
    exact ih (c.addUnit u)

/-- A file that has the same path as one that was read was read. -/
theorem hasFile_of_same {c : Catalog} {p q : FilePath} (hsame : p.same q) (h : c.hasFile p) :
    c.hasFile q := by
  obtain ⟨r, hr, hpr⟩ := List.any_eq_true.mp h
  exact List.any_eq_true.mpr ⟨r, hr, FilePath.same_trans (FilePath.same_comm.mp hsame) hpr⟩

/-- The files that are read once a source was taken in. -/
theorem hasFile_take {c : Catalog} {x : LoadedSource} {p : FilePath} :
    (c.take x).hasFile p ↔ c.hasFile p ∨ p.same x.path := by
  by_cases h : c.hasFile x.path
  · rw [take_of_hasFile h, or_iff_left_of_imp]
    intro hsame
    exact hasFile_of_same (FilePath.same_comm.mp hsame) h
  · rw [take_of_not_hasFile h, hasFile, (addUnits_frame _ _).2.2.2.1, List.any_append,
      List.any_cons, List.any_nil, Bool.or_false, Bool.or_eq_true]
    rfl

/-- The units that are known once a source was taken in: those of a file that was read before do not
come in. -/
theorem mem_units_take {c : Catalog} {x : LoadedSource} {u : SourceUnit} :
    u ∈ (c.take x).units ↔ u ∈ c.units ∨ ¬ c.hasFile x.path ∧ u ∈ x.units := by
  by_cases h : c.hasFile x.path
  · rw [take_of_hasFile h]
    simp only [h, not_true_eq_false, false_and, or_false]
  · rw [take_of_not_hasFile h, (addUnits_frame _ _).2.1, List.mem_append]
    simp only [h, Bool.false_eq_true, not_false_eq_true, true_and]

/-- The modules that are marked once a source was taken in. -/
theorem mem_attempted_take {c : Catalog} {x : LoadedSource} {module : ModulePath} :
    module ∈ (c.take x).attempted ↔
      module ∈ c.attempted ∨ ¬ c.hasFile x.path ∧ ∃ u ∈ x.units, u.module = module := by
  by_cases h : c.hasFile x.path
  · rw [take_of_hasFile h]
    simp only [h, not_true_eq_false, false_and, or_false]
  · rw [take_of_not_hasFile h, attempted_addUnits, List.mem_append, List.mem_map]
    simp only [h, Bool.false_eq_true, not_false_eq_true, true_and]

/-- The index stays right when a source is taken in. -/
theorem take_isIndexed {c : Catalog} (h : c.IsIndexed) (x : LoadedSource) :
    (c.take x).IsIndexed := by
  rw [take]
  split
  · exact h
  · exact addUnits_isIndexed (h.withFiles _) _

/-! ## What loading adds -/

/-- How a catalog changes while sources are loaded: units of files that were not read before are
added at the end, and nothing is forgotten. -/
structure Loads (c c' : Catalog) : Prop where
  /-- The units that come in. -/
  units : ∃ more, c'.units = c.units ++ more ∧
    ∀ u ∈ more, ¬ c.hasFile u.path ∧ c'.hasFile u.path
  /-- Files stay read. -/
  files : ∀ p, c.hasFile p → c'.hasFile p
  /-- Modules stay marked. -/
  attempted : ∀ m ∈ c.attempted, m ∈ c'.attempted

theorem Loads.refl (c : Catalog) : Loads c c :=
  ⟨⟨[], (List.append_nil _).symm, nofun⟩, fun _ h => h, fun _ h => h⟩

theorem Loads.trans {c c' c'' : Catalog} (h : Loads c c') (h' : Loads c' c'') : Loads c c'' := by
  obtain ⟨more, hunits, hmore⟩ := h.units
  obtain ⟨more', hunits', hmore'⟩ := h'.units
  refine ⟨⟨more ++ more', ?_, ?_⟩, fun p hp => h'.files p (h.files p hp),
    fun m hm => h'.attempted m (h.attempted m hm)⟩
  · rw [hunits', hunits, List.append_assoc]
  · intro u hu
    rcases List.mem_append.mp hu with hfirst | hsecond
    · exact ⟨(hmore u hfirst).1, h'.files _ (hmore u hfirst).2⟩
    · exact ⟨fun hread => (hmore' u hsecond).1 (h.files _ hread), (hmore' u hsecond).2⟩

/-- Units stay known while others are loaded. -/
theorem Loads.mem_units {c c' : Catalog} (h : Loads c c') {u : SourceUnit} (hu : u ∈ c.units) :
    u ∈ c'.units := by
  obtain ⟨more, hunits, -⟩ := h.units
  rw [hunits]
  exact List.mem_append_left _ hu

/-- Taking in a source adds units of a file that was not read before, or nothing. -/
theorem take_loads (c : Catalog) (x : LoadedSource) : Loads c (c.take x) := by
  refine ⟨?_, fun p hp => hasFile_take.mpr (Or.inl hp),
    fun m hm => mem_attempted_take.mpr (Or.inl hm)⟩
  by_cases h : c.hasFile x.path
  · rw [take_of_hasFile h]
    exact (Loads.refl c).units
  · refine ⟨x.units, ?_, ?_⟩
    · rw [take_of_not_hasFile h, (addUnits_frame _ _).2.1]
    · intro u hu
      rw [LoadedSource.path_of_mem_units hu]
      exact ⟨h, hasFile_take.mpr (Or.inr (beq_self_eq_true _))⟩

theorem foldl_take_loads (sources : List LoadedSource) (c : Catalog) :
    Loads c (sources.foldl take c) := by
  induction sources generalizing c with
  | nil => exact .refl c
  | cons x rest ih => exact (take_loads c x).trans (ih (c.take x))

/-! ## Taking in several sources -/

/-- The files that are read once several sources were taken in. -/
theorem hasFile_foldl_take {sources : List LoadedSource} {c : Catalog} {p : FilePath} :
    (sources.foldl take c).hasFile p ↔ c.hasFile p ∨ ∃ x ∈ sources, p.same x.path := by
  induction sources generalizing c with
  | nil => simp
  | cons x rest ih =>
    rw [List.foldl_cons, ih, hasFile_take, or_assoc, List.exists_mem_cons_iff]

/-- A module that is marked when sources come in is that of a unit in one of them. -/
theorem exists_unit_of_mem_attempted {sources : List LoadedSource} {c : Catalog}
    {module : ModulePath} (h : module ∈ (sources.foldl take c).attempted) :
    module ∈ c.attempted ∨ ∃ x ∈ sources, ∃ u ∈ x.units,
      u.module = module ∧ u ∈ (sources.foldl take c).units := by
  induction sources generalizing c with
  | nil => exact Or.inl h
  | cons x rest ih =>
    rcases ih h with hfirst | ⟨y, hy, u, hu, hmodule, hmem⟩
    · rcases mem_attempted_take.mp hfirst with hold | ⟨hnew, u, hu, hmodule⟩
      · exact Or.inl hold
      · refine Or.inr ⟨x, List.mem_cons_self, u, hu, hmodule, ?_⟩
        exact (foldl_take_loads rest (c.take x)).mem_units (mem_units_take.mpr (Or.inr ⟨hnew, hu⟩))
    · exact Or.inr ⟨y, List.mem_cons_of_mem x hy, u, hu, hmodule, hmem⟩

/-- Sources whose files were read change nothing. -/
theorem foldl_take_of_hasFile {sources : List LoadedSource} {c : Catalog}
    (h : ∀ x ∈ sources, c.hasFile x.path) : sources.foldl take c = c := by
  induction sources with
  | nil => rfl
  | cons x rest ih =>
    rw [List.foldl_cons, take_of_hasFile (h x List.mem_cons_self)]
    exact ih fun y hy => h y (List.mem_cons_of_mem x hy)

/-! ## Asking for a module -/

/-- Marks a module as asked for. -/
def ask (c : Catalog) (module : ModulePath) : Catalog :=
  { c with attempted := c.attempted ++ [module] }

/-- Makes sure that a module is known, if the loader has it. -/
def ensure (loader : Loader) (module : ModulePath) (c : Catalog) : Catalog :=
  if module ∈ c.attempted then c else (loader.given module).foldl take (c.ask module)

theorem mem_attempted_ask {c : Catalog} {module other : ModulePath} :
    other ∈ (c.ask module).attempted ↔ other ∈ c.attempted ∨ other = module := by
  rw [ask, List.mem_append, List.mem_singleton]

/-- A module that is marked is not asked for. -/
theorem ensure_of_mem {loader : Loader} {module : ModulePath} {c : Catalog}
    (h : module ∈ c.attempted) : c.ensure loader module = c :=
  if_pos h

/-- A module that is not marked is asked for, and all that the loader gives is taken in. -/
theorem ensure_of_notMem {loader : Loader} {module : ModulePath} {c : Catalog}
    (h : module ∉ c.attempted) :
    c.ensure loader module = (loader.given module).foldl take (c.ask module) :=
  if_neg h

theorem ask_loads (c : Catalog) (module : ModulePath) : Loads c (c.ask module) :=
  ⟨(Loads.refl c).units, fun _ h => h, fun _ h => mem_attempted_ask.mpr (Or.inl h)⟩

/-- Asking for a module adds units of files that were not read before. -/
theorem ensure_loads (loader : Loader) (module : ModulePath) (c : Catalog) :
    Loads c (c.ensure loader module) := by
  by_cases h : module ∈ c.attempted
  · rw [ensure_of_mem h]
    exact .refl c
  · rw [ensure_of_notMem h]
    exact (ask_loads c module).trans (foldl_take_loads _ _)

/-- A module is marked once it was made sure that it is known. -/
theorem mem_attempted_ensure (loader : Loader) (module : ModulePath) (c : Catalog) :
    module ∈ (c.ensure loader module).attempted := by
  by_cases h : module ∈ c.attempted
  · exact (ensure_loads loader module c).attempted module h
  · rw [ensure_of_notMem h]
    exact (foldl_take_loads _ _).attempted module (mem_attempted_ask.mpr (Or.inr rfl))

/-- What the loader gives for a module that was not marked is read. -/
theorem hasFile_ensure_of_notMem {loader : Loader} {module : ModulePath} {c : Catalog}
    (h : module ∉ c.attempted) {x : LoadedSource} (hx : x ∈ loader.given module) :
    (c.ensure loader module).hasFile x.path := by
  rw [ensure_of_notMem h]
  exact hasFile_foldl_take.mpr (Or.inr ⟨x, hx, beq_self_eq_true _⟩)

/-- A module that is marked by asking for one is that one, or a unit of it came in. -/
theorem attempted_ensure_cases {loader : Loader} {module other : ModulePath} {c : Catalog}
    (h : other ∈ (c.ensure loader module).attempted) :
    other ∈ c.attempted ∨ other = module ∧ module ∉ c.attempted ∨
      module ∉ c.attempted ∧ ∃ x ∈ loader.given module, ∃ u ∈ x.units,
        u.module = other ∧ u ∈ (c.ensure loader module).units := by
  by_cases hmodule : module ∈ c.attempted
  · rw [ensure_of_mem hmodule] at h
    exact Or.inl h
  · rw [ensure_of_notMem hmodule] at h ⊢
    rcases exists_unit_of_mem_attempted h with hasked | hunit
    · rcases mem_attempted_ask.mp hasked with hold | heq
      · exact Or.inl hold
      · exact Or.inr (Or.inl ⟨heq, hmodule⟩)
    · exact Or.inr (Or.inr ⟨hmodule, hunit⟩)

/-- The index stays right when a module is asked for. -/
theorem ensure_isIndexed {loader : Loader} {module : ModulePath} {c : Catalog}
    (h : c.IsIndexed) : (c.ensure loader module).IsIndexed := by
  by_cases hmodule : module ∈ c.attempted
  · rw [ensure_of_mem hmodule]
    exact h
  · rw [ensure_of_notMem hmodule]
    have hask : (c.ask module).IsIndexed := h
    revert hask
    generalize c.ask module = c'
    induction loader.given module generalizing c' with
    | nil => exact id
    | cons x rest ih => exact fun hc => ih _ (take_isIndexed hc x)

end Catalog

namespace Session

/-- What taking in sources means for the catalog. -/
theorem foldl_takeSource_catalog (module : ModulePath) (sources : List LoadedSource)
    (s : Session) :
    (sources.foldl (takeSource module) s).catalog = sources.foldl Catalog.take s.catalog := by
  induction sources generalizing s with
  | nil => rfl
  | cons x rest ih =>
    rw [List.foldl_cons, List.foldl_cons, ih, takeSource_catalog]

/-- What making sure that a module is known means for the catalog. -/
theorem ensure_catalog (loader : Loader) (module : ModulePath) (s : Session) :
    (s.ensure loader module).catalog = s.catalog.ensure loader module := by
  unfold ensure
  by_cases h : module ∈ s.catalog.attempted
  · rw [if_pos (by simpa using h), Catalog.ensure_of_mem h]
  · rw [if_neg (by simpa using h), Catalog.ensure_of_notMem h, Loader.given]
    cases loader.load module with
    | error e => rfl
    | ok sources => exact foldl_takeSource_catalog module sources (s.ask module)

/-- **Changes.** Sessions change as catalogs do while sources are loaded. -/
theorem Changes.loads {loader : Loader} {s s' : Session} (h : Changes loader s s') :
    s.catalog.Loads s'.catalog := by
  induction h with
  | refl => exact .refl _
  | tail _ hchange ih =>
    refine ih.trans ?_
    cases hchange with
    | note events hevents => exact .refl _
    | remember entry => exact .refl _
    | ask module hmodule => exact Catalog.ask_loads _ module
    | take module given source hgiven hsource =>
      rw [takeSource_catalog]
      exact Catalog.take_loads _ source

end Session

end ApiDocs
