import ApiDocs.Proofs.Catalog.Loading
import Mathlib.Data.Set.Basic

/-!
# Two catalogs side by side

A catalog knows all that another one knows, and some units and files beyond that. Where the loader
gives these as they came in (`Loader.Whole`), it makes no difference whether they are there: the
smaller catalog gets them as soon as it is asked for one of their modules. `Alongside` says how the
two catalogs differ then. Asking both for a module keeps it (`Alongside.ensure`), and after that
both know the same types of this module (`Alongside.knows_iff`).
-/

namespace ApiDocs

/-- What is known beyond a catalog, and the modules that are asked for. -/
structure Extra where
  /-- The units. -/
  units : List SourceUnit
  /-- The files that were read. -/
  files : Set FilePath
  /-- The modules that are asked for. -/
  asked : Set ModulePath

/-- What a session knows beyond an earlier one, with the modules that a later one marks. -/
def Session.extra (s s₁ s₂ : Session) : Extra where
  units := s₁.catalog.units.drop s.catalog.units.length
  files := { p | s₁.catalog.hasFile p ∧ ¬ s.catalog.hasFile p }
  asked := { m | m ∈ s₂.catalog.attempted }

/-- Whether a loader gives a source for a module that is asked for. -/
def Loader.Gives (loader : Loader) (extra : Extra) (x : LoadedSource) : Prop :=
  ∃ module ∈ extra.asked, x ∈ loader.given module

/-- Whether a loader gives all that is known beyond a catalog as it came in. -/
structure Loader.Whole (loader : Loader) (c : Catalog) (extra : Extra) : Prop where
  /-- The modules that came in were not known before. -/
  fresh : ∀ u ∈ extra.units, u.module ∉ c.attempted
  /-- A unit is in a source that the loader gives for its module. -/
  own : ∀ u ∈ extra.units, ∃ x ∈ loader.given u.module, u ∈ x.units
  /-- Where the loader gives a source with a module that came in, it gives the same sources as for
  this module. -/
  together : ∀ u ∈ extra.units, ∀ module ∈ extra.asked, ∀ x ∈ loader.given module,
    ∀ v ∈ x.units, v.module = u.module → loader.given module = loader.given u.module
  /-- A file that was read is given with the units that came in from it. -/
  file : ∀ x, loader.Gives extra x → x.path ∈ extra.files →
    x.units = extra.units.filter fun u => u.path.same x.path

/-- What is known beyond a session can be looked through. -/
theorem Loader.whole_extra_iff (loader : Loader) (c : Catalog) (s s₁ s₂ : Session) :
    loader.Whole c (s.extra s₁ s₂) ↔
      (∀ u ∈ (s.extra s₁ s₂).units, u.module ∉ c.attempted ∧
        (∃ x ∈ loader.given u.module, u ∈ x.units) ∧
        ∀ module ∈ s₂.catalog.attempted, ∀ x ∈ loader.given module, ∀ v ∈ x.units,
          v.module = u.module → loader.given module = loader.given u.module) ∧
      ∀ module ∈ s₂.catalog.attempted, ∀ x ∈ loader.given module,
        s₁.catalog.hasFile x.path ∧ ¬ s.catalog.hasFile x.path →
          x.units = (s.extra s₁ s₂).units.filter fun u => u.path.same x.path := by
  constructor
  · intro h
    exact ⟨fun u hu => ⟨h.fresh u hu, h.own u hu, h.together u hu⟩,
      fun module hmodule x hx => h.file x ⟨module, hmodule, hx⟩⟩
  · rintro ⟨hunits, hfiles⟩
    refine ⟨fun u hu => (hunits u hu).1, fun u hu => (hunits u hu).2.1,
      fun u hu => (hunits u hu).2.2, ?_⟩
    rintro x ⟨module, hmodule, hx⟩
    exact hfiles module hmodule x hx

instance (loader : Loader) (c : Catalog) (s s₁ s₂ : Session) :
    Decidable (loader.Whole c (s.extra s₁ s₂)) :=
  decidable_of_iff _ (loader.whole_extra_iff c s s₁ s₂).symm

/-- Whether extra units are in extra files, which were not read before. -/
structure Extra.Outside (extra : Extra) (c : Catalog) : Prop where
  /-- Units are in files that were read. -/
  path : ∀ u ∈ extra.units, u.path ∈ extra.files
  /-- Other ways to write a path make no difference. -/
  same : ∀ {p q : FilePath}, p.same q → p ∈ extra.files → q ∈ extra.files
  /-- The files were not read before. -/
  unread : ∀ p ∈ extra.files, ¬ c.hasFile p

namespace Catalog

/-! ## One catalog -/

/-- Whether a catalog is indexed, marks the modules of its units, and has the extra files that it
has read with all their units. -/
structure Filed (loader : Loader) (extra : Extra) (c : Catalog) : Prop where
  /-- The index is right. -/
  indexed : c.IsIndexed
  /-- The modules of units are marked. -/
  attempted : ∀ u ∈ c.units, u.module ∈ c.attempted
  /-- Files that were read have their units. -/
  read : ∀ x, loader.Gives extra x → x.path ∈ extra.files → c.hasFile x.path →
    ∀ u ∈ x.units, u ∈ c.units

/-- Whether a catalog that marks an extra module has read all that the loader gives for it. -/
def Complete (loader : Loader) (extra : Extra) (c : Catalog) : Prop :=
  ∀ u ∈ extra.units, u.module ∈ c.attempted → ∀ x ∈ loader.given u.module, c.hasFile x.path

variable {loader : Loader} {extra : Extra} {a b c start : Catalog} {module : ModulePath}

/-- What a source of a file that was read has. -/
theorem mem_units_iff_of_whole (hwhole : loader.Whole start extra) {x : LoadedSource}
    (hx : loader.Gives extra x) (hfile : x.path ∈ extra.files) (u : SourceUnit) :
    u ∈ x.units ↔ u ∈ extra.units ∧ u.path.same x.path := by
  rw [hwhole.file x hx hfile, List.mem_filter]

/-- A catalog stays filed when a source is taken in. -/
theorem Filed.take (hwhole : loader.Whole start extra) (hout : extra.Outside start)
    (h : Filed loader extra c) {x : LoadedSource} (hx : loader.Gives extra x) :
    Filed loader extra (c.take x) := by
  refine ⟨take_isIndexed h.indexed x, ?_, ?_⟩
  · intro u hu
    rcases mem_units_take.mp hu with hold | ⟨hnew, hmem⟩
    · exact mem_attempted_take.mpr (Or.inl (h.attempted u hold))
    · exact mem_attempted_take.mpr (Or.inr ⟨hnew, u, hmem, rfl⟩)
  · intro y hy hfile hread u hu
    by_cases hold : c.hasFile y.path
    · exact mem_units_take.mpr (Or.inl (h.read y hy hfile hold u hu))
    · -- the file is the one that is taken in, and has the same units there
      have hsame := (hasFile_take.mp hread).resolve_left hold
      have hxfile := hout.same hsame hfile
      obtain ⟨hextra, hpath⟩ := (mem_units_iff_of_whole hwhole hy hfile u).mp hu
      refine mem_units_take.mpr (Or.inr ⟨?_, ?_⟩)
      · exact fun hx' => hold (hasFile_of_same (FilePath.same_comm.mp hsame) hx')
      · exact (mem_units_iff_of_whole hwhole hx hxfile u).mpr
          ⟨hextra, FilePath.same_trans hpath hsame⟩

/-- So it does when several sources are taken in. -/
theorem Filed.foldl_take (hwhole : loader.Whole start extra) (hout : extra.Outside start)
    {sources : List LoadedSource} (hsources : ∀ x ∈ sources, loader.Gives extra x)
    (h : Filed loader extra c) : Filed loader extra (sources.foldl Catalog.take c) := by
  induction sources generalizing c with
  | nil => exact h
  | cons x rest ih =>
    exact ih (fun y hy => hsources y (List.mem_cons_of_mem x hy))
      (h.take hwhole hout (hsources x List.mem_cons_self))

/-- So it does when a module is marked. -/
theorem Filed.ask (h : Filed loader extra c) (module : ModulePath) :
    Filed loader extra (c.ask module) :=
  ⟨h.indexed, fun u hu => mem_attempted_ask.mpr (Or.inl (h.attempted u hu)), h.read⟩

theorem Filed.ensure (hwhole : loader.Whole start extra) (hout : extra.Outside start)
    (h : Filed loader extra c) (hasked : module ∈ extra.asked) :
    Filed loader extra (c.ensure loader module) := by
  by_cases hmodule : module ∈ c.attempted
  · rw [ensure_of_mem hmodule]
    exact h
  · rw [ensure_of_notMem hmodule]
    exact (h.ask module).foldl_take hwhole hout fun x hx => ⟨module, hasked, hx⟩

/-- A catalog stays complete when a module is asked for, since all that the loader gives is read
then. -/
theorem Complete.ensure (hwhole : loader.Whole start extra) (h : Complete loader extra c)
    (hasked : module ∈ extra.asked) : Complete loader extra (c.ensure loader module) := by
  intro u hu hattempted x hx
  rcases attempted_ensure_cases hattempted with hold | ⟨heq, hmodule⟩ |
    ⟨hmodule, y, hy, v, hv, hvu, -⟩
  · exact (ensure_loads loader module c).files _ (h u hu hold x hx)
  · exact hasFile_ensure_of_notMem hmodule (heq ▸ hx)
  · rw [← hwhole.together u hu module hasked y hy v hv hvu] at hx
    exact hasFile_ensure_of_notMem hmodule hx

/-! ## Two catalogs -/

/-- How a catalog differs from one that knows less. -/
structure Beside (extra : Extra) (a b : Catalog) : Prop where
  /-- All units are known. -/
  units : ∀ u ∈ a.units, u ∈ b.units
  /-- Other units are extra. -/
  units_extra : ∀ u ∈ b.units, u ∈ a.units ∨ u ∈ extra.units
  /-- All files were read. -/
  files : ∀ p, a.hasFile p → b.hasFile p
  /-- Other files are extra. -/
  files_extra : ∀ p, b.hasFile p → a.hasFile p ∨ p ∈ extra.files
  /-- All modules are marked. -/
  attempted : ∀ m ∈ a.attempted, m ∈ b.attempted

/-- Catalogs stay beside each other when both take in the same source, even where one has read its
file. -/
theorem Beside.take (hwhole : loader.Whole start extra) (h : Beside extra a b)
    (hb : Filed loader extra b) {x : LoadedSource} (hx : loader.Gives extra x) :
    Beside extra (a.take x) (b.take x) := by
  -- a file that only the larger catalog has read is extra, so its units are there
  have hmissing : ¬ a.hasFile x.path → b.hasFile x.path →
      ∀ u ∈ x.units, u ∈ b.units ∧ u ∈ extra.units := by
    intro hnot hhas u hu
    have hfile := (h.files_extra x.path hhas).resolve_left hnot
    exact ⟨hb.read x hx hfile hhas u hu, ((mem_units_iff_of_whole hwhole hx hfile u).mp hu).1⟩
  refine ⟨?_, ?_, ?_, ?_, ?_⟩
  · intro u hu
    rcases mem_units_take.mp hu with hold | ⟨hnew, hmem⟩
    · exact mem_units_take.mpr (Or.inl (h.units u hold))
    · by_cases hhas : b.hasFile x.path
      · exact mem_units_take.mpr (Or.inl (hmissing hnew hhas u hmem).1)
      · exact mem_units_take.mpr (Or.inr ⟨hhas, hmem⟩)
  · intro u hu
    rcases mem_units_take.mp hu with hold | ⟨hnew, hmem⟩
    · rcases h.units_extra u hold with hknown | hextra
      · exact Or.inl (mem_units_take.mpr (Or.inl hknown))
      · exact Or.inr hextra
    · exact Or.inl (mem_units_take.mpr (Or.inr ⟨fun hhas => hnew (h.files _ hhas), hmem⟩))
  · intro p hp
    rcases hasFile_take.mp hp with hold | hsame
    · exact hasFile_take.mpr (Or.inl (h.files p hold))
    · exact hasFile_take.mpr (Or.inr hsame)
  · intro p hp
    rcases hasFile_take.mp hp with hold | hsame
    · rcases h.files_extra p hold with hknown | hextra
      · exact Or.inl (hasFile_take.mpr (Or.inl hknown))
      · exact Or.inr hextra
    · exact Or.inl (hasFile_take.mpr (Or.inr hsame))
  · intro m hm
    rcases mem_attempted_take.mp hm with hold | ⟨hnew, u, hu, hmodule⟩
    · exact mem_attempted_take.mpr (Or.inl (h.attempted m hold))
    · by_cases hhas : b.hasFile x.path
      · exact mem_attempted_take.mpr
          (Or.inl (hmodule ▸ hb.attempted u (hmissing hnew hhas u hu).1))
      · exact mem_attempted_take.mpr (Or.inr ⟨hhas, u, hu, hmodule⟩)

theorem Beside.foldl_take (hwhole : loader.Whole start extra) (hout : extra.Outside start)
    {sources : List LoadedSource} (hsources : ∀ x ∈ sources, loader.Gives extra x)
    (h : Beside extra a b) (hb : Filed loader extra b) :
    Beside extra (sources.foldl Catalog.take a) (sources.foldl Catalog.take b) := by
  induction sources generalizing a b with
  | nil => exact h
  | cons x rest ih =>
    have hx := hsources x List.mem_cons_self
    exact ih (fun y hy => hsources y (List.mem_cons_of_mem x hy)) (h.take hwhole hb hx)
      (hb.take hwhole hout hx)

/-- Whether two catalogs are both filed and complete, the second one knows what the first one knows
and otherwise extra units only, and has read all that the loader gives for the modules that it marks
without knowing a unit of them. -/
structure Alongside (loader : Loader) (extra : Extra) (a b : Catalog) : Prop
    extends Beside extra a b where
  /-- The smaller catalog is filed. -/
  left : Filed loader extra a
  /-- The larger catalog is filed. -/
  right : Filed loader extra b
  /-- The smaller catalog is complete. -/
  left_complete : Complete loader extra a
  /-- The larger catalog is complete. -/
  right_complete : Complete loader extra b
  /-- Marked modules are asked for at some time. -/
  asked : ∀ m ∈ b.attempted, m ∈ extra.asked
  /-- Marked modules are known or were asked for. -/
  settled : ∀ m ∈ b.attempted, m ∈ a.attempted ∨ (∃ u ∈ b.units, u.module = m) ∨
    ∀ x ∈ loader.given m, b.hasFile x.path

/-- The larger catalog has read all that the loader gives for a module that it marks alone. -/
theorem Alongside.hasFile_of_notMem (h : Alongside loader extra a b) (ha : module ∉ a.attempted)
    (hb : module ∈ b.attempted) : ∀ x ∈ loader.given module, b.hasFile x.path := by
  rcases h.settled module hb with hold | ⟨u, hu, rfl⟩ | hread
  · exact absurd hold ha
  · have hextra := (h.units_extra u hu).resolve_left fun hknown => ha (h.left.attempted u hknown)
    exact h.right_complete u hextra hb
  · exact hread

theorem Beside.ask (h : Beside extra a b) (module : ModulePath) :
    Beside extra (a.ask module) (b.ask module) := by
  refine ⟨h.units, h.units_extra, h.files, h.files_extra, fun m hm => ?_⟩
  rcases mem_attempted_ask.mp hm with hold | heq
  · exact mem_attempted_ask.mpr (Or.inl (h.attempted m hold))
  · exact mem_attempted_ask.mpr (Or.inr heq)

/-- A module that the larger catalog marks can be marked in the smaller one. -/
theorem Beside.ask_left (h : Beside extra a b) (hmodule : module ∈ b.attempted) :
    Beside extra (a.ask module) b := by
  refine ⟨h.units, h.units_extra, h.files, h.files_extra, fun m hm => ?_⟩
  rcases mem_attempted_ask.mp hm with hold | heq
  · exact h.attempted m hold
  · exact heq ▸ hmodule

/-- What asking both catalogs for a module does to the difference between them. -/
theorem Alongside.beside_ensure (hwhole : loader.Whole start extra) (hout : extra.Outside start)
    (h : Alongside loader extra a b) (hasked : module ∈ extra.asked) :
    Beside extra (a.ensure loader module) (b.ensure loader module) := by
  have hsources : ∀ x ∈ loader.given module, loader.Gives extra x :=
    fun x hx => ⟨module, hasked, hx⟩
  by_cases ha : module ∈ a.attempted
  · rw [ensure_of_mem ha, ensure_of_mem (h.attempted module ha)]
    exact h.toBeside
  · rw [ensure_of_notMem ha]
    by_cases hb : module ∈ b.attempted
    -- the larger catalog has read all that the smaller one reads now
    · rw [ensure_of_mem hb, ← foldl_take_of_hasFile (h.hasFile_of_notMem ha hb)]
      exact (h.ask_left hb).foldl_take hwhole hout hsources h.right
    · rw [ensure_of_notMem hb]
      exact (h.toBeside.ask module).foldl_take hwhole hout hsources (h.right.ask module)

/-- What the larger catalog marks after it was asked for a module. -/
theorem Alongside.settled_ensure (h : Alongside loader extra a b) {m : ModulePath}
    (hm : m ∈ (b.ensure loader module).attempted) :
    m ∈ a.attempted ∨ (∃ u ∈ (b.ensure loader module).units, u.module = m) ∨
      ∀ x ∈ loader.given m, (b.ensure loader module).hasFile x.path := by
  have hloads := ensure_loads loader module b
  rcases attempted_ensure_cases hm with hold | ⟨rfl, hmodule⟩ | ⟨-, x, -, u, -, hmodule, hu⟩
  · rcases h.settled m hold with hknown | ⟨u, hu, hmodule⟩ | hread
    · exact Or.inl hknown
    · exact Or.inr (Or.inl ⟨u, hloads.mem_units hu, hmodule⟩)
    · exact Or.inr (Or.inr fun x hx => hloads.files _ (hread x hx))
  · exact Or.inr (Or.inr fun x hx => hasFile_ensure_of_notMem hmodule hx)
  · exact Or.inr (Or.inl ⟨u, hu, hmodule⟩)

/-- **Asking for a module.** Catalogs side by side stay so when both are asked for a module. -/
theorem Alongside.ensure (hwhole : loader.Whole start extra) (hout : extra.Outside start)
    (h : Alongside loader extra a b)
    (hasked : ∀ m ∈ (b.ensure loader module).attempted, m ∈ extra.asked) :
    Alongside loader extra (a.ensure loader module) (b.ensure loader module) := by
  have hmodule := hasked module (mem_attempted_ensure loader module b)
  refine ⟨h.beside_ensure hwhole hout hmodule, h.left.ensure hwhole hout hmodule,
    h.right.ensure hwhole hout hmodule, h.left_complete.ensure hwhole hmodule,
    h.right_complete.ensure hwhole hmodule, hasked, fun m hm => ?_⟩
  rcases h.settled_ensure hm with hknown | hrest
  · exact Or.inl ((ensure_loads loader module a).attempted m hknown)
  · exact Or.inr hrest

/-- The larger catalog may be asked for a module alone, as long as nothing but extra units and files
come in. -/
theorem Alongside.ensure_right (hwhole : loader.Whole start extra) (hout : extra.Outside start)
    (h : Alongside loader extra a b)
    (hasked : ∀ m ∈ (b.ensure loader module).attempted, m ∈ extra.asked)
    (hunits : ∀ u ∈ (b.ensure loader module).units, u ∈ a.units ∨ u ∈ extra.units)
    (hfiles : ∀ p, (b.ensure loader module).hasFile p → a.hasFile p ∨ p ∈ extra.files) :
    Alongside loader extra a (b.ensure loader module) := by
  have hmodule := hasked module (mem_attempted_ensure loader module b)
  have hloads := ensure_loads loader module b
  exact ⟨⟨fun u hu => hloads.mem_units (h.units u hu), hunits,
    fun p hp => hloads.files p (h.files p hp), hfiles,
    fun m hm => hloads.attempted m (h.attempted m hm)⟩, h.left,
    h.right.ensure hwhole hout hmodule, h.left_complete, h.right_complete.ensure hwhole hmodule,
    hasked, fun m hm => h.settled_ensure hm⟩

/-- **Same types.** Catalogs side by side know the same types of a module that both mark. -/
theorem Alongside.knows_iff (hwhole : loader.Whole start extra) (hout : extra.Outside start)
    (h : Alongside loader extra a b) (hmodule : module ∈ a.attempted) (name : String) :
    a.Knows module name ↔ b.Knows module name := by
  refine ⟨fun hknows => hknows.mono h.units, ?_⟩
  rintro ⟨u, hu, rfl, htype⟩
  refine ⟨u, ?_, rfl, htype⟩
  rcases h.units_extra u hu with hknown | hextra
  · exact hknown
  · -- the smaller catalog marks the module, so it has read the file of the unit
    obtain ⟨x, hx, hux⟩ := hwhole.own u hextra
    have hgives : loader.Gives extra x :=
      ⟨u.module, h.asked u.module (h.attempted u.module hmodule), hx⟩
    have hfile : x.path ∈ extra.files := by
      rw [← LoadedSource.path_of_mem_units hux]
      exact hout.path u hextra
    exact h.left.read x hgives hfile (h.left_complete u hextra hmodule x hx) u hux

/-- A catalog is alongside itself as long as nothing extra has come in. -/
theorem Alongside.refl (hwhole : loader.Whole c extra) (hout : extra.Outside c)
    (hindexed : c.IsIndexed) (hattempted : ∀ u ∈ c.units, u.module ∈ c.attempted)
    (hasked : ∀ m ∈ c.attempted, m ∈ extra.asked) : Alongside loader extra c c := by
  have hfiled : Filed loader extra c :=
    ⟨hindexed, hattempted, fun x _ hfile hread => absurd hread (hout.unread x.path hfile)⟩
  have hcomplete : Complete loader extra c :=
    fun u hu hmodule => absurd hmodule (hwhole.fresh u hu)
  exact ⟨⟨fun _ h => h, fun _ => Or.inl, fun _ h => h, fun _ => Or.inl, fun _ h => h⟩, hfiled,
    hfiled, hcomplete, hcomplete, hasked, fun _ => Or.inl⟩

end Catalog

end ApiDocs
