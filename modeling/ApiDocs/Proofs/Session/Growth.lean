import ApiDocs.Proofs.Catalog.Index
import ApiDocs.Proofs.Session.Steps
import Mathlib.Algebra.Order.BigOperators.Group.Finset
import Mathlib.Data.Set.Finite.Lattice

/-!
# How a session grows

Resolving type names only adds to a catalog: types and units keep their numbers, and the scanned
units stay what they are (`Steps.grows`). A loader with finitely many files can add only so much,
since each file is read once: the number of types that are known and of those that may still come,
`typeBound`, never increases (`Steps.typeBound_le`).
-/

namespace ApiDocs

/-! ## Adding units -/

/-- Declared types keep their numbers when one is registered. -/
theorem TypeIndex.register_decls_isPrefix (x : TypeIndex) (d : TypeDecl) :
    x.decls <+: (x.register d).decls := by
  rw [register_decls]
  split
  · exact List.prefix_rfl
  · exact List.prefix_append _ _

theorem TypeIndex.foldl_register_decls_isPrefix (x : TypeIndex) (ds : List TypeDecl) :
    x.decls <+: (ds.foldl register x).decls := by
  induction ds generalizing x with
  | nil => exact List.prefix_rfl
  | cons d ds ih => exact (x.register_decls_isPrefix d).trans (ih (x.register d))

/-- Registering adds each type once at most. -/
theorem TypeIndex.length_foldl_register_decls_le (x : TypeIndex) (ds : List TypeDecl) :
    (ds.foldl register x).decls.length ≤ x.decls.length + ds.length := by
  induction ds generalizing x with
  | nil => exact Nat.le_refl _
  | cons d ds ih =>
    have hone : (x.register d).decls.length ≤ x.decls.length + 1 := by
      rw [register_decls]
      split
      · omega
      · rw [List.length_append, List.length_singleton]
    have hrest := ih (x.register d)
    rw [List.foldl_cons, List.length_cons]
    omega

namespace Catalog

/-- How many types units declare. -/
def typeCount : List SourceUnit → Nat
  | [] => 0
  | u :: us => u.types.length + typeCount us

/-- What adding units does to the other parts of a catalog. -/
theorem addUnits_frame (c : Catalog) (us : List SourceUnit) :
    c.decls <+: (c.addUnits us).decls ∧ (c.addUnits us).units = c.units ++ us ∧
      (c.addUnits us).scanned = c.scanned ∧ (c.addUnits us).files = c.files ∧
        (c.addUnits us).decls.length ≤ c.decls.length + typeCount us := by
  induction us generalizing c with
  | nil => exact ⟨List.prefix_rfl, (List.append_nil _).symm, rfl, rfl, Nat.le_add_right _ _⟩
  | cons u us ih =>
    obtain ⟨hdecls, hunits, hscanned, hfiles, hlength⟩ := ih (c.addUnit u)
    have hfirst := c.toTypeIndex.foldl_register_decls_isPrefix (declsOf u c.units.length)
    have hcount := c.toTypeIndex.length_foldl_register_decls_le (declsOf u c.units.length)
    have hlen : (declsOf u c.units.length).length = u.types.length := List.length_map _
    have hsum : typeCount (u :: us) = u.types.length + typeCount us := rfl
    refine ⟨hfirst.trans hdecls, ?_, hscanned, hfiles, ?_⟩
    · rw [List.append_cons]
      exact hunits
    · have hunit : (c.addUnit u).decls.length ≤ c.decls.length + u.types.length := by
        rw [← hlen]
        exact hcount
      have hall : (c.addUnits (u :: us)).decls.length ≤
          (c.addUnit u).decls.length + typeCount us := hlength
      omega

end Catalog

namespace Session

/-! ## Growing -/

/-- Whether a session knows all that another one knows, under the same numbers, has the same scanned
units, and goes on with what was remembered and reported. -/
structure Grows (s s' : Session) : Prop where
  /-- The types. -/
  decls : s.catalog.decls <+: s'.catalog.decls
  /-- The units. -/
  units : s.catalog.units <+: s'.catalog.units
  /-- The scanned units. -/
  scanned : s'.catalog.scanned = s.catalog.scanned
  /-- The types of names. -/
  resolved : s.resolved <+: s'.resolved
  /-- What was reported. -/
  journal : s.journal <+: s'.journal

theorem Grows.refl (s : Session) : Grows s s :=
  ⟨List.prefix_rfl, List.prefix_rfl, rfl, List.prefix_rfl, List.prefix_rfl⟩

theorem Grows.trans {s s' s'' : Session} (h : Grows s s') (h' : Grows s' s'') : Grows s s'' :=
  ⟨h.decls.trans h'.decls, h.units.trans h'.units, h'.scanned.trans h.scanned,
    h.resolved.trans h'.resolved, h.journal.trans h'.journal⟩

theorem Change.grows {loader : Loader} {s s' : Session} (h : Change loader s s') :
    Grows s s' := by
  cases h with
  | note =>
    exact ⟨List.prefix_rfl, List.prefix_rfl, rfl, List.prefix_rfl, List.prefix_append _ _⟩
  | remember =>
    exact ⟨List.prefix_rfl, List.prefix_rfl, rfl, List.prefix_append _ _, List.prefix_rfl⟩
  | ask =>
    exact ⟨List.prefix_rfl, List.prefix_rfl, rfl, List.prefix_rfl, List.prefix_append _ _⟩
  | take module given source =>
    have hcatalog := takeSource_catalog module s source
    have hresolved : s.resolved <+: (takeSource module s source).resolved := by
      rw [takeSource_resolved]
    have hjournal := takeSource_journal_isPrefix module s source
    by_cases hfile : s.catalog.hasFile source.path
    · rw [Catalog.take_of_hasFile hfile] at hcatalog
      refine ⟨?_, ?_, ?_, hresolved, hjournal⟩ <;> rw [hcatalog]
    · rw [Catalog.take_of_not_hasFile hfile] at hcatalog
      obtain ⟨hdecls, hunits, hscanned, -⟩ := Catalog.addUnits_frame
        { s.catalog with files := s.catalog.files ++ [source.path] } source.units
      rw [← hcatalog] at hdecls hunits hscanned
      refine ⟨hdecls, ?_, hscanned, hresolved, hjournal⟩
      rw [hunits]
      exact List.prefix_append _ _

/-- Types keep their numbers. -/
theorem Grows.getElem?_decls {s s' : Session} (h : Grows s s') {id : Nat} {d : TypeDecl}
    (hd : s.catalog.decls[id]? = some d) : s'.catalog.decls[id]? = some d := by
  obtain ⟨more, hmore⟩ := h.decls
  rw [← hmore, List.getElem?_append_left (List.getElem?_eq_some_iff.mp hd).1, hd]

/-- Units keep their numbers. -/
theorem Grows.getElem?_units {s s' : Session} (h : Grows s s') {unit : Nat} {u : SourceUnit}
    (hu : s.catalog.units[unit]? = some u) : s'.catalog.units[unit]? = some u := by
  obtain ⟨more, hmore⟩ := h.units
  rw [← hmore, List.getElem?_append_left (List.getElem?_eq_some_iff.mp hu).1, hu]

/-- **Changes.** A session grows in a run of changes. -/
theorem Changes.grows {loader : Loader} {s s' : Session} (h : Changes loader s s') :
    Grows s s' := by
  induction h with
  | refl => exact .refl s
  | tail _ hchange ih => exact ih.trans hchange.grows

/-- **Growth.** A run of steps only adds to a session. -/
theorem Steps.grows {loader : Loader} {s s' : Session} (h : Steps loader s s') : Grows s s' :=
  h.changes.grows

end Session

/-! ## Loaders with finitely many files -/

/-- The sources that a loader may give. -/
def Loader.sources (loader : Loader) : Set LoadedSource :=
  { source | ∃ module given, loader.load module = .ok given ∧ source ∈ given }

/-- A loader of finitely many modules has finitely many sources. -/
theorem Loader.sources_finite {loader : Loader}
    (h : { module | ∃ given, loader.load module = .ok given }.Finite) : loader.sources.Finite := by
  have hone : ∀ module, { source | ∃ given, loader.load module = .ok given ∧
      source ∈ given }.Finite := by
    intro module
    cases hload : loader.load module with
    | error e => simp
    | ok given => simp
  refine (Set.Finite.biUnion h fun module _ => hone module).subset ?_
  rintro source ⟨module, given, hload, hsource⟩
  exact Set.mem_biUnion (show module ∈ { module | ∃ given, loader.load module = .ok given } from
    ⟨given, hload⟩) ⟨given, hload, hsource⟩

/-- A loader of listed sources has finitely many. -/
theorem Loader.ofSources_sources_finite (listed : List (ModulePath × LoadedSource)) :
    (Loader.ofSources listed).sources.Finite := by
  apply Loader.sources_finite
  refine (List.finite_toSet (listed.map Prod.fst)).subset ?_
  rintro module ⟨given, hload⟩
  simp only [ofSources] at hload
  split at hload
  · rename_i key source hfind
    have hkey : key = module := by simpa using List.find?_some hfind
    exact List.mem_map.mpr ⟨(key, source), List.mem_of_find?_eq_some hfind, hkey⟩
  · cases hload

/-- How many types a source declares. -/
def LoadedSource.typeCount (source : LoadedSource) : Nat :=
  Catalog.typeCount ((Source.parseUnits? source.path source.module source.content).getD [])

/-- Whether each source that a loader may give has the file of a given one, and declares no more
types than that. -/
def Loader.CoveredBy (loader : Loader) (sources : Finset LoadedSource) : Prop :=
  ∀ source ∈ loader.sources, ∃ other ∈ sources,
    other.path = source.path ∧ source.typeCount ≤ other.typeCount

/-- A loader with finitely many sources is covered by them. -/
theorem Loader.coveredBy_of_finite {loader : Loader} (h : loader.sources.Finite) :
    loader.CoveredBy h.toFinset :=
  fun source hsource => ⟨source, h.mem_toFinset.mpr hsource, rfl, Nat.le_refl _⟩

namespace Session

/-- How many types are known or may still come from the given sources. -/
def typeBound (sources : Finset LoadedSource) (s : Session) : Nat :=
  s.catalog.decls.length +
    ∑ source ∈ sources with s.catalog.hasFile source.path = false, source.typeCount

/-- The bound counts the types that are declared already. -/
theorem decls_length_le_typeBound (sources : Finset LoadedSource) (s : Session) :
    s.catalog.decls.length ≤ typeBound sources s :=
  Nat.le_add_right _ _

/-- A source that is taken in moves its types from those that may come to those that are known. -/
theorem takeSource_typeBound_le {sources : Finset LoadedSource} {source other : LoadedSource}
    (hother : other ∈ sources) (hpath : other.path = source.path)
    (hle : source.typeCount ≤ other.typeCount) (module : ModulePath) (s : Session) :
    typeBound sources (takeSource module s source) ≤ typeBound sources s := by
  classical
  have hcatalog := takeSource_catalog module s source
  by_cases hfile : s.catalog.hasFile source.path
  · rw [Catalog.take_of_hasFile hfile] at hcatalog
    rw [typeBound, typeBound, hcatalog]
  · rw [Catalog.take_of_not_hasFile hfile] at hcatalog
    obtain ⟨-, -, -, hfiles, hdecls⟩ := Catalog.addUnits_frame
      { s.catalog with files := s.catalog.files ++ [source.path] } source.units
    rw [← hcatalog] at hfiles hdecls
    -- `other` leaves the sum, and has at least as many types as `source` brings
    have hhas : ∀ path, (takeSource module s source).catalog.hasFile path =
        (s.catalog.hasFile path || path.same source.path) := by
      intro path
      rw [Catalog.hasFile, hfiles, List.any_append, List.any_cons, List.any_nil, Bool.or_false]
      rfl
    have hself : other.path.same source.path = true := by
      rw [hpath]
      exact beq_self_eq_true _
    have hold : other ∈ sources.filter fun x => s.catalog.hasFile x.path = false :=
      Finset.mem_filter.mpr ⟨hother, by rw [hpath]; simpa using hfile⟩
    have hsub : sources.filter (fun x =>
        (takeSource module s source).catalog.hasFile x.path = false) ⊆
          (sources.filter fun x => s.catalog.hasFile x.path = false).erase other := by
      intro x hx
      obtain ⟨hmem, hnot⟩ := Finset.mem_filter.mp hx
      rw [hhas, Bool.or_eq_false_iff] at hnot
      refine Finset.mem_erase.mpr ⟨?_, Finset.mem_filter.mpr ⟨hmem, hnot.1⟩⟩
      rintro rfl
      rw [hself] at hnot
      exact absurd hnot.2 (by simp)
    have hsum := Finset.sum_le_sum_of_subset (f := LoadedSource.typeCount) hsub
    have herase := Finset.sum_erase_add _ LoadedSource.typeCount hold
    have hcount : (takeSource module s source).catalog.decls.length ≤
        s.catalog.decls.length + source.typeCount := hdecls
    rw [typeBound, typeBound]
    omega

/-- **Bound.** A run of steps with a loader that sources cover does not increase the bound. -/
theorem Steps.typeBound_le {loader : Loader} {sources : Finset LoadedSource}
    (hsources : loader.CoveredBy sources) {s s' : Session}
    (h : Steps loader s s') : typeBound sources s' ≤ typeBound sources s := by
  have hchanges := h.changes
  clear h
  induction hchanges with
  | refl => exact Nat.le_refl _
  | tail _ hchange ih =>
    refine Nat.le_trans ?_ ih
    cases hchange with
    | note => exact Nat.le_refl _
    | remember => exact Nat.le_refl _
    | ask => exact Nat.le_refl _
    | take module given source hgiven hsource =>
      obtain ⟨other, hother, hpath, hle⟩ := hsources source ⟨module, given, hgiven, hsource⟩
      exact takeSource_typeBound_le hother hpath hle module _

end Session

end ApiDocs
