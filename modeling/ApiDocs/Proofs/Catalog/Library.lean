import ApiDocs.Proofs.Catalog.Loading

/-!
# Catalogs as parts of a library

A library is all that runs can come to know, in some order. A catalog is a part of it if it agrees
with the library on where the types at some places are declared, as far as it marks their modules
(`PartOf`). These are the places that matter to a run; what is declared elsewhere may be missing. A
catalog stays a part of the library when it is asked for a module whose file declares what the
library has at these places (`PartOf.ensure`). A short key that one type of the library alone has is
found as soon as the type is known (`PartOf.isSome_unique?`).
-/

namespace ApiDocs

/-- Whether a unit declares the type at a place. -/
def SourceUnit.declares (u : SourceUnit) (place : ModulePath × String) : Bool :=
  u.module == place.1 && u.types.any (·.name == place.2)

/-- Units in some order. -/
abbrev Library := List SourceUnit

/-- The unit that declares the type at a place. -/
def Library.owner? (us : Library) (place : ModulePath × String) : Option SourceUnit :=
  us.find? (·.declares place)

theorem Library.owner?_append (us vs : Library) (place : ModulePath × String) :
    Library.owner? (us ++ vs) place = (us.owner? place).or (vs.owner? place) :=
  List.find?_append

/-- The owner of a place stays the owner when other units are left out. -/
theorem Library.owner?_filter {us : Library} {p : SourceUnit → Bool} {place : ModulePath × String}
    (h : ∀ u, us.owner? place = some u → p u) :
    Library.owner? (us.filter p) place = us.owner? place := by
  rw [owner?, List.find?_filter]
  cases howner : us.owner? place with
  | none =>
    rw [List.find?_eq_none]
    intro u hu hboth
    exact List.find?_eq_none.mp howner u hu (of_decide_eq_true hboth).2
  | some u =>
    obtain ⟨hdeclares, before, after, rfl, hbefore⟩ := List.find?_eq_some_iff_append.mp howner
    refine List.find?_eq_some_iff_append.mpr ⟨?_, before, after, rfl, fun v hv => ?_⟩
    · exact decide_eq_true ⟨h u howner, hdeclares⟩
    · have hnot : v.declares place = false := by simpa using hbefore v hv
      simp only [hnot, Bool.false_eq_true, and_false, decide_false, Bool.not_false]

/-- Some units of a library declare nothing at a place where the library declares nothing. -/
theorem Library.owner?_eq_none_of_subset {us vs : Library} {place : ModulePath × String}
    (hsub : ∀ v ∈ vs, v ∈ us) (h : us.owner? place = none) : vs.owner? place = none :=
  List.find?_eq_none.mpr fun v hv => List.find?_eq_none.mp h v (hsub v hv)

/-- The short key of the type at a place. -/
def placeKey (place : ModulePath × String) : String :=
  shortKey (ModulePath.lastSegment place.1) place.2

/-- The short key of a declared type is that of its place. -/
theorem TypeDecl.key_eq_placeKey (d : TypeDecl) : d.key = placeKey d.place :=
  rfl

/-- Whether no type of a library at another place has the short key of a place. -/
def Library.IsAlone (us : Library) (place : ModulePath × String) : Prop :=
  ∀ u ∈ us, ∀ t ∈ u.types, placeKey (u.module, t.name) = placeKey place →
    (u.module, t.name) = place

instance (us : Library) (place : ModulePath × String) : Decidable (us.IsAlone place) :=
  inferInstanceAs (Decidable (∀ u ∈ us, ∀ t ∈ u.types,
    placeKey (u.module, t.name) = placeKey place → (u.module, t.name) = place))

namespace Catalog

/-! ## Declared types -/

/-- A type is known where a unit declares it. -/
theorem knows_iff_isSome_owner? {c : Catalog} {place : ModulePath × String} :
    c.Knows place.1 place.2 ↔ (Library.owner? c.units place).isSome := by
  rw [Library.owner?, List.find?_isSome]
  simp only [Knows, SourceUnit.declares, Bool.and_eq_true, List.any_eq_true, beq_iff_eq]

/-- The first declaration that is offered for a place is that of the unit that declares it. -/
theorem owner?_of_find?_offered {us : Library} {place : ModulePath × String} {d : TypeDecl}
    (h : (offered us).find? (fun o => o.place == place) = some d) :
    ∃ u, us.owner? place = some u ∧ us[d.unit]? = some u ∧
      u.types.find? (·.name == place.2) = some ⟨d.name, d.body⟩ := by
  induction us using List.reverseRecOn with
  | nil => cases h
  | append_singleton us u ih =>
    rw [offered_concat, List.find?_append] at h
    rw [Library.owner?_append]
    cases hold : (offered us).find? (fun o => o.place == place) with
    | some d' =>
      rw [hold, Option.some_or] at h
      cases h
      obtain ⟨v, howner, hget, htype⟩ := ih hold
      refine ⟨v, by rw [howner, Option.some_or], ?_, htype⟩
      rw [List.getElem?_append_left (List.getElem?_eq_some_iff.mp hget).1, hget]
    | none =>
      rw [hold, Option.none_or, declsOf, List.find?_map, Option.map_eq_some_iff] at h
      obtain ⟨t, ht, rfl⟩ := h
      -- no unit before declares the type, or it would have been offered
      have hbefore : Library.owner? us place = none := by
        rw [Library.owner?, List.find?_eq_none]
        intro v hv hdeclares
        rw [SourceUnit.declares, Bool.and_eq_true, List.any_eq_true] at hdeclares
        obtain ⟨hmodule, t', ht', hname⟩ := hdeclares
        obtain ⟨n, hn⟩ := List.mem_iff_getElem?.mp hv
        have hoffered : (⟨t'.name, v.module, t'.body, n⟩ : TypeDecl) ∈ offered us :=
          mem_offered.mpr ⟨v, hn, rfl, ht'⟩
        refine List.find?_eq_none.mp hold _ hoffered ?_
        rw [beq_iff_eq, TypeDecl.place, beq_iff_eq.mp hmodule, beq_iff_eq.mp hname]
      have hplace := List.find?_some ht
      simp only [Function.comp_apply, TypeDecl.place, beq_iff_eq] at hplace
      have hmem := List.mem_of_find?_eq_some ht
      have hdeclares : u.declares place := by
        rw [← hplace, SourceUnit.declares, Bool.and_eq_true, List.any_eq_true]
        exact ⟨beq_self_eq_true _, t, hmem, beq_self_eq_true _⟩
      refine ⟨u, ?_, by simp, ?_⟩
      · rw [hbefore, Option.none_or, Library.owner?, List.find?_singleton, if_pos hdeclares]
      · have hpred : (fun t' : TypeDef => t'.name == place.2) =
            (fun o : TypeDecl => o.place == place) ∘
              fun t' => ⟨t'.name, u.module, t'.body, us.length⟩ := by
          funext t'
          rw [← hplace]
          simp [TypeDecl.place]
        rw [hpred, ht]

/-- A declared type is that of the unit that declares its place. -/
theorem IsIndexed.exists_owner {c : Catalog} (h : c.IsIndexed) {id : Nat} {d : TypeDecl}
    (hd : c.decls[id]? = some d) :
    ∃ u, Library.owner? c.units d.place = some u ∧ c.units[d.unit]? = some u ∧
      u.types.find? (·.name == d.name) = some ⟨d.name, d.body⟩ :=
  owner?_of_find?_offered (h.first d (List.mem_of_getElem? hd))

/-! ## Parts of a library -/

/-- Whether a catalog has units of a library only, and the types at some places of the modules that
it marks. -/
structure PartOf (us : Library) (sought : List (ModulePath × String)) (c : Catalog) : Prop where
  /-- The index is right. -/
  indexed : c.IsIndexed
  /-- The modules of units are marked. -/
  marked : ∀ u ∈ c.units, u.module ∈ c.attempted
  /-- Units are those of the library. -/
  units : ∀ u ∈ c.units, u ∈ us
  /-- Modules that are marked have the types at the places. -/
  owners : ∀ place ∈ sought, place.1 ∈ c.attempted →
    Library.owner? c.units place = us.owner? place

variable {us : Library} {sought : List (ModulePath × String)} {c : Catalog} {loader : Loader}
  {module : ModulePath}

/-- The module of a declared type is marked. -/
theorem PartOf.module_mem (h : c.PartOf us sought) {place : ModulePath × String} {u : SourceUnit}
    (howner : Library.owner? c.units place = some u) : place.1 ∈ c.attempted := by
  have hdeclares := List.find?_some howner
  rw [SourceUnit.declares, Bool.and_eq_true, beq_iff_eq] at hdeclares
  exact hdeclares.1 ▸ h.marked u (List.mem_of_find?_eq_some howner)

/-- Nothing is declared in a module that is not marked. -/
theorem PartOf.owner?_eq_none (h : c.PartOf us sought) {place : ModulePath × String}
    (hmodule : place.1 ∉ c.attempted) : Library.owner? c.units place = none := by
  cases howner : Library.owner? c.units place with
  | none => rfl
  | some u => exact absurd (h.module_mem howner) hmodule

/-- **Owners.** What a part of a library declares at one of the places, it declares as the library
does. -/
theorem PartOf.exists_owner (h : c.PartOf us sought) {id : Nat} {d : TypeDecl}
    (hd : c.decls[id]? = some d) (hplace : d.place ∈ sought) :
    ∃ u, us.owner? d.place = some u ∧ c.units[d.unit]? = some u ∧
      u.types.find? (·.name == d.name) = some ⟨d.name, d.body⟩ := by
  obtain ⟨u, howner, hunit, htype⟩ := h.indexed.exists_owner hd
  have hmarked : d.place.1 ∈ c.attempted := h.module_mem howner
  exact ⟨u, by rw [← h.owners d.place hplace hmarked, howner], hunit, htype⟩

/-- Types of marked modules are found where the library has them. -/
theorem PartOf.find?_isSome_iff (h : c.PartOf us sought) {place : ModulePath × String}
    (hplace : place ∈ sought) (hmodule : place.1 ∈ c.attempted) :
    (c.find? place.1 place.2).isSome ↔ (us.owner? place).isSome := by
  rw [Catalog.find?_isSome_iff h.indexed, knows_iff_isSome_owner?, h.owners place hplace hmodule]

/-- A declared type has a place where a unit of the library declares a type. -/
theorem PartOf.exists_type (h : c.PartOf us sought) {id : Nat} {d : TypeDecl}
    (hd : c.decls[id]? = some d) : ∃ u ∈ us, ∃ t ∈ u.types, (u.module, t.name) = d.place := by
  obtain ⟨u, howner, hunit, htype⟩ := h.indexed.exists_owner hd
  have hdeclares := List.find?_some howner
  rw [SourceUnit.declares, Bool.and_eq_true, beq_iff_eq] at hdeclares
  refine ⟨u, h.units u (List.mem_of_getElem? hunit), _, List.mem_of_find?_eq_some htype, ?_⟩
  exact Prod.ext hdeclares.1 rfl

/-- **Short keys.** The short key of a known type is found, where no other type of the library has
it. -/
theorem PartOf.isSome_unique? (h : c.PartOf us sought) {place : ModulePath × String}
    (halone : us.IsAlone place) {v : SourceUnit} (hv : v ∈ c.units) (hdeclares : v.declares place) :
    (c.unique? (placeKey place)).isSome := by
  have hknown : (Library.owner? c.units place).isSome :=
    List.find?_isSome.mpr ⟨v, hv, hdeclares⟩
  have hfind : (c.find? place.1 place.2).isSome :=
    (Catalog.find?_isSome_iff h.indexed).mpr (knows_iff_isSome_owner?.mpr hknown)
  obtain ⟨id, hid⟩ := Option.isSome_iff_exists.mp hfind
  obtain ⟨d, hd, hplace⟩ := (h.indexed.find_iff place.1 place.2 id).mp hid
  have hkey : d.key = placeKey place := by rw [TypeDecl.key_eq_placeKey, hplace]
  -- another type with the key would have the same place, and so the same number
  have hunique : c.unique? (placeKey place) = some id := by
    refine (h.indexed.unique_iff_forall _ id).mpr ⟨⟨d, hd, hkey⟩, fun other d' hd' hkey' => ?_⟩
    obtain ⟨u, hu, t, ht, heq⟩ := h.exists_type hd'
    have hplace' : d'.place = place := by
      rw [← heq]
      refine halone u hu t ht ?_
      rw [heq, ← TypeDecl.key_eq_placeKey, hkey']
    have hother := (h.indexed.find_iff place.1 place.2 other).mpr ⟨d', hd', hplace'⟩
    exact Option.some.inj (hother.symm.trans hid)
  rw [hunique]
  rfl

end Catalog

/-- Whether a loader gives at most one source for each module. -/
def Loader.IsSingle (loader : Loader) : Prop :=
  ∀ module, loader.given module = [] ∨ ∃ x, loader.given module = [x]

/-- Whether a module comes to be marked when a loader is asked for another one: it is that one, or
it has one of the units that are brought in what the loader gives. -/
def Loader.Brings (loader : Loader) (brought : Library) (module other : ModulePath) : Prop :=
  other = module ∨ ∃ x ∈ loader.given module, ∃ v ∈ x.units, v ∈ brought ∧ v.module = other

instance (loader : Loader) (brought : Library) (module other : ModulePath) :
    Decidable (loader.Brings brought module other) :=
  inferInstanceAs (Decidable (other = module ∨
    ∃ x ∈ loader.given module, ∃ v ∈ x.units, v ∈ brought ∧ v.module = other))

/-- Whether a loader that is asked for a module gives what a library has at some places, and what it
gives is known, as far as the modules of these places come to be marked then. -/
def Loader.Fits (loader : Loader) (us : Library) (sought : List (ModulePath × String))
    (known brought : Library) (module : ModulePath) : Prop :=
  ∀ place ∈ sought, ∀ u ∈ us.owner? place, loader.Brings brought module place.1 →
    u ∈ known ∧ ∃ x ∈ loader.given module, Library.owner? x.units place = some u

instance (loader : Loader) (us : Library) (sought : List (ModulePath × String))
    (known brought : Library) (module : ModulePath) :
    Decidable (loader.Fits us sought known brought module) :=
  inferInstanceAs (Decidable (∀ place ∈ sought, ∀ u ∈ us.owner? place,
    loader.Brings brought module place.1 →
      u ∈ known ∧ ∃ x ∈ loader.given module, Library.owner? x.units place = some u))

namespace Catalog

variable {us : Library} {sought : List (ModulePath × String)} {c : Catalog} {loader : Loader}
  {known brought : Library} {module : ModulePath}

/-- Asking for a module that the library has nothing of marks it only. -/
theorem PartOf.ask (h : c.PartOf us sought) (hmodule : module ∉ c.attempted)
    (hnone : ∀ place ∈ sought, place.1 = module → us.owner? place = none) :
    (c.ask module).PartOf us sought := by
  refine ⟨h.indexed, fun u hu => mem_attempted_ask.mpr (Or.inl (h.marked u hu)), h.units,
    fun place hplace hm => ?_⟩
  rcases mem_attempted_ask.mp hm with hold | rfl
  · exact h.owners place hplace hold
  · rw [hnone place hplace rfl]
    exact h.owner?_eq_none hmodule

/-- Taking in the file of a module. -/
theorem PartOf.take_ask (h : c.PartOf us sought) {x : LoadedSource}
    (hx : loader.given module = [x]) (hnew : ¬ c.hasFile x.path) (hunits : ∀ v ∈ x.units, v ∈ us)
    (hbrought : ∀ v ∈ x.units, v.module ∉ (c.ask module).attempted → v ∈ brought)
    (hfits : loader.Fits us sought known brought module) :
    ((c.ask module).take x).PartOf us sought := by
  have hnew' : ¬ (c.ask module).hasFile x.path := hnew
  have happend : ((c.ask module).take x).units = c.units ++ x.units := by
    rw [take_of_not_hasFile hnew', (addUnits_frame _ _).2.1]
    rfl
  refine ⟨take_isIndexed (c := c.ask module) h.indexed x, ?_, ?_, ?_⟩
  · intro u hu
    rcases mem_units_take.mp hu with hold | ⟨-, hmem⟩
    · exact mem_attempted_take.mpr (Or.inl (mem_attempted_ask.mpr (Or.inl (h.marked u hold))))
    · exact mem_attempted_take.mpr (Or.inr ⟨hnew', u, hmem, rfl⟩)
  · intro u hu
    rcases mem_units_take.mp hu with hold | ⟨-, hmem⟩
    · exact h.units u hold
    · exact hunits u hmem
  · intro place hplace hm
    rw [happend, Library.owner?_append]
    -- where the library has nothing, the new units have nothing either
    have hnone : us.owner? place = none → Library.owner? x.units place = none :=
      Library.owner?_eq_none_of_subset hunits
    by_cases hold : place.1 ∈ c.attempted
    · rw [h.owners place hplace hold]
      cases howner : us.owner? place with
      | some u => rw [Option.some_or]
      | none => rw [Option.none_or, hnone howner]
    · have hbrings : loader.Brings brought module place.1 := by
        by_cases hasked : place.1 ∈ (c.ask module).attempted
        · exact Or.inl ((mem_attempted_ask.mp hasked).resolve_left hold)
        · obtain ⟨-, v, hv, hmodule⟩ := (mem_attempted_take.mp hm).resolve_left hasked
          refine Or.inr ⟨x, hx ▸ List.mem_singleton_self x, v, hv, hbrought v hv ?_, hmodule⟩
          rwa [hmodule]
      rw [h.owner?_eq_none hold, Option.none_or]
      cases howner : us.owner? place with
      | some u =>
        obtain ⟨-, y, hy, hfirst⟩ := hfits place hplace u howner hbrings
        rw [hx, List.mem_singleton] at hy
        rwa [hy] at hfirst
      | none => exact hnone howner

/-- **Asking for a module.** A catalog stays a part of a library when it is asked for a module whose
file declares what the library has at the places. -/
theorem PartOf.ensure (hsingle : loader.IsSingle) (h : c.PartOf us sought)
    (hkept : ∀ u ∈ known, c.hasFile u.path → u ∈ c.units)
    (hnew : module ∉ c.attempted → ∀ x, loader.given module = [x] → ¬ c.hasFile x.path →
      ∀ v ∈ x.units, v ∈ us ∧ (v.module ∉ (c.ask module).attempted → v ∈ brought))
    (hfits : module ∉ c.attempted → loader.Fits us sought known brought module) :
    (c.ensure loader module).PartOf us sought := by
  by_cases hmodule : module ∈ c.attempted
  · rw [ensure_of_mem hmodule]
    exact h
  rw [ensure_of_notMem hmodule]
  have hfits := hfits hmodule
  rcases hsingle module with hnone | ⟨x, hx⟩
  · rw [hnone, List.foldl_nil]
    refine h.ask hmodule fun place hplace heq => ?_
    cases howner : us.owner? place with
    | none => rfl
    | some u =>
      obtain ⟨-, x, hx, -⟩ := hfits place hplace u howner (Or.inl heq)
      rw [hnone] at hx
      cases hx
  · rw [hx, List.foldl_cons, List.foldl_nil]
    by_cases hread : c.hasFile x.path
    · have hread' : (c.ask module).hasFile x.path := hread
      rw [take_of_hasFile hread']
      refine h.ask hmodule fun place hplace heq => ?_
      cases howner : us.owner? place with
      | none => rfl
      | some u =>
        obtain ⟨hknown, y, hy, hfirst⟩ := hfits place hplace u howner (Or.inl heq)
        rw [hx, List.mem_singleton] at hy
        rw [hy] at hfirst
        -- the file was read, so the unit would be known and its module marked
        have hpath := LoadedSource.path_of_mem_units (List.mem_of_find?_eq_some hfirst)
        have hmem := hkept u hknown (by rwa [hpath])
        have hdeclares := List.find?_some howner
        rw [SourceUnit.declares, Bool.and_eq_true, beq_iff_eq] at hdeclares
        exact absurd (heq ▸ hdeclares.1 ▸ h.marked u hmem) hmodule
    · have hunits := hnew hmodule x hx hread
      exact h.take_ask hx hread (fun v hv => (hunits v hv).1) (fun v hv => (hunits v hv).2) hfits

/-- The units of a file that comes in with a module are known afterwards, and their modules are
marked. -/
theorem mem_ensure_of_notMem {x : LoadedSource} (hmodule : module ∉ c.attempted)
    (hx : loader.given module = [x]) (hnew : ¬ c.hasFile x.path) {v : SourceUnit}
    (hv : v ∈ x.units) :
    v ∈ (c.ensure loader module).units ∧ v.module ∈ (c.ensure loader module).attempted := by
  have hnew' : ¬ (c.ask module).hasFile x.path := hnew
  rw [ensure_of_notMem hmodule, hx, List.foldl_cons, List.foldl_nil]
  exact ⟨mem_units_take.mpr (Or.inr ⟨hnew', hv⟩),
    mem_attempted_take.mpr (Or.inr ⟨hnew', v, hv, rfl⟩)⟩

/-- A unit whose file was read was known before. -/
theorem Loads.mem_units_of_hasFile {c' : Catalog} (h : Loads c c') {u : SourceUnit}
    (hu : u ∈ c'.units) (hread : c.hasFile u.path) : u ∈ c.units := by
  obtain ⟨more, hunits, hmore⟩ := h.units
  rw [hunits] at hu
  exact (List.mem_append.mp hu).resolve_right fun hlater => (hmore u hlater).1 hread

end Catalog

end ApiDocs
