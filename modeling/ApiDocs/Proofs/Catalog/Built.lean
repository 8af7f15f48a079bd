import ApiDocs.Generate
import ApiDocs.Proofs.Catalog.Index
import ApiDocs.Proofs.Session.Steps

/-!
# Catalogs that a run can build

A run fills its catalog by adding scanned units, by indexing folders and by loading modules, in any
order. `Built` lists these ways. In every catalog that they build the indexes are right
(`Built.isIndexed`), and which short keys are found, and for which types, does not depend on the
order of the units (`built_catalog_indexed`).
-/

namespace ApiDocs

namespace Session

/-- A session whose catalog was filled by scanning, indexing and loading. -/
inductive Built : Session → Prop where
  /-- Nothing is known. -/
  | empty : Built {}
  /-- Scanned units are added. -/
  | addScanned {s : Session} (us : List SourceUnit) (h : Built s) : Built (s.addScanned us)
  /-- A folder is indexed, as far as its files can be read. -/
  | index {s : Session} (t : FileTree) (folder root : FilePath) (h : Built s) :
    Built (s.index t folder root).2
  /-- A module is asked for. -/
  | ensure {s : Session} (loader : Loader) (module : ModulePath) (h : Built s) :
    Built (s.ensure loader module)

/-! ## The index -/

/-- A change keeps the index right. -/
theorem Change.isIndexed {loader : Loader} {s s' : Session} (h : Change loader s s')
    (hs : s.catalog.IsIndexed) : s'.catalog.IsIndexed := by
  cases h with
  | note => exact hs
  | remember => exact hs
  | ask => exact hs
  | take module given source =>
    rw [takeSource_catalog, Catalog.take]
    split
    · exact hs
    · exact Catalog.addUnits_isIndexed (hs.withFiles _) _

/-- A run of changes keeps the index right. -/
theorem Changes.isIndexed {loader : Loader} {s s' : Session} (h : Changes loader s s')
    (hs : s.catalog.IsIndexed) : s'.catalog.IsIndexed := by
  induction h with
  | refl => exact hs
  | tail _ hchange ih => exact hchange.isIndexed ih

/-- Marks a file as read. -/
def markRead (path : FilePath) (s : Session) : Session :=
  { s with catalog := { s.catalog with files := s.catalog.files ++ [path] } }

theorem loads_parseEvents (path : FilePath) (units : Option (List SourceUnit)) :
    (parseEvents path units).loads = [] := by
  cases units <;> rfl

/-- What holds at first, and is kept by reports and by scanned files, holds after the files of a
folder were read. -/
theorem indexFiles_induction {P : Session → Prop}
    (hnote : ∀ (s : Session) (events : Journal), events.loads = [] → P s → P (s.note events))
    (hscan : ∀ (s : Session) (source : LoadedSource) (us : List SourceUnit),
      Source.parseUnits? source.path source.module source.content = some us → P s →
        P ((s.markRead source.path).addScanned us))
    {s : Session} (h : P s) (t : FileTree) (root : FilePath) (paths : List FilePath) :
    P (indexFiles t root paths s).2 := by
  induction paths generalizing s with
  | nil => exact h
  | cons path rest ih =>
    unfold indexFiles
    split
    · exact h
    · rename_i text _
      simp only [parse]
      split
      · rename_i s' heq
        rw [← (Prod.mk.inj heq).2]
        exact hnote s _ (loads_parseEvents _ _) h
      · rename_i us s' heq
        rw [← (Prod.mk.inj heq).2]
        exact ih (hscan _ ⟨path, Layout.moduleOf root path, text⟩ us (Prod.mk.inj heq).1
          (hnote s _ (loads_parseEvents _ _) h))

/-- What holds at first, and is kept by reports and by scanned files, holds after a folder was
indexed. -/
theorem index_induction {P : Session → Prop}
    (hnote : ∀ (s : Session) (events : Journal), events.loads = [] → P s → P (s.note events))
    (hscan : ∀ (s : Session) (source : LoadedSource) (us : List SourceUnit),
      Source.parseUnits? source.path source.module source.content = some us → P s →
        P ((s.markRead source.path).addScanned us))
    {s : Session} (h : P s) (t : FileTree) (folder root : FilePath) :
    P (s.index t folder root).2 := by
  unfold index
  split
  · exact h
  · rename_i paths _
    have hfiles := indexFiles_induction hnote hscan (hnote s [.found paths.length folder] rfl h) t
      root paths
    split
    · rename_i e s' heq
      rw [heq] at hfiles
      exact hfiles
    · rename_i s' heq
      rw [heq] at hfiles
      exact hnote s' _ rfl hfiles

theorem index_isIndexed {s : Session} (h : s.catalog.IsIndexed) (t : FileTree)
    (folder root : FilePath) : (s.index t folder root).2.catalog.IsIndexed :=
  index_induction (P := fun s => s.catalog.IsIndexed) (fun _ _ _ h => h)
    (fun _ _ us _ h => Catalog.addUnits_isIndexed (h.withFiles _) us) h t folder root

/-- What holds of no types and units, and is kept when a unit is added, holds of every catalog that
a run builds. -/
theorem Built.catalog_induction {P : TypeIndex → List SourceUnit → Prop} (hempty : P {} [])
    (hunit : ∀ (c : Catalog) (u : SourceUnit), P c.toTypeIndex c.units →
      P (c.addUnit u).toTypeIndex (c.addUnit u).units)
    {s : Session} (h : Built s) : P s.catalog.toTypeIndex s.catalog.units := by
  have hunits : ∀ (us : List SourceUnit) (c : Catalog), P c.toTypeIndex c.units →
      P (c.addUnits us).toTypeIndex (c.addUnits us).units := by
    intro us
    induction us with
    | nil => exact fun _ hc => hc
    | cons u us ih => exact fun c hc => ih (c.addUnit u) (hunit c u hc)
  have hchanges : ∀ {loader : Loader} {s s' : Session}, Changes loader s s' →
      P s.catalog.toTypeIndex s.catalog.units → P s'.catalog.toTypeIndex s'.catalog.units := by
    intro loader s s' hrun hs
    induction hrun with
    | refl => exact hs
    | tail _ hchange ih =>
      cases hchange with
      | note => exact ih
      | remember => exact ih
      | ask => exact ih
      | take module given source =>
        rw [takeSource_catalog, Catalog.take]
        split
        · exact ih
        · exact hunits _ _ ih
  induction h with
  | empty => exact hempty
  | addScanned us _ ih => exact hunits us _ ih
  | index t folder root _ ih =>
    exact index_induction (P := fun s => P s.catalog.toTypeIndex s.catalog.units)
      (fun _ _ _ h => h) (fun s source us _ h => hunits us (s.markRead source.path).catalog h) ih t
      folder root
  | ensure loader module _ ih => exact hchanges (ensure_changes loader module _) ih

/-- **Invariant.** The index of every catalog that a run builds is right. -/
theorem Built.isIndexed {s : Session} (h : Built s) : s.catalog.IsIndexed :=
  h.catalog_induction (P := fun x us => x.Indexed (Catalog.offered us)) Catalog.empty_isIndexed
    fun _ u hc => Catalog.addUnit_isIndexed hc u

/-- **Index of the catalog.** In every catalog that a run builds, a module has one type of a name,
the first that was registered, and types are found by exactly the short keys that no other type has.
Which short keys these are, and what they denote, is the same for every order of the units. -/
theorem built_catalog_indexed {s : Session} (h : Built s) :
    (s.catalog.decls.map TypeDecl.place).Nodup ∧
    (∀ module name id, s.catalog.find? module name = some id ↔
      ∃ d, s.catalog.decls[id]? = some d ∧ d.module = module ∧ d.name = name) ∧
    (∀ d ∈ s.catalog.decls,
      (Catalog.offered s.catalog.units).find? (fun o => o.place == d.place) = some d ∧
        ∃ u, s.catalog.units[d.unit]? = some u ∧ u.module = d.module ∧
          ⟨d.name, d.body⟩ ∈ u.types) ∧
    (∀ u ∈ s.catalog.units, ∀ t ∈ u.types, (s.catalog.find? u.module t.name).isSome) ∧
    (∀ key id, s.catalog.unique? key = some id ↔
      (∃ d, s.catalog.decls[id]? = some d ∧ d.key = key) ∧
        ∀ (other : Nat) (d : TypeDecl),
          s.catalog.decls[other]? = some d → d.key = key → other = id) ∧
    (∀ key, key ∈ s.catalog.ambiguous ↔ 2 ≤ s.catalog.decls.countP fun d => d.key == key) ∧
    ∀ s', Built s' → s.catalog.units.Perm s'.catalog.units → ∀ key,
      ((s.catalog.unique? key).isSome ↔ (s'.catalog.unique? key).isSome) ∧
        s.catalog.keyPath? key = s'.catalog.keyPath? key ∧
          (key ∈ s.catalog.ambiguous ↔ key ∈ s'.catalog.ambiguous) := by
  have hindexed := h.isIndexed
  refine ⟨hindexed.distinct, ?_, ?_, ?_, hindexed.unique_iff_forall, hindexed.ambiguous_iff, ?_⟩
  · intro module name id
    rw [hindexed.find_iff]
    simp only [TypeDecl.place, Prod.mk.injEq]
  · intro d hd
    have hfirst := hindexed.first d hd
    exact ⟨hfirst, Catalog.mem_offered.mp (List.mem_of_find?_eq_some hfirst)⟩
  · intro u hu t ht
    obtain ⟨n, hn⟩ := List.mem_iff_getElem?.mp hu
    have hoffered : (⟨t.name, u.module, t.body, n⟩ : TypeDecl) ∈ Catalog.offered s.catalog.units :=
      Catalog.mem_offered.mpr ⟨u, hn, rfl, ht⟩
    obtain ⟨d, hd, hplace⟩ := List.mem_map.mp (hindexed.known _ hoffered)
    obtain ⟨id, hid⟩ := List.mem_iff_getElem?.mp hd
    rw [(hindexed.find_iff u.module t.name id).mpr ⟨d, hid, hplace⟩]
    rfl
  · intro s' hs' hperm key
    exact hindexed.keys_eq hs'.isIndexed (fun place =>
      ⟨Catalog.mem_places_offered_of_perm hperm, Catalog.mem_places_offered_of_perm hperm.symm⟩) key

/-- Two modules `model` with a type `Book` each, one of which has a type `Page` too. -/
def twoModels : List SourceUnit :=
  [{ path := ⟨"a.rs"⟩, module := "crate::a::model", types := [⟨"Book", .enum ["Red"]⟩] },
    { path := ⟨"b.rs"⟩, module := "crate::b::model",
      types := [⟨"Book", .struct []⟩, ⟨"Page", .struct []⟩, ⟨"Book", .enum ["Blue"]⟩] }]

theorem built_catalog_indexed_twoModels :
    Built (({} : Session).addScanned twoModels) ∧
      "model::Book" ∈ (({} : Session).addScanned twoModels).catalog.ambiguous ∧
      (({} : Session).addScanned twoModels).catalog.find? "crate::b::model" "Book" = some 1 ∧
      (({} : Session).addScanned twoModels.reverse).catalog.keyPath? "model::Page" =
        some "crate::b::model::Page" := by
  have hbuilt : Built (({} : Session).addScanned twoModels) := .addScanned twoModels .empty
  have hreverse : Built (({} : Session).addScanned twoModels.reverse) := .addScanned _ .empty
  obtain ⟨-, hfind, -, -, -, hambiguous, horder⟩ := built_catalog_indexed hbuilt
  refine ⟨hbuilt, (hambiguous "model::Book").mpr (by decide +kernel), ?_, ?_⟩
  · exact (hfind "crate::b::model" "Book" 1).mpr ⟨_, rfl, rfl, rfl⟩
  · rw [← (horder _ hreverse (List.Perm.swap _ _ _) "model::Page").2.1]
    decide +kernel

end Session

end ApiDocs
