import ApiDocs.Proofs.Directive.Steps
import ApiDocs.Proofs.Resolution.History

/-!
# Runs of a session

A session is used in any order: units and folders are scanned, modules are asked for, names are
resolved, types are expanded and directive lines are applied. `Act` lists these ways, and each of
them goes by moments at which a session only gains something (`Act.moments`). So what a session
has found it finds again in the rest of the run, and under the same number; only a short key may be
lost, once and for all, when a second type comes to have it (`hits_are_stable`).
-/

namespace ApiDocs

/-! ## Indexes that only gain -/

namespace TypeIndex

/-- Whether a short key was dropped since several types have it. -/
def Dropped (x : TypeIndex) (key : String) : Prop :=
  x.unique? key = none ∧ key ∈ x.ambiguous

/-- Whether an index finds what another one finds, but for short keys that it has dropped. -/
structure Keeps (x x' : TypeIndex) : Prop where
  /-- Types keep their numbers. -/
  decls : x.decls <+: x'.decls
  /-- Types are found by their places. -/
  find : ∀ module name id, x.find? module name = some id → x'.find? module name = some id
  /-- Types are found by short keys as long as these are not dropped. -/
  unique : ∀ key id, x.unique? key = some id → x'.unique? key = some id ∨ x'.Dropped key
  /-- What is dropped stays so. -/
  dropped : ∀ key, x.Dropped key → x'.Dropped key

theorem Keeps.refl (x : TypeIndex) : Keeps x x :=
  ⟨List.prefix_rfl, fun _ _ _ h => h, fun _ _ h => Or.inl h, fun _ h => h⟩

theorem Keeps.trans {x x' x'' : TypeIndex} (h : Keeps x x') (h' : Keeps x' x'') :
    Keeps x x'' := by
  refine ⟨h.decls.trans h'.decls, fun module name id hfind => ?_, fun key id hunique => ?_,
    fun key hdropped => h'.dropped key (h.dropped key hdropped)⟩
  · exact h'.find module name id (h.find module name id hfind)
  · rcases h.unique key id hunique with hkept | hdropped
    · exact h'.unique key id hkept
    · exact Or.inr (h'.dropped key hdropped)

/-- An index keeps all that it finds when a type is added at the end. -/
theorem append_keeps (x : TypeIndex) (d : TypeDecl) : Keeps x (x.append d) := by
  refine ⟨List.prefix_append _ _, fun module name id hfind => ?_, fun _ _ h => Or.inl h,
    fun _ h => h⟩
  rw [find?, append, lookup_concat]
  change x.byName.lookup (module, name) = some id at hfind
  rw [hfind, Option.some_or]

/-- A short key is added where no type has it, and dropped where a type of another module does. The
other keys are as before. -/
theorem addKey_keeps (x : TypeIndex) (key : String) (module : ModulePath) (id : Nat) :
    Keeps x (x.addKey key module id) := by
  obtain ⟨byKey, ambiguous, heq⟩ := addKey_eq x key module id
  have hdecls : x.decls <+: (x.addKey key module id).decls := by rw [heq]
  have hfind : ∀ m n i, x.find? m n = some i → (x.addKey key module id).find? m n = some i := by
    rw [heq]
    exact fun _ _ _ h => h
  by_cases hambiguous : key ∈ x.ambiguous
  · rw [addKey_of_mem hambiguous]
    exact .refl x
  cases hunique : x.unique? key with
  | none =>
    have hadd := addKey_of_none hambiguous hunique module id
    refine ⟨hdecls, hfind, fun other i hother => Or.inl ?_, fun other hother => ?_⟩
    · change x.byKey.lookup other = some i at hother
      rw [hadd, unique?, lookup_concat, hother, Option.some_or]
    · obtain ⟨hnone, hmem⟩ := hother
      have hne : other ≠ key := fun h => hambiguous (h ▸ hmem)
      change x.byKey.lookup other = none at hnone
      rw [hadd]
      refine ⟨?_, hmem⟩
      rw [unique?, lookup_concat, hnone, if_neg (by simpa using hne), Option.or_none]
  | some first =>
    by_cases hmodule : x.moduleOf? first = some module
    · have hsame : x.addKey key module id = x := by
        rw [addKey, if_neg (by simpa using hambiguous)]
        simp only [hunique, hmodule, if_true]
      rw [hsame]
      exact .refl x
    -- the key is lost to both types, and stays so since it is ambiguous from now on
    · have hdrop := addKey_of_unique hambiguous hunique hmodule id
      refine ⟨hdecls, hfind, fun other i hother => ?_, fun other hother => ?_⟩
      · rw [hdrop, Dropped, unique?, lookup_filter_bne]
        by_cases hother' : other = key
        · rw [if_pos hother', hother']
          exact Or.inr ⟨rfl, List.mem_append_right _ List.mem_cons_self⟩
        · rw [if_neg hother']
          exact Or.inl hother
      · obtain ⟨hnone, hmem⟩ := hother
        rw [hdrop, Dropped, unique?, lookup_filter_bne]
        refine ⟨?_, List.mem_append_left _ hmem⟩
        split
        · rfl
        · exact hnone

/-- An index keeps what it finds when a type is registered, whether it is new or not. -/
theorem register_keeps (x : TypeIndex) (d : TypeDecl) : Keeps x (x.register d) := by
  unfold register
  split
  · exact .refl x
  · exact (append_keeps x d).trans (addKey_keeps _ _ _ _)

theorem foldl_register_keeps (x : TypeIndex) (ds : List TypeDecl) :
    Keeps x (ds.foldl register x) := by
  induction ds generalizing x with
  | nil => exact .refl x
  | cons d ds ih => exact (x.register_keeps d).trans (ih (x.register d))

end TypeIndex

theorem Catalog.addUnits_keeps (c : Catalog) (us : List SourceUnit) :
    c.toTypeIndex.Keeps (c.addUnits us).toTypeIndex := by
  induction us generalizing c with
  | nil => exact .refl _
  | cons u us ih =>
    exact (TypeIndex.foldl_register_keeps c.toTypeIndex _).trans (ih (c.addUnit u))

namespace Session

/-! ## Acts and moments -/

/-- What happens to a session at one moment. -/
inductive Moment (loader : Loader) : Session → Session → Prop where
  /-- A change is made that resolving a name makes. -/
  | change {s s' : Session} (h : Change loader s s') : Moment loader s s'
  /-- Scanned units are added. -/
  | scan (s : Session) (us : List SourceUnit) : Moment loader s (s.addScanned us)
  /-- A file is marked as read. -/
  | read (s : Session) (path : FilePath) : Moment loader s (s.markRead path)

/-- Any number of moments one after the other. -/
abbrev Moments (loader : Loader) : Session → Session → Prop :=
  Relation.ReflTransGen (Moment loader)

/-- What is done with a session. -/
inductive Act (loader : Loader) : Session → Session → Prop where
  /-- Scanned units are added. -/
  | addScanned (s : Session) (us : List SourceUnit) : Act loader s (s.addScanned us)
  /-- A folder is indexed, as far as its files can be read. -/
  | index (s : Session) (t : FileTree) (folder root : FilePath) :
    Act loader s (s.index t folder root).2
  /-- A module is asked for. -/
  | ensure (s : Session) (module : ModulePath) : Act loader s (s.ensure loader module)
  /-- A type name is resolved. -/
  | resolve (s : Session) (name : String) (unit : Nat) :
    Act loader s (s.resolve loader name unit).2
  /-- A type is expanded. -/
  | expand (s : Session) (id : Nat) : Act loader s (s.expand loader id).2
  /-- The type of a name is expanded. -/
  | expandNamed (s : Session) (name : String) (unit : Nat) :
    Act loader s (s.expandNamed loader name unit).2
  /-- A directive line is applied to a document. -/
  | applyLine (s : Session) (unit : Nat) (operation line : String) (doc : Document) :
    Act loader s (Directive.applyLine (some ⟨loader, unit⟩) operation line doc s).2
  /-- One of the above goes on for one moment. -/
  | moment {s s' : Session} (h : Moment loader s s') : Act loader s s'

/-- Any number of acts one after the other. -/
abbrev Run (loader : Loader) : Session → Session → Prop :=
  Relation.ReflTransGen (Act loader)

/-- The changes that resolving makes are moments of a run. -/
theorem Changes.moments {loader : Loader} {s s' : Session} (h : Changes loader s s') :
    Moments loader s s' := by
  induction h with
  | refl => exact .refl
  | tail _ hchange ih => exact ih.tail (.change hchange)

/-- Indexing a folder is a run of moments, even where it fails halfway. -/
theorem index_moments (loader : Loader) (t : FileTree) (folder root : FilePath) (s : Session) :
    Moments loader s (s.index t folder root).2 :=
  index_induction (P := Moments loader s) (fun s' events hevents h =>
      h.tail (.change (.note s' events hevents)))
    (fun s' source us _ h => (h.tail (.read s' source.path)).tail (.scan _ us)) .refl t folder root

/-- **Acts.** All that is done with a session is a run of moments. -/
theorem Act.moments {loader : Loader} {s s' : Session} (h : Act loader s s') :
    Moments loader s s' := by
  cases h with
  | addScanned us => exact .single (.scan s us)
  | index t folder root => exact index_moments loader t folder root s
  | ensure module => exact (ensure_changes loader module s).moments
  | resolve name unit => exact (resolve_changes loader name unit s).moments
  | expand id => exact (expand_steps loader id s).changes.moments
  | expandNamed name unit => exact (expandNamed_steps loader name unit s).changes.moments
  | applyLine unit operation line doc =>
    exact (Directive.applyLine_steps ⟨loader, unit⟩ operation line doc s).changes.moments
  | moment h => exact .single h

/-- **Runs.** Whatever is done with a session is a run of moments. -/
theorem Run.moments {loader : Loader} {s s' : Session} (h : Run loader s s') :
    Moments loader s s' := by
  induction h with
  | refl => exact .refl
  | tail _ hact ih => exact ih.trans hact.moments

/-! ## What stays -/

/-- Whether a session finds what another one has found. -/
structure Keeps (s s' : Session) : Prop where
  /-- Units keep their numbers. -/
  units : s.catalog.units <+: s'.catalog.units
  /-- Types are found. -/
  index : s.catalog.toTypeIndex.Keeps s'.catalog.toTypeIndex
  /-- The types of names are remembered. -/
  resolved : s.resolved <+: s'.resolved

theorem Keeps.refl (s : Session) : Keeps s s :=
  ⟨List.prefix_rfl, .refl _, List.prefix_rfl⟩

theorem Keeps.trans {s s' s'' : Session} (h : Keeps s s') (h' : Keeps s' s'') : Keeps s s'' :=
  ⟨h.units.trans h'.units, h.index.trans h'.index, h.resolved.trans h'.resolved⟩

/-- Units keep their numbers when others are added. -/
theorem addUnits_keeps_units (c : Catalog) (us : List SourceUnit) :
    c.units <+: (c.addUnits us).units := by
  rw [(c.addUnits_frame us).2.1]
  exact List.prefix_append _ _

/-- A session keeps what it has found when a source is taken in. -/
theorem takeSource_keeps (module : ModulePath) (s : Session) (source : LoadedSource) :
    Keeps s (takeSource module s source) := by
  have hresolved : s.resolved <+: (takeSource module s source).resolved := by
    rw [takeSource_resolved]
  have hcatalog := takeSource_catalog module s source
  rw [Catalog.take] at hcatalog
  split at hcatalog
  · refine ⟨?_, ?_, hresolved⟩
    · rw [hcatalog]
    · rw [hcatalog]
      exact .refl _
  · refine ⟨?_, ?_, hresolved⟩
    · rw [hcatalog]
      exact addUnits_keeps_units { s.catalog with files := s.catalog.files ++ [source.path] } _
    · rw [hcatalog]
      exact Catalog.addUnits_keeps { s.catalog with files := s.catalog.files ++ [source.path] } _

/-- A session keeps what it has found in each moment of a run. -/
theorem Moment.keeps {loader : Loader} {s s' : Session} (h : Moment loader s s') :
    Keeps s s' := by
  cases h with
  | change h =>
    cases h with
    | note events => exact ⟨List.prefix_rfl, .refl _, List.prefix_rfl⟩
    | remember entry => exact ⟨List.prefix_rfl, .refl _, List.prefix_append _ _⟩
    | ask module => exact ⟨List.prefix_rfl, .refl _, List.prefix_rfl⟩
    | take module given source => exact takeSource_keeps module s source
  | scan us =>
    exact ⟨addUnits_keeps_units s.catalog us, s.catalog.addUnits_keeps us, List.prefix_rfl⟩
  | read path => exact ⟨List.prefix_rfl, .refl _, List.prefix_rfl⟩

/-- A session keeps what it has found in all of a run. -/
theorem Moments.keeps {loader : Loader} {s s' : Session} (h : Moments loader s s') :
    Keeps s s' := by
  induction h with
  | refl => exact .refl s
  | tail _ hmoment ih => exact ih.trans hmoment.keeps

/-- **Growth.** What a session has found is kept by every run. -/
theorem Run.keeps {loader : Loader} {s s' : Session} (h : Run loader s s') : Keeps s s' :=
  h.moments.keeps

/-! ## Resolved names -/

/-- The type of a name is remembered as long as the session is kept. -/
theorem Keeps.remembered? {s s' : Session} (h : Keeps s s') {unit : Nat} {name : String}
    {id : Nat} (hid : s.remembered? unit name = some id) :
    s'.remembered? unit name = some id := by
  obtain ⟨more, hmore⟩ := h.resolved
  obtain ⟨entry, hentry, rfl⟩ := Option.map_eq_some_iff.mp hid
  rw [Session.remembered?, ← hmore, List.find?_append, hentry, Option.some_or, Option.map_some]

/-- A name that was resolved to a type is remembered with it. -/
theorem remembered?_of_resolve {loader : Loader} {name : String} {unit id : Nat} {s : Session}
    (h : (s.resolve loader name unit).1 = some id) :
    (s.resolve loader name unit).2.remembered? unit (plainName name) = some id := by
  rcases resolve_cases loader name unit s with ⟨-, heq⟩ | ⟨id', hid', heq⟩ |
    ⟨u, ⟨found, s'⟩, -, hnone, -, hsearch, heq⟩
  · rw [heq] at h
    cases h
  · rw [heq] at h ⊢
    cases h
    exact hid'
  · rw [heq] at h ⊢
    cases h
    have hmoves := firstHit_searches_steady loader (plainName name) u s
    rw [hsearch] at hmoves
    have hnone' : s'.remembered? unit (plainName name) = none := by
      rw [remembered?, hmoves.resolved_eq]
      exact hnone
    change (List.find? _ (s'.resolved ++ [((unit, plainName name), id)])).map Prod.snd = some id
    rw [List.find?_append, Option.map_eq_none_iff.mp hnone', Option.none_or]
    simp

/-- A name that is remembered is resolved to its type. -/
theorem resolve_of_remembered? {loader : Loader} {name : String} {unit id : Nat} {s : Session}
    (hname : (plainName name).isEmpty = false)
    (h : s.remembered? unit (plainName name) = some id) :
    s.resolve loader name unit = (some id, s) := by
  unfold resolve
  simp only [hname, h, Bool.false_eq_true, if_false]

theorem plainName_isEmpty_of_resolve {loader : Loader} {name : String} {unit id : Nat} {s : Session}
    (h : (s.resolve loader name unit).1 = some id) : (plainName name).isEmpty = false := by
  by_contra hempty
  rw [Bool.not_eq_false] at hempty
  rw [resolve_of_isEmpty hempty] at h
  cases h

/-- **Stable hits.** Throughout a run, units and types keep their numbers and what they are, and a
type that is found in a module is found there again. A type that is found by its short key is found
by it again or never more. A name that was resolved to a type is always resolved to that type. -/
theorem hits_are_stable {loader : Loader} {s s₁ s₂ : Session} (h₁ : Run loader s s₁)
    (h₂ : Run loader s₁ s₂) :
    s.catalog.units <+: s₁.catalog.units ∧ s.catalog.decls <+: s₁.catalog.decls ∧
    (∀ module name id, s.catalog.find? module name = some id →
      s₁.catalog.find? module name = some id) ∧
    (∀ key id, s.catalog.unique? key = some id → s₁.catalog.unique? key = some id ∨
      s₁.catalog.unique? key = none ∧ s₂.catalog.unique? key = none) ∧
    ∀ name unit id s', s₁.resolve loader name unit = (some id, s') → Run loader s' s₂ →
      (s₂.resolve loader name unit).1 = some id := by
  have hkeeps := h₁.keeps
  refine ⟨hkeeps.units, hkeeps.index.decls, hkeeps.index.find, ?_, ?_⟩
  · intro key id hunique
    rcases hkeeps.index.unique key id hunique with hkept | hdropped
    · exact Or.inl hkept
    · exact Or.inr ⟨hdropped.1, (h₂.keeps.index.dropped key hdropped).1⟩
  · intro name unit id s' hresolve hrun
    have hid : (s₁.resolve loader name unit).1 = some id := by rw [hresolve]
    have hremembered := remembered?_of_resolve hid
    rw [hresolve] at hremembered
    rw [resolve_of_remembered? (plainName_isEmpty_of_resolve hid)
      (hrun.keeps.remembered? hremembered)]

/-- A session with a module that imports nothing, and a module with a type `Book`. -/
def oneModel : Session :=
  ({} : Session).addScanned [{ path := ⟨"api.rs"⟩, module := "crate::api" },
    { path := ⟨"a.rs"⟩, module := "crate::a::model", types := [⟨"Book", .enum ["Red"]⟩] }]

/-- A name keeps the type that its short key stood for, when a second module has come in with such a
type and the short key is lost. -/
theorem hits_are_stable_oneModel :
    oneModel.catalog.unique? "model::Book" = some 0 ∧
    (((oneModel.resolve .none "model::Book" 0).2.addScanned twoModels).catalog.unique?
      "model::Book" = none) ∧
    ((((oneModel.resolve .none "model::Book" 0).2.addScanned twoModels).resolve .none
      "model::Book" 0).1 = some 0) ∧
    ((((oneModel.resolve .none "model::Book" 0).2.addScanned twoModels).addScanned
      twoModels).catalog.unique? "model::Book" = none) := by
  have hresolve : Run .none oneModel (oneModel.resolve .none "model::Book" 0).2 :=
    .single (.resolve oneModel "model::Book" 0)
  have hscan (s : Session) : Run .none s (s.addScanned twoModels) :=
    .single (.addScanned s twoModels)
  have hstart : Run .none oneModel oneModel := .refl
  have hunique : oneModel.catalog.unique? "model::Book" = some 0 := by decide +kernel
  have hlost : ((oneModel.resolve .none "model::Book" 0).2.addScanned twoModels).catalog.unique?
      "model::Book" = none := by decide +kernel
  obtain ⟨-, -, -, hkey, -⟩ := hits_are_stable (hresolve.trans (hscan _)) (hscan _)
  obtain ⟨-, -, -, -, hname⟩ := hits_are_stable hstart (hresolve.trans (hscan _))
  have hfirst : oneModel.resolve .none "model::Book" 0 =
      (some 0, (oneModel.resolve .none "model::Book" 0).2) := Prod.ext (by decide +kernel) rfl
  refine ⟨hunique, hlost, hname "model::Book" 0 0 _ hfirst (hscan _), ?_⟩
  rcases hkey _ _ hunique with hkept | ⟨-, hgone⟩
  · rw [hlost] at hkept
    cases hkept
  · exact hgone

end Session

end ApiDocs
