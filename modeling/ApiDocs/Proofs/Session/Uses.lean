import ApiDocs.Proofs.Session.Requests
import ApiDocs.Proofs.Source.Names

/-!
# Uses of a session

What a session may be used for, each use from its beginning to its end: sources are scanned, modules
are asked for, names are resolved, types are expanded and directive lines are applied. `Use` lists
the uses, and what five of their parts keep is kept by all of them (`Use.induction`). So in every
session that is used from the start, the index of the catalog is right, the modules of the units are
marked and types are named by identifiers (`Uses.inOrder`).
-/

namespace ApiDocs

namespace Session

/-- A use of a session. -/
inductive Use (loader : Loader) : Session → Session → Prop where
  /-- Something that is no request to the loader is reported. -/
  | note (s : Session) (events : Journal) (h : events.loads = []) : Use loader s (s.note events)
  /-- The units of a source are added as scanned ones. -/
  | scan (s : Session) (source : LoadedSource) : Use loader s (s.addScanned source.units)
  /-- A folder is indexed, as far as its files can be read. -/
  | index (s : Session) (t : FileTree) (folder root : FilePath) :
    Use loader s (s.index t folder root).2
  /-- A module is asked for. -/
  | ensure (s : Session) (module : ModulePath) : Use loader s (s.ensure loader module)
  /-- A type name is resolved. -/
  | resolve (s : Session) (name : String) (unit : Nat) :
    Use loader s (s.resolve loader name unit).2
  /-- A type is expanded. -/
  | expand (s : Session) (id : Nat) : Use loader s (s.expand loader id).2
  /-- The type of a name is expanded. -/
  | expandNamed (s : Session) (name : String) (unit : Nat) :
    Use loader s (s.expandNamed loader name unit).2
  /-- A directive line is applied to a document. -/
  | applyLine (s : Session) (unit : Nat) (operation line : String) (doc : Document) :
    Use loader s (Directive.applyLine (some ⟨loader, unit⟩) operation line doc s).2

/-- Any number of uses one after the other. -/
abbrev Uses (loader : Loader) : Session → Session → Prop :=
  Relation.ReflTransGen (Use loader)

variable {loader : Loader} {s s' : Session}

/-- A use is an act, so what a session has found is kept. -/
theorem Use.act (h : Use loader s s') : Act loader s s' := by
  cases h with
  | note events hevents => exact .moment (.change (.note s events hevents))
  | scan source => exact .addScanned s source.units
  | index t folder root => exact .index s t folder root
  | ensure module => exact .ensure s module
  | resolve name unit => exact .resolve s name unit
  | expand id => exact .expand s id
  | expandNamed name unit => exact .expandNamed s name unit
  | applyLine unit operation line doc => exact .applyLine s unit operation line doc

/-- A session keeps what it has found while it is used. -/
theorem Uses.keeps (h : Uses loader s s') : Keeps s s' := by
  induction h with
  | refl => exact .refl s
  | tail _ huse ih => exact ih.trans huse.act.moments.keeps

/-! ## What is kept -/

/-- What reports and resolved names keep is kept by a run of steps. -/
theorem Steps.induction {P : Session → Prop}
    (hnote : ∀ (s : Session) (events : Journal), P s → P (s.note events))
    (hresolve : ∀ (s : Session) (name : String) (unit : Nat), P s →
      P (s.resolve loader name unit).2)
    (h : Steps loader s s') (hs : P s) : P s' := by
  induction h with
  | refl => exact hs
  | tail _ hstep ih =>
    cases hstep with
    | note events _ => exact hnote _ events ih
    | resolve name unit => exact hresolve _ name unit ih

/-- What is kept by reports, by scanned sources, by files that are marked as read, by requests for
modules and by resolved names is kept by every use. -/
theorem Use.induction {P : Session → Prop}
    (hnote : ∀ (s : Session) (events : Journal), P s → P (s.note events))
    (hscan : ∀ (s : Session) (source : LoadedSource), P s → P (s.addScanned source.units))
    (hread : ∀ (s : Session) (path : FilePath), P s → P (s.markRead path))
    (hensure : ∀ (s : Session) (module : ModulePath), P s → P (s.ensure loader module))
    (hresolve : ∀ (s : Session) (name : String) (unit : Nat), P s →
      P (s.resolve loader name unit).2)
    (h : Use loader s s') (hs : P s) : P s' := by
  cases h with
  | note events _ => exact hnote s events hs
  | scan source => exact hscan s source hs
  | index t folder root =>
    refine index_induction (fun s events _ h => hnote s events h) ?_ hs t folder root
    intro s source us hus h
    have hunits : source.units = us := by rw [LoadedSource.units, hus, Option.getD_some]
    rw [← hunits]
    exact hscan _ source (hread s source.path h)
  | ensure module => exact hensure s module hs
  | resolve name unit => exact hresolve s name unit hs
  | expand id => exact (expand_steps loader id s).induction hnote hresolve hs
  | expandNamed name unit =>
    exact (expandNamed_steps loader name unit s).induction hnote hresolve hs
  | applyLine unit operation line doc =>
    have hsteps := Directive.applyLine_steps ⟨loader, unit⟩ operation line doc s
    exact hsteps.induction hnote hresolve hs

/-! ## Sessions in order -/

/-- Whether a session is one that uses lead to, as far as its catalog is concerned. -/
structure InOrder (s : Session) : Prop where
  /-- The index of the catalog is right. -/
  indexed : s.catalog.IsIndexed
  /-- The modules of the units are marked. -/
  marked : s.UnitsAreMarked
  /-- Types are named by identifiers. -/
  named : ∀ u ∈ s.catalog.units, ∀ t ∈ u.types, Text.isIdentifier t.name = true

theorem inOrder_empty : ({} : Session).InOrder :=
  ⟨Catalog.empty_isIndexed, nofun, nofun⟩

/-- A session stays in order when the units of a source are scanned. -/
theorem InOrder.addScanned (h : s.InOrder) (source : LoadedSource) :
    (s.addScanned source.units).InOrder := by
  refine ⟨Catalog.addUnits_isIndexed h.indexed _, h.marked.addScanned _, fun u hu t ht => ?_⟩
  have hunits : (s.addScanned source.units).catalog.units = s.catalog.units ++ source.units :=
    (Catalog.addUnits_frame _ _).2.1
  rw [hunits] at hu
  rcases List.mem_append.mp hu with hold | hnew
  · exact h.named u hold t ht
  · exact LoadedSource.isIdentifier_of_mem_types hnew ht

/-- A session stays in order when a module is asked for. -/
theorem InOrder.ensure (h : s.InOrder) (loader : Loader) (module : ModulePath) :
    (s.ensure loader module).InOrder := by
  have hnamed : ∀ (sources : List LoadedSource) (c : Catalog),
      (∀ u ∈ c.units, ∀ t ∈ u.types, Text.isIdentifier t.name = true) →
        ∀ u ∈ (sources.foldl Catalog.take c).units, ∀ t ∈ u.types,
          Text.isIdentifier t.name = true := by
    intro sources
    induction sources with
    | nil => exact fun _ hc => hc
    | cons x rest ih =>
      intro c hc
      refine ih (c.take x) fun u hu t ht => ?_
      rcases Catalog.mem_units_take.mp hu with hold | ⟨-, hnew⟩
      · exact hc u hold t ht
      · exact LoadedSource.isIdentifier_of_mem_types hnew ht
  refine ⟨?_, h.marked.ensure loader module, ?_⟩
  · rw [ensure_catalog]
    exact Catalog.ensure_isIndexed h.indexed
  · rw [ensure_catalog]
    by_cases hmodule : module ∈ s.catalog.attempted
    · rw [Catalog.ensure_of_mem hmodule]
      exact h.named
    · rw [Catalog.ensure_of_notMem hmodule]
      exact hnamed _ _ h.named

/-- A session stays in order while modules are asked for. -/
theorem InOrder.moves (h : s.InOrder) (hmoves : Moves loader s s') : s'.InOrder := by
  induction hmoves with
  | refl => exact h
  | tail _ hmove ih =>
    obtain ⟨module, rfl⟩ := hmove
    exact ih.ensure loader module

/-- A session stays in order when a name is resolved. -/
theorem InOrder.resolve (h : s.InOrder) (loader : Loader) (name : String) (unit : Nat) :
    (s.resolve loader name unit).2.InOrder := by
  obtain ⟨s', hmoves, hcatalog⟩ := exists_moves_of_resolve loader name unit s
  obtain ⟨hindexed, hmarked, hnamed⟩ := h.moves hmoves
  refine ⟨?_, resolve_unitsAreMarked h.marked loader name unit, ?_⟩
  · rw [hcatalog]
    exact hindexed
  · rw [hcatalog]
    exact hnamed

/-- **Uses.** A session stays in order in every use. -/
theorem Use.inOrder (h : Use loader s s') (hs : s.InOrder) : s'.InOrder :=
  h.induction (P := InOrder) (fun _ _ h => ⟨h.indexed, h.marked, h.named⟩)
    (fun _ source h => h.addScanned source) (fun _ _ h => ⟨h.indexed, h.marked, h.named⟩)
    (fun _ module h => h.ensure loader module) (fun _ name unit h => h.resolve loader name unit) hs

/-- **Invariant.** A session that is used from the start is in order. -/
theorem Uses.inOrder (h : Uses loader {} s) : s.InOrder := by
  induction h with
  | refl => exact inOrder_empty
  | tail _ huse ih => exact huse.inOrder ih

end Session

end ApiDocs
