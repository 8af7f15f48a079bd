import ApiDocs.Resolution
import Mathlib.Logic.Relation
import Mathlib.Tactic.Common

/-!
# What resolving does to a session

Resolving type names changes a session by small changes only: it reports, it remembers a resolved
name, it asks for a module that is not known, and it takes in a source that the loader gave.
`Change` lists them, and `resolve_changes` says that resolving is a run of such changes. A run as a
whole goes by steps: each reports something or resolves a type name. What every change keeps is
thereby kept by every run (`Steps.changes`).
-/

namespace ApiDocs

namespace Session

/-- A change that resolving a type name makes to a session. -/
inductive Change (loader : Loader) : Session → Session → Prop where
  /-- Something that is no request to the loader is reported. -/
  | note (s : Session) (events : Journal) (h : events.loads = []) : Change loader s (s.note events)
  /-- The type of a name is remembered. -/
  | remember (s : Session) (entry : (Nat × String) × Nat) :
    Change loader s { s with resolved := s.resolved ++ [entry] }
  /-- The loader is asked for a module that is not known. -/
  | ask (s : Session) (module : ModulePath) (h : module ∉ s.catalog.attempted) :
    Change loader s (s.ask module)
  /-- A source that the loader gave is taken in. -/
  | take (s : Session) (module : ModulePath) (given : List LoadedSource) (source : LoadedSource)
    (hgiven : loader.load module = .ok given) (hsource : source ∈ given) :
    Change loader s (s.takeSource module source)

/-- Any number of changes one after the other. -/
abbrev Changes (loader : Loader) : Session → Session → Prop :=
  Relation.ReflTransGen (Change loader)

/-! ## Loading modules -/

/-- Taking in sources that the loader gave is a run of changes. -/
theorem foldl_takeSource_changes {loader : Loader} {module : ModulePath}
    {given : List LoadedSource} (hgiven : loader.load module = .ok given)
    (sources : List LoadedSource) (hsub : ∀ source ∈ sources, source ∈ given) (s : Session) :
    Changes loader s (sources.foldl (takeSource module) s) := by
  induction sources generalizing s with
  | nil => exact .refl
  | cons source rest ih =>
    have hchange := Change.take s module given source hgiven (hsub source List.mem_cons_self)
    have hrest := ih fun x hx => hsub x (List.mem_cons_of_mem source hx)
    exact .head hchange (hrest (takeSource module s source))

/-- Making sure that a module is known. -/
theorem ensure_changes (loader : Loader) (module : ModulePath) (s : Session) :
    Changes loader s (s.ensure loader module) := by
  unfold ensure
  split
  · exact .refl
  · rename_i hasked
    have hchange : Change loader s (s.ask module) := .ask s module (by simpa using hasked)
    split
    · rename_i given hgiven
      exact .head hchange (foldl_takeSource_changes hgiven given (fun _ h => h) _)
    · rename_i error _
      exact .head hchange (.single (.note _ [.notLoaded module error] rfl))

/-- Making sure of modules one after the other. This is all that a search does to a session. -/
abbrev Moves (loader : Loader) : Session → Session → Prop :=
  Relation.ReflTransGen fun s s' => ∃ module, s' = s.ensure loader module

/-- Asking for modules is a run of changes. -/
theorem Moves.changes {loader : Loader} {s s' : Session} (h : Moves loader s s') :
    Changes loader s s' := by
  induction h with
  | refl => exact .refl
  | tail _ hmove ih =>
    obtain ⟨module, rfl⟩ := hmove
    exact ih.trans (ensure_changes loader module _)

/-! ## Searching -/

/-- A search that does nothing to a session but make sure of modules. -/
def Steady (loader : Loader) (search : Session → Option Nat × Session) : Prop :=
  ∀ s, Moves loader s (search s).2

/-- Looking for a name in a module asks for modules only. -/
theorem findIn_steady (loader : Loader) (module : ModulePath) (name : String) :
    Steady loader (findIn loader module name) := by
  intro s
  unfold findIn
  split
  · exact .refl
  · exact .single ⟨module, rfl⟩

/-- So does following an import. -/
theorem byImport_steady (loader : Loader) (i : Import) : Steady loader (byImport loader i) := by
  intro s
  unfold byImport
  split
  · exact findIn_steady loader _ _ s
  · exact .refl

theorem firstHit_steady {loader : Loader} {searches : List (Session → Option Nat × Session)}
    (h : ∀ search ∈ searches, Steady loader search) : Steady loader (firstHit searches) := by
  induction searches with
  | nil => exact fun s => .refl
  | cons search rest ih =>
    intro s
    have hfirst := h search List.mem_cons_self s
    have hrest := ih fun x hx => h x (List.mem_cons_of_mem search hx)
    unfold firstHit
    split
    · rename_i id s' heq
      rw [heq] at hfirst
      exact hfirst
    · rename_i s' heq
      rw [heq] at hfirst
      exact hfirst.trans (hrest s')

/-- All searches for a plain name ask for modules only. -/
theorem plainSearches_steady (loader : Loader) (name : String) (u : SourceUnit) :
    ∀ search ∈ plainSearches loader name u, Steady loader search := by
  intro search hmem
  simp only [plainSearches, List.mem_append, List.mem_cons, List.not_mem_nil, or_false,
    List.mem_map] at hmem
  rcases hmem with ((rfl | rfl) | ⟨i, -, rfl⟩) | ⟨i, -, rfl⟩
  · exact fun s => .refl
  · exact fun s => .refl
  · exact byImport_steady loader i
  · exact findIn_steady loader i.path name

theorem qualifiedSearches_steady (loader : Loader) (qualifier : ModulePath) (name : String)
    (u : SourceUnit) : ∀ search ∈ qualifiedSearches loader qualifier name u,
      Steady loader search := by
  intro search hmem
  unfold qualifiedSearches at hmem
  simp only at hmem
  split at hmem
  · rw [List.mem_singleton.mp hmem]
    exact findIn_steady loader _ name
  · split at hmem
    · rw [List.mem_singleton.mp hmem]
      exact findIn_steady loader _ name
    · simp only [List.mem_append, List.mem_cons, List.not_mem_nil, or_false, Option.mem_toList,
        Option.map_eq_some_iff] at hmem
      rcases hmem with (hkey | ⟨i, -, rfl⟩) | rfl | rfl
      · split at hkey
        · rw [List.mem_singleton.mp hkey]
          exact fun s => .refl
        · cases hkey
      · exact findIn_steady loader _ name
      · exact findIn_steady loader _ name
      · exact findIn_steady loader _ name

/-- **Searching.** Whatever a name looks like, the search for it asks for modules only. -/
theorem firstHit_searches_steady (loader : Loader) (name : String) (u : SourceUnit) :
    Steady loader (firstHit (searches loader name u)) := by
  apply firstHit_steady
  unfold searches
  split
  · exact qualifiedSearches_steady loader _ _ u
  · exact plainSearches_steady loader _ u

/-! ## Resolving -/

/-- The session after a search for a type name: what was found is remembered and reported. -/
def record (unit : Nat) (name : String) (u : SourceUnit) (result : Option Nat × Session) :
    Session :=
  match result with
  | (some id, s) => { s with resolved := s.resolved ++ [((unit, name), id)] }.note
      [.resolved name u.module (s.typePath id)]
  | (none, s) => s.note [.unresolved name u.module]

/-- An empty name is resolved to nothing. -/
theorem resolve_of_isEmpty {loader : Loader} {name : String} {s : Session}
    (h : (plainName name).isEmpty) (unit : Nat) : s.resolve loader name unit = (none, s) := by
  unfold resolve
  simp only [h, if_true]

/-- What resolving a type name comes to: there is nothing to search for or nowhere to search, or the
type is remembered, or it is searched for. -/
theorem resolve_cases (loader : Loader) (name : String) (unit : Nat) (s : Session) :
    (((plainName name).isEmpty ∨ s.catalog.units[unit]? = none) ∧
      s.resolve loader name unit = (none, s)) ∨
    (∃ id, s.remembered? unit (plainName name) = some id ∧
      s.resolve loader name unit = (some id, s)) ∨
    (∃ u result, (plainName name).isEmpty = false ∧
      s.remembered? unit (plainName name) = none ∧ s.catalog.units[unit]? = some u ∧
      firstHit (searches loader (plainName name) u) s = result ∧
      s.resolve loader name unit = (result.1, record unit (plainName name) u result)) := by
  unfold resolve
  simp only
  by_cases hempty : (plainName name).isEmpty
  · rw [if_pos hempty]
    exact Or.inl ⟨Or.inl hempty, rfl⟩
  · rw [if_neg hempty]
    cases hremembered : s.remembered? unit (plainName name) with
    | some id => exact Or.inr (Or.inl ⟨id, rfl, rfl⟩)
    | none =>
      cases hunit : s.catalog.units[unit]? with
      | none => exact Or.inl ⟨Or.inr rfl, rfl⟩
      | some u =>
        have hname : (plainName name).isEmpty = false := by simpa using hempty
        rcases hsearch : firstHit (searches loader (plainName name) u) s with ⟨_ | id, s'⟩
        · refine Or.inr (Or.inr ⟨u, (none, s'), hname, rfl, rfl, hsearch, ?_⟩)
          simp only [hsearch, record]
        · refine Or.inr (Or.inr ⟨u, (some id, s'), hname, rfl, rfl, hsearch, ?_⟩)
          simp only [hsearch, record]

/-- What is remembered and reported is no request to the loader. -/
theorem record_changes (loader : Loader) (unit : Nat) (name : String) (u : SourceUnit)
    (result : Option Nat × Session) : Changes loader result.2 (record unit name u result) := by
  obtain ⟨_ | id, s⟩ := result
  · exact .single (.note s [.unresolved name u.module] rfl)
  · refine .head (.remember s ((unit, name), id)) (.single ?_)
    exact .note _ [.resolved name u.module (s.typePath id)] rfl

/-- **Resolving.** Resolving a type name is a run of changes. -/
theorem resolve_changes (loader : Loader) (name : String) (unit : Nat) (s : Session) :
    Changes loader s (s.resolve loader name unit).2 := by
  rcases resolve_cases loader name unit s with ⟨-, heq⟩ | ⟨id, -, heq⟩ |
    ⟨u, result, -, -, -, hsearch, heq⟩
  · rw [heq]
  · rw [heq]
  · have hchanges := (firstHit_searches_steady loader (plainName name) u s).changes
    rw [hsearch] at hchanges
    rw [heq]
    exact hchanges.trans (record_changes loader unit (plainName name) u result)

/-! ## Runs -/

/-- A step of a run. -/
inductive Step (loader : Loader) : Session → Session → Prop where
  /-- Something that is no request to the loader is reported. -/
  | note (s : Session) (events : Journal) (h : events.loads = []) : Step loader s (s.note events)
  /-- A type name is resolved. -/
  | resolve (s : Session) (name : String) (unit : Nat) :
    Step loader s (s.resolve loader name unit).2

/-- Any number of steps one after the other. -/
abbrev Steps (loader : Loader) : Session → Session → Prop :=
  Relation.ReflTransGen (Step loader)

/-- **Steps.** A run of steps is a run of changes. -/
theorem Steps.changes {loader : Loader} {s s' : Session} (h : Steps loader s s') :
    Changes loader s s' := by
  induction h with
  | refl => exact .refl
  | tail _ hstep ih =>
    cases hstep with
    | note events hevents => exact ih.tail (.note _ events hevents)
    | resolve name unit => exact ih.trans (resolve_changes loader name unit _)

end Session

/-! ## Sources -/

/-- The units of a source that a loader gave. A malformed one has none. -/
def LoadedSource.units (x : LoadedSource) : List SourceUnit :=
  (Source.parseUnits? x.path x.module x.content).getD []

namespace Catalog

/-- Takes in a source, unless its file was read before. -/
def take (c : Catalog) (x : LoadedSource) : Catalog :=
  if c.hasFile x.path then c
  else { c with files := c.files ++ [x.path] }.addUnits x.units

/-- A source whose file was read changes nothing. -/
theorem take_of_hasFile {c : Catalog} {x : LoadedSource} (h : c.hasFile x.path) :
    c.take x = c :=
  if_pos h

/-- A source whose file was not read marks it as read and adds its units. -/
theorem take_of_not_hasFile {c : Catalog} {x : LoadedSource} (h : ¬ c.hasFile x.path) :
    c.take x = { c with files := c.files ++ [x.path] }.addUnits x.units :=
  if_neg h

end Catalog

namespace Session

/-- What taking in a source means for the catalog. -/
theorem takeSource_catalog (module : ModulePath) (s : Session) (source : LoadedSource) :
    (takeSource module s source).catalog = s.catalog.take source := by
  unfold takeSource
  by_cases h : s.catalog.hasFile source.path
  · rw [if_pos h, Catalog.take_of_hasFile h]
  · rw [if_neg h, Catalog.take_of_not_hasFile h]
    simp only [parse, LoadedSource.units]
    cases Source.parseUnits? source.path source.module source.content with
    | none => rfl
    | some us => rfl

theorem takeSource_resolved (module : ModulePath) (s : Session) (x : LoadedSource) :
    (takeSource module s x).resolved = s.resolved := by
  unfold takeSource
  split
  · rfl
  · simp only [parse]
    split
    · rename_i heq
      rw [← (Prod.mk.inj heq).2]
      rfl
    · rename_i heq
      rw [← (Prod.mk.inj heq).2]
      rfl

/-- What was reported stays in the journal when a source is taken in. -/
theorem takeSource_journal_isPrefix (module : ModulePath) (s : Session) (x : LoadedSource) :
    s.journal <+: (takeSource module s x).journal := by
  unfold takeSource
  split
  · exact List.prefix_rfl
  · simp only [parse]
    split
    · rename_i heq
      rw [← (Prod.mk.inj heq).2]
      exact (List.prefix_append _ _).trans (List.prefix_append _ _)
    · rename_i heq
      rw [← (Prod.mk.inj heq).2]
      exact (List.prefix_append _ _).trans (List.prefix_append _ _)

end Session

end ApiDocs
