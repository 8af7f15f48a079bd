import ApiDocs.Proofs.Catalog.Built
import ApiDocs.Proofs.Resolution.Alongside
import ApiDocs.Proofs.Resolution.Places

/-!
# What a type name denotes after others were resolved

Resolving a type name may load modules, and so change what later names denote. The type of a name is
the one with its short key, or else the one at the first of its places that has one
(`denoted_eq_or`). Loading modules may change which type has the short key, if any. What the places
have stays the same, as long as the loader gives what was loaded as it came in
(`placed_eq_of_whole`). So the short key is all that makes a difference (`resolve_after_resolve`).
-/

namespace ApiDocs

namespace Session

/-- The path of the type that a name in a unit is resolved to. -/
def denoted (loader : Loader) (name : String) (unit : Nat) (s : Session) : Option ModulePath :=
  (s.resolve loader name unit).1.map (s.resolve loader name unit).2.typePath

/-- The path of the type that alone has the short key of a name in a unit. -/
def keyed (name : String) (u : SourceUnit) (s : Session) : Option ModulePath :=
  (keyOf? name u).bind s.catalog.keyPath?

/-- The path of the type at the first place of a name in a unit that has one. -/
def placed (loader : Loader) (name : String) (u : SourceUnit) (s : Session) : Option ModulePath :=
  (found (searchPlaces loader (places name u) s)).map fun p => p.1 ++ "::" ++ p.2

/-! ## Sessions before the first name -/

/-- Making sure of a module resolves no name. -/
theorem ensure_resolved (loader : Loader) (module : ModulePath) (s : Session) :
    (s.ensure loader module).resolved = s.resolved := by
  have hfold : ∀ (sources : List LoadedSource) (s : Session),
      (sources.foldl (takeSource module) s).resolved = s.resolved := by
    intro sources
    induction sources with
    | nil => exact fun _ => rfl
    | cons x rest ih => exact fun s => (ih _).trans (takeSource_resolved module s x)
  unfold ensure
  split
  · rfl
  · simp only
    split
    · exact hfold _ _
    · rfl

theorem Built.resolved_eq_nil {s : Session} (h : Built s) : s.resolved = [] := by
  induction h with
  | empty => rfl
  | addScanned us _ ih => exact ih
  | index t folder root _ ih =>
    exact index_induction (P := fun s => s.resolved = []) (fun _ _ _ h => h)
      (fun _ _ _ _ h => h) ih t folder root
  | ensure loader module _ ih => exact (ensure_resolved loader module _).trans ih

/-- Whether the modules of all units are marked. -/
def UnitsAreMarked (s : Session) : Prop :=
  ∀ u ∈ s.catalog.units, u.module ∈ s.catalog.attempted

theorem UnitsAreMarked.addScanned {s : Session} (h : s.UnitsAreMarked) (us : List SourceUnit) :
    (s.addScanned us).UnitsAreMarked := by
  intro u hu
  have hunits : (s.addScanned us).catalog.units = s.catalog.units ++ us :=
    (Catalog.addUnits_frame _ us).2.1
  have hattempted : (s.addScanned us).catalog.attempted =
      s.catalog.attempted ++ us.map SourceUnit.module := Catalog.attempted_addUnits _ us
  rw [hunits] at hu
  rw [hattempted]
  rcases List.mem_append.mp hu with hold | hnew
  · exact List.mem_append_left _ (h u hold)
  · exact List.mem_append_right _ (List.mem_map_of_mem hnew)

/-- The modules of units stay marked when one is asked for. -/
theorem UnitsAreMarked.ensure {s : Session} (h : s.UnitsAreMarked) (loader : Loader)
    (module : ModulePath) : (s.ensure loader module).UnitsAreMarked := by
  have htake : ∀ (sources : List LoadedSource) (c : Catalog),
      (∀ u ∈ c.units, u.module ∈ c.attempted) →
        ∀ u ∈ (sources.foldl Catalog.take c).units,
          u.module ∈ (sources.foldl Catalog.take c).attempted := by
    intro sources
    induction sources with
    | nil => exact fun _ hc => hc
    | cons x rest ih =>
      intro c hc
      refine ih (c.take x) fun u hu => ?_
      rcases Catalog.mem_units_take.mp hu with hold | ⟨hnew, hmem⟩
      · exact Catalog.mem_attempted_take.mpr (Or.inl (hc u hold))
      · exact Catalog.mem_attempted_take.mpr (Or.inr ⟨hnew, u, hmem, rfl⟩)
  rw [UnitsAreMarked, ensure_catalog]
  by_cases hmodule : module ∈ s.catalog.attempted
  · rw [Catalog.ensure_of_mem hmodule]
    exact h
  · rw [Catalog.ensure_of_notMem hmodule]
    exact htake _ _ fun u hu => Catalog.mem_attempted_ask.mpr (Or.inl (h u hu))

/-- In a session that was built, the modules of all units are marked. -/
theorem Built.unitsAreMarked {s : Session} (h : Built s) : s.UnitsAreMarked := by
  induction h with
  | empty => exact nofun
  | addScanned us _ ih => exact ih.addScanned us
  | index t folder root _ ih =>
    exact index_induction (P := UnitsAreMarked) (fun _ _ _ h => h)
      (fun s source us _ h => UnitsAreMarked.addScanned (s := s.markRead source.path) h us) ih t
      folder root
  | ensure loader module _ ih => exact ih.ensure loader module

/-! ## The type of a name -/

theorem typePath_eq_some {s : Session} {id : Nat} {d : TypeDecl}
    (hd : s.catalog.decls[id]? = some d) : s.typePath id = d.path := by
  rw [typePath, hd]
  rfl

/-- Recording what was found does not change the catalog. -/
theorem record_catalog (unit : Nat) (name : String) (u : SourceUnit)
    (result : Option Nat × Session) : (record unit name u result).catalog = result.2.catalog := by
  obtain ⟨_ | id, s⟩ := result
  · rfl
  · rfl

/-- What is found is a declared type. -/
theorem isSome_found {loader : Loader} {s : Session} (hindexed : s.catalog.IsIndexed)
    (hmarked : s.UnitsAreMarked) {ps : List (ModulePath × String)} {id : Nat}
    (h : (searchPlaces loader ps s).1 = some id) :
    ∃ d, (searchPlaces loader ps s).2.catalog.decls[id]? = some d := by
  induction ps generalizing s with
  | nil => cases h
  | cons p rest ih =>
    have hfind := findIn_eq loader hmarked hindexed p.1 p.2
    have hindexed' : (s.ensure loader p.1).catalog.IsIndexed := by
      rw [ensure_catalog]
      exact Catalog.ensure_isIndexed hindexed
    rw [searchPlaces, List.map_cons] at h ⊢
    cases hplace : (s.ensure loader p.1).catalog.find? p.1 p.2 with
    | none =>
      rw [hplace] at hfind
      rw [firstHit_cons_of_none hfind] at h ⊢
      exact ih hindexed' (hmarked.ensure loader p.1) h
    | some other =>
      rw [hplace] at hfind
      rw [firstHit_cons_of_some hfind] at h ⊢
      obtain ⟨d, hd, -⟩ := (hindexed'.find_iff p.1 p.2 other).mp hplace
      exact ⟨d, Option.some.inj h ▸ hd⟩

/-- **Denotation.** A name that is not remembered denotes the type with its short key, or else the
one at the first of its places that has one. -/
theorem denoted_eq_or (loader : Loader) {s : Session} {name : String} {unit : Nat} {u : SourceUnit}
    (hindexed : s.catalog.IsIndexed) (hmarked : s.UnitsAreMarked)
    (hname : (plainName name).isEmpty = false) (hu : s.catalog.units[unit]? = some u)
    (hremembered : s.remembered? unit (plainName name) = none) :
    s.denoted loader name unit =
      (s.keyed (plainName name) u).or (s.placed loader (plainName name) u) := by
  have hsearch := firstHit_searches loader (hmarked u (List.mem_of_getElem? hu))
    (plainName name)
  rcases resolve_cases loader name unit s with ⟨hnothing, -⟩ | ⟨id, hid, -⟩ |
    ⟨u', result, -, -, hu', hresult, heq⟩
  · rw [hname, hu] at hnothing
    simp at hnothing
  · rw [hremembered] at hid
    cases hid
  · rw [hu] at hu'
    cases hu'
    have hdenoted : s.denoted loader name unit = result.1.map result.2.typePath := by
      rw [denoted, heq]
      cases hfound : result.1 with
      | none => rfl
      | some id => rw [Option.map_some, Option.map_some, typePath, record_catalog, typePath]
    rw [hdenoted, ← hresult, hsearch]
    cases hkey : (keyOf? (plainName name) u).bind s.catalog.unique? with
    | some id =>
      -- the short key is found, and so is the type that has it
      obtain ⟨key, hkeyOf, hunique⟩ := Option.bind_eq_some_iff.mp hkey
      obtain ⟨⟨d, hd, -⟩, -⟩ := (hindexed.unique_iff key id).mp hunique
      have hkeyed : s.keyed (plainName name) u = some d.path := by
        rw [keyed, hkeyOf, Option.bind_some, TypeIndex.keyPath?, hunique, Option.bind_some, hd]
        rfl
      rw [hkeyed, Option.map_some, typePath_eq_some hd]
      rfl
    | none =>
      have hkeyed : s.keyed (plainName name) u = none := by
        rw [keyed]
        cases hkeyOf : keyOf? (plainName name) u with
        | none => rfl
        | some key =>
          rw [hkeyOf, Option.bind_some] at hkey
          rw [Option.bind_some, TypeIndex.keyPath?, hkey]
          rfl
      rw [hkeyed, Option.none_or, placed, found]
      simp only
      cases hplaces : (searchPlaces loader (places (plainName name) u) s).1 with
      | none => rfl
      | some id =>
        obtain ⟨d, hd⟩ := isSome_found hindexed hmarked hplaces
        rw [Option.map_some, typePath_eq_some hd, Option.bind_some, hd]
        rfl

/-! ## Places side by side -/

/-- Searches of the same places in sessions side by side find the same. -/
theorem found_searchPlaces_eq {loader : Loader} {start : Catalog} {extra : Extra}
    (hwhole : loader.Whole start extra) (hout : extra.Outside start)
    (ps : List (ModulePath × String)) {a b : Session}
    (h : a.catalog.Alongside loader extra b.catalog)
    (hasked : ∀ m ∈ (searchPlaces loader ps b).2.catalog.attempted, m ∈ extra.asked) :
    found (searchPlaces loader ps a) = found (searchPlaces loader ps b) := by
  induction ps generalizing a b with
  | nil => rfl
  | cons p rest ih =>
    have hfinda := findIn_eq loader h.left.attempted h.left.indexed p.1 p.2
    have hfindb := findIn_eq loader h.right.attempted h.right.indexed p.1 p.2
    -- the place is searched after its module was loaded, in both
    have hmoves : Moves loader (b.ensure loader p.1) (searchPlaces loader (p :: rest) b).2 := by
      rw [searchPlaces, List.map_cons]
      cases hplace : (b.ensure loader p.1).catalog.find? p.1 p.2 with
      | none =>
        rw [hplace] at hfindb
        rw [firstHit_cons_of_none hfindb]
        exact searchPlaces_moves loader rest _
      | some id =>
        rw [hplace] at hfindb
        rw [firstHit_cons_of_some hfindb]
    have hnext : (a.ensure loader p.1).catalog.Alongside loader extra
        (b.ensure loader p.1).catalog := by
      rw [ensure_catalog, ensure_catalog]
      refine h.ensure hwhole hout fun m hm => hasked m ?_
      rw [← ensure_catalog] at hm
      exact hmoves.changes.loads.attempted m hm
    have hmodule : p.1 ∈ (a.ensure loader p.1).catalog.attempted := by
      rw [ensure_catalog]
      exact Catalog.mem_attempted_ensure loader p.1 _
    have hsame := hnext.knows_iff hwhole hout hmodule p.2
    rw [← Catalog.find?_isSome_iff hnext.left.indexed, ← Catalog.find?_isSome_iff
      hnext.right.indexed] at hsame
    rw [searchPlaces, searchPlaces, List.map_cons]
    rw [searchPlaces, List.map_cons] at hasked
    cases hplacea : (a.ensure loader p.1).catalog.find? p.1 p.2 with
    | none =>
      have hplaceb : (b.ensure loader p.1).catalog.find? p.1 p.2 = none := by
        rw [hplacea] at hsame
        simpa using hsame
      rw [hplacea] at hfinda
      rw [hplaceb] at hfindb
      rw [firstHit_cons_of_none hfindb] at hasked
      rw [firstHit_cons_of_none hfinda, firstHit_cons_of_none hfindb]
      exact ih hnext hasked
    | some id =>
      obtain ⟨id', hplaceb⟩ := Option.isSome_iff_exists.mp (hsame.mp (by rw [hplacea]; rfl))
      rw [hplacea] at hfinda
      rw [hplaceb] at hfindb
      rw [firstHit_cons_of_some hfinda, firstHit_cons_of_some hfindb,
        found_find? hnext.left.indexed hplacea rfl, found_find? hnext.right.indexed hplaceb rfl]

/-- Resolving a name makes sure of modules, and otherwise leaves the catalog as it is. -/
theorem exists_moves_of_resolve (loader : Loader) (name : String) (unit : Nat) (s : Session) :
    ∃ s', Moves loader s s' ∧ (s.resolve loader name unit).2.catalog = s'.catalog := by
  rcases resolve_cases loader name unit s with ⟨-, heq⟩ | ⟨id, -, heq⟩ |
    ⟨u, result, -, -, -, hresult, heq⟩
  · exact ⟨s, .refl, by rw [heq]⟩
  · exact ⟨s, .refl, by rw [heq]⟩
  · refine ⟨result.2, ?_, by rw [heq, record_catalog]⟩
    rw [← hresult]
    exact firstHit_searches_steady loader (plainName name) u s

/-- The extra units of a session are in extra files. -/
theorem extra_outside {s s₁ : Session} (h : s.catalog.Loads s₁.catalog) (s₂ : Session) :
    (s.extra s₁ s₂).Outside s.catalog := by
  obtain ⟨more, hunits, hmore⟩ := h.units
  refine ⟨?_, ?_, fun p hp => hp.2⟩
  · intro u hu
    rw [extra, hunits, List.drop_left] at hu
    exact ⟨(hmore u hu).2, (hmore u hu).1⟩
  · rintro p q hsame ⟨hread, hnew⟩
    exact ⟨Catalog.hasFile_of_same hsame hread,
      fun hold => hnew (Catalog.hasFile_of_same (FilePath.same_comm.mp hsame) hold)⟩

/-- A session is alongside what it becomes while modules are loaded. -/
theorem alongside_of_moves {loader : Loader} {s s' s₂ : Session} (hindexed : s.catalog.IsIndexed)
    (hmarked : s.UnitsAreMarked) (hwhole : loader.Whole s.catalog (s.extra s' s₂))
    (hlater : s'.catalog.Loads s₂.catalog) (hmoves : Moves loader s s') :
    s.catalog.Alongside loader (s.extra s' s₂) s'.catalog := by
  have hout := extra_outside hmoves.changes.loads s₂
  -- along the way to the later session, which bounds what may come in
  have hall : ∀ {m : Session}, Moves loader s m → Moves loader m s' →
      s.catalog.Alongside loader (s.extra s' s₂) m.catalog := by
    intro m hm
    induction hm with
    | refl =>
      intro hrest
      exact .refl hwhole hout hindexed hmarked fun m hm =>
        hlater.attempted m (hrest.changes.loads.attempted m hm)
    | tail _ hmove ih =>
      intro hrest
      have hbefore := ih (.head hmove hrest)
      obtain ⟨module, rfl⟩ := hmove
      have hloads := hrest.changes.loads
      rw [ensure_catalog] at hloads ⊢
      refine hbefore.ensure_right hwhole hout ?_ ?_ ?_
      · exact fun m hm => hlater.attempted m (hloads.attempted m hm)
      · intro u hu
        obtain ⟨more, hunits, -⟩ := hmoves.changes.loads.units
        have hmem := hloads.mem_units hu
        rw [extra, hunits, List.drop_left]
        rw [hunits] at hmem
        exact List.mem_append.mp hmem
      · intro p hp
        by_cases hold : s.catalog.hasFile p
        · exact Or.inl hold
        · exact Or.inr ⟨hloads.files p hp, hold⟩
  exact hall hmoves .refl

/-- **Places.** What is at the places of a name does not depend on what was resolved before, as long
as the loader gives what was loaded as it came in. -/
theorem placed_eq_of_whole {loader : Loader} {s : Session} {name name₁ : String} {unit₁ : Nat}
    {u : SourceUnit} (hindexed : s.catalog.IsIndexed) (hmarked : s.UnitsAreMarked)
    (hwhole : loader.Whole s.catalog (s.extra (s.resolve loader name₁ unit₁).2
      (searchPlaces loader (places name u) (s.resolve loader name₁ unit₁).2).2)) :
    (s.resolve loader name₁ unit₁).2.placed loader name u = s.placed loader name u := by
  obtain ⟨s', hmoves, hcatalog⟩ := exists_moves_of_resolve loader name₁ unit₁ s
  generalize hs₁ : (s.resolve loader name₁ unit₁).2 = s₁ at *
  generalize hs₂ : (searchPlaces loader (places name u) s₁).2 = s₂ at *
  have hsecond : s'.catalog.Loads s₂.catalog := by
    rw [← hcatalog, ← hs₂]
    exact (searchPlaces_moves loader _ s₁).changes.loads
  have hextra : s.extra s₁ s₂ = s.extra s' s₂ := by rw [extra, extra, hcatalog]
  rw [hextra] at hwhole
  have halongside := alongside_of_moves hindexed hmarked hwhole hsecond hmoves
  rw [← hcatalog] at halongside
  have hfound := found_searchPlaces_eq hwhole (extra_outside hmoves.changes.loads s₂)
    (places name u) halongside fun m hm => by rw [hs₂] at hm; exact hm
  rw [placed, placed, hfound]

/-! ## Names that were resolved before -/

/-- A name counts without blanks around it and without `::` before it. -/
theorem resolve_congr {name name' : String} (h : plainName name = plainName name') (loader : Loader)
    (unit : Nat) (s : Session) : s.resolve loader name unit = s.resolve loader name' unit := by
  unfold resolve
  rw [h]

theorem Moves.resolved_eq {loader : Loader} {s s' : Session} (h : Moves loader s s') :
    s'.resolved = s.resolved := by
  induction h with
  | refl => rfl
  | tail _ hmove ih =>
    obtain ⟨module, rfl⟩ := hmove
    rw [ensure_resolved, ih]

/-- What is remembered after a first name was resolved. -/
theorem remembered?_resolve (loader : Loader) {s : Session} (hs : s.resolved = []) (name : String)
    (unit : Nat) (other : Nat × String) :
    (s.resolve loader name unit).2.remembered? other.1 other.2 =
      if (unit, plainName name) = other then (s.resolve loader name unit).1 else none := by
  have hnone : ∀ s' : Session, s'.resolved = [] → s'.remembered? other.1 other.2 = none := by
    intro s' hs'
    rw [remembered?, hs']
    rfl
  rcases resolve_cases loader name unit s with ⟨-, heq⟩ | ⟨id, hid, -⟩ |
    ⟨u, ⟨_ | id, s'⟩, -, -, -, hresult, heq⟩
  · rw [heq, hnone s hs, ite_self]
  · rw [remembered?, hs] at hid
    cases hid
  · have hmoves := firstHit_searches_steady loader (plainName name) u s
    rw [hresult] at hmoves
    have hresolved := hmoves.resolved_eq.trans hs
    rw [heq, ite_self]
    exact hnone _ hresolved
  · have hmoves := firstHit_searches_steady loader (plainName name) u s
    rw [hresult] at hmoves
    have hresolved := hmoves.resolved_eq.trans hs
    rw [heq, remembered?, record]
    have hone : ({ s' with resolved := s'.resolved ++ [((unit, plainName name), id)] }.note
        [.resolved (plainName name) u.module (s'.typePath id)]).resolved =
          [((unit, plainName name), id)] := by
      show s'.resolved ++ _ = _
      rw [hresolved, List.nil_append]
    rw [hone, List.find?_singleton]
    by_cases hsame : (unit, plainName name) = other
    · rw [if_pos hsame]
      simp [hsame]
    · rw [if_neg hsame]
      have hbeq : ((unit, plainName name) == (other.1, other.2)) = false := by
        rw [beq_eq_false_iff_ne]
        exact hsame
      simp [hbeq]

/-- Units keep their numbers. -/
theorem resolve_units_eq {s : Session} {unit : Nat} {u : SourceUnit}
    (hu : s.catalog.units[unit]? = some u) (loader : Loader) (name₁ : String) (unit₁ : Nat) :
    (s.resolve loader name₁ unit₁).2.catalog.units[unit]? = some u :=
  (resolve_changes loader name₁ unit₁ s).grows.getElem?_units hu

/-- A name that was resolved to a type before keeps it. -/
theorem denoted_resolve_self {loader : Loader} {s : Session} (hs : s.resolved = []) {name : String}
    {unit : Nat} (hsome : (s.denoted loader name unit).isSome) :
    (s.resolve loader name unit).2.denoted loader name unit = s.denoted loader name unit := by
  have hremembered := remembered?_resolve loader hs name unit (unit, plainName name)
  rw [if_pos rfl] at hremembered
  rw [denoted, Option.isSome_map] at hsome
  obtain ⟨id, hid⟩ := Option.isSome_iff_exists.mp hsome
  rw [hid] at hremembered
  rcases resolve_cases loader name unit (s.resolve loader name unit).2 with ⟨hnothing, -⟩ |
    ⟨id', hid', heq⟩ | ⟨u, result, -, hnone, -⟩
  · -- there was something to search for the first time
    rcases resolve_cases loader name unit s with ⟨-, heq⟩ | ⟨_, hold, -⟩ |
      ⟨u, result, hname, -, hu, -, -⟩
    · rw [heq] at hid
      cases hid
    · rw [remembered?, hs] at hold
      cases hold
    · rw [hname, resolve_units_eq hu loader name unit] at hnothing
      simp at hnothing
  · rw [hremembered] at hid'
    rw [denoted, heq, denoted, hid, ← Option.some.inj hid']
  · rw [hremembered] at hnone
    cases hnone

/-! ## The short key makes the difference -/

/-- The index stays right when a name is resolved. -/
theorem resolve_isIndexed {s : Session} (h : s.catalog.IsIndexed) (loader : Loader)
    (name : String) (unit : Nat) : (s.resolve loader name unit).2.catalog.IsIndexed :=
  (resolve_changes loader name unit s).isIndexed h

theorem Moves.unitsAreMarked {loader : Loader} {s s' : Session} (h : Moves loader s s')
    (hs : s.UnitsAreMarked) : s'.UnitsAreMarked := by
  induction h with
  | refl => exact hs
  | tail _ hmove ih =>
    obtain ⟨module, rfl⟩ := hmove
    exact ih.ensure loader module

theorem resolve_unitsAreMarked {s : Session} (h : s.UnitsAreMarked) (loader : Loader)
    (name : String) (unit : Nat) : (s.resolve loader name unit).2.UnitsAreMarked := by
  obtain ⟨s', hmoves, hcatalog⟩ := exists_moves_of_resolve loader name unit s
  rw [UnitsAreMarked, hcatalog]
  exact hmoves.unitsAreMarked h

/-- Where no units came in, no short key denotes anything else. -/
theorem keyed_eq_of_units_eq {s s₁ : Session} (h : s.catalog.IsIndexed) (h₁ : s₁.catalog.IsIndexed)
    (hunits : s₁.catalog.units = s.catalog.units) (name : String) (u : SourceUnit) :
    s₁.keyed name u = s.keyed name u := by
  rw [keyed, keyed]
  congr 1
  funext key
  exact (TypeIndex.Indexed.keys_eq h₁ h (fun place => by rw [hunits]) key).2.1

/-- Where nothing came in, every loader gives it as it came in. -/
theorem whole_of_units_eq (loader : Loader) {s s₁ : Session} (s₂ : Session)
    (hunits : s₁.catalog.units = s.catalog.units) (hfiles : s₁.catalog.files = s.catalog.files) :
    loader.Whole s.catalog (s.extra s₁ s₂) := by
  have hnone : (s.extra s₁ s₂).units = [] := by
    rw [extra, hunits, List.drop_length]
  refine ⟨?_, ?_, ?_, ?_⟩
  · rw [hnone]
    exact nofun
  · rw [hnone]
    exact nofun
  · rw [hnone]
    exact nofun
  · rintro x - ⟨hread, hnew⟩
    rw [Catalog.hasFile, hfiles] at hread
    exact absurd hread hnew

/-- An empty name denotes nothing. -/
theorem denoted_of_isEmpty {name : String} (h : (plainName name).isEmpty) (loader : Loader)
    (unit : Nat) (s : Session) : s.denoted loader name unit = none := by
  rw [denoted, resolve_of_isEmpty h, Option.map_none]

/-- Whether a name was resolved to a type before, in the same unit. -/
def IsRepeated (loader : Loader) (name : String) (unit : Nat) (name₁ : String) (unit₁ : Nat)
    (s : Session) : Prop :=
  unit₁ = unit ∧ plainName name₁ = plainName name ∧ (s.denoted loader name unit).isSome

section After

variable {loader : Loader} {s : Session} {unit unit₁ : Nat} {name name₁ : String}

/-- A name that is asked for again denotes what it denoted. -/
theorem denoted_of_isRepeated (hs : s.resolved = [])
    (h : s.IsRepeated loader name unit name₁ unit₁) :
    (s.resolve loader name₁ unit₁).2.denoted loader name unit = s.denoted loader name unit := by
  obtain ⟨rfl, hname, hsome⟩ := h
  rw [resolve_congr hname]
  exact denoted_resolve_self hs hsome

/-- A name that was not resolved before is not remembered. -/
theorem remembered?_of_not_isRepeated (hs : s.resolved = [])
    (h : ¬ s.IsRepeated loader name unit name₁ unit₁) :
    (s.resolve loader name₁ unit₁).2.remembered? unit (plainName name) = none := by
  rw [remembered?_resolve loader hs name₁ unit₁ (unit, plainName name)]
  split
  · rename_i hsame
    obtain ⟨rfl, hplain⟩ := Prod.mk.inj hsame
    cases hid : (s.resolve loader name₁ unit₁).1 with
    | none => rfl
    | some id =>
      refine absurd ⟨rfl, hplain, ?_⟩ h
      rw [denoted, Option.isSome_map, ← resolve_congr hplain, hid]
      rfl
  · rfl

/-- What a name denotes after another one was resolved, if the loader gives what was loaded as it
came in. -/
theorem denoted_eq_iff_of_whole {u : SourceUnit} (hs : Built s)
    (hu : s.catalog.units[unit]? = some u)
    (hwhole : loader.Whole s.catalog (s.extra (s.resolve loader name₁ unit₁).2
      (searchPlaces loader (places (plainName name) u) (s.resolve loader name₁ unit₁).2).2)) :
    (s.resolve loader name₁ unit₁).2.denoted loader name unit = s.denoted loader name unit ↔
      (plainName name).isEmpty ∨ s.IsRepeated loader name unit name₁ unit₁ ∨
        ((s.resolve loader name₁ unit₁).2.keyed (plainName name) u).or
            (s.placed loader (plainName name) u) =
          (s.keyed (plainName name) u).or (s.placed loader (plainName name) u) := by
  have hindexed := hs.isIndexed
  have hmarked := hs.unitsAreMarked
  by_cases hname : (plainName name).isEmpty
  · rw [denoted_of_isEmpty hname, denoted_of_isEmpty hname]
    exact ⟨fun _ => Or.inl hname, fun _ => rfl⟩
  by_cases hagain : s.IsRepeated loader name unit name₁ unit₁
  · exact ⟨fun _ => Or.inr (Or.inl hagain),
      fun _ => denoted_of_isRepeated hs.resolved_eq_nil hagain⟩
  -- neither session remembers the name, so both search for it
  have hplain : (plainName name).isEmpty = false := by simpa using hname
  have hfirst : s.remembered? unit (plainName name) = none := by
    rw [remembered?, hs.resolved_eq_nil]
    rfl
  have hdenoted := denoted_eq_or loader hindexed hmarked hplain hu hfirst
  have hdenoted₁ := denoted_eq_or loader (resolve_isIndexed hindexed loader name₁ unit₁)
    (resolve_unitsAreMarked hmarked loader name₁ unit₁) hplain
    (resolve_units_eq hu loader name₁ unit₁)
    (remembered?_of_not_isRepeated hs.resolved_eq_nil hagain)
  rw [hdenoted₁, hdenoted, placed_eq_of_whole hindexed hmarked hwhole, or_iff_right hname,
    or_iff_right hagain]

end After

/-- **Resolving after another name.** A name keeps the type that it was resolved to. It denotes the
same as before if resolving another name has loaded nothing. If the loader gives what was loaded as
it came in, it denotes the same as before if and only if it does so with the short key of then and
of now, in front of what is at its places. -/
theorem resolve_after_resolve {loader : Loader} {s s₁ s₂ : Session} {unit unit₁ : Nat}
    {name name₁ : String} {u : SourceUnit} (hs : Built s) (hu : s.catalog.units[unit]? = some u)
    (hs₁ : (s.resolve loader name₁ unit₁).2 = s₁)
    (hs₂ : (searchPlaces loader (places (plainName name) u) s₁).2 = s₂) :
    (s.IsRepeated loader name unit name₁ unit₁ →
      s₁.denoted loader name unit = s.denoted loader name unit) ∧
    (s₁.catalog.units = s.catalog.units → s₁.catalog.files = s.catalog.files →
      s₁.denoted loader name unit = s.denoted loader name unit) ∧
    (loader.Whole s.catalog (s.extra s₁ s₂) →
      (s₁.denoted loader name unit = s.denoted loader name unit ↔
        (plainName name).isEmpty ∨ s.IsRepeated loader name unit name₁ unit₁ ∨
          (s₁.keyed (plainName name) u).or (s.placed loader (plainName name) u) =
            (s.keyed (plainName name) u).or (s.placed loader (plainName name) u))) := by
  subst hs₁ hs₂
  have hindexed₁ := resolve_isIndexed hs.isIndexed loader name₁ unit₁
  refine ⟨denoted_of_isRepeated hs.resolved_eq_nil, fun hunits hfiles => ?_,
    denoted_eq_iff_of_whole hs hu⟩
  have hwhole := whole_of_units_eq loader (searchPlaces loader
    (places (plainName name) u) (s.resolve loader name₁ unit₁).2).2 hunits hfiles
  refine (denoted_eq_iff_of_whole hs hu hwhole).mpr (Or.inr (Or.inr ?_))
  rw [keyed_eq_of_units_eq hs.isIndexed hindexed₁ hunits]

/-- A module with a type `Book`, and one with a type and another module in it. -/
def bookLoader : Loader :=
  .ofSources [("crate::x::model", ⟨⟨"x/model.rs"⟩, "crate::x::model", "pub struct Book;"⟩),
    ("crate::a", ⟨⟨"a.rs"⟩, "crate::a", "pub struct Outer; pub mod inner { pub struct Leaf; }"⟩)]

/-- A session with a module that imports nothing, and one that imports the module of `Book`. -/
def bookSession : Session :=
  ({} : Session).addScanned [{ path := ⟨"api.rs"⟩, module := "crate::api" },
    { path := ⟨"web.rs"⟩, module := "crate::web", imports := [⟨"crate::x::model", none, false⟩] }]

/-- A module that was loaded for another name makes no difference to an imported one. -/
theorem resolve_after_resolve_bookSession :
    bookSession.denoted bookLoader "model::Book" 1 = some "crate::x::model::Book" ∧
    ((bookSession.resolve bookLoader "crate::x::model::Book" 0).2.denoted bookLoader "model::Book"
      1 = bookSession.denoted bookLoader "model::Book" 1) ∧
    bookSession.keyed "model::Book" ⟨⟨"web.rs"⟩, "crate::web", [⟨"crate::x::model", none, false⟩],
      [], []⟩ = none := by
  have hbuilt : Built bookSession := .addScanned _ .empty
  obtain ⟨-, -, hwhole⟩ := @resolve_after_resolve bookLoader bookSession _ _ 1 0 "model::Book"
    "crate::x::model::Book" _ hbuilt rfl rfl rfl
  exact ⟨by decide +kernel, (hwhole (by decide +kernel)).mpr (Or.inr (Or.inr (by decide +kernel))),
    by decide +kernel⟩

/-- What a name denotes may change once others were resolved: a short key comes in with a module,
and so does a module inside it that the loader does not give by itself. -/
theorem denoted_changes_bookSession :
    bookSession.denoted bookLoader "model::Book" 0 = none ∧
    (bookSession.resolve bookLoader "crate::x::model::Book" 0).2.denoted bookLoader "model::Book"
      0 = some "crate::x::model::Book" ∧
    bookSession.denoted bookLoader "crate::a::inner::Leaf" 0 = none ∧
    (bookSession.resolve bookLoader "crate::a::Outer" 0).2.denoted bookLoader
      "crate::a::inner::Leaf" 0 = some "crate::a::inner::Leaf" := by
  refine ⟨?_, ?_, ?_, ?_⟩
  · decide +kernel
  · decide +kernel
  · decide +kernel
  · decide +kernel

end Session

end ApiDocs
