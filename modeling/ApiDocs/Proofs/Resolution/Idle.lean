import ApiDocs.Proofs.Resolution.Settled

/-!
# Names where nothing is loaded

A loader that gives nothing leaves the types and the units of a session as they are. What a name
stands for is then a matter of these alone (`TypeIndex.lookup?`): what was resolved before makes no
difference, since the memory holds nothing else (`IsIdle`, `resolve_fst`). So two sessions with the
same types answer alike for ever (`Agree.steps`), whatever else they were used for.
-/

namespace ApiDocs

/-- Whether a loader has no source for any module. -/
def Loader.GivesNothing (loader : Loader) : Prop :=
  ∀ module, loader.given module = []

/-- A loader that fails on every module gives nothing. -/
theorem Loader.givesNothing_of_error {loader : Loader}
    (h : ∀ module, ∃ error, loader.load module = .error error) : loader.GivesNothing := by
  intro module
  obtain ⟨error, herror⟩ := h module
  rw [given, herror]

/-- The type that a name in a unit stands for: the one that has its short key, or else the one at
the first of its places that has one. -/
def TypeIndex.lookup? (x : TypeIndex) (name : String) (u : SourceUnit) : Option Nat :=
  ((Session.keyOf? name u).bind x.unique?).or
    ((Session.places name u).findSome? fun p => x.find? p.1 p.2)

/-- A unit without its documentation. -/
def SourceUnit.undocumented (u : SourceUnit) : SourceUnit :=
  { u with decls := [] }

/-- The type that a name in the unit with a number stands for. -/
def Catalog.answer (c : Catalog) (name : String) (unit : Nat) : Option Nat :=
  c.units[unit]?.bind (c.toTypeIndex.lookup? name)

namespace Session

variable {loader : Loader} {s s' : Session}

/-! ## Searching -/

/-- Making sure of modules leaves the types and the units as they are. -/
theorem Moves.unchanged (hloader : loader.GivesNothing) (h : Moves loader s s') :
    s'.catalog.toTypeIndex = s.catalog.toTypeIndex ∧ s'.catalog.units = s.catalog.units := by
  induction h with
  | refl => exact ⟨rfl, rfl⟩
  | tail _ hmove ih =>
    obtain ⟨module, rfl⟩ := hmove
    rw [ensure_catalog, Catalog.ensure, hloader module]
    split
    · exact ih
    · exact ih

/-- A loader that gives nothing makes no difference to what is found. -/
theorem findIn_fst (hloader : loader.GivesNothing) (module : ModulePath) (name : String)
    (s : Session) : (findIn loader module name s).1 = s.catalog.find? module name := by
  have hmoves : Moves loader s (s.ensure loader module) := .single ⟨module, rfl⟩
  rw [findIn]
  cases hfind : s.catalog.find? module name with
  | some id => rfl
  | none =>
    -- asking for the module adds no types, so a second look finds nothing either
    simp only
    rw [(hmoves.unchanged hloader).1, hfind]

/-- The first hit at some places is the first type there. -/
theorem searchPlaces_fst (hloader : loader.GivesNothing) (ps : List (ModulePath × String))
    (s : Session) :
    (searchPlaces loader ps s).1 = ps.findSome? fun p => s.catalog.find? p.1 p.2 := by
  induction ps generalizing s with
  | nil => rfl
  | cons p rest ih =>
    have hfst := findIn_fst hloader p.1 p.2 s
    have hmoves := findIn_steady loader p.1 p.2 s
    rw [searchPlaces, List.map_cons, List.findSome?_cons]
    rcases hfind : findIn loader p.1 p.2 s with ⟨_ | id, s₁⟩
    · rw [hfind] at hfst hmoves
      rw [firstHit_cons_of_none hfind, ← hfst]
      exact (ih s₁).trans (by rw [(hmoves.unchanged hloader).1])
    · rw [hfind] at hfst
      rw [firstHit_cons_of_some hfind, ← hfst]

/-- A search gives the type that the name stands for. -/
theorem firstHit_searches_fst (hloader : loader.GivesNothing) {u : SourceUnit}
    (hu : u.module ∈ s.catalog.attempted) (name : String) :
    (firstHit (searches loader name u) s).1 = s.catalog.toTypeIndex.lookup? name u := by
  rw [firstHit_searches loader hu, TypeIndex.lookup?]
  cases (keyOf? name u).bind s.catalog.unique? with
  | some id => rfl
  | none => exact searchPlaces_fst hloader (places name u) s

/-! ## Resolving -/

/-- Whether the modules of all units are marked, and every remembered type is the one that its name
stands for. -/
structure IsIdle (s : Session) : Prop where
  /-- The modules of the units are marked. -/
  marked : s.UnitsAreMarked
  /-- The memory is right. -/
  resolved : ∀ unit name id, ((unit, name), id) ∈ s.resolved →
    s.catalog.answer name unit = some id

theorem Built.isIdle (h : Built s) : s.IsIdle := by
  refine ⟨h.unitsAreMarked, fun unit name id hentry => ?_⟩
  rw [h.resolved_eq_nil] at hentry
  cases hentry

theorem IsIdle.note (h : s.IsIdle) (events : Journal) : (s.note events).IsIdle :=
  ⟨h.marked, h.resolved⟩

/-- **Names.** A name is resolved to the type that it stands for, whatever was resolved before. -/
theorem resolve_fst (hloader : loader.GivesNothing) (h : s.IsIdle) (name : String) (unit : Nat) :
    (s.resolve loader name unit).1 =
      if (plainName name).isEmpty then none else s.catalog.answer (plainName name) unit := by
  by_cases hempty : (plainName name).isEmpty
  · rw [resolve_of_isEmpty hempty, if_pos hempty]
  rw [if_neg hempty]
  -- the unit is not known, the name is remembered, or it is searched for
  rcases resolve_cases loader name unit s with ⟨hnothing, heq⟩ | ⟨id, hid, heq⟩ |
    ⟨u, result, -, -, hu, hsearch, heq⟩
  · rw [heq, Catalog.answer, hnothing.resolve_left hempty, Option.bind_none]
  · rw [heq, h.resolved unit (plainName name) id (mem_resolved_of_remembered? hid)]
  · have hmarked := h.marked u (List.mem_of_getElem? hu)
    rw [heq, ← hsearch, firstHit_searches_fst hloader hmarked, Catalog.answer, hu, Option.bind_some]

/-- Resolving a name leaves the types and the units as they are. -/
theorem resolve_unchanged (hloader : loader.GivesNothing) (name : String) (unit : Nat)
    (s : Session) :
    (s.resolve loader name unit).2.catalog.toTypeIndex = s.catalog.toTypeIndex ∧
      (s.resolve loader name unit).2.catalog.units = s.catalog.units := by
  obtain ⟨s', hmoves, hcatalog⟩ := exists_moves_of_resolve loader name unit s
  rw [hcatalog]
  exact hmoves.unchanged hloader

/-- Resolving a name changes none of the answers. -/
theorem answer_resolve (hloader : loader.GivesNothing) (name : String) (unit : Nat)
    (s : Session) : (s.resolve loader name unit).2.catalog.answer = s.catalog.answer := by
  obtain ⟨hindex, hunits⟩ := resolve_unchanged hloader name unit s
  funext name' unit'
  rw [Catalog.answer, Catalog.answer, hindex, hunits]

/-- What is remembered after a name was resolved: what was remembered before, and maybe that name
with its type. -/
theorem mem_resolved_resolve {name : String} {unit : Nat} {entry : (Nat × String) × Nat}
    (h : entry ∈ (s.resolve loader name unit).2.resolved) :
    entry ∈ s.resolved ∨ (plainName name).isEmpty = false ∧
      (s.resolve loader name unit).1 = some entry.2 ∧ entry.1 = (unit, plainName name) := by
  rcases resolve_cases loader name unit s with ⟨-, heq⟩ | ⟨id, -, heq⟩ |
    ⟨u, ⟨_ | id, s₁⟩, hname, -, -, hsearch, heq⟩
  · rw [heq] at h
    exact Or.inl h
  · rw [heq] at h
    exact Or.inl h
  -- a search remembers nothing by itself
  all_goals
    have hmoves := firstHit_searches_steady loader (plainName name) u s
    rw [hsearch] at hmoves
    rw [heq] at h ⊢
  · exact Or.inl (hmoves.resolved_eq ▸ h)
  · rcases List.mem_append.mp h with hold | hnew
    · exact Or.inl (hmoves.resolved_eq ▸ hold)
    · rw [List.mem_singleton.mp hnew]
      exact Or.inr ⟨hname, rfl, rfl⟩

/-- A session stays idle when a name is resolved. -/
theorem IsIdle.resolve (hloader : loader.GivesNothing) (h : s.IsIdle) (name : String)
    (unit : Nat) : (s.resolve loader name unit).2.IsIdle := by
  refine ⟨resolve_unitsAreMarked h.marked loader name unit, fun unit' name' id hentry => ?_⟩
  rw [answer_resolve hloader]
  rcases mem_resolved_resolve hentry with hold | ⟨hname, hid, heq⟩
  · exact h.resolved unit' name' id hold
  · obtain ⟨rfl, rfl⟩ := Prod.mk.inj heq
    rw [resolve_fst hloader h, hname] at hid
    exact hid

/-- A run leaves the types and the units as they are. -/
theorem Steps.unchanged (hloader : loader.GivesNothing) (h : Steps loader s s') :
    s'.catalog.toTypeIndex = s.catalog.toTypeIndex ∧ s'.catalog.units = s.catalog.units := by
  induction h with
  | refl => exact ⟨rfl, rfl⟩
  | tail _ hstep ih =>
    cases hstep with
    | note events _ => exact ih
    | resolve name unit =>
      obtain ⟨hindex, hunits⟩ := resolve_unchanged hloader name unit _
      exact ⟨hindex.trans ih.1, hunits.trans ih.2⟩

/-- **Memory.** What a run remembers is right. -/
theorem IsIdle.steps (hloader : loader.GivesNothing) (h : s.IsIdle) (hsteps : Steps loader s s') :
    s'.IsIdle := by
  induction hsteps with
  | refl => exact h
  | tail _ hstep ih =>
    cases hstep with
    | note events _ => exact ih.note events
    | resolve name unit => exact ih.resolve hloader name unit

/-! ## Two sessions -/

/-- Whether two sessions answer alike: they have the same types, and the same units up to
documentation, and remember what is right. -/
structure Agree (s s' : Session) : Prop where
  /-- The types, with the ways to find them. -/
  index : s'.catalog.toTypeIndex = s.catalog.toTypeIndex
  /-- The units. -/
  units : s'.catalog.units.map SourceUnit.undocumented =
    s.catalog.units.map SourceUnit.undocumented
  /-- The first session remembers what is right. -/
  left : s.IsIdle
  /-- The second session remembers what is right. -/
  right : s'.IsIdle

theorem Agree.refl (h : s.IsIdle) : Agree s s :=
  ⟨rfl, rfl, h, h⟩

theorem Agree.note (h : Agree s s') (events events' : Journal) :
    Agree (s.note events) (s'.note events') :=
  ⟨h.index, h.units, h.left.note events, h.right.note events'⟩

/-- Sessions agree for ever. -/
theorem Agree.steps (hloader : loader.GivesNothing) (h : Agree s s') {t t' : Session}
    (ht : Steps loader s t) (ht' : Steps loader s' t') : Agree t t' := by
  obtain ⟨hindex, hunits⟩ := ht.unchanged hloader
  obtain ⟨hindex', hunits'⟩ := ht'.unchanged hloader
  refine ⟨?_, ?_, h.left.steps hloader ht, h.right.steps hloader ht'⟩
  · rw [hindex', hindex, h.index]
  · rw [hunits', hunits, h.units]

/-- Sessions that agree give the same answers. -/
theorem Agree.answer_eq (h : Agree s s') : s'.catalog.answer = s.catalog.answer := by
  have hanswer : ∀ (s : Session) (name : String) (unit : Nat), s.catalog.answer name unit =
      (s.catalog.units.map SourceUnit.undocumented)[unit]?.bind
        (s.catalog.toTypeIndex.lookup? name) := by
    intro s name unit
    rw [Catalog.answer, List.getElem?_map, Option.bind_map]
    rfl
  funext name unit
  rw [hanswer, hanswer, h.index, h.units]

/-- **Names.** Sessions that agree resolve a name to the same type. -/
theorem Agree.resolve_fst (hloader : loader.GivesNothing) (h : Agree s s') (name : String)
    (unit : Nat) : (s'.resolve loader name unit).1 = (s.resolve loader name unit).1 := by
  rw [Session.resolve_fst hloader h.left, Session.resolve_fst hloader h.right, h.answer_eq]

end Session

end ApiDocs
