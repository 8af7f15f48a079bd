import ApiDocs.Proofs.Catalog.Loading

/-!
# Where a type name is looked for

A type name is looked for by its short key, if it has one, and then at some places: modules, each
with the name that the type has there. Which places these are depends on the name and on the unit in
which it stands alone (`places`); what a session has loaded makes no difference. Searching a place
finds a type exactly where the module declares it once it is loaded (`findIn_eq`).
-/

namespace ApiDocs

namespace Session

/-- The short key by which a type name in a unit is looked for first. -/
def keyOf? (name : String) (u : SourceUnit) : Option String :=
  match ModulePath.splitName name with
  | (none, name) => some (shortKey u.moduleName name)
  | (some qualifier, name) =>
    let (head, tail) := ModulePath.splitHead qualifier
    if isRelative head then none
    else if (u.imports.find? fun i => !i.glob && i.asName == some head).isSome then none
    else if tail.isEmpty then some (shortKey head name)
    else none

/-- The place of what an import denotes. -/
def importPlace? (i : Import) : Option (ModulePath × String) :=
  match ModulePath.splitName i.path with
  | (some module, item) => some (module, item)
  | (none, _) => none

/-- The places at which a type name in a unit is looked for, in this order. -/
def places (name : String) (u : SourceUnit) : List (ModulePath × String) :=
  match ModulePath.splitName name with
  | (none, name) =>
    (u.module, name) ::
      ((u.imports.filter fun i => !i.glob && i.localName == name).filterMap importPlace?
        ++ (u.imports.filter Import.glob).map fun i => (i.path, name))
  | (some qualifier, name) =>
    let (head, tail) := ModulePath.splitHead qualifier
    if isRelative head then [(ModulePath.absolute qualifier u.module, name)]
    else
      match u.imports.find? fun i => !i.glob && i.asName == some head with
      | some i => [(ModulePath.join i.path tail, name)]
      | none =>
        ((u.imports.find? fun i => !i.glob && !i.isAliased && i.localName == head).map
            fun i => (ModulePath.join i.path tail, name)).toList
          ++ [(ModulePath.join u.module qualifier, name), (qualifier, name)]

/-- The first hit at some places, whose modules are loaded if needed. -/
def searchPlaces (loader : Loader) (ps : List (ModulePath × String)) (s : Session) :
    Option Nat × Session :=
  firstHit (ps.map fun p => findIn loader p.1 p.2) s

/-- The place of the type that a search has found. -/
def found (result : Option Nat × Session) : Option (ModulePath × String) :=
  result.1.bind fun id => result.2.catalog.decls[id]?.map TypeDecl.place

/-! ## Searching in order -/

variable {loader : Loader} {s : Session}

theorem firstHit_cons_of_none {search : Session → Option Nat × Session}
    {rest : List (Session → Option Nat × Session)} {s' : Session} (h : search s = (none, s')) :
    firstHit (search :: rest) s = firstHit rest s' := by
  rw [firstHit, h]

theorem firstHit_cons_of_some {search : Session → Option Nat × Session}
    {rest : List (Session → Option Nat × Session)} {id : Nat} {s' : Session}
    (h : search s = (some id, s')) : firstHit (search :: rest) s = (some id, s') := by
  rw [firstHit, h]

/-- Imports that denote no place find nothing. -/
theorem firstHit_byImport (imports : List Import)
    (back : List (Session → Option Nat × Session)) (s : Session) :
    firstHit (imports.map (byImport loader) ++ back) s =
      firstHit ((imports.filterMap importPlace?).map (fun p => findIn loader p.1 p.2) ++ back)
        s := by
  induction imports generalizing s with
  | nil => rfl
  | cons i rest ih =>
    rw [List.map_cons, List.cons_append]
    rcases hsplit : ModulePath.splitName i.path with ⟨_ | module, item⟩
    · have hplace : importPlace? i = none := by rw [importPlace?, hsplit]
      have hsearch : byImport loader i s = (none, s) := by rw [byImport, hsplit]
      rw [List.filterMap_cons_none hplace, firstHit_cons_of_none hsearch, ih]
    · have hplace : importPlace? i = some (module, item) := by rw [importPlace?, hsplit]
      have hsearch : byImport loader i s = findIn loader module item s := by rw [byImport, hsplit]
      rw [List.filterMap_cons_some hplace, List.map_cons, List.cons_append]
      rcases hfind : findIn loader module item s with ⟨_ | id, s'⟩
      · rw [firstHit_cons_of_none (hsearch.trans hfind), firstHit_cons_of_none hfind, ih]
      · rw [firstHit_cons_of_some (hsearch.trans hfind), firstHit_cons_of_some hfind]

/-- A module that is marked is not loaded, so searching it is looking it up. -/
theorem findIn_of_mem {module : ModulePath} (h : module ∈ s.catalog.attempted) (name : String) :
    findIn loader module name s = inModule module name s := by
  have hensure : s.ensure loader module = s := by
    rw [ensure, if_pos (by simpa using h)]
  rw [findIn, inModule, hensure]
  cases hfind : s.catalog.find? module name with
  | none => simp only [hfind]
  | some id => rfl

/-- The first search, by a short key. -/
theorem firstHit_byKey_cons (key : String) (rest : List (Session → Option Nat × Session)) :
    firstHit (byKey key :: rest) s =
      match s.catalog.unique? key with
      | some id => (some id, s)
      | none => firstHit rest s := by
  cases hkey : s.catalog.unique? key with
  | none => exact firstHit_cons_of_none (by rw [byKey, hkey])
  | some id => exact firstHit_cons_of_some (by rw [byKey, hkey])

/-- A search for a name without a qualifier. -/
theorem firstHit_plainSearches {u : SourceUnit} (hu : u.module ∈ s.catalog.attempted)
    (name : String) :
    firstHit (plainSearches loader name u) s =
      match s.catalog.unique? (shortKey u.moduleName name) with
      | some id => (some id, s)
      | none => searchPlaces loader ((u.module, name) ::
          ((u.imports.filter fun i => !i.glob && i.localName == name).filterMap importPlace?
            ++ (u.imports.filter Import.glob).map fun i => (i.path, name))) s := by
  have hsearches : plainSearches loader name u =
      byKey (shortKey u.moduleName name) :: inModule u.module name ::
        ((u.imports.filter fun i => !i.glob && i.localName == name).map (byImport loader)
          ++ (u.imports.filter Import.glob).map fun i => findIn loader i.path name) := rfl
  rw [hsearches, firstHit_byKey_cons, searchPlaces, List.map_cons, List.map_append, List.map_map]
  cases s.catalog.unique? (shortKey u.moduleName name) with
  | some id => rfl
  | none =>
    have hfirst : findIn loader u.module name s = inModule u.module name s := findIn_of_mem hu name
    rcases hown : inModule u.module name s with ⟨_ | id, s'⟩
    · simp only
      rw [firstHit_cons_of_none hown, firstHit_cons_of_none (hfirst.trans hown)]
      exact firstHit_byImport _ _ s'
    · simp only
      rw [firstHit_cons_of_some hown, firstHit_cons_of_some (hfirst.trans hown)]

/-- A search for a type name in a unit goes by the short key, and then from place to place. -/
theorem firstHit_searches (loader : Loader) {u : SourceUnit}
    (hu : u.module ∈ s.catalog.attempted) (name : String) :
    firstHit (searches loader name u) s =
      match (keyOf? name u).bind s.catalog.unique? with
      | some id => (some id, s)
      | none => searchPlaces loader (places name u) s := by
  unfold searches keyOf? places
  rcases ModulePath.splitName name with ⟨_ | qualifier, item⟩
  · exact firstHit_plainSearches hu item
  · simp only [qualifiedSearches]
    split
    · rfl
    · split
      · rename_i i halias
        simp only [halias, Option.isSome_some, if_true, Option.bind_none]
        rfl
      · rename_i halias
        simp only [halias, Option.isSome_none, Bool.false_eq_true, if_false]
        rw [searchPlaces, List.map_append, ← Option.toList_map, Option.map_map]
        split
        · exact firstHit_byKey_cons _ _
        · rfl

/-! ## Searching a place -/

/-- Searching a place of a module makes sure of the module and looks the name up. -/
theorem findIn_eq (loader : Loader)
    (hattempted : ∀ u ∈ s.catalog.units, u.module ∈ s.catalog.attempted)
    (hindexed : s.catalog.IsIndexed) (module : ModulePath) (name : String) :
    findIn loader module name s =
      ((s.ensure loader module).catalog.find? module name, s.ensure loader module) := by
  rw [findIn]
  cases hfind : s.catalog.find? module name with
  | none => rfl
  | some id =>
    -- a module of a known type is marked
    have hknows := (Catalog.find?_isSome_iff hindexed).mp (by rw [hfind]; rfl)
    obtain ⟨u, hu, rfl, -⟩ := hknows
    have hensure : s.ensure loader u.module = s := by
      rw [ensure, if_pos (by simpa using hattempted u hu)]
    rw [hensure, hfind]

/-- What is found at a place is the type there. -/
theorem found_find? {c : Catalog} (h : c.IsIndexed) {module : ModulePath} {name : String}
    {id : Nat} (hfind : c.find? module name = some id) (hs : s.catalog = c) :
    found (some id, s) = some (module, name) := by
  obtain ⟨d, hd, hplace⟩ := (h.find_iff module name id).mp hfind
  rw [found, Option.bind_some, hs, hd, Option.map_some, hplace]

theorem searchPlaces_moves (loader : Loader) (ps : List (ModulePath × String)) (s : Session) :
    Moves loader s (searchPlaces loader ps s).2 := by
  refine firstHit_steady ?_ s
  intro search hmem
  obtain ⟨p, -, rfl⟩ := List.mem_map.mp hmem
  exact findIn_steady loader p.1 p.2

end Session

end ApiDocs
