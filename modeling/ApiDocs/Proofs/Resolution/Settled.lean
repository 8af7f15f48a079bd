import ApiDocs.Proofs.Catalog.Library
import ApiDocs.Proofs.Resolution.History
import ApiDocs.Proofs.Session.Requests

/-!
# Names in a library

In a library, a type name denotes the first of its places that has a type (`Library.denoted?`). A
lexicon fixes what the names in some units mean, be it by their places or by their short keys. A run
is regular if its last session shows that the loader gave what the library has at the places that
the run has looked at, and that names were answered as the lexicon says (`Regular`). Then every
session on the way is settled (`Steps.settled`), and a settled session resolves names as the lexicon
says (`Settled.resolve`), whatever it has loaded before.
-/

namespace ApiDocs

/-- The place that a type name in a unit denotes in a library. -/
def Library.denoted? (us : Library) (name : String) (u : SourceUnit) :
    Option (ModulePath × String) :=
  if name.isEmpty then none
  else (Session.places name u).find? fun place => (us.owner? place).isSome

/-- What runs are compared with: the units that they know, those of them whose names are compared,
and the places that these names mean. -/
structure Lexicon where
  /-- The units that are known. -/
  units : Library
  /-- The units whose names are compared. -/
  readers : Library
  /-- The places that names mean. -/
  meaning : String → SourceUnit → Option (ModulePath × String)

/-- The units that were scanned. -/
def Catalog.scannedSources (c : Catalog) : List SourceUnit :=
  c.scanned.filterMap (c.units[·]?)

/-- The name that could not be resolved, with the module in which it stands. -/
def Event.missed? : Event → Option (String × ModulePath)
  | .unresolved name module => some (name, module)
  | _ => none

namespace Session

/-! ## What a session has looked for -/

/-- The names in a unit that were resolved, with the places of their types. -/
def answers (u : SourceUnit) (s : Session) : List (String × (ModulePath × String)) :=
  s.resolved.filterMap fun entry =>
    if s.catalog.units[entry.1.1]? = some u then
      s.catalog.decls[entry.2]?.map fun d => (entry.1.2, d.place)
    else none

/-- The names that are reported as unresolved in the module of a unit. -/
def misses (u : SourceUnit) (s : Session) : List String :=
  (s.journal.filterMap Event.missed?).filterMap fun miss =>
    if miss.2 = u.module then some miss.1 else none

/-- The places that were looked at for a name in a unit that was resolved: that of the type, and
those before it, unless the short key of the name is that of the type. -/
def lookedAt (u : SourceUnit) (answer : String × (ModulePath × String)) :
    List (ModulePath × String) :=
  answer.2 :: if keyOf? answer.1 u = some (placeKey answer.2) then []
    else (places answer.1 u).takeWhile fun place => decide (place ≠ answer.2)

/-- The places that a session has looked at for names in some units. -/
def sought (readers : Library) (s : Session) : List (ModulePath × String) :=
  readers.flatMap fun u =>
    (s.answers u).flatMap (lookedAt u) ++ (s.misses u).flatMap fun name => places name u

/-- The units of modules that were neither scanned nor asked for. They came in with the files of
other modules. -/
def brought (s : Session) : List SourceUnit :=
  s.catalog.units.filter fun u => decide (u.module ∉ s.journal.loads ∧
    u.module ∉ s.catalog.scannedSources.map SourceUnit.module)

/-- Whether a session has scanned the type at a place, and no other type of a library has its short
key. -/
def Pins (us : Library) (place : ModulePath × String) (s : Session) : Prop :=
  us.IsAlone place ∧ ∃ v ∈ s.catalog.scannedSources, v.declares place

instance (us : Library) (place : ModulePath × String) (s : Session) :
    Decidable (s.Pins us place) :=
  inferInstanceAs (Decidable (us.IsAlone place ∧ ∃ v ∈ s.catalog.scannedSources, v.declares place))

variable {loader : Loader} {lex : Lexicon} {s last : Session} {name : String} {unit : Nat}
  {u : SourceUnit}

/-- A name that is remembered is an answer. -/
theorem mem_answers {id : Nat} {d : TypeDecl} (hmem : ((unit, name), id) ∈ s.resolved)
    (hu : s.catalog.units[unit]? = some u) (hd : s.catalog.decls[id]? = some d) :
    (name, d.place) ∈ s.answers u := by
  refine List.mem_filterMap.mpr ⟨_, hmem, ?_⟩
  simp only [hu, hd, if_true, Option.map_some]

/-- A name that is reported as unresolved is a miss. -/
theorem mem_misses (h : Event.unresolved name u.module ∈ s.journal) : name ∈ s.misses u := by
  have hmissed : (name, u.module) ∈ s.journal.filterMap Event.missed? :=
    List.mem_filterMap.mpr ⟨_, h, rfl⟩
  exact List.mem_filterMap.mpr ⟨_, hmissed, if_pos rfl⟩

/-- The places before the one that was found were looked at, unless it was found by its short
key. -/
theorem mem_lookedAt {place p : ModulePath × String}
    (hkey : keyOf? name u ≠ some (placeKey place))
    (hp : p ∈ (places name u).takeWhile fun p => decide (some place ≠ some p)) :
    p ∈ lookedAt u (name, place) := by
  refine List.mem_cons_of_mem _ ?_
  rw [if_neg hkey]
  simpa only [ne_eq, Option.some.injEq, eq_comm] using hp

/-- The places that were looked at for an answer are among those of the session. -/
theorem mem_sought_of_mem_answers {readers : Library} (hreader : u ∈ readers)
    {answer : String × (ModulePath × String)} (h : answer ∈ s.answers u)
    {place : ModulePath × String} (hplace : place ∈ lookedAt u answer) :
    place ∈ s.sought readers :=
  List.mem_flatMap.mpr ⟨u, hreader, List.mem_append_left _
    (List.mem_flatMap.mpr ⟨answer, h, hplace⟩)⟩

/-- The places of a miss are looked at. -/
theorem mem_sought_of_mem_misses {readers : Library} (hreader : u ∈ readers)
    (h : name ∈ s.misses u) {place : ModulePath × String} (hplace : place ∈ places name u) :
    place ∈ s.sought readers :=
  List.mem_flatMap.mpr ⟨u, hreader, List.mem_append_right _
    (List.mem_flatMap.mpr ⟨name, h, hplace⟩)⟩

/-! ## Regular runs -/

/-- Whether the last session of a run shows that the loader gave what the library of a lexicon has
at the places that were looked at, and that names were answered as the lexicon says. -/
structure Regular (loader : Loader) (lex : Lexicon) (last : Session) : Prop where
  /-- Units are those of the library. -/
  known : ∀ u ∈ last.catalog.units, u ∈ lex.units
  /-- The loader gave what the library has. -/
  fits : ∀ module ∈ last.journal.loads,
    loader.Fits lex.units (last.sought lex.readers) last.catalog.units last.brought module
  /-- Types that were found by their short key are meant. -/
  keyed : ∀ u ∈ lex.readers, ∀ answer ∈ last.answers u,
    keyOf? answer.1 u = some (placeKey answer.2) → (lex.units.owner? answer.2).isSome →
      lex.meaning answer.1 u = some answer.2
  /-- Types that were found where their names denote them are meant. -/
  denoted : ∀ u ∈ lex.readers, ∀ answer ∈ last.answers u,
    (∀ place, keyOf? answer.1 u = some (placeKey place) → ¬ last.Pins lex.units place) →
      lex.units.denoted? answer.1 u = some answer.2 → lex.meaning answer.1 u = some answer.2
  /-- Names for which nothing was found mean nothing. -/
  missed : ∀ u ∈ lex.readers, ∀ name ∈ last.misses u,
    (∀ place, keyOf? name u = some (placeKey place) → ¬ last.Pins lex.units place) →
      lex.units.denoted? name u = none → lex.meaning name u = none

/-- Whether a session on the way to a last one knows a part of the library of a lexicon, has the
scanned units from the start, marks what it has asked for, and remembers what names mean. -/
structure Settled (lex : Lexicon) (s last : Session) : Prop where
  /-- The catalog is a part of the library. -/
  catalog : s.catalog.PartOf lex.units (last.sought lex.readers)
  /-- Scanned units are known. -/
  scanned : ∀ u ∈ last.catalog.scannedSources, u ∈ s.catalog.units
  /-- Modules that were asked for are marked. -/
  asked : ∀ module ∈ s.journal.loads, module ∈ s.catalog.attempted
  /-- Remembered types are what the names mean. -/
  resolved : ∀ unit name id, ((unit, name), id) ∈ s.resolved →
    ∃ u d, s.catalog.units[unit]? = some u ∧ s.catalog.decls[id]? = some d ∧
      (u ∈ lex.readers → lex.meaning name u = some d.place)

/-! ## Requests to the loader -/

/-- Requests stay in the journal. -/
theorem Grows.loads_isPrefix {s s' : Session} (h : Grows s s') :
    s.journal.loads <+: s'.journal.loads :=
  h.journal.filterMap _

/-- A unit that comes in with a file is brought, unless its module is the one that was asked for. -/
theorem Settled.mem_brought (h : s.Settled lex last) {module : ModulePath}
    (hmodule : module ∉ s.catalog.attempted) (hrest : Changes loader (s.ensure loader module) last)
    {x : LoadedSource} (hgiven : loader.given module = [x]) (hnew : ¬ s.catalog.hasFile x.path)
    {v : SourceUnit} (hv : v ∈ x.units)
    (hmarked : v.module ∉ (s.catalog.ask module).attempted) : v ∈ last.brought := by
  obtain ⟨hmem, hlater⟩ := Catalog.mem_ensure_of_notMem hmodule hgiven hnew hv
  rw [← ensure_catalog] at hmem hlater
  have hbefore : v.module ∉ s.catalog.attempted := fun hold =>
    hmarked (Catalog.mem_attempted_ask.mpr (Or.inl hold))
  refine List.mem_filter.mpr ⟨hrest.loads.mem_units hmem, decide_eq_true ⟨?_, ?_⟩⟩
  · -- the module was not asked for before, and is not asked for once it is marked
    obtain ⟨new, hloads, -, hasked⟩ := hrest.moments.asks.loads
    rw [hloads, loads_ensure_of_notMem hmodule, List.mem_append, List.mem_append,
      List.mem_singleton]
    rintro ((hold | heq) | hagain)
    · exact hbefore (h.asked _ hold)
    · exact hmarked (Catalog.mem_attempted_ask.mpr (Or.inr heq))
    · exact (hasked _ hagain).1 hlater
  · intro hscanned
    obtain ⟨w, hw, hmodules⟩ := List.mem_map.mp hscanned
    exact hbefore (hmodules ▸ h.catalog.marked w (h.scanned w hw))

/-- In a regular run, a session stays settled when a module is asked for. -/
theorem Settled.ensure (hsingle : loader.IsSingle) (hlast : last.Regular loader lex)
    (h : s.Settled lex last) {module : ModulePath}
    (hrest : Changes loader (s.ensure loader module) last) :
    (s.ensure loader module).Settled lex last := by
  have hchanges := ensure_changes loader module s
  have hkept : ∀ u ∈ last.catalog.units, s.catalog.hasFile u.path → u ∈ s.catalog.units :=
    fun u hu => (hchanges.loads.trans hrest.loads).mem_units_of_hasFile hu
  have hfits : module ∉ s.catalog.attempted → loader.Fits lex.units (last.sought lex.readers)
      last.catalog.units last.brought module := by
    intro hmodule
    refine hlast.fits module (hrest.grows.loads_isPrefix.subset ?_)
    rw [loads_ensure_of_notMem hmodule]
    exact List.mem_append_right _ (List.mem_singleton_self module)
  refine ⟨?_, fun u hu => hchanges.loads.mem_units (h.scanned u hu),
    hchanges.moments.asks.marked h.asked, fun unit name id hmem => ?_⟩
  · rw [ensure_catalog]
    refine h.catalog.ensure hsingle hkept (fun hmodule x hgiven hnew v hv => ?_) hfits
    have hmem := (Catalog.mem_ensure_of_notMem hmodule hgiven hnew hv).1
    rw [← ensure_catalog] at hmem
    exact ⟨hlast.known v (hrest.loads.mem_units hmem),
      h.mem_brought hmodule hrest hgiven hnew hv⟩
  · rw [ensure_resolved] at hmem
    obtain ⟨v, d, hv, hd, hmeaning⟩ := h.resolved unit name id hmem
    exact ⟨v, d, hchanges.grows.getElem?_units hv, hchanges.grows.getElem?_decls hd, hmeaning⟩

/-- In a regular run, a session stays settled while modules are asked for. -/
theorem Moves.settled {s' : Session} (hsingle : loader.IsSingle)
    (hlast : last.Regular loader lex) (h : s.Settled lex last) (hmoves : Moves loader s s')
    (hrest : Changes loader s' last) : s'.Settled lex last := by
  induction hmoves with
  | refl => exact h
  | tail _ hmove ih =>
    obtain ⟨module, rfl⟩ := hmove
    exact (ih ((ensure_changes loader module _).trans hrest)).ensure hsingle hlast hrest

/-! ## Searching -/

/-- A place at which something is found has a type in the library. -/
theorem isSome_owner?_of_found {us : Library} {sought : List (ModulePath × String)}
    {result : Option Nat × Session} (h : result.2.catalog.PartOf us sought)
    {place : ModulePath × String} (hfound : found result = some place) (hplace : place ∈ sought) :
    (us.owner? place).isSome := by
  obtain ⟨id, -, hdecl⟩ := Option.bind_eq_some_iff.mp hfound
  obtain ⟨d, hd, rfl⟩ := Option.map_eq_some_iff.mp hdecl
  obtain ⟨u, howner, -⟩ := h.exists_owner hd hplace
  exact Option.isSome_iff_exists.mpr ⟨u, howner⟩

/-- **Places.** A search finds the first place that has a type in the library, if the catalog is a
part of the library all the way. The places behind the one that is found do not matter. -/
theorem found_searchPlaces {us : Library} {sought ps : List (ModulePath × String)}
    {result : Option (ModulePath × String)} (hresult : found (searchPlaces loader ps s) = result)
    (hfound : ∀ q, result = some q → q ∈ sought)
    (hps : ∀ p ∈ ps.takeWhile (fun p => decide (result ≠ some p)), p ∈ sought)
    (h : ∀ t, Moves loader s t → Moves loader t (searchPlaces loader ps s).2 →
      t.catalog.PartOf us sought) :
    result = ps.find? fun place => (us.owner? place).isSome := by
  induction ps generalizing s with
  | nil => exact hresult.symm
  | cons p rest ih =>
    have hstart := h s .refl (searchPlaces_moves loader (p :: rest) s)
    have hend := h _ (searchPlaces_moves loader (p :: rest) s) .refl
    have hfind := findIn_eq loader hstart.marked hstart.indexed p.1 p.2
    have hfirst : Moves loader s (s.ensure loader p.1) := .single ⟨p.1, rfl⟩
    have hmodule : p.1 ∈ (s.ensure loader p.1).catalog.attempted := by
      rw [ensure_catalog]
      exact Catalog.mem_attempted_ensure loader p.1 _
    rw [searchPlaces, List.map_cons] at h hend hresult
    cases hplace : (s.ensure loader p.1).catalog.find? p.1 p.2 with
    | none =>
      rw [hplace] at hfind
      rw [firstHit_cons_of_none hfind] at h hend hresult
      have hnext := h _ hfirst (searchPlaces_moves loader rest _)
      have hnone (hp : p ∈ sought) : ¬ (us.owner? p).isSome := by
        have howner := hnext.find?_isSome_iff hp hmodule
        rw [hplace] at howner
        exact fun hsome => absurd (howner.mpr hsome) (by simp)
      -- nothing is found here, so this is not the place that is found later
      have hne : result ≠ some p := by
        intro heq
        have hp := hfound p heq
        exact hnone hp (isSome_owner?_of_found hend (hresult.trans heq) hp)
      rw [List.takeWhile_cons_of_pos (p := fun p => decide (result ≠ some p))
        (decide_eq_true hne)] at hps
      rw [List.find?_cons_of_neg (p := fun place => (us.owner? place).isSome)
        (hnone (hps p List.mem_cons_self))]
      exact ih hresult (fun q hq => hps q (List.mem_cons_of_mem p hq))
        fun t ht ht' => h t (hfirst.trans ht) ht'
    | some id =>
      rw [hplace] at hfind
      rw [firstHit_cons_of_some hfind] at hend hresult
      rw [found_find? hend.indexed hplace rfl] at hresult
      subst hresult
      have howner := (hend.find?_isSome_iff (hfound p rfl) hmodule).mp (by rw [hplace]; rfl)
      rw [List.find?_cons_of_pos (p := fun place => (us.owner? place).isSome) howner]

/-! ## Resolving -/

/-- What is remembered for a name was recorded. -/
theorem mem_resolved_of_remembered? {id : Nat} (h : s.remembered? unit name = some id) :
    ((unit, name), id) ∈ s.resolved := by
  obtain ⟨entry, hfind, rfl⟩ := Option.map_eq_some_iff.mp h
  have hkey : entry.1 = (unit, name) := by simpa using List.find?_some hfind
  rw [← hkey]
  exact List.mem_of_find?_eq_some hfind

/-- The place of a type that was found. -/
theorem found_eq_some {result : Option Nat × Session} {id : Nat} {d : TypeDecl}
    (hid : result.1 = some id) (hd : result.2.catalog.decls[id]? = some d) :
    found result = some d.place := by
  rw [found, hid, Option.bind_some, hd, Option.map_some]

/-- A hit that is recorded is an answer of the last session. -/
theorem mem_answers_of_record (result : Option Nat × Session) {id : Nat} {d : TypeDecl}
    (hid : result.1 = some id) (hu : result.2.catalog.units[unit]? = some u)
    (hd : result.2.catalog.decls[id]? = some d)
    (hrest : Changes loader (record unit name u result) last) :
    (name, d.place) ∈ last.answers u := by
  obtain ⟨_, s'⟩ := result
  cases hid
  refine mem_answers (hrest.grows.resolved.subset ?_) (hrest.grows.getElem?_units hu)
    (hrest.grows.getElem?_decls hd)
  exact List.mem_append_right _ (List.mem_singleton_self _)

/-- A miss that is recorded is a miss of the last session. -/
theorem mem_misses_of_record (result : Option Nat × Session) (hid : result.1 = none)
    (hrest : Changes loader (record unit name u result) last) : name ∈ last.misses u := by
  obtain ⟨_, s'⟩ := result
  cases hid
  refine mem_misses (hrest.grows.journal.subset ?_)
  exact List.mem_append_right _ (List.mem_singleton_self _)

/-- What a settled session finds by a short key in a regular run. -/
theorem meaning_of_unique? (hlast : last.Regular loader lex) (h : s.Settled lex last)
    (hu : s.catalog.units[unit]? = some u) {id : Nat}
    (hkey : (keyOf? name u).bind s.catalog.unique? = some id)
    (hrest : Changes loader (record unit name u (some id, s)) last) :
    ∃ d, s.catalog.decls[id]? = some d ∧ (u ∈ lex.readers → lex.meaning name u = some d.place) := by
  obtain ⟨key, hkeyOf, hunique⟩ := Option.bind_eq_some_iff.mp hkey
  obtain ⟨⟨d, hd, rfl⟩, -⟩ := (h.catalog.indexed.unique_iff key id).mp hunique
  have hanswer := mem_answers_of_record (some id, s) rfl hu hd hrest
  refine ⟨d, hd, fun hreader => hlast.keyed u hreader _ hanswer hkeyOf ?_⟩
  obtain ⟨v, howner, -⟩ := h.catalog.exists_owner hd
    (mem_sought_of_mem_answers hreader hanswer List.mem_cons_self)
  exact Option.isSome_iff_exists.mpr ⟨v, howner⟩

/-- A short key by which nothing is found is not that of a scanned type that alone has it. -/
theorem Settled.not_pins (h : s.Settled lex last)
    (hkey : (keyOf? name u).bind s.catalog.unique? = none) {place : ModulePath × String}
    (hkeyOf : keyOf? name u = some (placeKey place)) : ¬ last.Pins lex.units place := by
  rintro ⟨halone, v, hv, hdeclares⟩
  have hunique := h.catalog.isSome_unique? halone (h.scanned v hv) hdeclares
  rw [hkeyOf, Option.bind_some] at hkey
  rw [hkey] at hunique
  cases hunique

/-- What a settled session finds at the places of a name in a regular run. -/
theorem meaning_of_places (hsingle : loader.IsSingle) (hlast : last.Regular loader lex)
    (h : s.Settled lex last) (hu : s.catalog.units[unit]? = some u) (hreader : u ∈ lex.readers)
    (hname : name.isEmpty = false) (hkey : (keyOf? name u).bind s.catalog.unique? = none)
    (hrest : Changes loader (record unit name u (searchPlaces loader (places name u) s)) last) :
    found (searchPlaces loader (places name u) s) = lex.meaning name u := by
  have hmoves := searchPlaces_moves loader (places name u) s
  have hafter := (record_changes loader unit name u _).trans hrest
  have hpart : ∀ t, Moves loader s t → Moves loader t (searchPlaces loader (places name u) s).2 →
      t.catalog.PartOf lex.units (last.sought lex.readers) := fun t ht ht' =>
    (ht.settled hsingle hlast h (ht'.changes.trans hafter)).catalog
  have hdenotes : lex.units.denoted? name u =
      (places name u).find? fun place => (lex.units.owner? place).isSome := by
    rw [Library.denoted?, hname, if_neg Bool.false_ne_true]
  cases hid : (searchPlaces loader (places name u) s).1 with
  | some id =>
    obtain ⟨d, hd⟩ := isSome_found h.catalog.indexed h.catalog.marked hid
    have hanswer := mem_answers_of_record _ hid
      (hmoves.changes.grows.getElem?_units hu) hd hrest
    have hfound := found_eq_some hid hd
    have hplace := mem_sought_of_mem_answers hreader hanswer List.mem_cons_self
    rw [hfound]
    by_cases hkeyOf : keyOf? name u = some (placeKey d.place)
    · have howner := isSome_owner?_of_found (hpart _ hmoves .refl) hfound hplace
      exact (hlast.keyed u hreader _ hanswer hkeyOf howner).symm
    · have hdenoted := found_searchPlaces hfound (fun q hq => Option.some.inj hq ▸ hplace)
        (fun p hp => mem_sought_of_mem_answers hreader hanswer (mem_lookedAt hkeyOf hp)) hpart
      rw [← hdenotes] at hdenoted
      exact (hlast.denoted u hreader _ hanswer (fun _ => h.not_pins hkey) hdenoted.symm).symm
  | none =>
    have hmiss := mem_misses_of_record _ hid hrest
    have hnone : found (searchPlaces loader (places name u) s) = none := by
      rw [found, hid, Option.bind_none]
    have hdenoted := found_searchPlaces hnone (fun q hq => by cases hq)
      (fun p hp => mem_sought_of_mem_misses hreader hmiss
        ((List.takeWhile_sublist _).subset hp)) hpart
    rw [← hdenotes] at hdenoted
    rw [hnone]
    exact (hlast.missed u hreader name hmiss (fun _ => h.not_pins hkey) hdenoted.symm).symm

/-- What a search has found, as the lexicon says. -/
theorem search_settled (hsingle : loader.IsSingle) (hlast : last.Regular loader lex)
    (h : s.Settled lex last) (hu : s.catalog.units[unit]? = some u) (hname : name.isEmpty = false)
    {result : Option Nat × Session} (hresult : firstHit (searches loader name u) s = result)
    (hrest : Changes loader (record unit name u result) last) :
    (∀ id, result.1 = some id → ∃ d, result.2.catalog.decls[id]? = some d) ∧
      (u ∈ lex.readers → found result = lex.meaning name u) := by
  rw [firstHit_searches loader (h.catalog.marked u (List.mem_of_getElem? hu)) name] at hresult
  cases hkey : (keyOf? name u).bind s.catalog.unique? with
  | some id =>
    rw [hkey] at hresult
    subst hresult
    obtain ⟨d, hd, hmeaning⟩ := meaning_of_unique? hlast h hu hkey hrest
    refine ⟨fun id' hid' => ?_, fun hreader => ?_⟩
    · cases hid'
      exact ⟨d, hd⟩
    · rw [hmeaning hreader]
      exact found_eq_some rfl hd
  | none =>
    rw [hkey] at hresult
    subst hresult
    exact ⟨fun id hid => isSome_found h.catalog.indexed h.catalog.marked hid, fun hreader =>
      meaning_of_places hsingle hlast h hu hreader hname hkey hrest⟩

/-- A session stays settled when what a search has found is recorded. -/
theorem Settled.record {result : Option Nat × Session} (h : result.2.Settled lex last)
    (hu : result.2.catalog.units[unit]? = some u)
    (hdecl : ∀ id, result.1 = some id → ∃ d, result.2.catalog.decls[id]? = some d)
    (hfound : u ∈ lex.readers → found result = lex.meaning name u) :
    (record unit name u result).Settled lex last := by
  have hasked := (record_changes (.none) unit name u result).moments.asks.marked h.asked
  obtain ⟨_ | id, s'⟩ := result
  · exact ⟨h.catalog, h.scanned, hasked, h.resolved⟩
  · refine ⟨h.catalog, h.scanned, hasked, fun unit' name' id' hmem => ?_⟩
    rcases List.mem_append.mp hmem with hbefore | hnew
    · exact h.resolved unit' name' id' hbefore
    · cases List.mem_singleton.mp hnew
      obtain ⟨d, hd⟩ := hdecl _ rfl
      refine ⟨u, d, hu, hd, fun hreader => ?_⟩
      rw [← hfound hreader, found_eq_some rfl hd]

/-- A name that was resolved is remembered. -/
theorem mem_resolved_of_resolve {id : Nat} (h : (s.resolve loader name unit).1 = some id) :
    ((unit, plainName name), id) ∈ (s.resolve loader name unit).2.resolved := by
  rcases resolve_cases loader name unit s with ⟨-, heq⟩ | ⟨id', hid, heq⟩ |
    ⟨u, ⟨_ | id', s'⟩, -, -, -, -, heq⟩
  · rw [heq] at h
    cases h
  · rw [heq] at h ⊢
    cases h
    exact mem_resolved_of_remembered? hid
  · rw [heq] at h
    cases h
  · rw [heq] at h ⊢
    cases h
    exact List.mem_append_right _ (List.mem_singleton_self _)

/-- **Resolving.** In a regular run, a settled session stays settled when it resolves a name, and
what it leaves unresolved has no meaning. -/
theorem Settled.resolve (hsingle : loader.IsSingle) (hlast : last.Regular loader lex)
    (h : s.Settled lex last) (hrest : Steps loader (s.resolve loader name unit).2 last) :
    (s.resolve loader name unit).2.Settled lex last ∧
      ∀ u, s.catalog.units[unit]? = some u → u ∈ lex.readers →
        (plainName name).isEmpty = false → (s.resolve loader name unit).1 = none →
          lex.meaning (plainName name) u = none := by
  rcases resolve_cases loader name unit s with ⟨hnothing, heq⟩ | ⟨id, hid, heq⟩ |
    ⟨u, result, hname, -, hu, hresult, heq⟩
  · rw [heq]
    refine ⟨h, fun u hu _ hname _ => ?_⟩
    rw [hname, hu] at hnothing
    simp at hnothing
  · rw [heq]
    exact ⟨h, fun _ _ _ _ hnone => by cases hnone⟩
  · rw [heq] at hrest ⊢
    obtain ⟨hdecl, hfound⟩ := search_settled hsingle hlast h hu hname hresult hrest.changes
    have hmoves := firstHit_searches_steady loader (plainName name) u s
    rw [hresult] at hmoves
    have hsettled := hmoves.settled hsingle hlast h
      ((record_changes loader unit _ u result).trans hrest.changes)
    have hunit := hmoves.changes.grows.getElem?_units hu
    refine ⟨hsettled.record hunit hdecl hfound, fun u' hu' hreader _ hnone => ?_⟩
    obtain rfl : u = u' := Option.some.inj (hu.symm.trans hu')
    have hnone : result.1 = none := hnone
    rw [← hfound hreader, found, hnone, Option.bind_none]

/-- **Runs.** In a regular run, all sessions after a settled one are settled. -/
theorem Steps.settled {s s' : Session} (hsingle : loader.IsSingle)
    (hlast : last.Regular loader lex) (h : s.Settled lex last) (hsteps : Steps loader s s')
    (hrest : Steps loader s' last) : s'.Settled lex last := by
  induction hsteps with
  | refl => exact h
  | tail _ hstep ih =>
    have hbefore := ih (.head hstep hrest)
    cases hstep with
    | note events hevents =>
      refine ⟨hbefore.catalog, hbefore.scanned, fun module hmodule => ?_, hbefore.resolved⟩
      rw [loads_note hevents] at hmodule
      exact hbefore.asked module hmodule
    | resolve name unit => exact (hbefore.resolve hsingle hlast hrest).1

end Session

end ApiDocs
