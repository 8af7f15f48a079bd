import ApiDocs.Proofs.Resolution.Idle
import ApiDocs.Proofs.Session.Uses

/-!
# Names with a fixed place

Some type names in a unit can stand for one place only: a name that the unit itself declares, and a
qualified name whose first segment says where the path starts or is another name of an import. Such
a name is searched for at its place alone (`firstHit_searches_of_fixedPlace?`), and what is
remembered for it stands there (`Recalls`). So it is resolved to what its place has, in every
session (`resolve_of_fixedPlace?`): the types of a unit hide all others of their names
(`own_type_wins`), and no other module is used for such a qualifier
(`qualifier_is_exclusive`).
-/

namespace ApiDocs

namespace Session

/-- The module that a qualifier in a unit stands for, if its first segment says where the path
starts or is another name of an import. -/
def fixedModule? (qualifier : ModulePath) (u : SourceUnit) : Option ModulePath :=
  let (head, tail) := ModulePath.splitHead qualifier
  if isRelative head then some (ModulePath.absolute qualifier u.module)
  else
    (u.imports.find? fun i => !i.glob && i.asName == some head).map fun i =>
      ModulePath.join i.path tail

/-- The only place that a type name in a unit can stand for, if there is one. -/
def fixedPlace? (name : String) (u : SourceUnit) : Option (ModulePath × String) :=
  match ModulePath.splitName name with
  | (none, name) => if u.types.any fun t => t.name == name then some (u.module, name) else none
  | (some qualifier, name) => (fixedModule? qualifier u).map fun module => (module, name)

variable {loader : Loader} {s s' : Session} {unit : Nat} {u : SourceUnit} {name : String}
  {p : ModulePath × String}

/-! ## Searching -/

theorem firstHit_singleton (search : Session → Option Nat × Session) (s : Session) :
    firstHit [search] s = search s := by
  rcases hsearch : search s with ⟨_ | id, s'⟩
  · rw [firstHit_cons_of_none hsearch, firstHit]
  · rw [firstHit_cons_of_some hsearch]

/-- A type that a unit declares is found in its module, and its short key finds no other one. -/
theorem InOrder.find?_own (h : s.InOrder) (hu : u ∈ s.catalog.units) {t : TypeDef}
    (ht : t ∈ u.types) :
    ∃ id, s.catalog.find? u.module t.name = some id ∧
      ∀ other, s.catalog.unique? (shortKey u.moduleName t.name) = some other → other = id := by
  have hknows : (s.catalog.find? u.module t.name).isSome :=
    (Catalog.find?_isSome_iff h.indexed).mpr ⟨u, hu, rfl, t, ht, rfl⟩
  obtain ⟨id, hid⟩ := Option.isSome_iff_exists.mp hknows
  refine ⟨id, hid, fun other hother => ?_⟩
  obtain ⟨d, hd, hplace⟩ := (h.indexed.find_iff u.module t.name id).mp hid
  obtain ⟨-, honly⟩ := (h.indexed.unique_iff_forall _ other).mp hother
  -- the type itself has the key, and no two types may have it
  have hkey : d.key = shortKey u.moduleName t.name := by
    obtain ⟨hmodule, hname⟩ := Prod.mk.inj hplace
    rw [TypeDecl.key, hmodule, hname]
    rfl
  exact (honly id d hd hkey).symm

/-- A name that the unit itself declares is found in the module of the unit. -/
theorem firstHit_plainSearches_own (h : s.InOrder) (hu : u ∈ s.catalog.units) {t : TypeDef}
    (ht : t ∈ u.types) :
    firstHit (plainSearches loader t.name u) s = findIn loader u.module t.name s := by
  obtain ⟨id, hid, hkey⟩ := h.find?_own hu ht
  have hfind : findIn loader u.module t.name s = (some id, s) := by rw [findIn, hid]
  rw [firstHit_plainSearches (h.marked u hu), hfind]
  cases hunique : s.catalog.unique? (shortKey u.moduleName t.name) with
  | some other => rw [hkey other hunique]
  | none =>
    rw [searchPlaces, List.map_cons]
    exact firstHit_cons_of_some hfind

/-- **Searching.** A name with a fixed place is searched for there and nowhere else. -/
theorem firstHit_searches_of_fixedPlace? (loader : Loader) (h : s.InOrder)
    (hu : u ∈ s.catalog.units) (hp : fixedPlace? name u = some p) :
    firstHit (searches loader name u) s = findIn loader p.1 p.2 s := by
  unfold fixedPlace? at hp
  unfold searches
  rcases hsplit : ModulePath.splitName name with ⟨_ | qualifier, item⟩
  · simp only [hsplit] at hp ⊢
    split at hp
    · rename_i hown
      cases hp
      obtain ⟨t, ht, heq⟩ := List.any_eq_true.mp hown
      rw [← beq_iff_eq.mp heq]
      exact firstHit_plainSearches_own h hu ht
    · cases hp
  · simp only [hsplit] at hp ⊢
    obtain ⟨module, hmodule, rfl⟩ := Option.map_eq_some_iff.mp hp
    unfold fixedModule? at hmodule
    simp only [qualifiedSearches] at hmodule ⊢
    split at hmodule
    · rename_i hrelative
      cases hmodule
      rw [if_pos hrelative, firstHit_singleton]
    · rename_i hrelative
      obtain ⟨i, hi, rfl⟩ := Option.map_eq_some_iff.mp hmodule
      rw [if_neg hrelative, hi, firstHit_singleton]

/-! ## Remembering -/

/-- Whether all that is remembered belongs to a known unit, and a name with a fixed place is
remembered with the type there. -/
def Recalls (s : Session) : Prop :=
  ∀ unit name id, ((unit, name), id) ∈ s.resolved → ∃ u, s.catalog.units[unit]? = some u ∧
    ∀ p, fixedPlace? name u = some p → s.catalog.find? p.1 p.2 = some id

theorem Keeps.getElem?_units (h : Keeps s s') (hu : s.catalog.units[unit]? = some u) :
    s'.catalog.units[unit]? = some u := by
  obtain ⟨more, hmore⟩ := h.units
  rw [← hmore, List.getElem?_append_left (List.getElem?_eq_some_iff.mp hu).1, hu]

/-- What stands at a fixed place stays there. -/
theorem Keeps.recalls (h : Keeps s s') {name : String} {id : Nat}
    (hs : ∃ u, s.catalog.units[unit]? = some u ∧
      ∀ p, fixedPlace? name u = some p → s.catalog.find? p.1 p.2 = some id) :
    ∃ u, s'.catalog.units[unit]? = some u ∧
      ∀ p, fixedPlace? name u = some p → s'.catalog.find? p.1 p.2 = some id := by
  obtain ⟨u, hu, hfind⟩ := hs
  exact ⟨u, h.getElem?_units hu, fun p hp => h.index.find p.1 p.2 id (hfind p hp)⟩

/-- A session that remembers nothing new recalls what it did. -/
theorem Recalls.of_keeps (hs : s.Recalls) (h : Keeps s s') (hresolved : s'.resolved = s.resolved) :
    s'.Recalls := by
  intro unit name id hentry
  rw [hresolved] at hentry
  exact h.recalls (hs unit name id hentry)

/-- **Resolving.** A name with a fixed place is resolved to what stands there, once its module was
made sure of or without that. -/
theorem resolve_of_fixedPlace? (loader : Loader) (horder : s.InOrder) (hrecalls : s.Recalls)
    (hu : s.catalog.units[unit]? = some u) (hname : (plainName name).isEmpty = false)
    (hp : fixedPlace? (plainName name) u = some p) :
    ∃ s₁, (s₁ = s ∨ s₁ = s.ensure loader p.1) ∧
      (s.resolve loader name unit).1 = s₁.catalog.find? p.1 p.2 ∧
      (s.resolve loader name unit).2.catalog = s₁.catalog ∧
      (s.resolve loader name unit).2.journal.loads = s₁.journal.loads := by
  rcases resolve_cases loader name unit s with ⟨hnothing, -⟩ | ⟨id, hid, heq⟩ |
    ⟨u', result, -, -, hu', hresult, heq⟩
  · rw [hname, hu] at hnothing
    simp at hnothing
  · obtain ⟨u', hu', hfind⟩ := hrecalls _ _ _ (mem_resolved_of_remembered? hid)
    obtain rfl : u = u' := Option.some.inj (hu.symm.trans hu')
    rw [heq]
    exact ⟨s, Or.inl rfl, (hfind p hp).symm, rfl, rfl⟩
  · obtain rfl : u = u' := Option.some.inj (hu.symm.trans hu')
    have hmem := List.mem_of_getElem? hu
    have hsearch := firstHit_searches_of_fixedPlace? loader horder hmem hp
    rw [findIn_eq loader horder.marked horder.indexed, hresult] at hsearch
    subst hsearch
    rw [heq]
    refine ⟨s.ensure loader p.1, Or.inr rfl, rfl, record_catalog _ _ _ _, ?_⟩
    unfold record
    split
    · rename_i hfound
      cases (Prod.mk.inj hfound).2
      exact loads_note rfl _
    · rename_i hfound
      cases (Prod.mk.inj hfound).2
      exact loads_note rfl _

theorem Recalls.resolve (horder : s.InOrder) (h : s.Recalls) (loader : Loader) (name : String)
    (unit : Nat) : (s.resolve loader name unit).2.Recalls := by
  have hkeeps : Keeps s (s.resolve loader name unit).2 :=
    (resolve_changes loader name unit s).moments.keeps
  intro unit' name' id hentry
  rcases mem_resolved_resolve hentry with hold | ⟨hname, hid, heq⟩
  · exact hkeeps.recalls (h unit' name' id hold)
  · obtain ⟨rfl, rfl⟩ := Prod.mk.inj heq
    -- a name is resolved in a unit that is known
    obtain ⟨u, hu⟩ : ∃ u, s.catalog.units[unit']? = some u := by
      rcases resolve_cases loader name unit' s with ⟨-, heq⟩ | ⟨id', hid', -⟩ |
        ⟨u, -, -, -, hu, -⟩
      · rw [heq] at hid
        cases hid
      · obtain ⟨u, hu, -⟩ := h _ _ _ (mem_resolved_of_remembered? hid')
        exact ⟨u, hu⟩
      · exact ⟨u, hu⟩
    refine ⟨u, hkeeps.getElem?_units hu, fun p hp => ?_⟩
    obtain ⟨s₁, -, hfirst, hcatalog, -⟩ :=
      resolve_of_fixedPlace? loader horder h hu hname hp
    rw [hcatalog, ← hfirst, hid]

theorem Use.recalls (h : Use loader s s') (hs : s.InOrder ∧ s.Recalls) :
    s'.InOrder ∧ s'.Recalls := by
  refine h.induction (P := fun s => s.InOrder ∧ s.Recalls) ?_ ?_ ?_ ?_ ?_ hs
  · exact fun s events hs => ⟨⟨hs.1.indexed, hs.1.marked, hs.1.named⟩, hs.2⟩
  · intro s source hs
    have hmoment : Moment loader s (s.addScanned source.units) := .scan s source.units
    exact ⟨hs.1.addScanned source, hs.2.of_keeps hmoment.keeps rfl⟩
  · exact fun s path hs => ⟨⟨hs.1.indexed, hs.1.marked, hs.1.named⟩, hs.2⟩
  · intro s module hs
    have hkeeps := (ensure_changes loader module s).moments.keeps
    exact ⟨hs.1.ensure loader module, hs.2.of_keeps hkeeps (ensure_resolved loader module s)⟩
  · exact fun s name unit hs => ⟨hs.1.resolve loader name unit, hs.2.resolve hs.1 loader name unit⟩

/-- **Invariant.** A session that is used from the start recalls names with a fixed place. -/
theorem Uses.recalls (h : Uses loader {} s) : s.InOrder ∧ s.Recalls := by
  induction h with
  | refl => exact ⟨inOrder_empty, nofun⟩
  | tail _ huse ih => exact huse.recalls ih

/-! ## Names of a unit's own types -/

/-- **Own types.** In every session, and for ever after, the name of a type that a unit declares is
resolved to the type of that name in the module of the unit. Nothing is loaded for it, and its short
key finds no type of another module. -/
theorem own_type_wins (h : Uses loader {} s) (hu : s.catalog.units[unit]? = some u) {t : TypeDef}
    (ht : t ∈ u.types) :
    ∃ id, s.catalog.find? u.module t.name = some id ∧ ∀ s', Uses loader s s' →
      s'.catalog.find? u.module t.name = some id ∧
      (∀ other, s'.catalog.unique? (shortKey u.moduleName t.name) = some other → other = id) ∧
      (s'.resolve loader t.name unit).1 = some id ∧
      (s'.resolve loader t.name unit).2.catalog = s'.catalog := by
  have hmem := List.mem_of_getElem? hu
  have hname := h.inOrder.named u hmem t ht
  obtain ⟨id, hid, -⟩ := h.inOrder.find?_own hmem ht
  refine ⟨id, hid, fun s' h' => ?_⟩
  obtain ⟨horder, hrecalls⟩ := Uses.recalls (h.trans h')
  have hu' := h'.keeps.getElem?_units hu
  have hid' := h'.keeps.index.find u.module t.name id hid
  obtain ⟨other, hother, hkey⟩ := horder.find?_own (List.mem_of_getElem? hu') ht
  obtain rfl : other = id := Option.some.inj (hother.symm.trans hid')
  have hplain : plainName t.name = t.name := plainName_of_isIdentifier hname
  have hnonempty : (plainName t.name).isEmpty = false := by
    rw [hplain]
    simpa using ModulePath.ne_empty_of_isIdentifier hname
  have hplace : fixedPlace? (plainName t.name) u = some (u.module, t.name) := by
    have hown : (u.types.any fun other => other.name == t.name) = true :=
      List.any_eq_true.mpr ⟨t, ht, beq_self_eq_true t.name⟩
    rw [hplain, fixedPlace?, ModulePath.splitName_of_isIdentifier hname]
    exact if_pos hown
  obtain ⟨s₁, hs₁, hfirst, hcatalog, -⟩ :=
    resolve_of_fixedPlace? loader horder hrecalls hu' hnonempty hplace
  -- the module of the unit is marked, so nothing is loaded for it
  have hensure : s'.ensure loader u.module = s' := by
    rw [ensure, if_pos (by simpa using horder.marked u (List.mem_of_getElem? hu'))]
  rw [hensure, or_self] at hs₁
  rw [hfirst, hcatalog, hs₁]
  exact ⟨hid', hkey, hid', rfl⟩

/-- A module with a type `Book` that imports all types of another one. -/
def ownModel : LoadedSource :=
  ⟨⟨"a/model.rs"⟩, "crate::a::model", "use crate::b::model::*; pub struct Book;"⟩

/-- A module of the same last segment, with a type `Book` too. -/
def otherModel : LoadedSource :=
  ⟨⟨"b/model.rs"⟩, "crate::b::model", "pub struct Book; pub struct Page;"⟩

/-- A session in which the first module was scanned. -/
def ownSession : Session :=
  ({} : Session).addScanned ownModel.units

/-- The loader of the second module. -/
def otherLoader : Loader :=
  .ofSources [("crate::b::model", otherModel)]

/-- The own type is found, before and after a second one of its name and short key is loaded. -/
theorem own_type_wins_ownSession :
    Uses otherLoader {} ownSession ∧
    ownSession.catalog.unique? "model::Book" = some 0 ∧
    (ownSession.resolve otherLoader "Book" 0).1 = some 0 ∧
    (ownSession.resolve otherLoader "crate::b::model::Book" 0).1 = some 1 ∧
    ((ownSession.resolve otherLoader "crate::b::model::Book" 0).2.resolve otherLoader "Book" 0).1 =
      some 0 := by
  have huses : Uses otherLoader {} ownSession := .single (.scan {} ownModel)
  have hlater : Uses otherLoader ownSession
      (ownSession.resolve otherLoader "crate::b::model::Book" 0).2 := .single (.resolve _ _ _)
  have hu : ownSession.catalog.units[0]? = some ⟨⟨"a/model.rs"⟩, "crate::a::model",
      [⟨"crate::b::model", none, true⟩], [⟨"Book", .struct []⟩], []⟩ := by decide +kernel
  have hfind : ownSession.catalog.find? "crate::a::model" "Book" = some 0 := by decide +kernel
  obtain ⟨id, hid, hwins⟩ := own_type_wins huses hu List.mem_cons_self
  obtain rfl : id = 0 := Option.some.inj (hid.symm.trans hfind)
  exact ⟨huses, by decide +kernel, (hwins _ .refl).2.2.1, by decide +kernel,
    (hwins _ hlater).2.2.1⟩

/-! ## Qualifiers that say where to look -/

theorem isEmpty_eq_false_of_splitName {path qualifier : ModulePath} {item : String}
    (h : ModulePath.splitName path = (some qualifier, item)) : path.isEmpty = false := by
  rw [← Bool.not_eq_true, String.isEmpty_iff]
  rintro rfl
  cases h

/-- **Qualifiers.** In every session, a name whose qualifier has a fixed module is resolved to the
type of the name in that module, or to nothing if the module has none once the name was searched
for. No other module is asked for. -/
theorem qualifier_is_exclusive (h : Uses loader {} s) (hu : s.catalog.units[unit]? = some u)
    {qualifier module : ModulePath} {item : String}
    (hname : ModulePath.splitName (plainName name) = (some qualifier, item))
    (hmodule : fixedModule? qualifier u = some module) {answer : Option Nat}
    (hanswer : s.resolve loader name unit = (answer, s')) :
    (∀ id, answer = some id →
      ∃ d, s'.catalog.decls[id]? = some d ∧ d.module = module ∧ d.name = item) ∧
    (answer = none → s'.catalog.find? module item = none) ∧
    (s'.journal.loads = s.journal.loads ∨ s'.journal.loads = s.journal.loads ++ [module]) := by
  obtain ⟨horder, hrecalls⟩ := h.recalls
  have hplace : fixedPlace? (plainName name) u = some (module, item) := by
    rw [fixedPlace?, hname]
    simp only [hmodule, Option.map_some]
  obtain ⟨s₁, hs₁, hfirst, hcatalog, hloads⟩ := resolve_of_fixedPlace? loader horder
    hrecalls hu (isEmpty_eq_false_of_splitName hname) hplace
  have horder' := horder.resolve loader name unit
  rw [hanswer] at hfirst hcatalog hloads horder'
  simp only at hfirst hcatalog hloads horder'
  rw [← hcatalog] at hfirst
  refine ⟨fun id hid => ?_, fun hnone => by rw [← hfirst, hnone], ?_⟩
  · rw [hid] at hfirst
    obtain ⟨d, hd, heq⟩ := (horder'.indexed.find_iff module item id).mp hfirst.symm
    exact ⟨d, hd, Prod.mk.inj heq⟩
  · rw [hloads]
    rcases hs₁ with rfl | rfl
    · exact Or.inl rfl
    · by_cases hmarked : module ∈ s.catalog.attempted
      · rw [ensure, if_pos (by simpa using hmarked)]
        exact Or.inl rfl
      · exact Or.inr (loads_ensure_of_notMem hmarked loader)

/-- A module that gives another module the name `model`. -/
def aliasModel : LoadedSource :=
  ⟨⟨"api.rs"⟩, "crate::api", "use crate::b::model as model;"⟩

/-- A session with a module that is called `model`, and one that gives another one this name. -/
def aliasSession : Session :=
  ownSession.addScanned aliasModel.units

/-- A type is found in the module that is imported as `model`, though its short key denotes one of
another module. It is not found there if only that other module has it. -/
theorem qualifier_is_exclusive_aliasSession :
    Uses otherLoader {} aliasSession ∧
    aliasSession.catalog.unique? "model::Book" = some 0 ∧
    (aliasSession.resolve otherLoader "model::Book" 1).1 = some 1 ∧
    ((aliasSession.resolve otherLoader "model::Book" 1).2.catalog.decls[1]?.map TypeDecl.place =
      some ("crate::b::model", "Book")) ∧
    (aliasSession.resolve .none "model::Book" 1).1 = none ∧
    (aliasSession.resolve .none "model::Book" 1).2.catalog.find? "crate::b::model" "Book" = none ∧
    (aliasSession.resolve .none "model::Book" 1).2.journal.loads = ["crate::b::model"] := by
  have huses : ∀ loader, Uses loader {} aliasSession := fun loader =>
    .tail (.single (.scan {} ownModel)) (.scan ownSession aliasModel)
  have hu : aliasSession.catalog.units[1]? = some ⟨⟨"api.rs"⟩, "crate::api",
      [⟨"crate::b::model", some "model", false⟩], [], []⟩ := by decide +kernel
  have hname : ModulePath.splitName (plainName "model::Book") = (some "model", "Book") := by
    decide +kernel
  have hloaded : (aliasSession.resolve otherLoader "model::Book" 1).1 = some 1 := by decide +kernel
  have hmissing : (aliasSession.resolve .none "model::Book" 1).1 = none := by decide +kernel
  have hmodule : fixedModule? "model" ⟨⟨"api.rs"⟩, "crate::api",
      [⟨"crate::b::model", some "model", false⟩], [], []⟩ = some "crate::b::model" := by
    decide +kernel
  obtain ⟨hfound, -, -⟩ :=
    qualifier_is_exclusive (huses otherLoader) hu hname hmodule Prod.mk.eta.symm
  obtain ⟨-, hnone, -⟩ := qualifier_is_exclusive (huses .none) hu hname hmodule Prod.mk.eta.symm
  obtain ⟨d, hd, hplace⟩ := hfound 1 hloaded
  refine ⟨huses otherLoader, by decide +kernel, hloaded, ?_, hmissing, hnone hmissing,
    by decide +kernel⟩
  rw [hd, Option.map_some, TypeDecl.place, hplace.1, hplace.2]

end Session

end ApiDocs
