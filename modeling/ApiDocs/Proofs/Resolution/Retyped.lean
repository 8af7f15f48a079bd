import ApiDocs.Proofs.Resolution.Fixed

/-!
# Sessions that differ in one structure

The fields of a structure have no part in resolving names. So two sessions that differ in the fields
of one structure, and in whether they remember a name that a unit itself declares, resolve every
name to the same type and differ in no more than this ever after (`Alike.resolve`).
-/

namespace ApiDocs

/-! ## Types -/

theorem modify_concat {α : Type} {l : List α} {i : Nat} (h : i < l.length) (f : α → α) (b : α) :
    (l ++ [b]).modify i f = l.modify i f ++ [b] := by
  induction l generalizing i with
  | nil => cases h
  | cons a l ih =>
    cases i with
    | zero => rfl
    | succ i => exact congrArg (a :: ·) (ih (Nat.lt_of_succ_lt_succ h))

namespace TypeIndex

/-- Declared types, the one with the number `id` with another body. -/
def retype (id : Nat) (body : TypeBody) (x : TypeIndex) : TypeIndex :=
  { x with decls := x.decls.modify id fun d => { d with body := body } }

variable {id : Nat} {body : TypeBody}

/-- The declared types with another body for one of them. -/
theorem getElem?_retype (x : TypeIndex) (other : Nat) :
    (x.retype id body).decls[other]? =
      x.decls[other]?.map fun d => if id = other then { d with body := body } else d :=
  List.getElem?_modify _ _ _ _

theorem moduleOf?_retype (x : TypeIndex) (other : Nat) :
    (x.retype id body).moduleOf? other = x.moduleOf? other := by
  rw [moduleOf?, moduleOf?, getElem?_retype, Option.map_map]
  congr 1
  funext d
  rw [Function.comp_apply]
  split <;> rfl

/-- Short keys do not depend on the bodies of types. -/
theorem addKey_retype (x : TypeIndex) (key : String) (module : ModulePath) (other : Nat) :
    (x.addKey key module other).retype id body = (x.retype id body).addKey key module other := by
  have hambiguous : (x.retype id body).ambiguous = x.ambiguous := rfl
  have hunique : (x.retype id body).unique? key = x.unique? key := rfl
  unfold addKey
  rw [hambiguous, hunique]
  split
  · rfl
  · split
    · rw [moduleOf?_retype]
      split <;> rfl
    · rfl

/-- Registering a type does not depend on the bodies of the others. -/
theorem register_retype {x : TypeIndex} (h : id < x.decls.length) (d : TypeDecl) :
    (x.register d).retype id body = (x.retype id body).register d := by
  have hfind : (x.retype id body).find? d.module d.name = x.find? d.module d.name := rfl
  have hlength : (x.retype id body).decls.length = x.decls.length := List.length_modify _ _ _
  have happend : (x.append d).retype id body = (x.retype id body).append d := by
    rw [append, append, hlength, retype, modify_concat h]
    rfl
  unfold register
  rw [hfind, hlength]
  split
  · rfl
  · rw [addKey_retype, happend]

theorem foldl_register_retype {x : TypeIndex} (h : id < x.decls.length) (ds : List TypeDecl) :
    (ds.foldl register x).retype id body = ds.foldl register (x.retype id body) := by
  induction ds generalizing x with
  | nil => rfl
  | cons d ds ih =>
    have hlength : id < (x.register d).decls.length :=
      Nat.lt_of_lt_of_le h (register_decls_isPrefix x d).length_le
    rw [List.foldl_cons, List.foldl_cons, ih hlength, register_retype h]

/-- A new type with another body is the type, retyped. -/
theorem register_body {x : TypeIndex} {d : TypeDecl} (h : x.find? d.module d.name = none)
    (body : TypeBody) :
    x.register { d with body := body } = (x.register d).retype x.decls.length body := by
  have hlast : (x.decls ++ [d]).modify x.decls.length (fun d => { d with body := body }) =
      x.decls ++ [{ d with body := body }] := List.modifyTailIdx_add _ 0 x.decls [d]
  have happend : x.append { d with body := body } = (x.append d).retype x.decls.length body := by
    rw [append, append, retype, hlast]
  rw [register_of_find?_eq_none (d := { d with body := body }) h, register_of_find?_eq_none h,
    addKey_retype, happend]
  rfl

end TypeIndex

/-! ## Catalogs -/

/-- What names in a unit depend on: its module and its imports. -/
def SourceUnit.scope (u : SourceUnit) : ModulePath × List Import :=
  (u.module, u.imports)

namespace Catalog

/-- Whether two catalogs differ in the body of one type only. The units may differ in how they
declare it. -/
structure Retyped (id : Nat) (body : TypeBody) (c c' : Catalog) : Prop where
  /-- The types. -/
  index : c'.toTypeIndex = c.toTypeIndex.retype id body
  /-- The type is declared. -/
  declared : id < c.decls.length
  /-- The units. -/
  units : c'.units.map SourceUnit.scope = c.units.map SourceUnit.scope
  /-- The modules that are known or were asked for. -/
  attempted : c'.attempted = c.attempted
  /-- The files that were read. -/
  files : c'.files = c.files

variable {id : Nat} {body : TypeBody} {c c' : Catalog}

/-- Types are found by their places as before. -/
theorem Retyped.find?_eq (h : Retyped id body c c') (module : ModulePath) (name : String) :
    c'.find? module name = c.find? module name := by
  rw [h.index]
  rfl

/-- Types are found by their short keys as before. -/
theorem Retyped.unique?_eq (h : Retyped id body c c') (key : String) :
    c'.unique? key = c.unique? key := by
  rw [h.index]
  rfl

/-- Catalogs that differ in one body still do when a unit is added to both. -/
theorem Retyped.addUnit (h : Retyped id body c c') (u : SourceUnit) :
    Retyped id body (c.addUnit u) (c'.addUnit u) := by
  have hlength : c'.units.length = c.units.length := by
    rw [← List.length_map (f := SourceUnit.scope), h.units, List.length_map]
  refine ⟨?_, ?_, ?_, ?_, h.files⟩
  · show (declsOf u c'.units.length).foldl TypeIndex.register c'.toTypeIndex = _
    rw [hlength, h.index]
    exact (TypeIndex.foldl_register_retype h.declared _).symm
  · exact Nat.lt_of_lt_of_le h.declared
      (TypeIndex.foldl_register_decls_isPrefix c.toTypeIndex _).length_le
  · show (c'.units ++ [u]).map SourceUnit.scope = (c.units ++ [u]).map SourceUnit.scope
    rw [List.map_append, List.map_append, h.units]
  · show c'.attempted ++ [u.module] = c.attempted ++ [u.module]
    rw [h.attempted]

/-- So they do when several units are added. -/
theorem Retyped.addUnits (h : Retyped id body c c') (us : List SourceUnit) :
    Retyped id body (c.addUnits us) (c'.addUnits us) := by
  induction us generalizing c c' with
  | nil => exact h
  | cons u us ih => exact ih (h.addUnit u)

/-- **Replacing.** A type that a unit is the first one to declare, with another body. -/
theorem retyped_of_types (c : Catalog) (u : SourceUnit) {before : List TypeDef} {t : TypeDef}
    (after : List TypeDef) {x : TypeIndex}
    (hx : x = (declsOf { u with types := before } c.units.length).foldl TypeIndex.register
      c.toTypeIndex) (hnew : x.find? u.module t.name = none) (body : TypeBody) :
    Retyped x.decls.length body (c.addUnit { u with types := before ++ t :: after })
      (c.addUnit { u with types := before ++ { t with body := body } :: after }) := by
  -- the types before it and after it are registered as they were
  have hindex : ∀ t', (c.addUnit { u with types := before ++ t' :: after }).toTypeIndex =
      (declsOf { u with types := after } c.units.length).foldl TypeIndex.register
        (x.register ⟨t'.name, u.module, t'.body, c.units.length⟩) := by
    intro t'
    rw [hx, addUnit, declsOf, List.map_append, List.foldl_append]
    rfl
  have hregister := TypeIndex.register_body (d := ⟨t.name, u.module, t.body, c.units.length⟩) hnew
    body
  have hlength : x.decls.length <
      (x.register ⟨t.name, u.module, t.body, c.units.length⟩).decls.length := by
    rw [TypeIndex.register_decls, if_neg (by rw [hnew]; exact Bool.false_ne_true),
      List.length_append]
    exact Nat.lt_succ_self _
  refine ⟨?_, ?_, ?_, rfl, rfl⟩
  · rw [hindex, hindex, TypeIndex.foldl_register_retype hlength, ← hregister]
  · rw [hindex]
    exact Nat.lt_of_lt_of_le hlength
      (TypeIndex.foldl_register_decls_isPrefix _ _).length_le
  · rw [addUnit, addUnit, List.map_append, List.map_append]
    rfl

/-- So they do when a source is taken in. -/
theorem Retyped.take (h : Retyped id body c c') (source : LoadedSource) :
    Retyped id body (c.take source) (c'.take source) := by
  have hfile : c'.hasFile source.path = c.hasFile source.path := by
    rw [hasFile, hasFile, h.files]
  unfold Catalog.take
  rw [hfile]
  split
  · exact h
  · have hread : Retyped id body { c with files := c.files ++ [source.path] }
        { c' with files := c'.files ++ [source.path] } :=
      ⟨h.index, h.declared, h.units, h.attempted, by rw [h.files]⟩
    exact hread.addUnits source.units

theorem Retyped.ensure (h : Retyped id body c c') (loader : Loader) (module : ModulePath) :
    Retyped id body (c.ensure loader module) (c'.ensure loader module) := by
  have htake : ∀ (sources : List LoadedSource) {c c' : Catalog}, Retyped id body c c' →
      Retyped id body (sources.foldl Catalog.take c) (sources.foldl Catalog.take c') := by
    intro sources
    induction sources with
    | nil => exact fun hc => hc
    | cons source rest ih => exact fun hc => ih (hc.take source)
  unfold Catalog.ensure
  rw [h.attempted]
  split
  · exact h
  · refine htake _ ⟨h.index, h.declared, h.units, ?_, h.files⟩
    rw [ask, ask, h.attempted]

end Catalog

namespace Session

/-! ## Searching -/

/-- The short key of a name depends on the module and the imports of its unit only. -/
theorem keyOf?_congr {u u' : SourceUnit} (h : u'.scope = u.scope) (name : String) :
    keyOf? name u' = keyOf? name u := by
  obtain ⟨hmodule, himports⟩ := Prod.mk.inj h
  unfold keyOf? SourceUnit.moduleName
  rw [hmodule, himports]

theorem places_congr {u u' : SourceUnit} (h : u'.scope = u.scope) (name : String) :
    places name u' = places name u := by
  obtain ⟨hmodule, himports⟩ := Prod.mk.inj h
  unfold places
  rw [hmodule, himports]

variable {loader : Loader} {id : Nat} {body : TypeBody} {s s' : Session}

/-- Whether two searches have found the same type, in catalogs that differ in the body of one. -/
def SameHit (id : Nat) (body : TypeBody) (r r' : Option Nat × Session) : Prop :=
  r'.1 = r.1 ∧ r.2.catalog.Retyped id body r'.2.catalog

theorem findIn_sameHit (loader : Loader) (h : s.catalog.Retyped id body s'.catalog)
    (module : ModulePath) (name : String) :
    SameHit id body (findIn loader module name s) (findIn loader module name s') := by
  unfold findIn
  rw [h.find?_eq]
  cases s.catalog.find? module name with
  | some other => exact ⟨rfl, h⟩
  | none =>
    have hensure := h.ensure loader module
    rw [← ensure_catalog, ← ensure_catalog] at hensure
    exact ⟨hensure.find?_eq module name, hensure⟩

/-- **Places.** A search of places finds the same type in both catalogs. -/
theorem searchPlaces_sameHit (loader : Loader) (h : s.catalog.Retyped id body s'.catalog)
    (ps : List (ModulePath × String)) :
    SameHit id body (searchPlaces loader ps s) (searchPlaces loader ps s') := by
  induction ps generalizing s s' with
  | nil => exact ⟨rfl, h⟩
  | cons p rest ih =>
    obtain ⟨hid, hcatalog⟩ := findIn_sameHit loader h p.1 p.2
    unfold searchPlaces
    rw [List.map_cons]
    rcases hleft : findIn loader p.1 p.2 s with ⟨hit, s₁⟩
    rcases hright : findIn loader p.1 p.2 s' with ⟨hit', s₁'⟩
    rw [hleft, hright] at hid hcatalog
    obtain rfl : hit' = hit := hid
    cases hit' with
    | some other =>
      rw [firstHit_cons_of_some hleft, firstHit_cons_of_some hright]
      exact ⟨rfl, hcatalog⟩
    | none =>
      rw [firstHit_cons_of_none hleft, firstHit_cons_of_none hright]
      exact ih hcatalog

/-- A search finds the same type. -/
theorem firstHit_searches_sameHit (loader : Loader) (h : s.catalog.Retyped id body s'.catalog)
    {u u' : SourceUnit} (hscope : u'.scope = u.scope) (hmarked : u.module ∈ s.catalog.attempted)
    (name : String) :
    SameHit id body (firstHit (searches loader name u) s)
      (firstHit (searches loader name u') s') := by
  have hmarked' : u'.module ∈ s'.catalog.attempted := by
    rw [(Prod.mk.inj hscope).1, h.attempted]
    exact hmarked
  have hunique : (keyOf? name u').bind s'.catalog.unique? =
      (keyOf? name u).bind s.catalog.unique? := by
    rw [keyOf?_congr hscope]
    exact congrArg _ (funext h.unique?_eq)
  rw [firstHit_searches loader hmarked, firstHit_searches loader hmarked', hunique,
    places_congr hscope]
  cases (keyOf? name u).bind s.catalog.unique? with
  | some other => exact ⟨rfl, h⟩
  | none => exact searchPlaces_sameHit loader h _

/-! ## Remembering -/

/-- What is remembered after a search. -/
theorem remembered?_record (unit : Nat) (name : String) (u : SourceUnit)
    (r : Option Nat × Session) (unit' : Nat) (name' : String) :
    (record unit name u r).remembered? unit' name' =
      (r.2.remembered? unit' name').or (if (unit, name) = (unit', name') then r.1 else none) := by
  obtain ⟨_ | other, s⟩ := r
  · rw [ite_self, Option.or_none]
    rfl
  · show ((s.resolved ++ [((unit, name), other)]).find? _).map Prod.snd = _
    rw [List.find?_append, Option.map_or, List.find?_singleton]
    by_cases hkey : (unit, name) = (unit', name')
    · rw [if_pos hkey, if_pos (beq_iff_eq.mpr hkey)]
      rfl
    · rw [if_neg hkey, if_neg (mt beq_iff_eq.mp hkey)]
      rfl

/-- A name that is not remembered is searched for in its unit. -/
theorem resolve_of_search (loader : Loader) {name : String} {unit : Nat} {u : SourceUnit}
    (hname : (plainName name).isEmpty = false) (hnew : s.remembered? unit (plainName name) = none)
    (hu : s.catalog.units[unit]? = some u) :
    s.resolve loader name unit =
      ((firstHit (searches loader (plainName name) u) s).1,
        record unit (plainName name) u (firstHit (searches loader (plainName name) u) s)) := by
  rcases resolve_cases loader name unit s with ⟨hnothing, -⟩ | ⟨other, hother, -⟩ |
    ⟨u', result, -, -, hu', rfl, heq⟩
  · rw [hname, hu] at hnothing
    simp at hnothing
  · rw [hnew] at hother
    cases hother
  · obtain rfl : u = u' := Option.some.inj (hu.symm.trans hu')
    exact heq

/-- In a unit that is not known, nothing is found. -/
theorem resolve_of_units_none {name : String} {unit : Nat}
    (hnew : s.remembered? unit (plainName name) = none) (hu : s.catalog.units[unit]? = none) :
    s.resolve loader name unit = (none, s) := by
  rcases resolve_cases loader name unit s with ⟨-, heq⟩ | ⟨other, hother, -⟩ |
    ⟨u, result, -, -, hu', -⟩
  · exact heq
  · rw [hnew] at hother
    cases hother
  · rw [hu] at hu'
    cases hu'

/-- What is remembered after a name that was not remembered is resolved. -/
theorem remembered?_of_search (loader : Loader) {name : String} {unit : Nat} {u : SourceUnit}
    (hname : (plainName name).isEmpty = false) (hnew : s.remembered? unit (plainName name) = none)
    (hu : s.catalog.units[unit]? = some u) (unit' : Nat) (name' : String) :
    (s.resolve loader name unit).2.remembered? unit' name' =
      (s.remembered? unit' name').or
        (if (unit, plainName name) = (unit', name') then (s.resolve loader name unit).1
          else none) := by
  have hmoves := firstHit_searches_steady loader (plainName name) u s
  have hkept : (firstHit (searches loader (plainName name) u) s).2.remembered? unit' name' =
      s.remembered? unit' name' := by
    rw [remembered?, remembered?, hmoves.resolved_eq]
  rw [resolve_of_search loader hname hnew hu, remembered?_record, hkept]

/-! ## Resolving -/

/-- Other fields of a structure, and a name that a unit declares next to it. -/
structure Retyping where
  /-- The number of the structure. -/
  id : Nat
  /-- The other fields. -/
  fields : List FieldDecl
  /-- The unit. -/
  unit : Nat
  /-- The name. -/
  name : String
  /-- The number of the type of that name. -/
  named : Nat

/-- Whether two sessions differ in the fields of a structure, and in whether they remember the name
next to it. -/
structure Retyped (x : Retyping) (s s' : Session) : Prop where
  /-- The types. -/
  catalog : s.catalog.Retyped x.id (.struct x.fields) s'.catalog
  /-- What is remembered. -/
  remembered : ∀ unit name, (unit, name) ≠ (x.unit, x.name) →
    s'.remembered? unit name = s.remembered? unit name
  /-- If the name is remembered then with its type. -/
  own : ∀ other, s'.remembered? x.unit x.name = some other → other = x.named

/-- Units that differ in the fields of one structure are scanned to sessions that differ in
these. -/
theorem addScanned_retyped {x : Retyping} (us us' : List SourceUnit) (u : SourceUnit)
    (before after : List TypeDef) (t : TypeDef) {index : TypeIndex}
    (hindex : index = (Catalog.declsOf { u with types := before }
      (s.catalog.addUnits us).units.length).foldl TypeIndex.register
        (s.catalog.addUnits us).toTypeIndex)
    (hnew : index.find? u.module t.name = none) (hid : x.id = index.decls.length)
    (hown : ∀ other, s.remembered? x.unit x.name = some other → other = x.named) :
    (s.addScanned (us ++ { u with types := before ++ t :: after } :: us')).Retyped x
      (s.addScanned (us ++
        { u with types := before ++ { t with body := .struct x.fields } :: after } :: us')) := by
  have hunit := Catalog.retyped_of_types _ u after hindex hnew (.struct x.fields)
  have hunits : ∀ u', s.catalog.addUnits (us ++ u' :: us') =
      ((s.catalog.addUnits us).addUnit u').addUnits us' := fun u' => List.foldl_append
  rw [← hid] at hunit
  obtain ⟨hretyped, hdeclared, hscopes, hattempted, hfiles⟩ := hunit.addUnits us'
  simp only [← hunits] at hretyped hdeclared hscopes hattempted hfiles
  exact ⟨⟨hretyped, hdeclared, hscopes, hattempted, hfiles⟩, fun _ _ _ => rfl, hown⟩

/-- Whether moreover the first session is in order, and its unit declares the name. -/
structure Alike (x : Retyping) (s s' : Session) : Prop extends Retyped x s s' where
  /-- The catalog is in order. -/
  inOrder : s.InOrder
  /-- What is remembered is right. -/
  recalls : s.Recalls
  /-- The name is a plain one. -/
  plain : plainName x.name = x.name ∧ x.name.isEmpty = false
  /-- The unit declares it. -/
  declared : ∃ u, s.catalog.units[x.unit]? = some u ∧
    fixedPlace? x.name u = some (u.module, x.name) ∧
      s.catalog.find? u.module x.name = some x.named

/-- A declared type is one of its unit, which finds it by its name. -/
theorem InOrder.exists_own (h : s.InOrder) {id : Nat} {d : TypeDecl}
    (hd : s.catalog.decls[id]? = some d) :
    ∃ u, s.catalog.units[d.unit]? = some u ∧ u.module = d.module ∧
      Text.isIdentifier d.name = true ∧ fixedPlace? d.name u = some (u.module, d.name) ∧
        s.catalog.find? u.module d.name = some id := by
  have hoffer := h.indexed.first d (List.mem_of_getElem? hd)
  obtain ⟨u, hu, hmodule, ht⟩ := Catalog.mem_offered.mp (List.mem_of_find?_eq_some hoffer)
  have hname := h.named u (List.mem_of_getElem? hu) _ ht
  have hown : (u.types.any fun t => t.name == d.name) = true :=
    List.any_eq_true.mpr ⟨_, ht, beq_self_eq_true d.name⟩
  refine ⟨u, hu, hmodule, hname, ?_, ?_⟩
  · rw [fixedPlace?, ModulePath.splitName_of_isIdentifier hname]
    exact if_pos hown
  · exact (h.indexed.find_iff _ _ _).mpr ⟨d, hd, Prod.ext hmodule.symm rfl⟩

/-- A unit has one type of a name. -/
theorem InOrder.name_ne (h : s.InOrder) {id id' : Nat} {d d' : TypeDecl}
    (hd : s.catalog.decls[id]? = some d) (hd' : s.catalog.decls[id']? = some d')
    (hunit : d.unit = d'.unit) (hne : d ≠ d') :
    ModulePath.lastSegment d.name ≠ d'.name ∧ d.path ≠ d'.path := by
  obtain ⟨u, hu, hmodule, hidentifier, -, hfind⟩ := h.exists_own hd
  obtain ⟨u', hu', hmodule', -, -, hfind'⟩ := h.exists_own hd'
  obtain rfl : u = u' := Option.some.inj (hu.symm.trans (hunit ▸ hu'))
  have hname : d.name ≠ d'.name := by
    intro hname
    obtain rfl : id = id' := Option.some.inj (hfind.symm.trans (hname ▸ hfind'))
    exact hne (Option.some.inj (hd.symm.trans hd'))
  constructor
  · rw [ModulePath.lastSegment, ModulePath.splitName_of_isIdentifier hidentifier]
    exact hname
  · intro hpath
    rw [TypeDecl.path, TypeDecl.path, ← hmodule, ← hmodule'] at hpath
    exact hname ((String.append_right_inj _).mp hpath)

variable {x : Retyping}

/-- In every session, a type is found by its name in its unit. -/
theorem Retyped.alike (h : Retyped x s s') (huses : Uses loader {} s) {d : TypeDecl}
    (hd : s.catalog.decls[x.named]? = some d) (hunit : d.unit = x.unit) (hname : d.name = x.name) :
    Alike x s s' := by
  obtain ⟨horder, hrecalls⟩ := Uses.recalls huses
  obtain ⟨u, hu, -, hidentifier, hplace, hfind⟩ := horder.exists_own hd
  rw [hunit] at hu
  rw [hname] at hidentifier hplace hfind
  exact { h with
    inOrder := horder
    recalls := hrecalls
    plain := ⟨plainName_of_isIdentifier hidentifier,
      by simpa using ModulePath.ne_empty_of_isIdentifier hidentifier⟩
    declared := ⟨u, hu, hplace, hfind⟩ }

/-- Units of both sessions have the same scope. -/
theorem Retyped.exists_unit (h : Retyped x s s') {unit : Nat} {u : SourceUnit}
    (hu : s.catalog.units[unit]? = some u) :
    ∃ u', s'.catalog.units[unit]? = some u' ∧ u'.scope = u.scope := by
  have hscope : (s'.catalog.units.map SourceUnit.scope)[unit]? = some u.scope := by
    rw [h.catalog.units, List.getElem?_map, hu, Option.map_some]
  rw [List.getElem?_map] at hscope
  exact Option.map_eq_some_iff.mp hscope

/-- A name that is remembered with the type that it is found to be, or not at all, is resolved to
this type. -/
theorem resolve_of_firstHit {unit other : Nat} {name : String} {u : SourceUnit}
    (hplain : plainName name = name) (hname : name.isEmpty = false)
    (hu : s.catalog.units[unit]? = some u)
    (hfound : (firstHit (searches loader name u) s).1 = some other)
    (hright : ∀ known, s.remembered? unit name = some known → known = other) :
    (s.resolve loader name unit).1 = some other ∧
      ((s.resolve loader name unit).2.catalog = s.catalog ∨
        (s.resolve loader name unit).2.catalog =
          (firstHit (searches loader name u) s).2.catalog) ∧
      ∀ unit' name', (s.resolve loader name unit).2.remembered? unit' name' =
        if (unit, name) = (unit', name') then some other else s.remembered? unit' name' := by
  have hnonempty : (plainName name).isEmpty = false := by rw [hplain, hname]
  cases hremembered : s.remembered? unit name with
  | some known =>
    obtain rfl := hright known hremembered
    have hresolve : s.resolve loader name unit = (some known, s) :=
      resolve_of_remembered? hnonempty (by rw [hplain, hremembered])
    rw [hresolve]
    refine ⟨rfl, Or.inl rfl, fun unit' name' => ?_⟩
    split
    · rename_i hkey
      cases hkey
      exact hremembered
    · rfl
  | none =>
    have hnew : s.remembered? unit (plainName name) = none := by rw [hplain, hremembered]
    have hresolve := resolve_of_search loader hnonempty hnew hu
    have hmemory := remembered?_of_search loader hnonempty hnew hu
    rw [hplain] at hresolve hmemory
    have hfirst : (s.resolve loader name unit).1 = some other := by rw [hresolve, hfound]
    refine ⟨hfirst, Or.inr (by rw [hresolve]; exact record_catalog _ _ _ _), fun unit' name' => ?_⟩
    rw [hmemory, hfirst]
    split
    · rename_i hkey
      cases hkey
      rw [hremembered, Option.none_or]
    · rw [Option.or_none]

/-- The name next to the structure is found in the module of its unit. -/
theorem Alike.firstHit_own (h : Alike x s s') (loader : Loader) :
    ∃ u, s.catalog.units[x.unit]? = some u ∧
      firstHit (searches loader x.name u) s = (some x.named, s) ∧
        ∀ known, s.remembered? x.unit x.name = some known → known = x.named := by
  obtain ⟨u, hu, hplace, hfind⟩ := h.declared
  refine ⟨u, hu, ?_, fun known hknown => ?_⟩
  · rw [firstHit_searches_of_fixedPlace? loader h.inOrder (List.mem_of_getElem? hu) hplace, findIn,
      hfind]
  · obtain ⟨u', hu', hright⟩ := h.recalls _ _ _ (mem_resolved_of_remembered? hknown)
    obtain rfl : u = u' := Option.some.inj (hu.symm.trans hu')
    exact Option.some.inj ((hright _ hplace).symm.trans hfind)

/-- What makes sessions alike stays so, as far as the first one is concerned. -/
theorem Alike.of_retyped (h : Alike x s s') {name : String} {unit : Nat} {t' : Session}
    (hretyped : Retyped x (s.resolve loader name unit).2 t') :
    Alike x (s.resolve loader name unit).2 t' := by
  have hkeeps : Keeps s (s.resolve loader name unit).2 :=
    (resolve_changes loader name unit s).moments.keeps
  obtain ⟨u, hu, hplace, hfind⟩ := h.declared
  exact { hretyped with
    inOrder := h.inOrder.resolve loader name unit
    recalls := h.recalls.resolve h.inOrder loader name unit
    plain := h.plain
    declared := ⟨u, hkeeps.getElem?_units hu, hplace, hkeeps.index.find _ _ _ hfind⟩ }

/-- Resolving the name next to the structure in the first session alone leaves the sessions
alike. -/
theorem Alike.resolve_own (h : Alike x s s') (loader : Loader) :
    (s.resolve loader x.name x.unit).1 = some x.named ∧
      (s.resolve loader x.name x.unit).2.catalog = s.catalog ∧
        Alike x (s.resolve loader x.name x.unit).2 s' := by
  obtain ⟨u, hu, hsearch, hright⟩ := h.firstHit_own loader
  obtain ⟨hfirst, hcatalog, hmemory⟩ :=
    resolve_of_firstHit h.plain.1 h.plain.2 hu (by rw [hsearch]) hright
  rw [hsearch, or_self] at hcatalog
  refine ⟨hfirst, hcatalog, h.of_retyped ⟨?_, fun unit name hkey => ?_, h.own⟩⟩
  · rw [hcatalog]
    exact h.catalog
  · rw [hmemory, if_neg (Ne.symm hkey)]
    exact h.remembered unit name hkey

/-- And so does resolving it in both. -/
theorem Alike.resolve_both (h : Alike x s s') (loader : Loader) :
    (s'.resolve loader x.name x.unit).1 = some x.named ∧
      Alike x (s.resolve loader x.name x.unit).2 (s'.resolve loader x.name x.unit).2 := by
  obtain ⟨u, hu, hsearch, -⟩ := h.firstHit_own loader
  obtain ⟨-, hcatalog, halike⟩ := h.resolve_own loader
  obtain ⟨u', hu', hscope⟩ := h.exists_unit hu
  obtain ⟨hhit, hretyped⟩ := firstHit_searches_sameHit loader h.catalog hscope
    (h.inOrder.marked u (List.mem_of_getElem? hu)) x.name
  rw [hsearch] at hhit hretyped
  obtain ⟨hfirst, hcatalog', hmemory⟩ := resolve_of_firstHit h.plain.1 h.plain.2 hu' hhit h.own
  refine ⟨hfirst, h.of_retyped ⟨?_, fun unit name hkey => ?_, fun other hother => ?_⟩⟩
  · rw [hcatalog]
    rcases hcatalog' with heq | heq
    · rw [heq]
      exact h.catalog
    · rw [heq]
      exact hretyped
  · rw [hmemory, if_neg (Ne.symm hkey)]
    exact halike.remembered unit name hkey
  · rw [hmemory, if_pos rfl] at hother
    exact (Option.some.inj hother).symm

/-- **Names.** Sessions that are alike resolve a name to the same type, and stay alike. -/
theorem Alike.resolve (h : Alike x s s') (loader : Loader) (name : String) (unit : Nat) :
    (s'.resolve loader name unit).1 = (s.resolve loader name unit).1 ∧
      Alike x (s.resolve loader name unit).2 (s'.resolve loader name unit).2 := by
  by_cases hown : (unit, plainName name) = (x.unit, x.name)
  · obtain ⟨rfl, hname⟩ := Prod.mk.inj hown
    have hplain : plainName name = plainName x.name := hname.trans h.plain.1.symm
    rw [resolve_congr hplain, resolve_congr hplain]
    obtain ⟨hfirst, hboth⟩ := h.resolve_both loader
    exact ⟨hfirst.trans (h.resolve_own loader).1.symm, hboth⟩
  by_cases hempty : (plainName name).isEmpty
  · rw [resolve_of_isEmpty hempty, resolve_of_isEmpty hempty]
    exact ⟨rfl, h⟩
  have hname : (plainName name).isEmpty = false := by simpa using hempty
  have hsame := h.remembered unit (plainName name) hown
  cases hremembered : s.remembered? unit (plainName name) with
  | some other =>
    rw [resolve_of_remembered? hname hremembered,
      resolve_of_remembered? hname (hsame.trans hremembered)]
    exact ⟨rfl, h⟩
  | none =>
    have hnew' := hsame.trans hremembered
    cases hu : s.catalog.units[unit]? with
    | none =>
      have hu' : s'.catalog.units[unit]? = none := by
        rw [← Option.map_eq_none_iff (f := SourceUnit.scope), ← List.getElem?_map, h.catalog.units,
          List.getElem?_map, hu, Option.map_none]
      rw [resolve_of_units_none hremembered hu, resolve_of_units_none hnew' hu']
      exact ⟨rfl, h⟩
    | some u =>
      -- both sessions search, in units of the same scope
      obtain ⟨u', hu', hscope⟩ := h.exists_unit hu
      obtain ⟨hhit, hretyped⟩ := firstHit_searches_sameHit loader h.catalog hscope
        (h.inOrder.marked u (List.mem_of_getElem? hu)) (plainName name)
      have hresolve := resolve_of_search loader hname hremembered hu
      have hresolve' := resolve_of_search loader hname hnew' hu'
      have hfirst : (s'.resolve loader name unit).1 = (s.resolve loader name unit).1 := by
        rw [hresolve, hresolve', hhit]
      refine ⟨hfirst, h.of_retyped ⟨?_, fun unit' name' hkey => ?_, fun other hother => ?_⟩⟩
      · rw [hresolve, hresolve', record_catalog, record_catalog]
        exact hretyped
      · rw [remembered?_of_search loader hname hremembered hu,
          remembered?_of_search loader hname hnew' hu', hfirst, h.remembered unit' name' hkey]
      · rw [remembered?_of_search loader hname hnew' hu', if_neg hown, Option.or_none] at hother
        exact h.own other hother

end Session

end ApiDocs
