import ApiDocs.Proofs.Assembly.Chapters
import ApiDocs.Proofs.Assembly.Reading
import ApiDocs.Proofs.Source.Modules
import ApiDocs.Proofs.Source.Shapes
import Mathlib.Data.List.Count

/-!
# Reading a file ends

Where a module is marked, reading goes down to the first unit of the file that has the path of the
module. `ReadsTo` is this recursion with no bound on how far it goes down. Several sources may have
the same file, and several units the same path, so that reading need not go down to the module that
is written at the marker. But a unit marks only modules with longer paths than its own, and it can
go on like this only so often in a file with finitely many units (`Descends.rank_lt`). So reading
ends, with one result, and it goes down at most as often as the file has units (`reading_ends`).
-/

namespace ApiDocs

open Source ModulePath

/-- A path gets longer when a name is joined to it. -/
theorem ModulePath.length_lt_length_join (module : ModulePath) {name : String} (h : name ≠ "") :
    module.length < (join module name).length := by
  have hname : 0 < name.length :=
    Nat.pos_of_ne_zero fun hzero => h (String.length_eq_zero_iff.mp hzero)
  by_cases hmodule : module = ""
  · rw [hmodule, join_empty_left]
    exact hname
  · rw [join_of_ne_empty hmodule h, String.length_append, String.length_append]
    omega

/-- The modules that a unit of a source marks are one name below its own. -/
theorem LoadedSource.exists_join_of_mem_decls {source : LoadedSource} {u : SourceUnit}
    (hu : u ∈ source.units) {path : ModulePath} (h : .module path ∈ u.decls) :
    ∃ name, Text.isIdentifier name = true ∧ path = join u.module name := by
  obtain ⟨module, attributes, items, rfl⟩ := exists_unitOf_of_mem_units hu
  have hmarker : path ∈ markers ((ModuleBody.mk module attributes items).unit source.path) :=
    List.mem_filterMap.mpr ⟨.module path, h, rfl⟩
  obtain ⟨r, hr⟩ := List.mem_iff_getElem?.mp hmarker
  rw [ModuleBody.getElem?_markers] at hr
  obtain ⟨k, -, hk⟩ := Option.bind_eq_some_iff.mp hr
  obtain ⟨inner, hinner, rfl⟩ := Option.map_eq_some_iff.mp hk
  obtain ⟨-, name, -, -, hname⟩ := ModuleBody.exists_of_child? hinner
  exact ⟨name.text, name.valid, hname⟩

/-- The scanned units of a session that is used from the start are units. -/
theorem Session.Uses.scannedAreUnits {loader : Loader} {s : Session} (h : Uses loader {} s) :
    s.ScannedAreUnits := by
  induction h with
  | refl => exact nofun
  | tail _ huse ih =>
    exact huse.induction (P := ScannedAreUnits) (fun _ _ h => h)
      (fun _ source h => h.addScanned source.units) (fun _ _ h => h)
      (fun s module h => h.grows (ensure_changes loader module s).grows)
      (fun s name unit h => h.grows (resolve_changes loader name unit s).grows) ih

namespace Assembly

open Session

/-! ## Going down -/

/-- Whether the units of a catalog mark modules one name below their own. -/
def Marking (c : Catalog) : Prop :=
  ∀ u ∈ c.units, ∀ path, .module path ∈ u.decls →
    ∃ name, Text.isIdentifier name = true ∧ path = join u.module name

/-- In what was parsed, a module is marked under the path of the one around it. -/
theorem marking_of_parsed {s : Session} (h : s.Parsed) : Marking s.catalog := by
  intro u hu path hpath
  obtain ⟨source, hsource⟩ := h.read u hu
  exact source.exists_join_of_mem_decls hsource hpath

/-- Whether reading goes down from a unit to another one of a file: it is found for a module that
the first one marks. -/
def Descends (c : Catalog) (units : List Nat) (unit inner : Nat) : Prop :=
  ∃ u path, c.units[unit]? = some u ∧ .module path ∈ u.decls ∧
    unitOfModule? c units path = some inner

/-- The length of the module path of a unit. -/
def pathLength (c : Catalog) (unit : Nat) : Nat :=
  (c.units[unit]?.map fun u => u.module.length).getD 0

/-- How many units of a file have longer paths than a unit. -/
def rank (c : Catalog) (units : List Nat) (unit : Nat) : Nat :=
  units.countP fun id => pathLength c unit < pathLength c id

variable {c : Catalog} {units : List Nat} {unit inner : Nat}

/-- The unit of a module is one of the given units, and is that of the module. -/
theorem mem_of_unitOfModule? {path : ModulePath} (h : unitOfModule? c units path = some inner) :
    inner ∈ units ∧ ∃ u, c.units[inner]? = some u ∧ u.module = path := by
  have hmodule := List.find?_some h
  exact ⟨List.mem_of_find?_eq_some h, Option.map_eq_some_iff.mp (beq_iff_eq.mp hmodule)⟩

/-- **Going down.** The unit to which reading goes down has a longer path. -/
theorem Descends.exists_join (h : Descends c units unit inner) (hc : Marking c) :
    ∃ u v name, c.units[unit]? = some u ∧ c.units[inner]? = some v ∧
      Text.isIdentifier name = true ∧ v.module = join u.module name ∧
        u.module.length < v.module.length := by
  obtain ⟨u, path, hu, hpath, hfind⟩ := h
  obtain ⟨-, v, hv, hmodule⟩ := mem_of_unitOfModule? hfind
  obtain ⟨name, hname, hjoin⟩ := hc u (List.mem_of_getElem? hu) path hpath
  refine ⟨u, v, name, hu, hv, hname, hmodule.trans hjoin, ?_⟩
  rw [hmodule, hjoin]
  exact length_lt_length_join u.module (ne_empty_of_isIdentifier hname)

/-- The path of an inner module is longer. -/
theorem Descends.pathLength_lt (h : Descends c units unit inner) (hc : Marking c) :
    pathLength c unit < pathLength c inner := by
  obtain ⟨u, v, -, hu, hv, -, -, hlt⟩ := h.exists_join hc
  rw [pathLength, pathLength, hu, hv]
  exact hlt

/-- Each time reading goes down, fewer units have longer paths. -/
theorem Descends.rank_lt (h : Descends c units unit inner) (hc : Marking c) :
    rank c units inner < rank c units unit := by
  have hlonger := h.pathLength_lt hc
  obtain ⟨u, path, -, -, hfind⟩ := h
  obtain ⟨before, after, rfl⟩ := List.append_of_mem (mem_of_unitOfModule? hfind).1
  have hle : ∀ l : List Nat, rank c l inner ≤ rank c l unit := fun l =>
    List.countP_mono_left fun id _ hid => by
      rw [decide_eq_true_eq] at hid ⊢
      exact Nat.lt_trans hlonger hid
  have hbefore := hle before
  have hafter := hle after
  unfold rank at hbefore hafter ⊢
  -- the unit itself counts above, but not below
  rw [List.countP_append, List.countP_append, List.countP_cons_of_neg (by simp),
    List.countP_cons_of_pos (by simpa using hlonger)]
  omega

theorem rank_lt_length (c : Catalog) (h : unit ∈ units) : rank c units unit < units.length :=
  List.countP_lt_length_iff.mpr ⟨unit, h, by simp⟩

/-- **Descent.** One cannot go down to inner modules forever. -/
theorem wellFounded_descends (hc : Marking c) (units : List Nat) :
    WellFounded fun inner unit => Descends c units unit inner :=
  Subrelation.wf (fun h => h.rank_lt hc) (measure (rank c units)).wf

/-! ## Reading without a bound -/

/-- The declarations of a unit. -/
def unitDecls (c : Catalog) (unit : Nat) : List Decl :=
  (c.units[unit]?.map SourceUnit.decls).getD []

/-- **The recursion.** Whether reading declarations of a unit ends with a result. For a module that
is marked, the first unit of the file that has its path is read, all of it, before what follows. -/
inductive ReadsTo (loader : Loader) (units : List Nat) :
    Nat → List Decl → Progress → Session → Except Failure Progress × Session → Prop where
  /-- Nothing is left to be read. -/
  | done (unit : Nat) (p : Progress) (s : Session) : ReadsTo loader units unit [] p s (.ok p, s)
  /-- Documentation is read, and then the rest. -/
  | doc {unit : Nat} {decl : Decl} {rest : List Decl} {p p' : Progress} {s s' : Session}
      {r : Except Failure Progress × Session} (hdoc : isDoc decl)
      (hvisit : visit loader ⟨unit, decl⟩ p s = (.ok p', s'))
      (hrest : ReadsTo loader units unit rest p' s' r) :
      ReadsTo loader units unit (decl :: rest) p s r
  /-- Documentation is wrong. -/
  | wrong {unit : Nat} {decl : Decl} {rest : List Decl} {p : Progress} {s s' : Session}
      {e : Failure} (hdoc : isDoc decl) (hvisit : visit loader ⟨unit, decl⟩ p s = (.error e, s')) :
      ReadsTo loader units unit (decl :: rest) p s (.error e, s')
  /-- No unit has the path of a module. -/
  | missing {unit : Nat} {path : ModulePath} {rest : List Decl} {p : Progress} {s : Session}
      {r : Except Failure Progress × Session} (hfind : unitOfModule? s.catalog units path = none)
      (hrest : ReadsTo loader units unit rest p s r) :
      ReadsTo loader units unit (.module path :: rest) p s r
  /-- A module is read, and then the rest. -/
  | inner {unit inner : Nat} {path : ModulePath} {rest : List Decl} {p p' : Progress}
      {s s' : Session} {r : Except Failure Progress × Session}
      (hfind : unitOfModule? s.catalog units path = some inner)
      (hinner : ReadsTo loader units inner (unitDecls s.catalog inner) p s (.ok p', s'))
      (hrest : ReadsTo loader units unit rest p' s' r) :
      ReadsTo loader units unit (.module path :: rest) p s r
  /-- In a module, documentation is wrong. -/
  | innerWrong {unit inner : Nat} {path : ModulePath} {rest : List Decl} {p : Progress}
      {s s' : Session} {e : Failure} (hfind : unitOfModule? s.catalog units path = some inner)
      (hinner : ReadsTo loader units inner (unitDecls s.catalog inner) p s (.error e, s')) :
      ReadsTo loader units unit (.module path :: rest) p s (.error e, s')

variable {loader : Loader} {decls : List Decl} {p : Progress} {s s₀ : Session}
  {r r' : Except Failure Progress × Session}

/-- Reading has at most one result. -/
theorem ReadsTo.unique (h : ReadsTo loader units unit decls p s r)
    (h' : ReadsTo loader units unit decls p s r') : r = r' := by
  induction h generalizing r' with
  | done => cases h'; rfl
  | doc hdoc hvisit _ ih =>
    cases h' with
    | doc _ hvisit' hrest' =>
      obtain ⟨hok, rfl⟩ := Prod.mk.inj (hvisit.symm.trans hvisit')
      obtain rfl := Except.ok.inj hok
      exact ih hrest'
    | wrong _ hvisit' => exact nomatch (Prod.mk.inj (hvisit.symm.trans hvisit')).1
    | missing | inner | innerWrong => exact absurd hdoc Bool.false_ne_true
  | wrong hdoc hvisit =>
    cases h' with
    | doc _ hvisit' _ => exact nomatch (Prod.mk.inj (hvisit.symm.trans hvisit')).1
    | wrong _ hvisit' => exact hvisit.symm.trans hvisit'
    | missing | inner | innerWrong => exact absurd hdoc Bool.false_ne_true
  | missing hfind _ ih =>
    cases h' with
    | doc hdoc | wrong hdoc => exact absurd hdoc Bool.false_ne_true
    | missing _ hrest' => exact ih hrest'
    | inner hfind' | innerWrong hfind' => exact nomatch hfind.symm.trans hfind'
  | inner hfind _ _ ihInner ih =>
    cases h' with
    | doc hdoc | wrong hdoc => exact absurd hdoc Bool.false_ne_true
    | missing hfind' => exact nomatch hfind.symm.trans hfind'
    | inner hfind' hinner' hrest' =>
      obtain rfl := Option.some.inj (hfind.symm.trans hfind')
      obtain ⟨hok, rfl⟩ := Prod.mk.inj (ihInner hinner')
      obtain rfl := Except.ok.inj hok
      exact ih hrest'
    | innerWrong hfind' hinner' =>
      obtain rfl := Option.some.inj (hfind.symm.trans hfind')
      exact nomatch (Prod.mk.inj (ihInner hinner')).1
  | innerWrong hfind _ ihInner =>
    cases h' with
    | doc hdoc | wrong hdoc => exact absurd hdoc Bool.false_ne_true
    | missing hfind' => exact nomatch hfind.symm.trans hfind'
    | inner hfind' hinner' _ =>
      obtain rfl := Option.some.inj (hfind.symm.trans hfind')
      exact nomatch (Prod.mk.inj (ihInner hinner')).1
    | innerWrong hfind' hinner' =>
      obtain rfl := Option.some.inj (hfind.symm.trans hfind')
      exact ihInner hinner'

/-! ## Reading with a bound -/

theorem visitAll_append (loader : Loader) (vs more : List Visit) (p : Progress) (s : Session) :
    visitAll loader (vs ++ more) p s =
      match visitAll loader vs p s with
      | (.ok p', s') => visitAll loader more p' s'
      | (.error e, s') => (.error e, s') := by
  induction vs generalizing p s with
  | nil => rfl
  | cons v rest ih =>
    rw [List.cons_append, visitAll, visitAll]
    rcases visit loader v p s with ⟨e | p', s'⟩
    · rfl
    · exact ih p' s'

/-- Units that are there stay what they are. -/
theorem getElem?_units_of_grows (hs : Grows s₀ s) (h : unit < s₀.catalog.units.length) :
    s.catalog.units[unit]? = s₀.catalog.units[unit]? := by
  rw [List.getElem?_eq_getElem h]
  exact hs.getElem?_units (List.getElem?_eq_getElem h)

/-- The declarations of a unit stay the same while a session grows. -/
theorem unitDecls_of_grows (hs : Grows s₀ s) (h : unit < s₀.catalog.units.length) :
    unitDecls s.catalog unit = unitDecls s₀.catalog unit := by
  rw [unitDecls, unitDecls, getElem?_units_of_grows hs h]

theorem unitOfModule?_of_grows (hs : Grows s₀ s)
    (hunits : ∀ id ∈ units, id < s₀.catalog.units.length) (path : ModulePath) :
    unitOfModule? s.catalog units path = unitOfModule? s₀.catalog units path := by
  induction units with
  | nil => rfl
  | cons id rest ih =>
    have hrest := ih fun other hother => hunits other (List.mem_cons_of_mem _ hother)
    unfold unitOfModule? at hrest ⊢
    rw [List.find?_cons, List.find?_cons, hrest,
      getElem?_units_of_grows hs (hunits id List.mem_cons_self)]

section

variable (hunits : ∀ id ∈ units, id < s₀.catalog.units.length)
include hunits

/-- If what is marked by some declarations is read with a bound, then so are the declarations. -/
theorem readsTo_flatMap {depth : Nat}
    (hinner : ∀ path inner, .module path ∈ decls →
      unitOfModule? s₀.catalog units path = some inner → ∀ p s, Grows s₀ s →
        ReadsTo loader units inner (unitDecls s.catalog inner) p s
          (visitAll loader (visits s₀.catalog units depth inner) p s))
    (hs : Grows s₀ s) :
    ReadsTo loader units unit decls p s
      (visitAll loader (decls.flatMap (visited s₀.catalog units depth unit)) p s) := by
  induction decls generalizing p s with
  | nil => exact .done unit p s
  | cons decl rest ih =>
    have hrest : ∀ {p s}, Grows s₀ s → ReadsTo loader units unit rest p s
        (visitAll loader (rest.flatMap (visited s₀.catalog units depth unit)) p s) :=
      ih fun path inner hpath => hinner path inner (List.mem_cons_of_mem decl hpath)
    rw [List.flatMap_cons]
    by_cases hdoc : isDoc decl
    · have hgrows := (visit_steps loader ⟨unit, decl⟩ p s).grows
      rw [visited_of_isDoc _ _ _ _ hdoc, List.singleton_append, visitAll]
      rcases hvisit : visit loader ⟨unit, decl⟩ p s with ⟨e | p', s'⟩
      · exact .wrong hdoc hvisit
      · rw [hvisit] at hgrows
        exact .doc hdoc hvisit (hrest (hs.trans hgrows))
    obtain ⟨path, rfl⟩ : ∃ path, decl = .module path := by
      cases decl with
      | module path => exact ⟨path, rfl⟩
      | general lines | operation name lines => exact absurd rfl hdoc
    have hfind := unitOfModule?_of_grows hs hunits path
    cases hfound : unitOfModule? s₀.catalog units path with
    | none =>
      rw [visited, hfound, List.nil_append]
      exact .missing (hfind.trans hfound) (hrest hs)
    | some inner =>
      have hread := hinner path inner List.mem_cons_self hfound p s hs
      have hgrows := (visitAll_steps loader (visits s₀.catalog units depth inner) p s).grows
      simp only [visited, hfound]
      rw [visitAll_append]
      rcases hall : visitAll loader (visits s₀.catalog units depth inner) p s with ⟨e | p', s'⟩
      · rw [hall] at hread
        exact .innerWrong (hfind.trans hfound) hread
      · rw [hall] at hread hgrows
        exact .inner (hfind.trans hfound) hread (hrest (hs.trans hgrows))

/-- **Bounds.** Reading ends if the bound is above the rank of the unit. -/
theorem readsTo_visits (hc : Marking s₀.catalog) {depth : Nat} (hunit : unit ∈ units)
    (hdepth : rank s₀.catalog units unit < depth) (hs : Grows s₀ s) :
    ReadsTo loader units unit (unitDecls s.catalog unit) p s
      (visitAll loader (visits s₀.catalog units depth unit) p s) := by
  induction depth generalizing unit p s with
  | zero => exact absurd hdepth (Nat.not_lt_zero _)
  | succ depth ih =>
    rw [unitDecls_of_grows hs (hunits unit hunit), visits_succ]
    refine readsTo_flatMap hunits (fun path inner hpath hfind p s hs => ?_) hs
    have hdescends : Descends s₀.catalog units unit inner := by
      cases hu : s₀.catalog.units[unit]? with
      | none =>
        rw [unitDecls, hu] at hpath
        exact nomatch hpath
      | some u =>
        rw [unitDecls, hu] at hpath
        exact ⟨u, path, hu, hpath, hfind⟩
    have hlt := hdescends.rank_lt hc
    exact ih (mem_of_unitOfModule? hfind).1 (by omega) hs

end

/-- **Reading ends.** In a session that is used from the start, also while documents are made from
it: reading goes down only to units whose paths are longer, by the name of the module that is
marked; it cannot go down without end; and reading any unit of a scanned file from any progress has
a result, and only one, which is what is computed with as many levels as the file has units. -/
theorem reading_ends {loader : Loader} {s s' : Session} (h : Uses loader {} s)
    (hsteps : Steps loader s s') :
    (∀ units unit inner, Descends s'.catalog units unit inner →
      ∃ u v name, s'.catalog.units[unit]? = some u ∧ s'.catalog.units[inner]? = some v ∧
        Text.isIdentifier name = true ∧ v.module = join u.module name ∧
          u.module.length < v.module.length) ∧
    (∀ units, WellFounded fun inner unit => Descends s'.catalog units unit inner) ∧
    ∀ group ∈ files s.catalog, ∀ unit ∈ group, ∀ p r,
      ReadsTo loader group unit (unitDecls s'.catalog unit) p s' r ↔
        r = visitAll loader (visits s'.catalog group group.length unit) p s' := by
  have hmarking := marking_of_parsed (hsteps.changes.parsed h.parsed)
  refine ⟨fun units unit inner hdown => hdown.exists_join hmarking,
    wellFounded_descends hmarking, fun group hgroup unit hunit p r => ?_⟩
  have hunits : ∀ id ∈ group, id < s'.catalog.units.length := by
    intro id hid
    have hscanned := h.scannedAreUnits id (mem_files_iff.mp ⟨group, hgroup, hid⟩)
    exact Nat.lt_of_lt_of_le hscanned hsteps.grows.units.length_le
  have hread : ReadsTo loader group unit (unitDecls s'.catalog unit) p s'
      (visitAll loader (visits s'.catalog group group.length unit) p s') :=
    readsTo_visits hunits hmarking hunit (rank_lt_length s'.catalog hunit) (.refl s')
  exact ⟨fun hr => hr.unique hread, fun hr => hr ▸ hread⟩

/-- A source with a module in which one of the same name is written, and another one after it. -/
def nestedModules : LoadedSource :=
  ⟨⟨"a.rs"⟩, "crate", "mod m \x7b
    mod m \x7b
      /// Books
      /// @url GET /books
      fn books() \x7b\x7d
    \x7d
  \x7d
  mod m \x7b\x7d"⟩

/-- A source of the same file, with the path of a module in the other one. -/
def sharedFile : LoadedSource :=
  ⟨⟨"a.rs"⟩, "crate::m", "mod m \x7b\x7d mod m \x7b mod m \x7b\x7d \x7d"⟩

/-- A session with both sources. -/
def sharedSession : Session :=
  (({} : Session).addScanned nestedModules.units).addScanned sharedFile.units

/-- Where two sources have one file, reading goes down from the second one to the first, and it goes
down to the first module of a name for each one of that name, but it ends. -/
theorem reading_ends_sharedSession :
    Uses .none {} sharedSession ∧ files sharedSession.catalog = [[0, 1, 2, 3, 4, 5, 6, 7]] ∧
    Descends sharedSession.catalog [0, 1, 2, 3, 4, 5, 6, 7] 4 2 ∧
    (∃ u v, sharedSession.catalog.units[4]? = some u ∧ sharedSession.catalog.units[2]? = some v ∧
      u.module.length < v.module.length) ∧
    ∃ p s', ReadsTo .none [0, 1, 2, 3, 4, 5, 6, 7] 0 (unitDecls sharedSession.catalog 0)
      { docs := [] } sharedSession (.ok p, s') ∧ p.docs.length = 2 := by
  have huses : Uses .none {} sharedSession :=
    .tail (.single (.scan {} nestedModules)) (.scan _ sharedFile)
  -- one evaluation, which reads the sources once
  have hfacts : sharedSession.catalog.scanned.Pairwise (fun a b =>
        (sharedSession.catalog.pathOf a).compare (sharedSession.catalog.pathOf b) != .gt) ∧
      groupByFile sharedSession.catalog sharedSession.catalog.scanned =
        [[0, 1, 2, 3, 4, 5, 6, 7]] ∧
      sharedSession.catalog.units[4]? = some ⟨⟨"a.rs"⟩, "crate::m", [], [],
        [.module "crate::m::m", .module "crate::m::m"]⟩ ∧
      unitOfModule? sharedSession.catalog [0, 1, 2, 3, 4, 5, 6, 7] "crate::m::m" = some 2 ∧
      (visitAll .none (visits sharedSession.catalog [0, 1, 2, 3, 4, 5, 6, 7] 8 0)
        { docs := [] } sharedSession).1.toOption.map (fun p => p.docs.length) = some 2 := by
    decide +kernel
  obtain ⟨hsorted, hgroups, hunit, hfind, hdocs⟩ := hfacts
  have hfiles : files sharedSession.catalog = [[0, 1, 2, 3, 4, 5, 6, 7]] := by
    rw [files, Catalog.scannedUnits, List.mergeSort_of_pairwise hsorted, hgroups]
  have hdown : Descends sharedSession.catalog [0, 1, 2, 3, 4, 5, 6, 7] 4 2 :=
    ⟨_, "crate::m::m", hunit, .head _, hfind⟩
  obtain ⟨hlonger, -, hends⟩ := reading_ends huses .refl
  obtain ⟨u, v, -, hu, hv, -, -, hlt⟩ := hlonger _ 4 2 hdown
  refine ⟨huses, hfiles, hdown, ⟨u, v, hu, hv, hlt⟩, ?_⟩
  have hread := (hends _ (hfiles ▸ List.mem_singleton_self _) 0 List.mem_cons_self { docs := [] }
    _).mpr rfl
  obtain ⟨p, hp, hlength⟩ := Option.map_eq_some_iff.mp hdocs
  rcases hall : visitAll .none (visits sharedSession.catalog [0, 1, 2, 3, 4, 5, 6, 7] 8 0)
      { docs := [] } sharedSession with ⟨e | p', s'⟩
  · rw [hall] at hp
    cases hp
  · rw [hall] at hp
    obtain rfl := Option.some.inj hp
    exact ⟨p', s', hall ▸ hread, hlength⟩

end Assembly

end ApiDocs
