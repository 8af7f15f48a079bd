import ApiDocs.Proofs.Resolution.Idle

/-!
# The order of precedence

What a type name stands for is described here without a session, by looking the name up in one way
after the other (`TypeIndex.search?`). Where nothing is loaded, resolving a name comes to the same,
whatever was resolved before (`resolve_by_precedence`).
-/

namespace ApiDocs

namespace TypeIndex

/-- What an import stands for: the item at the end of its path, in the module before it. -/
def imported? (x : TypeIndex) (i : Import) : Option Nat :=
  match ModulePath.splitName i.path with
  | (some module, item) => x.find? module item
  | (none, _) => none

/-- Searches for a name without a qualifier: by the short key that it has in the module of the unit,
in this module, among the imports that bind it, and in the modules whose names are all imported. -/
def searchPlain? (x : TypeIndex) (item : String) (u : SourceUnit) : Option Nat :=
  x.unique? (ModulePath.lastSegment u.module ++ "::" ++ item)
    |>.or (x.find? u.module item)
    |>.or ((u.imports.filter fun i => !i.glob && i.localName == item).findSome? x.imported?)
    |>.or ((u.imports.filter Import.glob).findSome? fun i => x.find? i.path item)

/-- Searches for a name with a qualifier. A qualifier that says where the path starts, or that
starts with another name of an import, leaves one module only. Any other one may be part of a short
key, start with an imported module, or be a path below the module of the unit or by itself. -/
def searchQualified? (x : TypeIndex) (qualifier : ModulePath) (item : String) (u : SourceUnit) :
    Option Nat :=
  let (head, tail) := ModulePath.splitHead qualifier
  if head ∈ ["crate", "self", "super"] then x.find? (ModulePath.absolute qualifier u.module) item
  else
    match u.imports.find? fun i => !i.glob && i.asName == some head with
    | some i => x.find? (ModulePath.join i.path tail) item
    | none =>
      (if tail = "" then x.unique? (head ++ "::" ++ item) else none)
        |>.or ((u.imports.find? fun i => !i.glob && !i.isAliased && i.localName == head).bind
          fun i => x.find? (ModulePath.join i.path tail) item)
        |>.or (x.find? (ModulePath.join u.module qualifier) item)
        |>.or (x.find? qualifier item)

/-- Searches for a name that stands in a unit. -/
def search? (x : TypeIndex) (name : String) (u : SourceUnit) : Option Nat :=
  match ModulePath.splitName name with
  | (none, item) => x.searchPlain? item u
  | (some qualifier, item) => x.searchQualified? qualifier item u

/-! ## Places in order -/

theorem findSome?_importPlace? (x : TypeIndex) (imports : List Import) :
    ((imports.filterMap Session.importPlace?).findSome? fun p => x.find? p.1 p.2) =
      imports.findSome? x.imported? := by
  induction imports with
  | nil => rfl
  | cons i rest ih =>
    rw [List.filterMap_cons, List.findSome?_cons, Session.importPlace?, imported?]
    rcases ModulePath.splitName i.path with ⟨_ | module, item⟩
    · exact ih
    · exact List.findSome?_cons.trans (by rw [ih])

theorem findSome?_toList_map (x : TypeIndex) (o : Option Import) (place : Import → ModulePath)
    (item : String) :
    ((o.map fun i => (place i, item)).toList.findSome? fun p => x.find? p.1 p.2) =
      o.bind fun i => x.find? (place i) item := by
  cases o with
  | none => rfl
  | some i => exact List.findSome?_singleton

/-- The short key and the places of a name are what it is searched for by. -/
theorem lookup?_eq_search? (x : TypeIndex) (name : String) (u : SourceUnit) :
    x.lookup? name u = x.search? name u := by
  unfold lookup? search? Session.keyOf? Session.places
  rcases ModulePath.splitName name with ⟨_ | qualifier, item⟩
  · simp only [searchPlain?, Option.or_assoc]
    rw [Option.bind_some, ← List.singleton_append, List.findSome?_append, List.findSome?_singleton,
      List.findSome?_append, findSome?_importPlace?, List.findSome?_map]
    rfl
  · simp only [searchQualified?, Session.isRelative, List.contains_iff_mem]
    obtain ⟨head, tail⟩ := ModulePath.splitHead qualifier
    by_cases hrelative : head ∈ ["crate", "self", "super"]
    · simp only [if_pos hrelative]
      exact List.findSome?_singleton
    simp only [if_neg hrelative]
    cases u.imports.find? fun i => !i.glob && i.asName == some head with
    | some i => exact List.findSome?_singleton
    | none =>
      simp only [Option.isSome_none, Bool.false_eq_true, if_false, Option.or_assoc,
        String.isEmpty_iff]
      rw [List.findSome?_append, findSome?_toList_map, ← List.singleton_append,
        List.findSome?_append, List.findSome?_singleton, List.findSome?_singleton]
      by_cases htail : tail = ""
      · rw [if_pos htail, if_pos htail, Option.bind_some, shortKey]
      · rw [if_neg htail, if_neg htail, Option.bind_none]

end TypeIndex

namespace Session

variable {loader : Loader} {s s' : Session}

/-- **Precedence.** Where nothing is loaded, a name is resolved to the first hit of the search for
it, whatever was resolved before. -/
theorem resolve_by_precedence (hloader : loader.GivesNothing) (hs : Built s)
    (hsteps : Steps loader s s') {unit : Nat} {u : SourceUnit}
    (hu : s.catalog.units[unit]? = some u) (name : String) :
    (s'.resolve loader name unit).1 =
      if plainName name = "" then none else s.catalog.search? (plainName name) u := by
  obtain ⟨hindex, hunits⟩ := hsteps.unchanged hloader
  rw [resolve_fst hloader (hs.isIdle.steps hloader hsteps), Catalog.answer, hindex, hunits, hu,
    Option.bind_some, TypeIndex.lookup?_eq_search?]
  simp only [String.isEmpty_iff]

/-- A module with a type `Book`. -/
def shelfSource : LoadedSource :=
  ⟨⟨"shelf.rs"⟩, "crate::shelf", "pub struct Book; pub struct Page;"⟩

/-- A module that imports a type `Page` under another name. -/
def readerSource : LoadedSource :=
  ⟨⟨"reader.rs"⟩, "crate::reader", "use crate::shelf::Page as Sheet;"⟩

/-- A session in which both were scanned. -/
def shelfSession : Session :=
  ({} : Session).addScanned (shelfSource.units ++ readerSource.units)

/-- The imported type is found after another name was resolved. -/
theorem resolve_by_precedence_shelfSession :
    Loader.none.GivesNothing ∧ Built shelfSession ∧
    shelfSession.catalog.search? "Sheet" ⟨⟨"reader.rs"⟩, "crate::reader",
      [⟨"crate::shelf::Page", some "Sheet", false⟩], [], []⟩ = some 1 ∧
    ((shelfSession.resolve .none "shelf::Book" 1).2.resolve .none " ::Sheet" 1).1 = some 1 := by
  have hloader : Loader.none.GivesNothing := fun _ => rfl
  have hbuilt : Built shelfSession := .addScanned _ .empty
  have hsteps : Steps .none shelfSession (shelfSession.resolve .none "shelf::Book" 1).2 :=
    .single (.resolve _ _ _)
  have hu : shelfSession.catalog.units[1]? = some ⟨⟨"reader.rs"⟩, "crate::reader",
      [⟨"crate::shelf::Page", some "Sheet", false⟩], [], []⟩ := by decide +kernel
  have hname : plainName " ::Sheet" = "Sheet" := by decide +kernel
  have hsearch : shelfSession.catalog.search? "Sheet" ⟨⟨"reader.rs"⟩, "crate::reader",
      [⟨"crate::shelf::Page", some "Sheet", false⟩], [], []⟩ = some 1 := by decide +kernel
  refine ⟨hloader, hbuilt, hsearch, ?_⟩
  rw [resolve_by_precedence hloader hbuilt hsteps hu, hname, if_neg (by decide), hsearch]

/-- A qualifier whose first segment is followed by nothing may end in `::`. The type is then found
by the short key of the first segment, though neither the short key with the whole qualifier, nor
the places below the module of the unit and by the qualifier itself, have one. -/
theorem short_key_of_head_shelfSession :
    Loader.none.GivesNothing ∧ Built shelfSession ∧
    ModulePath.splitName (plainName "shelf::::Book") = (some "shelf::", "Book") ∧
    ModulePath.splitHead "shelf::" = ("shelf", "") ∧
    shelfSession.catalog.units[0]?.map SourceUnit.imports = some [] ∧
    shelfSession.catalog.units[0]?.map SourceUnit.module = some "crate::shelf" ∧
    shelfSession.catalog.unique? ("shelf::" ++ "::" ++ "Book") = none ∧
    shelfSession.catalog.find? (ModulePath.join "crate::shelf" "shelf::") "Book" = none ∧
    shelfSession.catalog.find? "shelf::" "Book" = none ∧
    (shelfSession.resolve .none "shelf::::Book" 0).1 = some 0 :=
  ⟨fun _ => rfl, .addScanned _ .empty, by decide +kernel⟩

end Session

end ApiDocs
