import ApiDocs.Source.Unit
import Mathlib.Data.List.Lex
import Mathlib.Data.Set.Function

/-!
# Modules written in a file

The modules of a source file form a tree. The place of a module in it is told by the numbers of the
items on the way down from the file: the file itself is at the place `[]`, and the module that is
its item with the number `k` at `[k]`. A module for tests has no place, and nothing in it has one.
The units of a file are those of its modules in the order of the places, which is that of the source
(`FileTree.units_eq`). Each unit marks the modules written in it, so that markers and units, other
than that of the file itself, belong together one by one (`markers_match_units`).
-/

namespace ApiDocs.Source

/-- A module as it is written. -/
structure ModuleBody where
  /-- Its path. -/
  module : ModulePath
  /-- The attributes inside of it. -/
  attributes : List Attribute
  /-- Its items. -/
  items : List Item

/-- The module that a file is. -/
def FileTree.body (module : ModulePath) (tree : FileTree) : ModuleBody :=
  ⟨module, tree.attributes, tree.items⟩

/-- The module that an item is, unless it is for tests. -/
def Item.body? (module : ModulePath) : Item → Option ModuleBody
  | .module attributes name items =>
    if attributes.any Attribute.isTest then none
    else some ⟨ModulePath.join module name.text, attributes.filter Attribute.inner, items⟩
  | _ => none

namespace ModuleBody

/-- The unit of a module. -/
def unit (path : FilePath) (b : ModuleBody) : SourceUnit :=
  unitOf path b.module b.attributes b.items

/-- The module that the item with the number `k` is. -/
def child? (b : ModuleBody) (k : Nat) : Option ModuleBody :=
  b.items[k]?.bind (Item.body? b.module)

/-- The module at a place. -/
def at? (b : ModuleBody) : List Nat → Option ModuleBody
  | [] => some b
  | k :: rest => (b.child? k).bind fun inner => inner.at? rest

end ModuleBody

/-! ## Places -/

mutual

/-- The places of the modules in an item, seen from the item. -/
def Item.places : Item → List (List Nat)
  | .module attributes _ items =>
    if attributes.any Attribute.isTest then [] else [] :: placesOf items
  | _ => []

/-- The places of the modules in some items, which are numbered from zero on. -/
def placesOf : List Item → List (List Nat)
  | [] => []
  | item :: rest => item.places.map (0 :: ·) ++ (placesOf rest).map (List.modifyHead (· + 1))

end

/-- The places of a module and of those written in it. -/
def ModuleBody.places (b : ModuleBody) : List (List Nat) :=
  [] :: placesOf b.items

/-- The places in an item are those of the module that it is, if it is one. -/
theorem Item.places_eq (module : ModulePath) (item : Item) :
    item.places = ((item.body? module).map ModuleBody.places).getD [] := by
  cases item with
  | module attributes name items =>
    rw [Item.places, Item.body?]
    split <;> rfl
  | _ => rfl

/-- A module is at no place among its own items. -/
theorem nil_notMem_placesOf (items : List Item) : [] ∉ placesOf items := by
  induction items with
  | nil => simp [placesOf]
  | cons item rest ih => simpa [placesOf] using ih

/-- A place among items starts with the number of an item. -/
theorem exists_cons_of_mem_placesOf {items : List Item} {p : List Nat} (h : p ∈ placesOf items) :
    ∃ k q, p = k :: q :=
  List.exists_cons_of_ne_nil fun hnil => nil_notMem_placesOf items (hnil ▸ h)

/-- A place begins with the number of an item, and goes on in that item. -/
theorem cons_mem_placesOf {items : List Item} {k : Nat} {q : List Nat} :
    k :: q ∈ placesOf items ↔ ∃ item, items[k]? = some item ∧ q ∈ item.places := by
  induction items generalizing k with
  | nil => simp [placesOf]
  | cons item rest ih =>
    rw [placesOf, List.mem_append, List.mem_map, List.mem_map]
    cases k with
    | zero =>
      -- the places in the other items begin with a greater number
      have hlater : ¬ ∃ p ∈ placesOf rest, p.modifyHead (· + 1) = 0 :: q := by
        rintro ⟨p, hp, heq⟩
        obtain ⟨l, others, rfl⟩ := exists_cons_of_mem_placesOf hp
        exact absurd (List.cons.inj heq).1 (Nat.succ_ne_zero l)
      simp [hlater]
    | succ k =>
      rw [List.getElem?_cons_succ, ← ih]
      constructor
      · rintro (⟨_, -, heq⟩ | ⟨p, hp, heq⟩)
        · exact absurd (List.cons.inj heq).1.symm (Nat.succ_ne_zero k)
        · obtain ⟨l, others, rfl⟩ := exists_cons_of_mem_placesOf hp
          obtain ⟨hl, rfl⟩ := List.cons.inj heq
          exact Nat.succ.inj hl ▸ hp
      · exact fun hp => .inr ⟨k :: q, hp, rfl⟩

/-- The places are those where a module is. -/
theorem ModuleBody.mem_places {b : ModuleBody} {p : List Nat} :
    p ∈ b.places ↔ (b.at? p).isSome := by
  induction p generalizing b with
  | nil => simp [places, at?]
  | cons k q ih =>
    have hcons : k :: q ∈ b.places ↔ k :: q ∈ placesOf b.items := by simp [places]
    rw [hcons, cons_mem_placesOf, at?, child?]
    cases b.items[k]? with
    | none => simp
    | some item =>
      rw [Option.bind_some]
      cases hbody : item.body? b.module with
      | none => simp [item.places_eq b.module, hbody]
      | some inner => simp [item.places_eq b.module, hbody, ih]

/-! ## The order of the source -/

/-- A module comes before those written in it. -/
theorem nil_lt_of_mem_placesOf {items : List Item} {p : List Nat} (h : p ∈ placesOf items) :
    [] < p := by
  obtain ⟨k, q, rfl⟩ := exists_cons_of_mem_placesOf h
  exact List.nil_lt_cons k q

mutual

/-- The places of the modules in an item are in the order of the source. -/
theorem Item.places_pairwise : ∀ item : Item, item.places.Pairwise (· < ·)
  | .module attributes name items => by
    rw [Item.places]
    split
    · exact .nil
    · exact .cons (fun p hp => nil_lt_of_mem_placesOf hp) (placesOf_pairwise items)
  | .function _ | .methods _ _ | .moduleFile _ _ | .skipped | .imports _ _ | .struct _ _ _
  | .enum _ _ _ | .synonym _ _ _ | .other _ => .nil

/-- The places of the modules in items are in the order of the source. -/
theorem placesOf_pairwise : ∀ items : List Item, (placesOf items).Pairwise (· < ·)
  | [] => .nil
  | item :: rest => by
    rw [placesOf, List.pairwise_append, List.pairwise_map, List.pairwise_map]
    refine ⟨?_, ?_, ?_⟩
    · exact item.places_pairwise.imp fun h => List.cons_lt_cons_iff.mpr (.inr ⟨rfl, h⟩)
    · refine (placesOf_pairwise rest).imp_of_mem fun hp hq h => ?_
      obtain ⟨k, p, rfl⟩ := exists_cons_of_mem_placesOf hp
      obtain ⟨l, q, rfl⟩ := exists_cons_of_mem_placesOf hq
      rw [List.modifyHead_cons, List.modifyHead_cons, List.cons_lt_cons_iff]
      exact (List.cons_lt_cons_iff.mp h).imp Nat.succ_lt_succ (And.imp_left (congrArg (· + 1)))
    · rintro _ hp _ hq
      obtain ⟨p, -, rfl⟩ := List.mem_map.mp hp
      obtain ⟨q, hplace, rfl⟩ := List.mem_map.mp hq
      obtain ⟨k, others, rfl⟩ := exists_cons_of_mem_placesOf hplace
      exact List.cons_lt_cons_iff.mpr (.inl (Nat.succ_pos k))

end

/-- The places of a module and of those written in it are in the order of the source. -/
theorem ModuleBody.places_pairwise (b : ModuleBody) : b.places.Pairwise (· < ·) :=
  .cons (fun _ hp => nil_lt_of_mem_placesOf hp) (placesOf_pairwise b.items)

/-- A file with the modules `a`, `a::b`, `tests` and `c`, where `tests` is for tests. -/
example : (ModuleBody.mk "crate" []
    [.module [] ⟨"a", false, by decide⟩ [.skipped, .module [] ⟨"b", false, by decide⟩ []],
      .module [⟨false, some "cfg", .list [.word ⟨"test", false, by decide⟩]⟩]
        ⟨"tests", false, by decide⟩ [.module [] ⟨"d", false, by decide⟩ []],
      .module [] ⟨"c", false, by decide⟩ []]).places = [[], [0], [0, 1], [2]] := by
  decide

/-! ## Units -/

mutual

/-- The units of an item are those of the modules at its places. -/
theorem Item.units_eq (path : FilePath) (module : ModulePath) : ∀ item : Item,
    (item.units path module).map some = item.places.map fun q =>
      ((item.body? module).bind fun inner => inner.at? q).map (ModuleBody.unit path)
  | .module attributes name items => by
    rw [Item.units, Item.places, Item.body?]
    split
    · rfl
    · rw [List.map_cons, List.map_cons, unitsBelow_eq path _ (attributes.filter Attribute.inner)]
      rfl
  | .function _ | .methods _ _ | .moduleFile _ _ | .skipped | .imports _ _ | .struct _ _ _
  | .enum _ _ _ | .synonym _ _ _ | .other _ => rfl

/-- The units of items are those of the modules at their places, in the order of the places. -/
theorem unitsBelow_eq (path : FilePath) (module : ModulePath) (attributes : List Attribute) :
    ∀ items : List Item, (unitsBelow path module items).map some =
      (placesOf items).map fun p =>
        ((ModuleBody.mk module attributes items).at? p).map (ModuleBody.unit path)
  | [] => rfl
  | item :: rest => by
    rw [unitsBelow, placesOf, List.map_append, List.map_append, List.map_map, List.map_map,
      item.units_eq path module, unitsBelow_eq path module attributes rest]
    congr 1
    -- an item after the first has the same module as among the items after the first
    refine List.map_congr_left fun p hp => ?_
    obtain ⟨k, q, rfl⟩ := exists_cons_of_mem_placesOf hp
    rfl

end

/-- **Units.** The units of a file are those of its modules, in the order of the places. -/
theorem FileTree.units_eq (path : FilePath) (module : ModulePath) (tree : FileTree) :
    (tree.units path module).map some = (tree.body module).places.map fun p =>
      ((tree.body module).at? p).map (ModuleBody.unit path) := by
  rw [FileTree.units, List.map_cons, unitsBelow_eq path module tree.attributes, ModuleBody.places,
    List.map_cons]
  rfl

/-! ## Markers -/

/-- The path of the module that a declaration marks. -/
def markedModule? : Decl → Option ModulePath
  | .module path => some path
  | _ => none

/-- The paths of the modules that a unit marks, in the order of the source. -/
def markers (u : SourceUnit) : List ModulePath :=
  u.decls.filterMap markedModule?

/-- General documentation marks no module. -/
theorem filterMap_generalDecl (attributes : List Attribute) :
    (generalDecl attributes).filterMap markedModule? = [] := by
  unfold generalDecl
  simp only
  split <;> rfl

theorem filterMap_functionDecls (functions : List FunctionTree) :
    (functions.flatMap FunctionTree.decl).filterMap markedModule? = [] := by
  rw [List.filterMap_eq_nil_iff]
  intro decl hdecl
  obtain ⟨f, -, hf⟩ := List.mem_flatMap.mp hdecl
  unfold FunctionTree.decl at hf
  simp only at hf
  split at hf
  · exact nomatch hf
  · rw [List.mem_singleton.mp hf]
    rfl

/-- An item marks the module that it is. -/
theorem Item.filterMap_decls (module : ModulePath) (item : Item) :
    (item.decls module).filterMap markedModule? =
      ((item.body? module).map ModuleBody.module).toList := by
  cases item with
  | function f =>
    have hnone := filterMap_functionDecls [f]
    rw [List.flatMap_singleton] at hnone
    rw [Item.decls]
    split
    · rfl
    · exact hnone
  | methods attributes functions =>
    rw [Item.decls, List.filterMap_append, filterMap_generalDecl, filterMap_functionDecls]
    rfl
  | module attributes name items =>
    rw [Item.decls, Item.body?]
    split
    · rfl
    · rw [List.filterMap_append, filterMap_generalDecl]
      rfl
  | moduleFile attributes name =>
    rw [Item.decls]
    split
    · rfl
    · exact filterMap_generalDecl _
  | skipped => rfl
  | _ attributes => exact filterMap_generalDecl attributes

/-- What is made of the elements of a list, by their numbers. -/
theorem filterMap_eq_filterMap_range {α β : Type} (l : List α) (f : α → Option β) :
    l.filterMap f = (List.range l.length).filterMap fun k => l[k]?.bind f := by
  have hmap : (List.range l.length).map (l[·]?) = l.map some := by
    refine List.ext_getElem? fun k => ?_
    by_cases hk : k < l.length <;> simp [hk]
  have hboth := congrArg (List.filterMap (Option.bind · f)) hmap
  rw [List.filterMap_map, List.filterMap_map] at hboth
  exact hboth.symm

/-- What is made of elements, counted among those of which something is made. -/
theorem getElem?_filterMap {α β : Type} (l : List α) (f : α → Option β) (r : Nat) :
    (l.filterMap f)[r]? = (l.filter fun a => (f a).isSome)[r]?.bind f := by
  induction l generalizing r with
  | nil => rfl
  | cons a l ih =>
    cases hf : f a with
    | none =>
      rw [List.filterMap_cons_none hf, ih, List.filter_cons_of_neg (by simp [hf])]
    | some b =>
      rw [List.filterMap_cons_some hf, List.filter_cons_of_pos (by simp [hf])]
      cases r with
      | zero => simp [hf]
      | succ r => exact ih r

namespace ModuleBody

variable {b : ModuleBody}

/-- The numbers of the items of a module that are modules. -/
def innerItems (b : ModuleBody) : List Nat :=
  (List.range b.items.length).filter fun k => (b.child? k).isSome

/-- The numbers of inner modules are those of the items that are modules. -/
theorem mem_innerItems {k : Nat} : k ∈ b.innerItems ↔ (b.child? k).isSome := by
  rw [innerItems, List.mem_filter, List.mem_range, and_iff_right_iff_imp, child?]
  intro hchild
  by_contra hk
  rw [List.getElem?_eq_none (Nat.not_lt.mp hk)] at hchild
  exact absurd hchild Bool.false_ne_true

/-- No number of an inner module stands twice. -/
theorem innerItems_nodup (b : ModuleBody) : b.innerItems.Nodup :=
  List.nodup_range.filter _

/-- The marker with the number `r` is that of the inner module with this number. -/
theorem getElem?_markers (path : FilePath) (b : ModuleBody) (r : Nat) :
    (markers (b.unit path))[r]? =
      b.innerItems[r]?.bind fun k => (b.child? k).map ModuleBody.module := by
  have hmarkers : markers (b.unit path) =
      b.items.filterMap fun item => (item.body? b.module).map ModuleBody.module := by
    have hdecls : (b.unit path).decls =
        generalDecl b.attributes ++ b.items.flatMap (Item.decls b.module) := rfl
    rw [markers, hdecls, List.filterMap_append, filterMap_generalDecl, List.nil_append,
      List.filterMap_flatMap, List.filterMap_eq_flatMap_toList]
    simp only [Item.filterMap_decls]
  have hchild : ∀ k, (b.items[k]?.bind fun item => (item.body? b.module).map ModuleBody.module) =
      (b.child? k).map ModuleBody.module := by
    intro k
    rw [child?, Option.map_bind]
    rfl
  rw [hmarkers, filterMap_eq_filterMap_range, getElem?_filterMap]
  simp only [hchild, Option.isSome_map]
  rfl

theorem at?_concat (b : ModuleBody) (p : List Nat) (k : Nat) :
    b.at? (p ++ [k]) = (b.at? p).bind fun inner => inner.child? k := by
  induction p generalizing b with
  | nil =>
    rw [List.nil_append, at?, at?, Option.bind_some]
    cases b.child? k <;> rfl
  | cons l rest ih =>
    rw [List.cons_append, at?, at?]
    cases b.child? l with
    | none => rfl
    | some inner => exact ih inner

/-- A module in another one is an item there, and has a path below that of the other one. -/
theorem exists_of_child? {k : Nat} {inner : ModuleBody} (h : b.child? k = some inner) :
    ∃ attributes name items, b.items[k]? = some (.module attributes name items) ∧
      inner.module = ModulePath.join b.module name.text := by
  obtain ⟨item, hitem, hbody⟩ := Option.bind_eq_some_iff.mp h
  cases item with
  | module attributes name items =>
    rw [Item.body?] at hbody
    split at hbody
    · exact nomatch hbody
    · obtain rfl := Option.some.inj hbody
      exact ⟨attributes, name, items, hitem, rfl⟩
  | _ => exact nomatch hbody

/-! ## Markers and units one by one -/

/-- Whether a marker belongs to the unit with the number `j`. The marker is given by the number of
its unit and its own number there. The module that it marks is an item of the module of its unit. -/
def Marks (root : ModuleBody) (m : Nat × Nat) (j : Nat) : Prop :=
  ∃ p b k, root.places[m.1]? = some p ∧ root.at? p = some b ∧ b.innerItems[m.2]? = some k ∧
    root.places[j]? = some (p ++ [k])

variable {root : ModuleBody} {m m' : Nat × Nat} {i j j' : Nat}

theorem places_nodup (root : ModuleBody) : root.places.Nodup :=
  root.places_pairwise.imp ne_of_lt

theorem index_eq {p : List Nat} (h : root.places[i]? = some p) (h' : root.places[j]? = some p) :
    i = j :=
  (List.getElem?_inj (List.getElem?_eq_some_iff.mp h).1 root.places_nodup).mp (h.trans h'.symm)

theorem index_lt {p q : List Nat} (h : root.places[i]? = some p) (h' : root.places[j]? = some q)
    (hlt : p < q) : i < j := by
  obtain ⟨hi, rfl⟩ := List.getElem?_eq_some_iff.mp h
  obtain ⟨hj, rfl⟩ := List.getElem?_eq_some_iff.mp h'
  by_contra hle
  rcases Nat.lt_or_eq_of_le (Nat.not_lt.mp hle) with hless | rfl
  · exact lt_asymm hlt (List.pairwise_iff_getElem.mp root.places_pairwise j i hj hi hless)
  · exact lt_irrefl _ hlt

theorem lt_concat (p : List Nat) (k : Nat) : p < p ++ [k] := by
  induction p with
  | nil => exact List.nil_lt_cons k []
  | cons l rest ih => exact List.cons_lt_cons_iff.mpr (.inr ⟨rfl, ih⟩)

/-- A marked module comes after the one that marks it. -/
theorem Marks.lt (h : root.Marks m j) : m.1 < j := by
  obtain ⟨p, b, k, hp, -, -, hj⟩ := h
  exact index_lt hp hj (lt_concat p k)

theorem Marks.lt_length (h : root.Marks m j) : j < root.places.length := by
  obtain ⟨p, b, k, -, -, -, hj⟩ := h
  exact (List.getElem?_eq_some_iff.mp hj).1

theorem Marks.unique_unit (h : root.Marks m j) (h' : root.Marks m j') : j = j' := by
  obtain ⟨p, b, k, hp, hb, hk, hj⟩ := h
  obtain ⟨p', b', k', hp', hb', hk', hj'⟩ := h'
  obtain rfl := Option.some.inj (hp.symm.trans hp')
  obtain rfl := Option.some.inj (hb.symm.trans hb')
  obtain rfl := Option.some.inj (hk.symm.trans hk')
  exact index_eq hj hj'

theorem Marks.unique_marker (h : root.Marks m j) (h' : root.Marks m' j) : m = m' := by
  obtain ⟨p, b, k, hp, hb, hk, hj⟩ := h
  obtain ⟨p', b', k', hp', hb', hk', hj'⟩ := h'
  obtain ⟨rfl, hlast⟩ := List.append_inj' (Option.some.inj (hj.symm.trans hj')) rfl
  obtain rfl := (List.cons.inj hlast).1
  obtain rfl := Option.some.inj (hb.symm.trans hb')
  have hnumber : m.2 = m'.2 := (List.getElem?_inj (List.getElem?_eq_some_iff.mp hk).1
    b.innerItems_nodup).mp (hk.trans hk'.symm)
  exact Prod.ext (index_eq hp hp') hnumber

/-- Each unit but the first belongs to a marker. -/
theorem exists_marks (hpos : 0 < j) (hlt : j < root.places.length) : ∃ m, root.Marks m j := by
  have hj := List.getElem?_eq_getElem hlt
  have hne : root.places[j] ≠ [] := by
    intro hnil
    have hfirst : root.places[0]? = some [] := rfl
    exact absurd (index_eq hfirst (hj.trans (congrArg some hnil))) (Nat.ne_of_lt hpos)
  generalize root.places[j] = q at hj hne
  obtain ⟨p, k, rfl⟩ := List.eq_nil_or_concat' q |>.resolve_left hne
  have hmodule := mem_places.mp (List.mem_of_getElem? hj)
  rw [at?_concat] at hmodule
  obtain ⟨b, hb⟩ := Option.isSome_iff_exists.mp (Option.isSome_of_isSome_bind hmodule)
  rw [hb, Option.bind_some] at hmodule
  obtain ⟨i, hi⟩ := List.mem_iff_getElem?.mp (mem_places.mpr (hb ▸ rfl : (root.at? p).isSome))
  obtain ⟨r, hr⟩ := List.mem_iff_getElem?.mp (mem_innerItems.mpr hmodule)
  exact ⟨(i, r), p, b, k, hi, hb, hr, hj⟩

end ModuleBody

/-- The path of a marker, which is given by the number of its unit and its own number there. -/
def markerAt? (us : List SourceUnit) (m : Nat × Nat) : Option ModulePath :=
  us[m.1]?.bind fun u => (markers u)[m.2]?

section

variable (path : FilePath) (module : ModulePath) (tree : FileTree)

/-- The units of a file are those of the modules at its places. -/
theorem FileTree.getElem?_units (i : Nat) : (tree.units path module)[i]? =
    (tree.body module).places[i]?.bind fun p =>
      ((tree.body module).at? p).map (ModuleBody.unit path) := by
  have hboth := congrArg (·[i]?) (tree.units_eq path module)
  simp only [List.getElem?_map] at hboth
  cases hplace : (tree.body module).places[i]? with
  | none =>
    rw [hplace, Option.map_none, Option.map_eq_none_iff] at hboth
    exact hboth
  | some p =>
    rw [hplace, Option.map_some] at hboth
    obtain ⟨u, hu, heq⟩ := Option.map_eq_some_iff.mp hboth
    rw [hu, Option.bind_some, ← heq]

/-- A file has as many units as there are modules in it. -/
theorem FileTree.length_units :
    (tree.units path module).length = (tree.body module).places.length := by
  rw [← List.length_map some, tree.units_eq, List.length_map]

variable {path module tree}

/-- A marker belongs to a unit. -/
theorem FileTree.exists_marks_of_markerAt? {m : Nat × Nat} {q : ModulePath}
    (h : markerAt? (tree.units path module) m = some q) : ∃ j, (tree.body module).Marks m j := by
  obtain ⟨u, hu, hmarker⟩ := Option.bind_eq_some_iff.mp h
  rw [tree.getElem?_units] at hu
  obtain ⟨p, hp, hunit⟩ := Option.bind_eq_some_iff.mp hu
  obtain ⟨b, hb, rfl⟩ := Option.map_eq_some_iff.mp hunit
  rw [ModuleBody.getElem?_markers] at hmarker
  obtain ⟨k, hk, hchild⟩ := Option.bind_eq_some_iff.mp hmarker
  have hplace : ((tree.body module).at? (p ++ [k])).isSome := by
    rw [ModuleBody.at?_concat, hb, Option.bind_some]
    exact ModuleBody.mem_innerItems.mp (List.mem_of_getElem? hk)
  obtain ⟨j, hj⟩ := List.mem_iff_getElem?.mp (ModuleBody.mem_places.mpr hplace)
  exact ⟨j, p, b, k, hp, hb, hk, hj⟩

/-- A marker has the path of the unit to which it belongs: that of its own unit, and the name of a
module that is written there. -/
theorem FileTree.unit_of_marks (path : FilePath) {m : Nat × Nat} {j : Nat}
    (h : (tree.body module).Marks m j) :
    ∃ p b k attributes name items,
      (tree.body module).places[m.1]? = some p ∧ (tree.body module).at? p = some b ∧
      b.items[k]? = some (.module attributes name items) ∧
      (tree.body module).places[j]? = some (p ++ [k]) ∧
      markerAt? (tree.units path module) m = some (ModulePath.join b.module name.text) ∧
      (tree.units path module)[m.1]? = some (b.unit path) ∧
      (tree.units path module)[j]?.map SourceUnit.module =
        some (ModulePath.join b.module name.text) := by
  obtain ⟨p, b, k, hp, hb, hk, hj⟩ := h
  obtain ⟨inner, hinner⟩ := Option.isSome_iff_exists.mp
    (ModuleBody.mem_innerItems.mp (List.mem_of_getElem? hk))
  obtain ⟨attributes, name, items, hitem, hmodule⟩ := ModuleBody.exists_of_child? hinner
  have hunit : (tree.units path module)[m.1]? = some (b.unit path) := by
    rw [tree.getElem?_units, hp, Option.bind_some, hb, Option.map_some]
  refine ⟨p, b, k, attributes, name, items, hp, hb, hitem, hj, ?_, hunit, ?_⟩
  · rw [markerAt?, hunit, Option.bind_some, ModuleBody.getElem?_markers, hk, Option.bind_some,
      hinner, Option.map_some, hmodule]
  · rw [tree.getElem?_units, hj, Option.bind_some, ModuleBody.at?_concat, hb, Option.bind_some,
      hinner, Option.map_some, Option.map_some, ← hmodule]
    rfl

end

/-- **Markers.** The units of a file begin with that of the file itself. They are those of its
modules, in the order of their places, which are strictly in the order of the source; modules for
tests have no place. Each unit but the first belongs to one marker and each marker to one unit. The
unit comes later than that which has the marker, it is that of the module written at the place of
the marker, and the marker has its path: that of the unit around it and the name of the module. -/
theorem markers_match_units (path : FilePath) (module : ModulePath) (tree : FileTree) :
    (∃ rest, tree.units path module = (tree.body module).unit path :: rest) ∧
    ((tree.units path module).map some = (tree.body module).places.map fun p =>
      ((tree.body module).at? p).map (ModuleBody.unit path)) ∧
    (tree.body module).places.Pairwise (· < ·) ∧
    (∀ p, p ∈ (tree.body module).places ↔ ((tree.body module).at? p).isSome) ∧
    ∃ target : Nat × Nat → Nat,
      Set.BijOn target {m | (markerAt? (tree.units path module) m).isSome}
        {j | 0 < j ∧ j < (tree.units path module).length} ∧
      ∀ m q, markerAt? (tree.units path module) m = some q →
        m.1 < target m ∧ ∃ p b k attributes name items,
          (tree.body module).places[m.1]? = some p ∧ (tree.body module).at? p = some b ∧
          b.items[k]? = some (.module attributes name items) ∧
          (tree.body module).places[target m]? = some (p ++ [k]) ∧
          q = ModulePath.join b.module name.text ∧
          (tree.units path module)[m.1]? = some (b.unit path) ∧
          (tree.units path module)[target m]?.map SourceUnit.module = some q := by
  refine ⟨⟨_, rfl⟩, tree.units_eq path module, (tree.body module).places_pairwise,
    fun p => ModuleBody.mem_places, ?_⟩
  have hexists : ∀ m, ∃ j, (markerAt? (tree.units path module) m).isSome →
      (tree.body module).Marks m j := by
    intro m
    cases hmarker : markerAt? (tree.units path module) m with
    | none => exact ⟨0, fun h => absurd h Bool.false_ne_true⟩
    | some q =>
      obtain ⟨j, hj⟩ := tree.exists_marks_of_markerAt? hmarker
      exact ⟨j, fun _ => hj⟩
  choose target htarget using hexists
  refine ⟨target, ⟨?_, ?_, ?_⟩, ?_⟩
  · intro m hm
    have hmarks := htarget m hm
    refine ⟨Nat.lt_of_le_of_lt (Nat.zero_le _) hmarks.lt, ?_⟩
    rw [tree.length_units]
    exact hmarks.lt_length
  · intro m hm m' hm' heq
    have hmarks := htarget m hm
    rw [heq] at hmarks
    exact hmarks.unique_marker (htarget m' hm')
  · rintro j ⟨hpos, hlt⟩
    rw [tree.length_units] at hlt
    obtain ⟨m, hmarks⟩ := ModuleBody.exists_marks hpos hlt
    obtain ⟨_, _, _, _, _, _, -, -, -, -, hmarker, -⟩ := FileTree.unit_of_marks path hmarks
    have hm : (markerAt? (tree.units path module) m).isSome := by
      rw [hmarker]
      rfl
    exact ⟨m, hm, (htarget m hm).unique_unit hmarks⟩
  · intro m q hq
    have hmarks := htarget m (by rw [hq]; rfl)
    obtain ⟨p, b, k, attributes, name, items, hp, hb, hitem, hj, hmarker, hunit, htarget⟩ :=
      FileTree.unit_of_marks path hmarks
    obtain rfl := Option.some.inj (hq.symm.trans hmarker)
    exact ⟨hmarks.lt, p, b, k, attributes, name, items, hp, hb, hitem, hj, rfl, hunit, htarget⟩

end ApiDocs.Source
