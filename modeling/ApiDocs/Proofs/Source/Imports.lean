import ApiDocs.Source.Unit
import Mathlib.Data.List.Basic

/-!
# Imports by leaves

A tree of imports may nest groups in each other to any depth. Its leaves are the ends of its paths,
each with all the segments on the way to it. A walk over a tree finds what its leaves import, from
left to right, and comes back to where it started (`UseTree.collect_eq`). So a tree imports the same
as its leaves do when each one is written on its own, without groups (`imports_by_leaves`).
-/

namespace ApiDocs.Source

/-! ## Leaves -/

/-- The end of an imported path. -/
inductive UseEnd where
  /-- A name. -/
  | name (name : String)
  /-- A name, bound to another one. -/
  | renamed (name newName : String)
  /-- All names of a module. -/
  | all

/-- A leaf of a tree of imports. -/
structure UseLeaf where
  /-- The segments on the way to the leaf. -/
  before : List String
  /-- The end. -/
  last : UseEnd

namespace UseLeaf

/-- A leaf below some segments. -/
def under (segments : List String) (leaf : UseLeaf) : UseLeaf :=
  { leaf with before := segments ++ leaf.before }

theorem under_under (segments others : List String) (leaf : UseLeaf) :
    (leaf.under others).under segments = leaf.under (segments ++ others) := by
  simp only [under, List.append_assoc]

/-- What a leaf imports. The name `self` stands for the segments on the way to it. Nothing is
imported where there are none, and nothing by a name that is bound to `_`. -/
def import? (module : ModulePath) (children : List String) (leaf : UseLeaf) : Option Import :=
  match leaf.last, leaf.before with
  | .renamed _ "_", _ => none
  | .name "self", [] | .renamed "self" _, [] | .all, [] => none
  | .name "self", before => some { path := importPath module children before }
  | .name name, before => some { path := importPath module children (before ++ [name]) }
  | .renamed "self" newName, before =>
    some { path := importPath module children before, asName := some newName }
  | .renamed name newName, before =>
    some { path := importPath module children (before ++ [name]), asName := some newName }
  | .all, before => some { path := importPath module children before, glob := true }

end UseLeaf

/-- The tree of an end alone. -/
def UseEnd.tree : UseEnd → UseTree
  | .name leaf => .name leaf
  | .renamed leaf newName => .renamed leaf newName
  | .all => .all

/-- The tree of a leaf that is written on its own: one path without groups. -/
def UseLeaf.tree (leaf : UseLeaf) : UseTree :=
  leaf.before.foldr .segment leaf.last.tree

mutual

/-- The leaves of a tree, from left to right. -/
def UseTree.leaves : UseTree → List UseLeaf
  | .segment first rest => rest.leaves.map (UseLeaf.under [first])
  | .name name => [⟨[], .name name⟩]
  | .renamed name newName => [⟨[], .renamed name newName⟩]
  | .all => [⟨[], .all⟩]
  | .group trees => leavesOfAll trees

/-- The leaves of several trees, from left to right. -/
def leavesOfAll : List UseTree → List UseLeaf
  | [] => []
  | tree :: rest => tree.leaves ++ leavesOfAll rest

end

/-- A leaf that is written on its own is the only leaf of its tree. -/
theorem UseLeaf.leaves_tree (leaf : UseLeaf) : leaf.tree.leaves = [leaf] := by
  obtain ⟨before, last⟩ := leaf
  induction before with
  | nil => cases last <;> rfl
  | cons first rest ih =>
    have htree : (UseLeaf.mk (first :: rest) last).tree =
        .segment first (UseLeaf.mk rest last).tree := rfl
    rw [htree, UseTree.leaves, ih]
    rfl

/-! ## Walks -/

section

variable (module : ModulePath) (children : List String)

theorem UseLeaf.import?_name (before : List String) (name : String) :
    (UseLeaf.mk before (.name name)).import? module children =
      (importedSegments? before name).map fun segments =>
        { path := importPath module children segments } := by
  by_cases hself : name = "self"
  · subst hself
    cases before <;> rfl
  · rw [importedSegments?, if_neg hself]
    simp [import?, hself]

/-- What a renamed leaf imports: as the name alone, but bound to the new one, and nothing if that is
`_`. -/
theorem UseLeaf.import?_renamed (before : List String) (name newName : String) :
    (UseLeaf.mk before (.renamed name newName)).import? module children =
      if newName = "_" then none
      else (importedSegments? before name).map fun segments =>
        { path := importPath module children segments, asName := some newName } := by
  by_cases hnew : newName = "_"
  · subst hnew
    rfl
  by_cases hself : name = "self"
  · subst hself
    cases before <;> simp [import?, hnew, importedSegments?]
  · rw [importedSegments?, if_neg hself]
    simp [import?, hnew, hself]

/-- What `*` imports: all names of the module before it, if there is one. -/
theorem UseLeaf.import?_all (before : List String) :
    (UseLeaf.mk before .all).import? module children =
      if before.isEmpty then none
      else some { path := importPath module children before, glob := true } := by
  cases before <;> rfl

/-- What is collected at a name is the import of its leaf. -/
theorem ImportWalk.takeName_eq (w : ImportWalk) (name : String) (asName : Option String) :
    w.takeName module children name asName =
      { w with found := w.found ++ ((importedSegments? w.before name).map fun segments =>
        { path := importPath module children segments, asName := asName : Import }).toList } := by
  rw [takeName]
  cases importedSegments? w.before name <;> simp

/-- At the end of a path, a walk finds what is imported there. -/
theorem UseEnd.collect_tree (last : UseEnd) (w : ImportWalk) :
    last.tree.collect module children w =
      ⟨w.before, w.found ++ [UseLeaf.mk [] last].filterMap fun leaf =>
        (leaf.under w.before).import? module children⟩ := by
  have hleaf : ([UseLeaf.mk [] last].filterMap fun leaf =>
      (leaf.under w.before).import? module children) =
        ((UseLeaf.mk w.before last).import? module children).toList := by
    rw [List.filterMap_cons, List.filterMap_nil, UseLeaf.under, List.append_nil]
    cases (UseLeaf.mk w.before last).import? module children <;> rfl
  rw [hleaf]
  cases last with
  | name name => rw [UseLeaf.import?_name, tree, UseTree.collect, ImportWalk.takeName_eq]
  | renamed name newName =>
    rw [UseLeaf.import?_renamed, tree, UseTree.collect]
    split
    · simp
    · rw [ImportWalk.takeName_eq]
  | all =>
    rw [UseLeaf.import?_all, tree, UseTree.collect]
    split <;> simp

mutual

/-- **Walks.** A walk over a tree finds what the leaves import, and comes back to its place. -/
theorem UseTree.collect_eq : ∀ (tree : UseTree) (w : ImportWalk),
    tree.collect module children w =
      ⟨w.before, w.found ++
        tree.leaves.filterMap fun leaf => (leaf.under w.before).import? module children⟩
  -- below a segment, the place is one segment further down, which is undone afterwards
  | .segment first rest, w => by
    rw [UseTree.collect, UseTree.collect_eq rest, UseTree.leaves, List.filterMap_map]
    simp only [List.dropLast_concat, Function.comp_def, UseLeaf.under_under]
  | .name name, w => (UseEnd.name name).collect_tree module children w
  | .renamed name newName, w => (UseEnd.renamed name newName).collect_tree module children w
  | .all, w => UseEnd.all.collect_tree module children w
  | .group trees, w => collectAll_eq trees w

/-- Of several trees, the imports of their leaves are collected from left to right. -/
theorem collectAll_eq : ∀ (trees : List UseTree) (w : ImportWalk),
    collectAll module children trees w =
      ⟨w.before, w.found ++
        (leavesOfAll trees).filterMap fun leaf => (leaf.under w.before).import? module children⟩
  | [], w => by
    rw [collectAll, leavesOfAll]
    simp
  | tree :: rest, w => by
    rw [collectAll, UseTree.collect_eq tree, collectAll_eq rest, leavesOfAll, List.filterMap_append,
      List.append_assoc]

end

/-- **Trees.** The imports of a tree are those of its leaves. -/
theorem UseTree.imports_eq (tree : UseTree) :
    tree.imports module children = tree.leaves.filterMap (UseLeaf.import? module children) := by
  rw [imports, UseTree.collect_eq]
  rfl

/-- A leaf that is written on its own imports what it imports in a tree. -/
theorem UseLeaf.imports_tree (leaf : UseLeaf) :
    leaf.tree.imports module children = (leaf.import? module children).toList := by
  rw [UseTree.imports_eq, leaf.leaves_tree, List.filterMap_cons, List.filterMap_nil]
  cases leaf.import? module children <;> rfl

/-- **Imports.** A tree imports what its leaves import from left to right, each one written on its
own: its path without groups, which has no other leaf. What a leaf imports is told by its end and
the segments on the way to it. Wherever a walk over the tree starts, it adds what the leaves import
below that place, and is at the same place afterwards. -/
theorem imports_by_leaves (tree : UseTree) :
    tree.imports module children =
      (tree.leaves.flatMap fun leaf => leaf.tree.imports module children) ∧
    (∀ leaf : UseLeaf, leaf.tree.leaves = [leaf] ∧
      leaf.tree.imports module children = (leaf.import? module children).toList) ∧
    ∀ w : ImportWalk, tree.collect module children w =
      ⟨w.before, w.found ++
        tree.leaves.flatMap fun leaf => (leaf.under w.before).tree.imports module children⟩ := by
  have hflatMap : ∀ (f : UseLeaf → UseLeaf),
      (tree.leaves.flatMap fun leaf => (f leaf).tree.imports module children) =
        tree.leaves.filterMap fun leaf => (f leaf).import? module children := by
    intro f
    simp only [UseLeaf.imports_tree]
    exact (List.filterMap_eq_flatMap_toList _ _).symm
  refine ⟨?_, fun leaf => ⟨leaf.leaves_tree, leaf.imports_tree module children⟩, fun w => ?_⟩
  · exact (tree.imports_eq module children).trans (hflatMap id).symm
  · rw [hflatMap (UseLeaf.under w.before)]
    exact tree.collect_eq module children w

end

end ApiDocs.Source
