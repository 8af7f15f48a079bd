import ApiDocs.FileTree.Load
import ApiDocs.Proofs.FileTree.Walk
import Mathlib.Data.List.Induction

/-!
# Folders of a crate

A crate is a folder with a manifest, and no other one below. All folders of a crate have the same
module root (`IsCrate.moduleRoot_eq`). The scan of a folder of a crate finds the files that the scan
of the whole crate finds there, in the same order (`sourceFiles_append`).
-/

namespace ApiDocs

/-- Whether a path lies in a folder. -/
def FilePath.isBelow (p folder : FilePath) : Bool :=
  (folder.below? p).isSome

theorem FilePath.isBelow_eq (p folder : FilePath) :
    p.isBelow folder = folder.components.isPrefixOf p.components := by
  rw [isBelow, below?]
  cases folder.components.isPrefixOf p.components <;> rfl

/-- Two ways to write a path lie in the same folders. -/
theorem FilePath.isBelow_congr {p q : FilePath} (h : p.same q) (folder : FilePath) :
    p.isBelow folder = q.isBelow folder := by
  rw [isBelow_eq, isBelow_eq, beq_iff_eq.mp h]

namespace FileTree

variable {t : FileTree} {place names : List String}

/-! ## The module root -/

/-- Whether a folder has a manifest, and no other file of this name is below. -/
structure IsCrate (t : FileTree) (place : List String) : Prop where
  /-- The folder has a manifest. -/
  manifest : t.isFile (pathOfPlace (place ++ ["Cargo.toml"]))
  /-- There is no other one. -/
  only : ∀ e ∈ t.entries, place <+: e.1 → e.1.getLast? = some "Cargo.toml" → e.2 ≠ .folder →
    e.1 = place ++ ["Cargo.toml"]

instance (t : FileTree) (place : List String) : Decidable (t.IsCrate place) :=
  decidable_of_iff (t.isFile (pathOfPlace (place ++ ["Cargo.toml"])) ∧
    ∀ e ∈ t.entries, place <+: e.1 → e.1.getLast? = some "Cargo.toml" → e.2 ≠ .folder →
      e.1 = place ++ ["Cargo.toml"]) ⟨fun h => ⟨h.1, h.2⟩, fun h => ⟨h.manifest, h.only⟩⟩

/-- Of the folders around a place, the nearest with a property is found. -/
theorem find?_ancestorsUpTo {f : FilePath → Bool} (h : ∀ name ∈ place ++ names, IsName name)
    (hplace : f (pathOfPlace place))
    (hbelow : ∀ inner, inner ≠ [] → inner <+: names → ¬ f (pathOfPlace (place ++ inner)))
    {n : Nat} (hn : names.length ≤ n) :
    (FilePath.ancestorsUpTo n (pathOfPlace (place ++ names))).find? f =
      some (pathOfPlace place) := by
  induction names using List.reverseRecOn generalizing n with
  | nil =>
    rw [List.append_nil]
    cases n with
    | zero => exact List.find?_cons_of_pos hplace
    | succ n =>
      rw [FilePath.ancestorsUpTo]
      split <;> exact List.find?_cons_of_pos hplace
  | append_singleton names name ih =>
    rw [List.length_append, List.length_singleton] at hn
    obtain ⟨m, rfl⟩ : ∃ m, n = m + 1 := ⟨n - 1, by omega⟩
    have hnot := hbelow (names ++ [name]) (by simp) List.prefix_rfl
    rw [← List.append_assoc] at h hnot ⊢
    rw [FilePath.ancestorsUpTo, parent?_pathOfPlace h]
    simp only
    rw [List.find?_cons_of_neg hnot]
    refine ih (fun other hother => h other (List.mem_append_left _ hother)) ?_ (by omega)
    exact fun inner hne hpre => hbelow inner hne (hpre.trans (List.prefix_append _ _))

/-- **Module root.** All folders of a crate have the same module root. -/
theorem IsCrate.moduleRoot_eq (hcrate : t.IsCrate place)
    (h : ∀ name ∈ place ++ names, IsName name) :
    t.moduleRoot (pathOfPlace (place ++ names)) = pathOfPlace (place ++ ["src"]) := by
  have hplace : ∀ name ∈ place, IsName name := fun name hname =>
    h name (List.mem_append_left _ hname)
  have hmanifest : IsName "Cargo.toml" := by decide
  have hlength : names.length ≤ (pathOfPlace (place ++ names)).components.length + 1 := by
    rw [components_pathOfPlace h, List.length_cons, List.length_map, List.length_append]
    omega
  have hfind := find?_ancestorsUpTo (f := fun p => t.isFile (p.join "Cargo.toml")) h
    (by rw [join_pathOfPlace hplace hmanifest]; exact hcrate.manifest) ?_ hlength
  · rw [moduleRoot, FilePath.ancestors, hfind]
    exact join_pathOfPlace hplace (by decide)
  · -- a manifest in an inner folder would be another one
    intro inner hne hpre hfile
    have hinner : ∀ name ∈ place ++ inner, IsName name := by
      intro name hname
      rcases List.mem_append.mp hname with hold | hnew
      · exact hplace name hold
      · exact h name (List.mem_append_right _ (hpre.subset hnew))
    rw [join_pathOfPlace hinner hmanifest] at hfile
    have hall : ∀ name ∈ place ++ inner ++ ["Cargo.toml"], IsName name := by
      intro name hname
      rcases List.mem_append.mp hname with hold | hnew
      · exact hinner name hold
      · exact List.mem_singleton.mp hnew ▸ hmanifest
    obtain ⟨text, hentry⟩ := mem_entries_of_isFile hall hfile
    have heq := hcrate.only _ hentry ((List.prefix_append _ _).trans (List.prefix_append _ _))
      (by simp) nofun
    have hlen := congrArg List.length heq
    simp only [List.length_append, List.length_singleton] at hlen
    exact hne (List.length_eq_zero_iff.mp (by omega))

/-! ## Scanning -/

/-- Whether a scan goes into folders with these names. -/
def IsVisible (names : List String) : Prop :=
  ∀ name ∈ names, isHiddenName name = false ∧ name ∉ skippedFolders

instance (names : List String) : Decidable (IsVisible names) :=
  inferInstanceAs (Decidable (∀ name ∈ names, isHiddenName name = false ∧ name ∉ skippedFolders))

/-- Which folders below a path another path below it lies in. -/
theorem isBelow_descend {p : FilePath} {other : List String} (h : ∀ name ∈ names, IsName name)
    (hother : ∀ name ∈ other, IsName name) :
    (p.descend other).isBelow (p.descend names) ↔ names <+: other := by
  rw [FilePath.isBelow_eq, FilePath.components_descend h, FilePath.components_descend hother,
    List.isPrefixOf_iff_prefix, List.prefix_append_right_inj]
  exact List.prefix_map_iff_of_injective fun _ _ => Component.name.inj

/-- Whether the path of a place leads to it, and it is a folder. -/
def IsFolderAt (t : FileTree) (place : List String) : Prop :=
  t.locate (pathOfPlace place) = .ok place ∧ t.at? place = some .folder

/-- **Scanning.** The scan of a folder finds the files that the scan of a folder around it finds
there. -/
theorem sourceFiles_append (ht : t.IsProper) (hplace : ∀ name ∈ place, IsName name)
    (hfolder : t.IsFolderAt (place ++ names)) (hvisible : IsVisible names) (extension : String) :
    t.sourceFiles (place ++ names) (pathOfPlace (place ++ names)) extension =
      (t.sourceFiles place (pathOfPlace place) extension).filter
        (·.isBelow (pathOfPlace (place ++ names))) := by
  have hnames : ∀ name ∈ names, IsName name := fun name hname =>
    ht.isName_of_at? (Option.isSome_of_eq_some hfolder.2) name (List.mem_append_right _ hname)
  have hinner : pathOfPlace (place ++ names) = (pathOfPlace place).descend names :=
    (foldl_join_pathOfPlace hplace hnames).symm
  have hopens : t.Opens place (pathOfPlace place) names := by
    obtain ⟨found, hlocate, -, hopens⟩ := opens_of_isFolder hnames
      (by simp [pathOfPlace] : (pathOfPlace place).text ≠ "")
      (fun name hname => isKept_folder_iff.mpr (hvisible name hname))
      (hinner ▸ isFolder_iff.mpr ⟨_, hfolder⟩)
    rwa [eq_of_locate_pathOfPlace hplace hlocate] at hopens
  refine eq_of_pairwise_lt (sourceFiles_pairwise_lt ht ..)
    ((sourceFiles_pairwise_lt ht ..).filter _) fun p => ?_
  rw [List.mem_filter, mem_sourceFiles, mem_sourceFiles, hinner]
  constructor
  · rintro ⟨folders, file, hfound, rfl⟩
    have houter := isFound_append.mpr ⟨hopens, hfound⟩
    refine ⟨⟨names ++ folders, file, houter, ?_⟩, ?_⟩
    · rw [← FilePath.descend_append, List.append_assoc]
    · rw [← FilePath.descend_append, ← List.append_assoc]
      exact (isBelow_descend hnames (houter.isName ht)).mpr
        ((List.prefix_append _ _).trans (List.prefix_append _ _))
  · rintro ⟨⟨folders, file, hfound, rfl⟩, hbelow⟩
    have hpre := (isBelow_descend hnames (hfound.isName ht)).mp hbelow
    rcases List.prefix_concat_iff.mp hpre with rfl | ⟨more, rfl⟩
    · -- the folder itself is no file
      obtain ⟨text, hentry⟩ := hfound.entry
      rw [List.append_assoc] at hentry
      have hother := mem_entries_of_at? (by simp) hfolder.2
      cases congrArg Prod.snd (List.inj_on_of_nodup_map ht.distinct hentry hother rfl)
    · refine ⟨more, file, (isFound_append.mp hfound).2, ?_⟩
      rw [List.append_assoc, FilePath.descend_append]

theorem eq_of_scan_pathOfPlace (hplace : ∀ name ∈ place, IsName name) {extension : String}
    {paths : List FilePath} (h : t.scan (pathOfPlace place) extension = .ok paths) :
    t.IsFolderAt place ∧ paths = t.sourceFiles place (pathOfPlace place) extension := by
  unfold scan at h
  split at h
  · rename_i found hlocate hfolder
    obtain rfl := eq_of_locate_pathOfPlace hplace hlocate
    obtain ⟨found', hlocate', hentry⟩ := isFolder_iff.mp hfolder
    obtain rfl := Except.ok.inj (hlocate.symm.trans hlocate')
    exact ⟨⟨hlocate, hentry⟩, (Except.ok.inj h).symm⟩
  · cases h

end FileTree

end ApiDocs
