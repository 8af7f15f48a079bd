import ApiDocs.FileTree.Load
import ApiDocs.Proofs.Catalog.Library
import Mathlib.Data.Set.Finite.List
import Mathlib.Data.String.Basic

/-!
# The loader of a file tree

The loader of a file tree gives one file for a module, or none (`loader_isSingle`). It may give the
same file for any number of modules, but a path has only so much room, and how many types a file
declares does not depend on the module it is read for. So there is a bound on the types that can
come from it (`loader_covered`).
-/

namespace ApiDocs

/-! ## Counting types -/

namespace Catalog

theorem typeCount_append (us vs : List SourceUnit) :
    typeCount (us ++ vs) = typeCount us + typeCount vs := by
  induction us with
  | nil => exact (Nat.zero_add _).symm
  | cons u us ih =>
    rw [List.cons_append, typeCount, typeCount, ih, Nat.add_assoc]

end Catalog

namespace Source

mutual

/-- An item declares the same number of types in whatever module it stands. -/
theorem Item.typeCount_units {path : FilePath} {module other : ModulePath} :
    ∀ item : Item,
      Catalog.typeCount (item.units path module) = Catalog.typeCount (item.units path other)
  | .module attributes name items => by
    rw [Item.units, Item.units]
    split
    · rfl
    · rw [Catalog.typeCount, Catalog.typeCount, typeCount_unitsBelow items]
      rfl
  | .function _ | .methods _ _ | .moduleFile _ _ | .skipped | .imports _ _ | .struct _ _ _
  | .enum _ _ _ | .synonym _ _ _ | .other _ => by
    rw [Item.units, Item.units] <;> exact nofun

theorem typeCount_unitsBelow {path : FilePath} {module other : ModulePath} :
    ∀ items : List Item, Catalog.typeCount (unitsBelow path module items) =
      Catalog.typeCount (unitsBelow path other items)
  | [] => rfl
  | item :: rest => by
    rw [unitsBelow, unitsBelow, Catalog.typeCount_append, Catalog.typeCount_append,
      item.typeCount_units, typeCount_unitsBelow rest]

end

end Source

/-- A file declares the same number of types for whatever module it is read. -/
theorem LoadedSource.typeCount_eq (path : FilePath) (module other : ModulePath) (content : String) :
    (LoadedSource.mk path module content).typeCount =
      (LoadedSource.mk path other content).typeCount := by
  rw [typeCount, typeCount, Source.parseUnits?, Source.parseUnits?]
  cases Source.parseFile? content with
  | none => rfl
  | some tree =>
    change (_ + _ : Nat) = _ + _
    exact congrArg _ (Source.typeCount_unitsBelow tree.items)

namespace FileTree

variable {t : FileTree} {crates : Crates}

/-! ## What is given -/

/-- The loader gives a file with its text. -/
theorem exists_of_loadUpTo {n : Nat} {module : ModulePath} {given : List LoadedSource}
    (h : t.loadUpTo crates n module = .ok given) :
    ∃ path text outer, given = [⟨path, outer, text⟩] ∧ t.readText path = .ok text := by
  induction n generalizing module with
  | zero => cases h
  | succ n ih =>
    rw [loadUpTo] at h
    split at h
    · cases h
    · rename_i path _
      split at h
      · rename_i text htext
        cases h
        exact ⟨path, text, module, rfl, htext⟩
      · cases h
    · split at h
      · exact ih h
      · cases h

theorem loader_isSingle (t : FileTree) (crates : Crates) : (t.loader crates).IsSingle := by
  intro module
  rw [Loader.given]
  split
  · rename_i given hload
    obtain ⟨path, text, outer, rfl, -⟩ := exists_of_loadUpTo hload
    exact Or.inr ⟨_, rfl⟩
  · exact Or.inl rfl

/-! ## Files that a loader may give -/

instance : Finite Char :=
  Finite.of_injective (fun c : Char => c.val.toBitVec.toFin) fun _ _ h =>
    Char.ext (UInt32.toBitVec_inj.mp (BitVec.toFin_inj.mp h))

/-- A text has no more characters than bytes. -/
theorem length_le_utf8ByteSize (text : String) : text.toList.length ≤ text.utf8ByteSize := by
  obtain ⟨cs, rfl⟩ : ∃ cs, text = String.ofList cs := ⟨text.toList, String.ofList_toList.symm⟩
  rw [String.toList_ofList, String.utf8ByteSize_ofList]
  induction cs with
  | nil => exact Nat.zero_le _
  | cons c cs ih =>
    have hc := c.utf8Size_pos
    rw [List.length_cons, String.utf8Len_cons]
    omega

/-- There are finitely many paths of a length that paths have room for. -/
theorem finite_shortPaths : { p : FilePath | isLongPath p = false }.Finite := by
  refine Set.Finite.of_injOn (f := fun p => p.text.toList) ?_ ?_ (List.finite_length_le Char 4095)
  · intro p hp
    have hsize : p.text.utf8ByteSize ≤ 4095 := by simpa [isLongPath] using hp
    exact (length_le_utf8ByteSize p.text).trans hsize
  · rintro ⟨text⟩ - ⟨other⟩ - h
    exact congrArg FilePath.mk (String.toList_inj.mp h)

/-- A file that can be read has no path that is too long. -/
theorem isLongPath_of_readText {p : FilePath} {text : String} (h : t.readText p = .ok text) :
    isLongPath p = false := by
  rw [Bool.eq_false_iff]
  intro hlong
  have hlocate : t.locate p = .error .notFound ∨ t.locate p = .error .tooLong := by
    rw [locate, if_pos hlong]
    split
    · exact Or.inl rfl
    · exact Or.inr rfl
  rw [readText, lookup] at h
  rcases hlocate with hlocate | hlocate <;>
  · rw [hlocate] at h
    cases h

/-- **Covered.** The files that the loader may give are covered by finitely many. -/
theorem loader_covered (t : FileTree) (crates : Crates) :
    ∃ sources, (t.loader crates).CoveredBy sources := by
  classical
  let source (p : FilePath) : LoadedSource := ⟨p, "crate", (t.readText p).toOption.getD ""⟩
  refine ⟨finite_shortPaths.toFinset.image source, ?_⟩
  rintro x ⟨module, given, hload, hx⟩
  obtain ⟨path, text, outer, rfl, htext⟩ := exists_of_loadUpTo hload
  cases List.mem_singleton.mp hx
  refine ⟨source path, ?_, rfl, ?_⟩
  · exact Finset.mem_image_of_mem source
      (finite_shortPaths.mem_toFinset.mpr (isLongPath_of_readText htext))
  · have hsource : source path = ⟨path, "crate", text⟩ := by
      simp only [source, htext]
      rfl
    rw [hsource]
    exact (LoadedSource.typeCount_eq path outer "crate" text).le

end FileTree

end ApiDocs
