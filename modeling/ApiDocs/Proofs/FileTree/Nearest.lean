import ApiDocs.Proofs.Layout
import Mathlib.Data.List.Induction

/-!
# The nearest module with a file

A module without a file is written in the file of a module around it. The loader goes from a module
to the module around it, one segment at a time, and stops at the first one with a file: so it gives
the longest beginning of the path that has a file (`IsNearest`), with the first of its files that
exists, and it fails if not even the crate has one (`load_nearest`).
-/

namespace ApiDocs

open Layout

namespace ModulePath

/-- Every segment behind the first one takes room in a path. -/
theorem length_le_length_ofSegments (name : String) (segs : List String) :
    segs.length ≤ (ofSegments (name :: segs)).length := by
  induction segs generalizing name with
  | nil => exact Nat.zero_le _
  | cons next segs ih =>
    have hnext := ih next
    rw [ofSegments_cons_cons, String.length_append, String.length_append, List.length_cons,
      show "::".length = 2 from rfl]
    omega

end ModulePath

namespace FileTree

variable {t : FileTree} {crates : Crates} {name : String} {root path : FilePath}
  {segs near : List String} {n : Nat}

/-! ## Crates and texts -/

theorem exists_crateRoot (t : FileTree)
    (h : name = "crate" ∨ name ∈ crates.externs.map Prod.fst) :
    ∃ root, t.crateRoot crates name = .ok root := by
  rw [crateRoot]
  by_cases hcrate : name = "crate"
  · exact ⟨crates.root, if_pos hcrate⟩
  · obtain ⟨e, he, rfl⟩ := List.mem_map.mp (h.resolve_left hcrate)
    obtain ⟨found, hfound⟩ : ∃ found, crates.externs.find? (fun x => x.1 == e.1) = some found :=
      Option.isSome_iff_exists.mp (List.find?_isSome.mpr ⟨e, he, beq_self_eq_true e.1⟩)
    exact ⟨t.moduleRoot found.2, by rw [if_neg hcrate, hfound]⟩

/-- Whether every file of a tree is text. -/
def HasTexts (t : FileTree) : Prop :=
  ∀ e ∈ t.entries, e.2 ≠ .file none

instance (t : FileTree) : Decidable t.HasTexts :=
  inferInstanceAs (Decidable (∀ e ∈ t.entries, e.2 ≠ .file none))

theorem exists_readText (h : t.HasTexts) (hpath : t.isFile path = true) :
    ∃ text, t.readText path = .ok text := by
  rw [isFile] at hpath
  split at hpath
  · rename_i text hlookup
    cases text with
    | some text => exact ⟨text, by rw [readText, hlookup]⟩
    | none =>
      obtain ⟨place, -, hplace⟩ := lookup_eq_ok_iff.mp hlookup
      have hne : place ≠ [] := by
        rintro rfl
        cases hplace
      exact absurd rfl (h _ (mem_entries_of_at? hne hplace))
  · cases hpath

/-! ## One module -/

/-- Whether no file of a module exists. -/
def HasNoFile (t : FileTree) (root : FilePath) (segs : List String) : Prop :=
  ∀ file ∈ moduleFiles root segs, ¬ t.isFile file

theorem hasNoFile_iff : t.HasNoFile root segs ↔ (moduleFiles root segs).find? t.isFile = none :=
  List.find?_eq_none.symm

section Step

variable (hroot : t.crateRoot crates name = .ok root) (hname : Text.isIdentifier name = true)
  (hsegs : ∀ segment ∈ segs, Text.isIdentifier segment = true)
include hroot hname hsegs

/-- A module with a file is loaded from it. -/
theorem loadUpTo_of_find? {text : String}
    (hfile : (moduleFiles root segs).find? t.isFile = some path)
    (htext : t.readText path = .ok text) :
    t.loadUpTo crates (n + 1) (ModulePath.ofSegments (name :: segs)) =
      .ok [⟨path, ModulePath.ofSegments (name :: segs), text⟩] := by
  rw [loadUpTo, moduleFile?_ofSegments hroot hname hsegs, hfile]
  simp only [htext]

/-- For a module without a file, the module around it is loaded. -/
theorem loadUpTo_concat {last : String} (hlast : Text.isIdentifier last = true)
    (hfile : t.HasNoFile root (segs ++ [last])) :
    t.loadUpTo crates (n + 1) (ModulePath.ofSegments (name :: (segs ++ [last]))) =
      t.loadUpTo crates n (ModulePath.ofSegments (name :: segs)) := by
  have hall : ∀ segment ∈ segs ++ [last], Text.isIdentifier segment = true :=
    List.forall_mem_append.mpr ⟨hsegs, List.forall_mem_singleton.mpr hlast⟩
  have hcolon : ∀ c ∈ last.toList, c ≠ ':' := fun c hc =>
    ModulePath.not_colon_of_isIdentifier hlast hc
  rw [loadUpTo, moduleFile?_ofSegments hroot hname hall, hasNoFile_iff.mp hfile, ← List.cons_append,
    ModulePath.splitName_ofSegments_concat (List.cons_ne_nil _ _) hcolon]

end Step

/-- There is no module around a crate. -/
theorem loadUpTo_crate (hroot : t.crateRoot crates name = .ok root)
    (hname : Text.isIdentifier name = true) (hfile : t.HasNoFile root []) :
    t.loadUpTo crates (n + 1) name = .error (.noFile name) := by
  have hone : ModulePath.ofSegments [name] = name := String.intercalate_singleton
  have hcolon : ∀ c ∈ name.toList, c ≠ ':' := fun c hc =>
    ModulePath.not_colon_of_isIdentifier hname hc
  have hmodule := moduleFile?_ofSegments hroot hname (List.forall_mem_nil _)
  rw [hone] at hmodule
  rw [loadUpTo, hmodule, hasNoFile_iff.mp hfile]
  simp only [ModulePath.splitName, ModulePath.cutLast?_eq_none hcolon]

/-! ## All modules around -/

/-- Whether a beginning of a list of segments is the longest one that has a file, and which is the
first of its files that exists. -/
structure IsNearest (t : FileTree) (root : FilePath) (segs near : List String)
    (path : FilePath) : Prop where
  /-- It is a beginning of the list. -/
  isBeginning : near <+: segs
  /-- It has a file. -/
  found : (moduleFiles root near).find? t.isFile = some path
  /-- No longer one has a file. -/
  longest : ∀ longer, longer <+: segs → near.length < longer.length → t.HasNoFile root longer

theorem isNearest_self (h : (moduleFiles root segs).find? t.isFile = some path) :
    t.IsNearest root segs segs path :=
  ⟨List.prefix_rfl, h, fun _ hlonger hlt => absurd hlonger.length_le (Nat.not_le.mpr hlt)⟩

/-- For a module without a file, the nearest one is that for the module around it. -/
theorem isNearest_concat {last : String} (h : t.HasNoFile root (segs ++ [last])) :
    t.IsNearest root (segs ++ [last]) near path ↔ t.IsNearest root segs near path := by
  constructor
  · rintro ⟨hnear, hfound, hlongest⟩
    refine ⟨?_, hfound, fun longer hlonger =>
      hlongest longer (hlonger.trans (List.prefix_append ..))⟩
    refine (List.prefix_concat_iff.mp hnear).resolve_left ?_
    rintro rfl
    rw [hasNoFile_iff.mp h] at hfound
    cases hfound
  · rintro ⟨hnear, hfound, hlongest⟩
    refine ⟨hnear.trans (List.prefix_append ..), hfound, fun longer hlonger hlt => ?_⟩
    rcases List.prefix_concat_iff.mp hlonger with rfl | hlonger
    · exact h
    · exact hlongest longer hlonger hlt

/-- A list with a file of its own is the nearest one. -/
theorem IsNearest.eq_self (h : t.IsNearest root segs near path)
    (hsegs : ¬ t.HasNoFile root segs) : near = segs := by
  refine h.isBeginning.eq_of_length_le (Nat.not_lt.mp fun hlt => ?_)
  exact hsegs (h.longest segs List.prefix_rfl hlt)

/-- If some beginning has a file, there is a longest one. -/
theorem exists_isNearest (h : ∃ outer, outer <+: segs ∧ ¬ t.HasNoFile root outer) :
    ∃ near path, t.IsNearest root segs near path := by
  have hself : ∀ segs, ¬ t.HasNoFile root segs → ∃ near path, t.IsNearest root segs near path := by
    intro segs hsegs
    obtain ⟨path, hpath⟩ := Option.ne_none_iff_exists'.mp (mt hasNoFile_iff.mpr hsegs)
    exact ⟨segs, path, isNearest_self hpath⟩
  obtain ⟨outer, hpre, hfile⟩ := h
  induction segs using List.reverseRecOn with
  | nil => exact hself [] (List.prefix_nil.mp hpre ▸ hfile)
  | append_singleton segs last ih =>
    by_cases hall : t.HasNoFile root (segs ++ [last])
    · rcases List.prefix_concat_iff.mp hpre with rfl | hpre
      · exact absurd hall hfile
      · obtain ⟨near, path, hnear⟩ := ih hpre
        exact ⟨near, path, (isNearest_concat hall).mpr hnear⟩
    · exact hself _ hall

section Run

variable (hroot : t.crateRoot crates name = .ok root) (hname : Text.isIdentifier name = true)
  (hsegs : ∀ segment ∈ segs, Text.isIdentifier segment = true)
include hroot hname hsegs

/-- **Nearest file.** A module is loaded from the nearest file. -/
theorem IsNearest.loadUpTo_eq (hnear : t.IsNearest root segs near path) {text : String}
    (htext : t.readText path = .ok text) (hn : segs.length < n) :
    t.loadUpTo crates n (ModulePath.ofSegments (name :: segs)) =
      .ok [⟨path, ModulePath.ofSegments (name :: near), text⟩] := by
  obtain ⟨m, rfl⟩ : ∃ m, n = m + 1 := ⟨n - 1, by omega⟩
  induction segs using List.reverseRecOn generalizing m with
  | nil =>
    obtain rfl := List.prefix_nil.mp hnear.isBeginning
    exact loadUpTo_of_find? hroot hname hsegs hnear.found htext
  | append_singleton segs last ih =>
    -- either the module itself has a file, or the module around it is tried next
    by_cases hall : t.HasNoFile root (segs ++ [last])
    · rw [List.length_append, List.length_singleton] at hn
      obtain ⟨k, rfl⟩ : ∃ k, m = k + 1 := ⟨m - 1, by omega⟩
      have hfront := (List.forall_mem_append.mp hsegs).1
      rw [loadUpTo_concat hroot hname hfront (hsegs last (by simp)) hall]
      exact ih hfront ((isNearest_concat hall).mp hnear) k (by omega)
    · obtain rfl := hnear.eq_self hall
      exact loadUpTo_of_find? hroot hname hsegs hnear.found htext

/-- Where no module around has a file, nothing is loaded. -/
theorem loadUpTo_eq_error (hall : ∀ outer, outer <+: segs → t.HasNoFile root outer)
    (hn : segs.length < n) :
    t.loadUpTo crates n (ModulePath.ofSegments (name :: segs)) = .error (.noFile name) := by
  obtain ⟨m, rfl⟩ : ∃ m, n = m + 1 := ⟨n - 1, by omega⟩
  induction segs using List.reverseRecOn generalizing m with
  | nil =>
    rw [show ModulePath.ofSegments [name] = name from String.intercalate_singleton]
    exact loadUpTo_crate hroot hname (hall [] List.prefix_rfl)
  | append_singleton segs last ih =>
    rw [List.length_append, List.length_singleton] at hn
    obtain ⟨k, rfl⟩ : ∃ k, m = k + 1 := ⟨m - 1, by omega⟩
    have hfront := (List.forall_mem_append.mp hsegs).1
    rw [loadUpTo_concat hroot hname hfront (hsegs last (by simp)) (hall _ List.prefix_rfl)]
    exact ih hfront (fun outer houter => hall outer (houter.trans (List.prefix_append ..))) k
      (by omega)

end Run

end FileTree

open FileTree

/-- **The nearest module file.** In a tree of texts, for a module with identifiers as segments in a
crate that is known: no more modules are tried than the path has segments. If some beginning of the
path has a file, what is loaded is the text of one file, for the longest such beginning; otherwise
nothing is. -/
theorem load_nearest (t : FileTree) (crates : Crates) (name : String) (segs : List String)
    (htexts : t.HasTexts) (hname : Text.isIdentifier name = true)
    (hsegs : ∀ segment ∈ segs, Text.isIdentifier segment = true)
    (hcrate : name = "crate" ∨ name ∈ crates.externs.map Prod.fst) :
    ∃ root, t.crateRoot crates name = .ok root ∧
      (∀ n, segs.length < n → t.loadUpTo crates n (ModulePath.ofSegments (name :: segs)) =
        t.load crates (ModulePath.ofSegments (name :: segs))) ∧
      ((∃ outer, outer <+: segs ∧ ∃ file ∈ moduleFiles root outer, t.isFile file) →
        ∃ near path text, t.IsNearest root segs near path ∧ t.readText path = .ok text ∧
          t.load crates (ModulePath.ofSegments (name :: segs)) =
            .ok [⟨path, ModulePath.ofSegments (name :: near), text⟩]) ∧
      ((∀ outer, outer <+: segs → ∀ file ∈ moduleFiles root outer, ¬ t.isFile file) →
        t.load crates (ModulePath.ofSegments (name :: segs)) = .error (.noFile name)) := by
  obtain ⟨root, hroot⟩ := exists_crateRoot t hcrate
  have hlength : segs.length < (ModulePath.ofSegments (name :: segs)).length + 1 :=
    Nat.lt_succ_of_le (ModulePath.length_le_length_ofSegments name segs)
  by_cases hfile : ∃ outer, outer <+: segs ∧ ¬ t.HasNoFile root outer
  · obtain ⟨near, path, hnear⟩ := exists_isNearest hfile
    obtain ⟨text, htext⟩ := exists_readText htexts (List.find?_some hnear.found)
    have hload : ∀ n, segs.length < n →
        t.loadUpTo crates n (ModulePath.ofSegments (name :: segs)) =
          .ok [⟨path, ModulePath.ofSegments (name :: near), text⟩] :=
      fun n hn => hnear.loadUpTo_eq hroot hname hsegs htext hn
    refine ⟨root, hroot, fun n hn => ?_, fun _ => ⟨near, path, text, hnear, htext, ?_⟩, ?_⟩
    · rw [load, hload n hn, hload _ hlength]
    · exact hload _ hlength
    · intro hall
      obtain ⟨outer, houter, hsome⟩ := hfile
      exact absurd (hall outer houter) hsome
  · have hall : ∀ outer, outer <+: segs → t.HasNoFile root outer := fun outer houter =>
      Classical.not_not.mp fun hsome => hfile ⟨outer, houter, hsome⟩
    have hload : ∀ n, segs.length < n →
        t.loadUpTo crates n (ModulePath.ofSegments (name :: segs)) = .error (.noFile name) :=
      fun n hn => loadUpTo_eq_error hroot hname hsegs hall hn
    refine ⟨root, hroot, fun n hn => ?_, ?_, fun _ => hload _ hlength⟩
    · rw [load, hload n hn, hload _ hlength]
    · rintro ⟨outer, houter, file, hmem, hisFile⟩
      exact absurd hisFile (hall outer houter file hmem)

/-- A crate in a folder of its own, with a file at its root and one in the folder of a module. -/
def shopTree : FileTree where
  home := ["q"]
  entries :=
    [(["q"], .folder), (["q", "Cargo.toml"], .file (some "")), (["q", "src"], .folder),
      (["q", "src", "main.rs"], .file (some "mod model;")), (["q", "src", "model"], .folder),
      (["q", "src", "model", "mod.rs"], .file (some "mod book { struct Book; }")),
      (["q", "src", "model", "book.rs"], .folder)]

/-- A module that is written in the file of the module around it: the file that it could have has
the name of a folder. -/
theorem load_nearest_shopTree :
    shopTree.HasTexts ∧ shopTree.isFile ⟨"/q/src/model/mod.rs"⟩ = true ∧
    ∃ near path text, shopTree.IsNearest ⟨"/q/src"⟩ ["model", "book"] near path ∧
      shopTree.readText path = .ok text ∧
      shopTree.load ⟨⟨"/p"⟩, [("shop", ⟨"/q"⟩)]⟩ "shop::model::book" =
        .ok [⟨path, ModulePath.ofSegments ("shop" :: near), text⟩] := by
  have htexts : shopTree.HasTexts := by decide
  have hfile : shopTree.isFile ⟨"/q/src/model/mod.rs"⟩ = true := by decide
  obtain ⟨root, hroot, -, hload, -⟩ :=
    load_nearest shopTree ⟨⟨"/p"⟩, [("shop", ⟨"/q"⟩)]⟩ "shop" ["model", "book"] htexts (by decide)
      (by decide) (by decide)
  obtain rfl : ⟨"/q/src"⟩ = root := Except.ok.inj hroot
  exact ⟨htexts, hfile, hload ⟨["model"], by decide, ⟨"/q/src/model/mod.rs"⟩, by decide, hfile⟩⟩

end ApiDocs
