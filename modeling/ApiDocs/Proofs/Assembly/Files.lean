import ApiDocs.Assembly
import ApiDocs.Proofs.FilePath
import ApiDocs.Proofs.Session.Growth

/-!
# Scanned units by file

File paths are in a linear order, up to the ways to write a path. The scanned units are sorted by
it, and units of one file keep their order. So the units of a file follow each other
(`scannedUnits_split`), and grouping by file gives them as one group (`files_split`).
-/

namespace ApiDocs

/-! ## Sorting -/

/-- Sorting keeps the order of elements none of which has to come after another one. -/
theorem filter_mergeSort {α : Type} {le : α → α → Bool} {p : α → Bool} (l : List α)
    (htrans : ∀ a b c, le a b → le b c → le a c) (htotal : ∀ a b, le a b || le b a)
    (hp : ∀ a b, p a → p b → le a b) : (l.mergeSort le).filter p = l.filter p := by
  have hpairwise : (l.filter p).Pairwise fun a b => le a b = true := by
    refine List.pairwise_iff_forall_sublist.mpr fun {a b} hsub => ?_
    have ha := List.mem_filter.mp (hsub.subset (List.mem_cons_self))
    have hb := List.mem_filter.mp (hsub.subset (List.mem_cons_of_mem a List.mem_cons_self))
    exact hp a b ha.2 hb.2
  have hsub := (List.sublist_mergeSort htrans htotal hpairwise List.filter_sublist).filter p
  rw [List.filter_filter] at hsub
  simp only [Bool.and_self] at hsub
  have hlength := ((List.mergeSort_perm l le).filter p).length_eq
  exact (hsub.eq_of_length hlength.symm).symm

/-- In a sorted list, elements between which no others can be follow each other. -/
theorem exists_split_filter {α : Type} {le : α → α → Prop} {p : α → Bool} {l : List α}
    (hl : l.Pairwise le) (hp : ∀ a b c, le a b → le b c → p a → p c → p b) :
    ∃ before after, l = before ++ l.filter p ++ after ∧
      (∀ a ∈ before, ¬ p a) ∧ ∀ a ∈ after, ¬ p a := by
  induction l with
  | nil => exact ⟨[], [], rfl, nofun, nofun⟩
  | cons a l ih =>
    obtain ⟨ha, hrest⟩ := List.pairwise_cons.mp hl
    obtain ⟨before, after, heq, hbefore, hafter⟩ := ih hrest
    by_cases hpa : p a
    · rw [List.filter_cons_of_pos hpa]
      by_cases hnone : l.filter p = []
      · exact ⟨[], l, by rw [hnone]; rfl, nofun, List.filter_eq_nil_iff.mp hnone⟩
      -- what stands between `a` and the others would have to be one of them
      · obtain ⟨c, hc⟩ := List.exists_mem_of_ne_nil _ hnone
        have hempty : before = [] := by
          rw [List.eq_nil_iff_forall_not_mem]
          intro b hb
          have hbc : le b c := by
            rw [heq, List.append_assoc, List.pairwise_append] at hrest
            exact hrest.2.2 b hb c (List.mem_append_left _ hc)
          have hbl : b ∈ l := by
            rw [heq]
            simp [hb]
          exact hbefore b hb (hp a b c (ha b hbl) hbc hpa (List.mem_filter.mp hc).2)
        refine ⟨[], after, ?_, nofun, hafter⟩
        rw [hempty] at heq
        rw [List.nil_append, List.cons_append]
        exact congrArg (a :: ·) heq
    · rw [List.filter_cons_of_neg hpa]
      refine ⟨a :: before, after, congrArg (a :: ·) heq, ?_, hafter⟩
      intro b hb
      rcases List.mem_cons.mp hb with rfl | hb
      · exact hpa
      · exact hbefore b hb

namespace Catalog

/-- Whether a unit is in a file. -/
def isIn (c : Catalog) (path : FilePath) (unit : Nat) : Bool :=
  (c.pathOf unit).same path

/-- The order of units by their files is transitive. -/
theorem notAfter_pathOf_trans (c : Catalog) (a b d : Nat)
    (h : (c.pathOf a).notAfter (c.pathOf b)) (h' : (c.pathOf b).notAfter (c.pathOf d)) :
    (c.pathOf a).notAfter (c.pathOf d) :=
  FilePath.notAfter_trans h h'

/-- Of two units, one is in a file that is not after that of the other. -/
theorem notAfter_pathOf_total (c : Catalog) (a b : Nat) :
    (c.pathOf a).notAfter (c.pathOf b) || (c.pathOf b).notAfter (c.pathOf a) :=
  FilePath.notAfter_total _ _

/-- The scanned units are in the order of their paths. -/
theorem scannedUnits_pairwise (c : Catalog) :
    c.scannedUnits.Pairwise fun a b => (c.pathOf a).notAfter (c.pathOf b) :=
  List.pairwise_mergeSort c.notAfter_pathOf_trans c.notAfter_pathOf_total c.scanned

/-- The units of a file follow each other, in the order in which they came. -/
theorem scannedUnits_split (c : Catalog) (path : FilePath) :
    ∃ before after, c.scannedUnits = before ++ c.scanned.filter (c.isIn path) ++ after ∧
      (∀ unit ∈ before, ¬ c.isIn path unit) ∧ ∀ unit ∈ after, ¬ c.isIn path unit := by
  have hfilter : c.scannedUnits.filter (c.isIn path) = c.scanned.filter (c.isIn path) := by
    refine filter_mergeSort c.scanned c.notAfter_pathOf_trans c.notAfter_pathOf_total
      fun a b ha hb => ?_
    exact FilePath.notAfter_of_same (FilePath.same_trans ha (FilePath.same_comm.mp hb))
  rw [← hfilter]
  -- a path between two spellings of this one is a spelling of it too
  refine exists_split_filter c.scannedUnits_pairwise ?_
  intro a b d hab hbd ha hd
  have hba : (c.pathOf b).notAfter (c.pathOf a) := FilePath.notAfter_trans hbd
    (FilePath.notAfter_of_same (FilePath.same_trans hd (FilePath.same_comm.mp ha)))
  exact FilePath.same_trans (FilePath.same_of_notAfter hba hab) ha

end Catalog

namespace Assembly

/-! ## Grouping -/

theorem exists_groupByFile_cons (c : Catalog) (unit : Nat) (rest : List Nat) :
    ∃ group groups, groupByFile c (unit :: rest) = (unit :: group) :: groups := by
  rw [groupByFile]
  split
  · exact ⟨[], [], rfl⟩
  · split
    · exact ⟨[], _, rfl⟩
    · split
      · exact ⟨_, _, rfl⟩
      · exact ⟨[], _, rfl⟩

/-- A unit goes to the group of the next one if both are in the same file. -/
theorem groupByFile_cons_of_same {c : Catalog} {unit next : Nat} {rest group : List Nat}
    {groups : List (List Nat)} (h : groupByFile c rest = (next :: group) :: groups)
    (hsame : (c.pathOf unit).same (c.pathOf next)) :
    groupByFile c (unit :: rest) = (unit :: next :: group) :: groups := by
  rw [groupByFile, h]
  exact if_pos hsame

theorem groupByFile_cons_of_not_same {c : Catalog} {unit next : Nat} {rest group : List Nat}
    {groups : List (List Nat)} (h : groupByFile c rest = (next :: group) :: groups)
    (hsame : ¬ (c.pathOf unit).same (c.pathOf next)) :
    groupByFile c (unit :: rest) = [unit] :: (next :: group) :: groups := by
  rw [groupByFile, h]
  exact if_neg hsame

/-- Grouping loses no units and keeps their order. -/
theorem flatten_groupByFile (c : Catalog) (units : List Nat) :
    (groupByFile c units).flatten = units := by
  induction units with
  | nil => rfl
  | cons unit rest ih =>
    cases rest with
    | nil => rfl
    | cons next others =>
      obtain ⟨group, groups, h⟩ := exists_groupByFile_cons c next others
      rw [h] at ih
      by_cases hsame : (c.pathOf unit).same (c.pathOf next)
      · rw [groupByFile_cons_of_same h hsame, ← ih]
        rfl
      · rw [groupByFile_cons_of_not_same h hsame, ← ih]
        rfl

/-- Units of one file are one group. -/
theorem groupByFile_eq_singleton {c : Catalog} {path : FilePath} {unit : Nat} {units : List Nat}
    (h : ∀ id ∈ unit :: units, c.isIn path id) :
    groupByFile c (unit :: units) = [unit :: units] := by
  induction units generalizing unit with
  | nil => rfl
  | cons next rest ih =>
    have hrest := ih fun id hid => h id (List.mem_cons_of_mem unit hid)
    refine groupByFile_cons_of_same hrest ?_
    have hunit : (c.pathOf unit).same path := h unit List.mem_cons_self
    have hnext : (c.pathOf next).same path :=
      h next (List.mem_cons_of_mem unit List.mem_cons_self)
    exact FilePath.same_trans hunit (FilePath.same_comm.mp hnext)

/-- A group ends where units of another file follow. -/
theorem groupByFile_append {c : Catalog} {units others : List Nat}
    (h : ∀ id ∈ units.getLast?, ∀ other ∈ others.head?, ¬ (c.pathOf id).same (c.pathOf other)) :
    groupByFile c (units ++ others) = groupByFile c units ++ groupByFile c others := by
  induction units with
  | nil => rfl
  | cons unit rest ih =>
    cases rest with
    | nil =>
      cases others with
      | nil => rfl
      | cons other more =>
        obtain ⟨group, groups, hother⟩ := exists_groupByFile_cons c other more
        have hapart := h unit rfl other rfl
        rw [List.singleton_append, groupByFile_cons_of_not_same hother hapart, hother]
        rfl
    | cons next more =>
      obtain ⟨group, groups, hnext⟩ := exists_groupByFile_cons c next more
      rw [List.getLast?_cons_cons] at h
      have hrest := ih h
      rw [hnext] at hrest
      by_cases hsame : (c.pathOf unit).same (c.pathOf next)
      · rw [List.cons_append, groupByFile_cons_of_same hrest hsame,
          groupByFile_cons_of_same hnext hsame]
        rfl
      · rw [List.cons_append, groupByFile_cons_of_not_same hrest hsame,
          groupByFile_cons_of_not_same hnext hsame]
        rfl

/-- **Files.** The scanned units of a file are one group, and no other group has any of them. -/
theorem files_split {c : Catalog} {path : FilePath} (h : c.scanned.filter (c.isIn path) ≠ []) :
    ∃ before after, files c = before ++ c.scanned.filter (c.isIn path) :: after ∧
      ∀ group ∈ before ++ after, ∀ unit ∈ group, ¬ c.isIn path unit := by
  obtain ⟨before, after, heq, hbefore, hafter⟩ := c.scannedUnits_split path
  have hgroup : ∀ unit ∈ c.scanned.filter (c.isIn path), c.isIn path unit :=
    fun unit hunit => (List.mem_filter.mp hunit).2
  obtain ⟨first, others, hcons⟩ := List.exists_cons_of_ne_nil h
  rw [hcons] at heq hgroup ⊢
  refine ⟨groupByFile c before, groupByFile c after, ?_, ?_⟩
  · have hstart : ∀ unit ∈ before.getLast?, ∀ other ∈ (first :: others ++ after).head?,
        ¬ (c.pathOf unit).same (c.pathOf other) := by
      rintro unit hunit _ ⟨⟩ hsame
      exact hbefore unit (List.mem_of_getLast? hunit)
        (FilePath.same_trans hsame (hgroup first List.mem_cons_self))
    have hend : ∀ unit ∈ (first :: others).getLast?, ∀ other ∈ after.head?,
        ¬ (c.pathOf unit).same (c.pathOf other) := by
      intro unit hunit other hother hsame
      have hpath := hgroup unit (List.mem_of_getLast? hunit)
      exact hafter other (List.mem_of_head? hother)
        (FilePath.same_trans (FilePath.same_comm.mp hsame) hpath)
    rw [files, heq, List.append_assoc, groupByFile_append hstart, groupByFile_append hend,
      groupByFile_eq_singleton hgroup, List.singleton_append]
  · intro group hmem unit hunit
    rcases List.mem_append.mp hmem with hmem | hmem
    · apply hbefore
      rw [← flatten_groupByFile c before]
      exact List.mem_flatten.mpr ⟨group, hmem, hunit⟩
    · apply hafter
      rw [← flatten_groupByFile c after]
      exact List.mem_flatten.mpr ⟨group, hmem, hunit⟩

end Assembly

/-! ## Scanning a file once -/

namespace Catalog

/-- Whether a file was scanned once: its units are there from `start` on, and no other scanned unit
has the path of the file. -/
structure Scanned (c : Catalog) (start : Nat) (path : FilePath) (us : List SourceUnit) : Prop where
  /-- The units of the file. -/
  units : ∀ i u, us[i]? = some u → c.units[start + i]? = some u
  /-- The scanned units that have its path. -/
  scanned : c.scanned.filter (c.isIn path) = List.range' start us.length

variable {c : Catalog} {path : FilePath} {us : List SourceUnit}

theorem units_addScanned (c : Catalog) (us : List SourceUnit) :
    (c.addScanned us).units = c.units ++ us :=
  (c.addUnits_frame us).2.1

/-- Scanned units are listed with the numbers that they get. -/
theorem scanned_addScanned (c : Catalog) (us : List SourceUnit) :
    (c.addScanned us).scanned = c.scanned ++ List.range' c.units.length us.length := by
  rw [addScanned]
  simp only
  rw [(c.addUnits_frame us).2.2.1, List.range'_eq_map_range]

/-- Units that were known before stay in their files. -/
theorem isIn_addScanned_of_lt {id : Nat} (h : id < c.units.length) :
    (c.addScanned us).isIn path id = c.isIn path id := by
  rw [isIn, isIn, pathOf, pathOf, units_addScanned, List.getElem?_append_left h]

/-- New units are in the files that they say. -/
theorem exists_isIn_addScanned_of_mem {id : Nat} (h : id ∈ List.range' c.units.length us.length) :
    ∃ u ∈ us, (c.addScanned us).isIn path id = u.path.same path := by
  obtain ⟨hle, hlt⟩ := List.mem_range'_1.mp h
  have hindex : id - c.units.length < us.length := by omega
  refine ⟨us[id - c.units.length], List.getElem_mem hindex, ?_⟩
  rw [isIn, pathOf, units_addScanned, List.getElem?_append_right hle,
    List.getElem?_eq_getElem hindex]
  rfl

/-- Scanning a file adds its own units to those of a path. -/
theorem filter_scanned_addScanned (hvalid : ∀ id ∈ c.scanned, id < c.units.length) :
    (c.addScanned us).scanned.filter ((c.addScanned us).isIn path) =
      c.scanned.filter (c.isIn path) ++
        (List.range' c.units.length us.length).filter ((c.addScanned us).isIn path) := by
  rw [scanned_addScanned, List.filter_append]
  congr 1
  exact List.filter_congr fun id hid => isIn_addScanned_of_lt (hvalid id hid)

/-- A file with a new path is scanned once. -/
theorem scanned_of_addScanned (hvalid : ∀ id ∈ c.scanned, id < c.units.length)
    (hnew : ∀ id ∈ c.scanned, ¬ c.isIn path id) (hpath : ∀ u ∈ us, u.path.same path) :
    (c.addScanned us).Scanned c.units.length path us := by
  refine ⟨?_, ?_⟩
  · intro i u hu
    rw [units_addScanned, List.getElem?_append_right (Nat.le_add_right _ _),
      Nat.add_sub_cancel_left, hu]
  · rw [filter_scanned_addScanned hvalid, List.filter_eq_nil_iff.mpr hnew, List.nil_append,
      List.filter_eq_self]
    intro id hid
    obtain ⟨u, hu, heq⟩ := exists_isIn_addScanned_of_mem hid
    rw [heq]
    exact hpath u hu

/-- It stays so when files with other paths are scanned. -/
theorem Scanned.addScanned {start : Nat} {others : List SourceUnit}
    (h : c.Scanned start path us) (hvalid : ∀ id ∈ c.scanned, id < c.units.length)
    (hothers : ∀ u ∈ others, ¬ u.path.same path) :
    (c.addScanned others).Scanned start path us := by
  refine ⟨?_, ?_⟩
  · intro i u hu
    have hold := h.units i u hu
    rw [units_addScanned, List.getElem?_append_left (List.getElem?_eq_some_iff.mp hold).1, hold]
  · have hnone : (List.range' c.units.length others.length).filter
        ((c.addScanned others).isIn path) = [] := by
      rw [List.filter_eq_nil_iff]
      intro id hid
      obtain ⟨u, hu, heq⟩ := exists_isIn_addScanned_of_mem hid
      rw [heq]
      exact hothers u hu
    rw [filter_scanned_addScanned hvalid, hnone, List.append_nil, h.scanned]

end Catalog

end ApiDocs
