import ApiDocs.FileTree.Scan
import ApiDocs.Proofs.FileTree.Descent
import Mathlib.Data.List.Nodup

/-!
# Walking through folders

A walk goes from listing to listing. The files that it takes are those with an open way to them
(`mem_walk`), and it takes each of them once (`walk_nodup`), so that a scan lists them in a strict
order (`sourceFiles_pairwise_lt`). The way to a folder can be walked apart from the way from there
(`isFound_append`).
-/

namespace ApiDocs.FileTree

variable {t : FileTree} {extension name file : String} {place names folders : List String}
  {path p : FilePath} {entry : Entry}

/-! ## Following -/

theorem follow_append {pieces more found : List String} :
    t.follow place (pieces ++ more) = .ok found ↔
      ∃ middle, t.follow place pieces = .ok middle ∧ t.follow middle more = .ok found := by
  induction pieces generalizing place with
  | nil =>
    rw [List.nil_append, follow]
    simp
  | cons piece rest ih =>
    rw [List.cons_append, follow, follow]
    rcases t.at? place with _ | _ | text
    · simp
    · simp only
      split
      · exact ih
      · split
        · exact ih
        · split
          · simp
          · exact ih
    · simp

/-- A name is followed from a folder. -/
theorem follow_name {found : List String} (h : IsName name) : t.follow place [name] = .ok found ↔
    t.at? place = some .folder ∧ isLongName name = false ∧ found = place ++ [name] := by
  obtain ⟨-, hempty, hdot, hdots⟩ := h
  rw [follow]
  rcases t.at? place with _ | _ | text
  · simp
  · cases hlong : isLongName name <;> simp [hempty, hdot, hdots, follow, eq_comm]
  · simp

/-- An empty piece leads nowhere, and only from a folder. -/
theorem follow_empty {found : List String} : t.follow place [""] = .ok found ↔
    t.at? place = some .folder ∧ found = place := by
  rw [follow]
  rcases t.at? place with _ | _ | text
  · simp
  · simp only [true_or, if_true, follow, Except.ok.injEq, true_and]
    exact eq_comm
  · simp

/-- The pieces of a path with a name joined to it. -/
theorem pieces_join (hname : IsName name) (hpath : path.text ≠ "") :
    ∃ front, pieces (path.join name) = front ++ [name] ∧
      (pieces path = front ∨ pieces path = front ++ [""]) := by
  obtain ⟨hempty, -⟩ | ⟨-, front, hjoint, hfront⟩ := path.joint_cases
  · exact absurd hempty hpath
  refine ⟨(Text.cutAt (· == '/') front).map String.ofList, ?_, ?_⟩
  · rw [pieces, FilePath.join_eq_joint (isAbsolute_eq_false hname), String.toList_append, hjoint,
      List.append_assoc, List.singleton_append, FilePath.cutAt_slash, FilePath.cutAt_name hname,
      List.map_append, List.map_singleton, String.ofList_toList]
  · refine hfront.imp (fun hfront => ?_) (fun hfront => ?_)
    · rw [pieces, hfront]
    · rw [pieces, hfront, FilePath.cutAt_slash, List.map_append]
      rfl

/-- **Following.** A name that is joined to a path leads into the folder that the path leads to. -/
theorem locate_join {found : List String} (hname : IsName name) (hpath : path.text ≠ "") :
    t.locate (path.join name) = .ok found ↔
      isLongPath (path.join name) = false ∧ isLongName name = false ∧ (t.at? found).isSome ∧
        ∃ place, t.locate path = .ok place ∧ t.at? place = some .folder ∧
          found = place ++ [name] := by
  obtain ⟨front, hjoined, hpieces⟩ := pieces_join hname hpath
  have hstart : t.start (path.join name) = t.start path := by
    rw [start, start, FilePath.isAbsolute_join hname hpath]
  have hshorter : isLongPath (path.join name) = false → isLongPath path = false := by
    have hsize : path.text.utf8ByteSize ≤ (path.join name).text.utf8ByteSize :=
      FilePath.utf8ByteSize_le_join hname
    simp only [isLongPath, decide_eq_false_iff_not]
    omega
  -- a slash at the end of the path leads no further
  have hfront : ∀ place, t.at? place = some .folder → (t.locate path = .ok place ↔
      isLongPath path = false ∧ t.follow (t.start path) front = .ok place) := by
    intro place hplace
    rw [locate_eq_ok_iff]
    rcases hpieces with hpieces | hpieces
    · simp [hpieces, hpath, hplace]
    · simp [hpieces, hpath, hplace, follow_append, follow_empty]
  constructor
  · intro h
    obtain ⟨-, hshort, hfollow, hsome⟩ := locate_eq_ok_iff.mp h
    rw [hstart, hjoined] at hfollow
    obtain ⟨place, hplace, hlast⟩ := follow_append.mp hfollow
    obtain ⟨hfolder, hlong, rfl⟩ := (follow_name hname).mp hlast
    exact ⟨hshort, hlong, hsome, place, (hfront place hfolder).mpr ⟨hshorter hshort, hplace⟩,
      hfolder, rfl⟩
  · rintro ⟨hshort, hlong, hsome, place, hlocate, hfolder, rfl⟩
    refine locate_eq_ok_iff.mpr ⟨FilePath.text_join_ne_empty hname, hshort, ?_, hsome⟩
    rw [hstart, hjoined]
    exact follow_append.mpr ⟨place, ((hfront place hfolder).mp hlocate).2,
      (follow_name hname).mpr ⟨hfolder, hlong, rfl⟩⟩

/-! ## Listings -/

/-- What is listed in a folder is what stands one name below it. -/
theorem listed?_eq_some_iff {e : List String × Entry} :
    listed? place e = some (name, entry) ↔ e = (place ++ [name], entry) := by
  obtain ⟨other, found⟩ := e
  rw [listed?]
  rcases List.eq_nil_or_concat other with rfl | ⟨front, last, rfl⟩
  · simp
  · rw [List.concat_eq_append]
    simp only [List.getLast?_concat, List.dropLast_concat, Option.ite_none_right_eq_some,
      Option.some.injEq, Prod.mk.injEq, List.append_singleton_inj]
    exact and_assoc.symm

/-- A folder lists the entries in it. -/
theorem mem_listing : (name, entry) ∈ t.listing place ↔ (place ++ [name], entry) ∈ t.entries := by
  rw [listing, List.mem_filterMap]
  simp only [listed?_eq_some_iff, exists_eq_right]

/-- A folder lists a name once. -/
theorem IsProper.listing_pairwise (ht : t.IsProper) (place : List String) :
    (t.listing place).Pairwise fun x y => x.1 ≠ y.1 := by
  refine List.Pairwise.filterMap _ ?_ (List.pairwise_map.mp ht.distinct)
  rintro e e' hne ⟨name, entry⟩ hlisted ⟨name', entry'⟩ hlisted' rfl
  rw [listed?_eq_some_iff.mp hlisted, listed?_eq_some_iff.mp hlisted'] at hne
  exact hne rfl

theorem length_le_depth {e : List String × Entry} (he : e ∈ t.entries) : e.1.length ≤ t.depth := by
  rw [depth]
  generalize t.entries = entries at he
  induction entries with
  | nil => cases he
  | cons other rest ih =>
    rw [List.map_cons, List.foldr_cons]
    rcases List.mem_cons.mp he with rfl | he
    · exact Nat.le_max_left ..
    · exact (ih he).trans (Nat.le_max_right ..)

/-! ## What is taken -/

/-- Whether a walk can go from a folder through folders with some names, one after the other. -/
def Opens (t : FileTree) : List String → FilePath → List String → Prop
  | _, _, [] => True
  | place, path, name :: rest =>
    ((place ++ [name], .folder) ∈ t.entries ∧ isKept (name, .folder) ∧
        t.isFolder (path.join name)) ∧
      t.Opens (place ++ [name]) (path.join name) rest

theorem opens_append {more : List String} : t.Opens place path (names ++ more) ↔
    t.Opens place path names ∧ t.Opens (place ++ names) (path.descend names) more := by
  induction names generalizing place path with
  | nil => rw [List.nil_append, List.append_nil, Opens, true_and, FilePath.descend, List.foldl_nil]
  | cons name rest ih =>
    rw [List.cons_append, Opens, Opens, ih, List.append_assoc]
    exact and_assoc.symm

/-- A folder is kept if it is neither hidden nor one of those that are skipped. -/
theorem isKept_folder_iff :
    isKept (name, .folder) ↔ isHiddenName name = false ∧ name ∉ skippedFolders := by
  simp [isKept]

/-- Only folders that are kept are opened. -/
theorem Opens.forall_isKept (h : t.Opens place path names) :
    ∀ name ∈ names, isKept (name, .folder) := by
  induction names generalizing place path with
  | nil => exact nofun
  | cons name rest ih => exact List.forall_mem_cons.mpr ⟨h.1.2.1, ih h.2⟩

/-- **Open ways.** A path leads to a folder through the folders around it. -/
theorem opens_of_isFolder (hnames : ∀ name ∈ names, IsName name) (hpath : path.text ≠ "")
    (hkept : ∀ name ∈ names, isKept (name, .folder))
    (h : t.isFolder (path.descend names)) :
    ∃ place, t.locate path = .ok place ∧ t.at? place = some .folder ∧
      t.Opens place path names := by
  induction names generalizing path with
  | nil =>
    obtain ⟨place, hlocate, hfolder⟩ := isFolder_iff.mp h
    exact ⟨place, hlocate, hfolder, trivial⟩
  | cons name rest ih =>
    have hname := hnames name List.mem_cons_self
    obtain ⟨inner, hinner, hinnerFolder, hopens⟩ :=
      ih (fun other hother => hnames other (.tail name hother)) (FilePath.text_join_ne_empty hname)
        (fun other hother => hkept other (.tail name hother)) h
    obtain ⟨-, -, -, place, hlocate, hfolder, rfl⟩ := (locate_join hname hpath).mp hinner
    have hentry := mem_entries_of_at? (List.concat_ne_nil name place) hinnerFolder
    refine ⟨place, hlocate, hfolder, ⟨hentry, hkept name List.mem_cons_self, ?_⟩, hopens⟩
    exact isFolder_iff.mpr ⟨_, hinner, hinnerFolder⟩

/-- Whether a walk takes a file in the folder with some names. -/
structure IsFound (t : FileTree) (extension : String) (place : List String) (path : FilePath)
    (folders : List String) (file : String) : Prop where
  /-- The way to the folder is open. -/
  opens : t.Opens place path folders
  /-- The file is there. -/
  entry : ∃ text, (place ++ folders ++ [file], .file text) ∈ t.entries
  /-- It is not hidden. -/
  visible : isHiddenName file = false
  /-- It is a source file. -/
  source : isSourceName extension file = true
  /-- Its path leads to it. -/
  isFile : t.isFile (path.descend (folders ++ [file])) = true

/-- **Ways.** The way to a file goes through each folder. -/
theorem isFound_append {more : List String} : t.IsFound extension place path (names ++ more) file ↔
    t.Opens place path names ∧
      t.IsFound extension (place ++ names) (path.descend names) more file := by
  have hplace : place ++ (names ++ more) ++ [file] = place ++ names ++ more ++ [file] := by
    rw [List.append_assoc place names more]
  have hpath : path.descend (names ++ more ++ [file]) =
      (path.descend names).descend (more ++ [file]) := by
    rw [List.append_assoc, FilePath.descend_append]
  constructor
  · rintro ⟨hopens, hentry, hvisible, hsource, hfile⟩
    rw [hplace] at hentry
    rw [hpath] at hfile
    obtain ⟨houter, hinner⟩ := opens_append.mp hopens
    exact ⟨houter, hinner, hentry, hvisible, hsource, hfile⟩
  · rintro ⟨houter, hinner, hentry, hvisible, hsource, hfile⟩
    rw [← hplace] at hentry
    rw [← hpath] at hfile
    exact ⟨opens_append.mpr ⟨houter, hinner⟩, hentry, hvisible, hsource, hfile⟩

/-- What is found at an entry: what is inside if it is a folder, and itself if it is a source
file. -/
theorem mem_visit {inner : String → List FilePath} :
    p ∈ t.visit extension path inner (name, entry) ↔
      (entry = .folder ∧ t.isFolder (path.join name) ∧ p ∈ inner name) ∨
      ((∃ text, entry = .file text) ∧ t.isFile (path.join name) ∧ isSourceName extension name ∧
        p = path.join name) := by
  cases entry <;> simp [visit, and_assoc]

/-- **Walking.** A walk takes the files that it finds an open way to. -/
theorem mem_walk {depth : Nat} : p ∈ t.walk extension depth place path ↔
    ∃ folders file, folders.length < depth ∧ t.IsFound extension place path folders file ∧
      p = path.descend (folders ++ [file]) := by
  induction depth generalizing place path with
  | zero => simp [walk]
  | succ depth ih =>
    rw [walk, List.mem_flatMap]
    constructor
    · rintro ⟨⟨name, entry⟩, hlisted, hvisit⟩
      obtain ⟨hlisted, hkept⟩ := List.mem_filter.mp hlisted
      have hentry := mem_listing.mp hlisted
      rcases mem_visit.mp hvisit with ⟨rfl, hfolder, hinner⟩ | ⟨⟨text, rfl⟩, hfile, hsource, rfl⟩
      · obtain ⟨folders, file, hlength, hfound, rfl⟩ := ih.mp hinner
        have hopens : t.Opens place path [name] := ⟨⟨hentry, hkept, hfolder⟩, trivial⟩
        exact ⟨name :: folders, file, Nat.succ_lt_succ hlength,
          isFound_append.mpr ⟨hopens, hfound⟩, rfl⟩
      · refine ⟨[], name, Nat.succ_pos depth, ⟨trivial, ⟨text, ?_⟩, ?_, hsource, hfile⟩, rfl⟩
        · rwa [List.append_nil]
        · simpa [isKept] using hkept
    · rintro ⟨folders, file, hlength, hfound, rfl⟩
      cases folders with
      | nil =>
        obtain ⟨text, hentry⟩ := hfound.entry
        rw [List.append_nil] at hentry
        have hkept : isKept (file, .file text) = true := by simpa [isKept] using hfound.visible
        exact ⟨(file, .file text), List.mem_filter.mpr ⟨mem_listing.mpr hentry, hkept⟩,
          mem_visit.mpr (.inr ⟨⟨text, rfl⟩, hfound.isFile, hfound.source, rfl⟩)⟩
      | cons name folders =>
        have hfound : t.IsFound extension place path ([name] ++ folders) file := hfound
        obtain ⟨⟨⟨hentry, hkept, hfolder⟩, -⟩, hinner⟩ := isFound_append.mp hfound
        exact ⟨(name, .folder), List.mem_filter.mpr ⟨mem_listing.mpr hentry, hkept⟩,
          mem_visit.mpr (.inl ⟨rfl, hfolder, ih.mpr
            ⟨folders, file, Nat.lt_of_succ_lt_succ hlength, hinner, rfl⟩⟩)⟩

/-- The walk of a scan goes deep enough for every file. -/
theorem mem_sourceFiles {root : FilePath} : p ∈ t.sourceFiles place root extension ↔
    ∃ folders file, t.IsFound extension place root folders file ∧
      p = root.descend (folders ++ [file]) := by
  rw [sourceFiles, List.mem_mergeSort, mem_walk]
  constructor
  · rintro ⟨folders, file, -, hfound, rfl⟩
    exact ⟨folders, file, hfound, rfl⟩
  · rintro ⟨folders, file, hfound, rfl⟩
    obtain ⟨text, hentry⟩ := hfound.entry
    have hlength := length_le_depth hentry
    simp only [List.length_append, List.length_singleton] at hlength
    exact ⟨folders, file, by omega, hfound, rfl⟩

/-! ## The order of files -/

/-- A file that is found has a path of names. -/
theorem IsFound.isName (ht : t.IsProper) (h : t.IsFound extension place path folders file) :
    ∀ name ∈ folders ++ [file], IsName name := by
  obtain ⟨text, hentry⟩ := h.entry
  rw [List.append_assoc] at hentry
  exact ht.isName_of_mem hentry

/-- What a walk takes from a name lies below that name. -/
theorem exists_of_mem_visit (ht : t.IsProper) {depth : Nat}
    (hlisted : (name, entry) ∈ t.listing place)
    (h : p ∈ t.visit extension path
      (fun name => t.walk extension depth (place ++ [name]) (path.join name)) (name, entry)) :
    ∃ more, (∀ other ∈ name :: more, IsName other) ∧ p = path.descend (name :: more) := by
  have hname : IsName name := ht.isName_of_mem (mem_listing.mp hlisted) name (by simp)
  rcases mem_visit.mp h with ⟨-, -, hinner⟩ | ⟨-, -, -, rfl⟩
  · obtain ⟨folders, file, -, hfound, rfl⟩ := mem_walk.mp hinner
    refine ⟨folders ++ [file], ?_, rfl⟩
    exact List.forall_mem_cons.mpr ⟨hname, hfound.isName ht⟩
  · exact ⟨[], by simpa using hname, rfl⟩

/-- **Once.** A walk takes no file twice. -/
theorem walk_nodup (ht : t.IsProper) (extension : String) (depth : Nat) (place : List String)
    (path : FilePath) : (t.walk extension depth place path).Nodup := by
  induction depth generalizing place path with
  | zero => exact List.nodup_nil
  | succ depth ih =>
    rw [walk, List.nodup_flatMap]
    constructor
    · rintro ⟨name, _ | text⟩ -
      · rw [visit]
        split
        · exact ih ..
        · exact List.nodup_nil
      · rw [visit]
        split
        · exact List.nodup_singleton _
        · exact List.nodup_nil
    · -- what is taken from two names differs in the component behind the path
      refine ((ht.listing_pairwise place).filter isKept).imp_of_mem ?_
      rintro ⟨name, entry⟩ ⟨other, entry'⟩ hmem hmem' hne p hp hp'
      obtain ⟨more, hmore, rfl⟩ := exists_of_mem_visit ht (List.mem_of_mem_filter hmem) hp
      obtain ⟨more', hmore', heq⟩ := exists_of_mem_visit ht (List.mem_of_mem_filter hmem') hp'
      have hsame : (path.descend (name :: more)).same (path.descend (other :: more')) := by
        rw [heq, FilePath.same, beq_self_eq_true]
      exact hne (List.cons.inj (FilePath.descend_inj hmore hmore' hsame)).1

/-- Paths that are in a strict order are determined by which ones they are. -/
theorem eq_of_pairwise_lt {ps qs : List FilePath}
    (hps : ps.Pairwise fun p q => p.compare q = .lt)
    (hqs : qs.Pairwise fun p q => p.compare q = .lt) (h : ∀ p, p ∈ ps ↔ p ∈ qs) : ps = qs := by
  have hne : ∀ p q : FilePath, p.compare q = .lt → p ≠ q := by
    rintro p _ hlt rfl
    have hself : p.compare p = .eq := Std.ReflCmp.compare_self
    rw [hself] at hlt
    cases hlt
  have hperm : ps.Perm qs :=
    (List.perm_ext_iff_of_nodup (hps.imp (hne _ _)) (hqs.imp (hne _ _))).mpr h
  refine hperm.eq_of_pairwise ?_ hps hqs
  intro p q _ _ hlt hgt
  have hswap : p.compare q = (q.compare p).swap := Std.OrientedCmp.eq_swap
  rw [hswap, hgt] at hlt
  cases hlt

/-- **Order.** Source files are found in the order of their paths. -/
theorem sourceFiles_pairwise (t : FileTree) (place : List String) (root : FilePath)
    (extension : String) :
    (t.sourceFiles place root extension).Pairwise fun p q => p.notAfter q := by
  have htrans : ∀ p q r : FilePath, p.notAfter q → q.notAfter r → p.notAfter r :=
    fun _ _ _ => FilePath.notAfter_trans
  exact List.pairwise_mergeSort htrans FilePath.notAfter_total _

/-- Files that are found are written in one way. -/
theorem IsProper.eq_of_same (ht : t.IsProper) {root q : FilePath}
    (hp : p ∈ t.sourceFiles place root extension) (hq : q ∈ t.sourceFiles place root extension)
    (hsame : p.same q) : p = q := by
  obtain ⟨folders, file, hfound, rfl⟩ := mem_sourceFiles.mp hp
  obtain ⟨folders', file', hfound', rfl⟩ := mem_sourceFiles.mp hq
  rw [FilePath.descend_inj (hfound.isName ht) (hfound'.isName ht) hsame]

/-- **Order.** Files are found in a strict order. -/
theorem sourceFiles_pairwise_lt (ht : t.IsProper) (place : List String) (root : FilePath)
    (extension : String) :
    (t.sourceFiles place root extension).Pairwise fun p q => p.compare q = .lt := by
  have hnodup : (t.sourceFiles place root extension).Nodup :=
    (List.mergeSort_perm _ _).nodup_iff.mpr (walk_nodup ht ..)
  refine ((sourceFiles_pairwise ..).and hnodup).imp_of_mem ?_
  rintro p q hp hq ⟨hle, hne⟩
  cases hcompare : p.compare q with
  | lt => rfl
  | eq => exact absurd (ht.eq_of_same hp hq (FilePath.compare_eq_iff.mp hcompare)) hne
  | gt =>
    rw [FilePath.notAfter, hcompare] at hle
    cases hle

end ApiDocs.FileTree
