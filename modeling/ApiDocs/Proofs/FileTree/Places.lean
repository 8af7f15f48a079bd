import ApiDocs.FileTree.Basic
import ApiDocs.Proofs.FilePath
import Mathlib.Data.List.Nodup

/-!
# Places and their paths

A place of a file tree has a path, which is written with the names of the place one after the other
(`components_pathOfPlace`). Such paths are joined and cut as the lists of names are
(`join_pathOfPlace`, `parent?_pathOfPlace`), and where the path of a place leads anywhere, it leads
to the place (`eq_of_locate_pathOfPlace`). In a proper tree all places are made of names.
-/

namespace ApiDocs

namespace Text

variable {p : Char → Bool} {cs : List Char}

/-- A text without separators is one piece. -/
theorem cutAt_of_forall_not (h : ∀ c ∈ cs, ¬ p c) : cutAt p cs = [cs] := by
  induction cs with
  | nil => rfl
  | cons c cs ih =>
    have hc : ¬ p c := h c List.mem_cons_self
    rw [cutAt, if_neg hc, ih fun x hx => h x (List.mem_cons_of_mem c hx)]

theorem cutAt_append_cons (h : ∀ c ∈ cs, ¬ p c) {c : Char} (hc : p c) (rest : List Char) :
    cutAt p (cs ++ c :: rest) = cs :: cutAt p rest := by
  induction cs with
  | nil => rw [List.nil_append, cutAt, if_pos hc]
  | cons x cs ih =>
    have hx : ¬ p x := h x List.mem_cons_self
    rw [List.cons_append, cutAt, if_neg hx, ih fun y hy => h y (List.mem_cons_of_mem x hy)]

end Text

namespace FileTree

/-! ## Names -/

/-- Whether a text is the name of a file or folder: not empty, without slashes, and not one of the
pieces that lead nowhere or back. -/
def IsName (name : String) : Prop :=
  '/' ∉ name.toList ∧ name ≠ "" ∧ name ≠ "." ∧ name ≠ ".."

instance (name : String) : Decidable (IsName name) :=
  inferInstanceAs (Decidable (_ ∧ _ ∧ _ ∧ _))

/-- The names of a place, each behind a slash. -/
def slashed (place : List String) : List Char :=
  place.flatMap fun name => '/' :: name.toList

theorem slashed_append (place names : List String) :
    slashed (place ++ names) = slashed place ++ slashed names :=
  List.flatMap_append

theorem slashed_concat (place : List String) (name : String) :
    slashed (place ++ [name]) = slashed place ++ '/' :: name.toList := by
  rw [slashed_append]
  exact congrArg (slashed place ++ ·) (List.append_nil _)

theorem toList_pathOfPlace_cons (name : String) (rest : List String) :
    (pathOfPlace (name :: rest)).text.toList = slashed (name :: rest) := by
  induction rest generalizing name with
  | nil => simp [pathOfPlace, slashed]
  | cons next rest ih =>
    have htail := ih next
    rw [pathOfPlace, String.toList_append] at htail ⊢
    rw [String.intercalate_cons_cons, String.toList_append, String.toList_append]
    rw [slashed, List.flatMap_cons]
    change '/' :: _ = '/' :: (name.toList ++ slashed (next :: rest))
    rw [← htail, ← List.append_assoc]
    rfl

/-- A path is written as the names of its place, unless it is that of the root. -/
theorem toList_pathOfPlace {place : List String} (h : place ≠ []) :
    (pathOfPlace place).text.toList = slashed place := by
  obtain ⟨name, rest, rfl⟩ := List.exists_cons_of_ne_nil h
  exact toList_pathOfPlace_cons name rest

/-- What is written between the slashes. -/
theorem cutAt_slashed {place : List String} (h : ∀ name ∈ place, IsName name) {cs : List Char}
    (hcs : '/' ∉ cs) :
    Text.cutAt (· == '/') (cs ++ slashed place) = cs :: place.map String.toList := by
  have hslash : ∀ {cs : List Char}, '/' ∉ cs → ∀ c ∈ cs, ¬ (c == '/') = true := by
    intro cs hcs c hc heq
    exact hcs (eq_of_beq heq ▸ hc)
  induction place generalizing cs with
  | nil =>
    rw [slashed, List.flatMap_nil, List.append_nil]
    exact Text.cutAt_of_forall_not (hslash hcs)
  | cons name rest ih =>
    have hname := (h name List.mem_cons_self).1
    have hrest := ih (fun other hother => h other (List.mem_cons_of_mem name hother)) hname
    rw [slashed, List.flatMap_cons, List.cons_append,
      Text.cutAt_append_cons (hslash hcs) (beq_self_eq_true _), List.map_cons]
    exact congrArg (cs :: ·) hrest

/-! ## Components -/

theorem component?_of_isName {name : String} (h : IsName name) :
    FilePath.component? name.toList = some (.name name) := by
  obtain ⟨-, hempty, hdot, hdots⟩ := h
  have hne : ¬ (name.toList = [] ∨ name.toList = ['.']) := by
    rintro (hnil | hone)
    · exact hempty (String.toList_inj.mp hnil)
    · exact hdot (String.toList_inj.mp hone)
  have hne' : name.toList ≠ ['.', '.'] := fun htwo => hdots (String.toList_inj.mp htwo)
  rw [FilePath.component?, if_neg hne, if_neg hne', String.ofList_toList]

/-- **Components.** The path of a place is written with the names of the place. -/
theorem components_pathOfPlace {place : List String} (h : ∀ name ∈ place, IsName name) :
    (pathOfPlace place).components = .root :: place.map .name := by
  have hnames : (place.map String.toList).filterMap FilePath.component? = place.map .name := by
    rw [List.filterMap_map]
    induction place with
    | nil => rfl
    | cons name rest ih =>
      have hfirst : (FilePath.component? ∘ String.toList) name = some (.name name) :=
        component?_of_isName (h name List.mem_cons_self)
      rw [List.filterMap_cons_some hfirst, List.map_cons,
        ih fun other hother => h other (List.mem_cons_of_mem name hother)]
  cases place with
  | nil => decide
  | cons name rest =>
    have htext := toList_pathOfPlace_cons name rest
    have habsolute : (pathOfPlace (name :: rest)).isAbsolute = true := by
      rw [FilePath.isAbsolute, htext]
      rfl
    have hcut := cutAt_slashed h (List.not_mem_nil (a := '/'))
    rw [List.nil_append] at hcut
    rw [FilePath.components, htext, hcut]
    simp only [habsolute, if_true, hnames]

/-! ## Joining and cutting -/

theorem isAbsolute_eq_false {name : String} (h : IsName name) :
    (FilePath.mk name).isAbsolute = false := by
  rw [FilePath.isAbsolute, beq_eq_false_iff_ne]
  exact fun hhead => h.1 (List.mem_of_head? hhead)

/-- The last character of a path that ends with a name. -/
theorem getLast?_slashed_ne {place : List String} (h : ∀ name ∈ place, IsName name) :
    (slashed place).getLast? ≠ some '/' := by
  rcases List.eq_nil_or_concat place with rfl | ⟨front, name, rfl⟩
  · exact nofun
  · rw [List.concat_eq_append] at h ⊢
    obtain ⟨hslash, hempty, -⟩ := h name (List.mem_append_right _ (List.mem_singleton_self name))
    have hne : name.toList ≠ [] := fun hnil => hempty (String.toList_inj.mp hnil)
    obtain ⟨c, cs, hcs⟩ := List.exists_cons_of_ne_nil hne
    rw [slashed_concat, hcs, List.getLast?_append, List.getLast?_cons_cons, ← hcs,
      List.getLast?_eq_some_getLast hne, Option.some_or]
    exact fun hlast => hslash (Option.some.inj hlast ▸ List.getLast_mem hne)

/-- Joining a name to the path of a place gives the path of the place inside. -/
theorem join_pathOfPlace {place : List String} (h : ∀ name ∈ place, IsName name) {name : String}
    (hname : IsName name) : (pathOfPlace place).join name = pathOfPlace (place ++ [name]) := by
  rw [FilePath.join, if_neg (by rw [isAbsolute_eq_false hname]; exact Bool.false_ne_true)]
  by_cases hplace : place = []
  · subst hplace
    rw [if_pos (by decide)]
    simp [pathOfPlace]
  · have htext := toList_pathOfPlace hplace
    obtain ⟨first, rest, hcons⟩ := List.exists_cons_of_ne_nil hplace
    have hempty : (pathOfPlace place).text.isEmpty = false := by
      rw [Bool.eq_false_iff]
      intro hnil
      rw [String.isEmpty_iff.mp hnil, hcons] at htext
      cases htext
    have hlast : ((pathOfPlace place).text.toList.getLast? == some '/') = false := by
      rw [htext, beq_eq_false_iff_ne]
      exact getLast?_slashed_ne h
    rw [if_neg (by rw [hempty, hlast]; exact Bool.false_ne_true)]
    simp only [pathOfPlace]
    rw [String.intercalate_append_of_ne_nil hplace (List.cons_ne_nil _ _),
      String.intercalate_singleton, String.append_assoc, String.append_assoc, String.append_assoc]

theorem foldl_join_pathOfPlace {place names : List String} (h : ∀ name ∈ place, IsName name)
    (hnames : ∀ name ∈ names, IsName name) :
    names.foldl FilePath.join (pathOfPlace place) = pathOfPlace (place ++ names) := by
  induction names generalizing place with
  | nil => rw [List.foldl_nil, List.append_nil]
  | cons name rest ih =>
    have hname := hnames name List.mem_cons_self
    have hplace : ∀ other ∈ place ++ [name], IsName other := by
      intro other hother
      rcases List.mem_append.mp hother with hold | hnew
      · exact h other hold
      · exact List.mem_singleton.mp hnew ▸ hname
    rw [List.foldl_cons, join_pathOfPlace h hname,
      ih hplace fun other hother => hnames other (List.mem_cons_of_mem name hother),
      List.append_assoc, List.singleton_append]

/-- A text that ends with a name has nothing behind it to drop. -/
theorem dropEnd_append {name : String} (h : IsName name) (before : List Char) :
    FilePath.dropEnd (name.toList.reverse ++ before) = name.toList.reverse ++ before := by
  obtain ⟨hslash, hempty, hdot, -⟩ := h
  have hmem : '/' ∉ name.toList.reverse := fun hmem => hslash (List.mem_reverse.mp hmem)
  have hne : name.toList.reverse ≠ [] := fun hnil =>
    hempty (String.toList_inj.mp (List.reverse_eq_nil_iff.mp hnil))
  have hone : name.toList.reverse ≠ ['.'] := fun hone =>
    hdot (String.toList_inj.mp (List.reverse_eq_iff.mp hone))
  generalize name.toList.reverse = cs at hmem hne hone
  match cs with
  | [] => exact absurd rfl hne
  | c :: cs =>
    have hc : c ≠ '/' := fun heq => hmem (heq ▸ List.mem_cons_self)
    match cs with
    | [] =>
      have hc' : c ≠ '.' := fun heq => hone (heq ▸ rfl)
      rw [List.cons_append, FilePath.dropEnd]
      · exact fun rest heq => absurd (List.cons.inj heq).1 hc
      · exact fun rest heq => absurd (List.cons.inj heq).1 hc'
    | next :: cs =>
      have hnext : next ≠ '/' := fun heq =>
        hmem (List.mem_cons_of_mem c (heq ▸ List.mem_cons_self))
      rw [List.cons_append, List.cons_append, FilePath.dropEnd]
      · exact fun rest heq => absurd (List.cons.inj heq).1 hc
      · exact fun rest heq => absurd (List.cons.inj (List.cons.inj heq).2).1 hnext

/-- A path that ends with a name is written without anything behind it. -/
theorem dropEnd_reverse_slashed {place : List String} (h : ∀ name ∈ place, IsName name) :
    FilePath.dropEnd (slashed place).reverse = (slashed place).reverse := by
  rcases List.eq_nil_or_concat place with rfl | ⟨front, name, rfl⟩
  · rfl
  · rw [List.concat_eq_append] at h ⊢
    rw [slashed_concat, List.reverse_append, List.reverse_cons, List.append_assoc,
      List.singleton_append]
    exact dropEnd_append (h name (List.mem_append_right _ (List.mem_singleton_self name))) _

/-- The path of a place is split before its last name. -/
theorem splitLast_pathOfPlace {place : List String} {name : String}
    (h : ∀ other ∈ place ++ [name], IsName other) :
    (pathOfPlace (place ++ [name])).splitLast = ('/' :: (slashed place).reverse, name.toList) := by
  have hname := h name (List.mem_append_right _ (List.mem_singleton_self name))
  have hstop : ∀ c ∈ name.toList.reverse, (c != '/') = true := by
    intro c hc
    rw [bne_iff_ne]
    rintro rfl
    exact hname.1 (List.mem_reverse.mp hc)
  have hne : place ++ [name] ≠ [] :=
    List.append_ne_nil_of_right_ne_nil place (List.cons_ne_nil name [])
  have htext := toList_pathOfPlace hne
  rw [FilePath.splitLast, htext, dropEnd_reverse_slashed h, slashed_concat, List.reverse_append,
    List.reverse_cons, List.append_assoc, List.singleton_append]
  simp only [Prod.mk.injEq]
  constructor
  · rw [List.dropWhile_append_of_pos hstop, List.dropWhile_cons_of_neg (by decide)]
  · rw [List.takeWhile_append_of_pos hstop, List.takeWhile_cons_of_neg (by decide),
      List.append_nil, List.reverse_reverse]

/-- **Parents.** The parent of the path of a place is the path of the folder around it. -/
theorem parent?_pathOfPlace {place : List String} {name : String}
    (h : ∀ other ∈ place ++ [name], IsName other) :
    (pathOfPlace (place ++ [name])).parent? = some (pathOfPlace place) := by
  have hname := h name (List.mem_append_right _ (List.mem_singleton_self name))
  have hplace : ∀ other ∈ place, IsName other := fun other hother =>
    h other (List.mem_append_left _ hother)
  have hne : name.toList ≠ [] := fun hnil => hname.2.1 (String.toList_inj.mp hnil)
  rw [FilePath.parent?, splitLast_pathOfPlace h]
  split
  · rename_i heq
    exact absurd (Prod.mk.inj heq).2 hne
  · rename_i before last _ heq
    obtain ⟨rfl, -⟩ := Prod.mk.inj heq
    rw [FilePath.dropEnd, dropEnd_reverse_slashed hplace]
    by_cases hnil : place = []
    · subst hnil
      rfl
    · have htext := toList_pathOfPlace hnil
      split
      · rename_i hempty
        obtain ⟨first, rest, hcons⟩ := List.exists_cons_of_ne_nil hnil
        rw [List.reverse_eq_nil_iff, hcons] at hempty
        cases hempty
      · rw [List.reverse_reverse, ← htext, String.ofList_toList]

/-! ## Following -/

/-- A path leads where its pieces lead, if something is there. -/
theorem locate_eq_ok_iff {t : FileTree} {p : FilePath} {place : List String} :
    t.locate p = .ok place ↔ p.text ≠ "" ∧ isLongPath p = false ∧
      t.follow (t.start p) (pieces p) = .ok place ∧ (t.at? place).isSome := by
  rw [locate]
  by_cases hempty : p.text = ""
  · simp [hempty]
  cases hlong : isLongPath p with
  | true => simp [hempty]
  | false =>
    rw [if_neg (by simpa using hempty), if_neg Bool.false_ne_true]
    cases hfollow : t.follow (t.start p) (pieces p) with
    | error e => simp
    | ok found =>
      by_cases hfound : (t.at? found).isSome
      · simp only [hfound, if_true, Except.ok.injEq]
        exact ⟨fun h => ⟨hempty, trivial, h, h ▸ hfound⟩, fun h => h.2.2.1⟩
      · simp only [hfound, Except.ok.injEq]
        exact ⟨nofun, fun h => absurd (h.2.2.1 ▸ h.2.2.2) hfound⟩

/-- Names are followed from folder to folder. -/
theorem eq_of_follow {t : FileTree} {place names found : List String}
    (hnames : ∀ name ∈ names, IsName name) (h : t.follow place names = .ok found) :
    found = place ++ names := by
  induction names generalizing place with
  | nil =>
    cases h
    exact (List.append_nil _).symm
  | cons name rest ih =>
    obtain ⟨-, hempty, hdot, hdots⟩ := hnames name List.mem_cons_self
    rw [follow] at h
    split at h
    · cases h
    · cases h
    · rw [if_neg (by rintro (hnil | hone) <;> contradiction), if_neg hdots] at h
      split at h
      · cases h
      · rw [ih (fun other hother => hnames other (List.mem_cons_of_mem name hother)) h,
          List.append_assoc, List.singleton_append]

/-- The pieces of a path are the names of its place, behind an empty one. -/
theorem pieces_pathOfPlace {place : List String} (h : ∀ name ∈ place, IsName name) :
    ∃ rest, pieces (pathOfPlace place) = "" :: rest ∧
      (rest = place ∨ rest = [""] ∧ place = []) := by
  cases place with
  | nil => exact ⟨[""], by decide, Or.inr ⟨rfl, rfl⟩⟩
  | cons name rest =>
    refine ⟨name :: rest, ?_, Or.inl rfl⟩
    have hcut := cutAt_slashed h (List.not_mem_nil (a := '/'))
    rw [List.nil_append] at hcut
    rw [pieces, toList_pathOfPlace_cons, hcut, List.map_cons, List.map_map]
    have hid : String.ofList ∘ String.toList = id := funext fun _ => String.ofList_toList
    rw [hid, List.map_id]

/-- **Following.** Where the path of a place leads anywhere, it leads to the place. -/
theorem eq_of_locate_pathOfPlace {t : FileTree} {place found : List String}
    (hplace : ∀ name ∈ place, IsName name) (h : t.locate (pathOfPlace place) = .ok found) :
    found = place := by
  have hstart : t.start (pathOfPlace place) = [] := by
    cases place with
    | nil => rfl
    | cons name rest =>
      rw [start, FilePath.isAbsolute, toList_pathOfPlace_cons]
      rfl
  -- the piece before the first slash leads nowhere
  have hskip : ∀ rest, t.follow [] ("" :: rest) = t.follow [] rest := by
    intro rest
    rw [follow]
    rfl
  obtain ⟨rest, hpieces, hrest⟩ := pieces_pathOfPlace hplace
  obtain ⟨-, -, hfollow, -⟩ := locate_eq_ok_iff.mp h
  rw [hstart, hpieces, hskip] at hfollow
  rcases hrest with rfl | ⟨rfl, rfl⟩
  · exact eq_of_follow hplace hfollow
  · rw [hskip] at hfollow
    cases hfollow
    rfl

/-! ## Proper trees -/

/-- Whether places are made of names, and each has one entry. -/
structure IsProper (t : FileTree) : Prop where
  /-- Places are made of names. -/
  names : ∀ e ∈ t.entries, ∀ name ∈ e.1, IsName name
  /-- Places are distinct. -/
  distinct : (t.entries.map Prod.fst).Nodup

instance (t : FileTree) : Decidable t.IsProper :=
  decidable_of_iff ((∀ e ∈ t.entries, ∀ name ∈ e.1, IsName name) ∧ (t.entries.map Prod.fst).Nodup)
    ⟨fun h => ⟨h.1, h.2⟩, fun h => ⟨h.names, h.distinct⟩⟩

variable {t : FileTree} {place : List String}

/-- What is found at a place that is not the root is an entry. -/
theorem mem_entries_of_at? (hplace : place ≠ []) {entry : Entry} (h : t.at? place = some entry) :
    (place, entry) ∈ t.entries := by
  rw [at?, if_neg (by simpa using hplace)] at h
  obtain ⟨e, he, rfl⟩ := Option.map_eq_some_iff.mp h
  have hfst : e.1 = place := by simpa using List.find?_some he
  rw [← hfst]
  exact List.mem_of_find?_eq_some he

/-- The place of an entry is made of names, and so is any part of it. -/
theorem IsProper.isName_of_mem (h : t.IsProper) {names : List String} {entry : Entry}
    (hmem : (place ++ names, entry) ∈ t.entries) : ∀ name ∈ names, IsName name :=
  fun name hname => h.names _ hmem name (List.mem_append_right _ hname)

/-- In a proper tree, an entry is what is at its place. -/
theorem IsProper.at?_eq_some_iff (h : t.IsProper) (hplace : place ≠ []) {entry : Entry} :
    t.at? place = some entry ↔ (place, entry) ∈ t.entries := by
  refine ⟨mem_entries_of_at? hplace, fun hmem => ?_⟩
  have hfind : (t.entries.find? fun e => e.1 == place).isSome :=
    List.find?_isSome.mpr ⟨_, hmem, beq_self_eq_true place⟩
  obtain ⟨found, hfound⟩ := Option.isSome_iff_exists.mp hfind
  have hfst : found.1 = place := by simpa using List.find?_some hfound
  have heq : found = (place, entry) :=
    List.inj_on_of_nodup_map h.distinct (List.mem_of_find?_eq_some hfound) hmem hfst
  rw [at?, if_neg (by simpa using hplace), hfound, heq, Option.map_some]

/-- Places where something is are made of names. -/
theorem IsProper.isName_of_at? (h : t.IsProper) (hplace : (t.at? place).isSome) :
    ∀ name ∈ place, IsName name := by
  by_cases hnil : place = []
  · subst hnil
    exact nofun
  · obtain ⟨entry, hentry⟩ := Option.isSome_iff_exists.mp hplace
    exact h.names _ (mem_entries_of_at? hnil hentry)

/-- There is something at a place to which a path leads. -/
theorem isSome_at?_of_locate {p : FilePath} (h : t.locate p = .ok place) :
    (t.at? place).isSome :=
  (locate_eq_ok_iff.mp h).2.2.2

/-- A path leads to the entry at its place. -/
theorem lookup_eq_ok_iff {p : FilePath} {entry : Entry} :
    t.lookup p = .ok entry ↔ ∃ place, t.locate p = .ok place ∧ t.at? place = some entry := by
  rw [lookup]
  cases hlocate : t.locate p with
  | error e => simp
  | ok place =>
    obtain ⟨found, hfound⟩ := Option.isSome_iff_exists.mp (isSome_at?_of_locate hlocate)
    simp [hfound]

/-- A path is that of a file if it leads to one. -/
theorem isFile_iff {p : FilePath} : t.isFile p ↔
    ∃ place text, t.locate p = .ok place ∧ t.at? place = some (.file text) := by
  rw [isFile]
  constructor
  · intro h
    split at h
    · rename_i text hlookup
      obtain ⟨place, hplace⟩ := lookup_eq_ok_iff.mp hlookup
      exact ⟨place, text, hplace⟩
    · cases h
  · rintro ⟨place, text, hplace⟩
    rw [lookup_eq_ok_iff.mpr ⟨place, hplace⟩]

/-- A path is that of a folder if it leads to one. -/
theorem isFolder_iff {p : FilePath} : t.isFolder p ↔
    ∃ place, t.locate p = .ok place ∧ t.at? place = some .folder := by
  rw [isFolder, ← lookup_eq_ok_iff]
  split
  · simp_all
  · rename_i hne
    exact ⟨nofun, fun h => absurd h hne⟩

theorem mem_entries_of_isFile (hplace : ∀ name ∈ place, IsName name)
    (h : t.isFile (pathOfPlace place)) : ∃ text, (place, .file text) ∈ t.entries := by
  obtain ⟨found, text, hlocate, hentry⟩ := isFile_iff.mp h
  rw [eq_of_locate_pathOfPlace hplace hlocate] at hentry
  refine ⟨text, mem_entries_of_at? ?_ hentry⟩
  rintro rfl
  cases hentry

end FileTree

end ApiDocs
