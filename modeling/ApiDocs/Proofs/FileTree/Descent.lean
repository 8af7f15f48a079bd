import ApiDocs.Proofs.FileTree.Places
import Mathlib.Data.List.TakeWhile

/-!
# Paths below a path

A path may be written in any way: with slashes at its end, with dots, relative or absolute. What is
joined to it still adds its own components behind those of the path, and nothing else
(`components_descend`). Names can be joined one by one or all at once (`join_descend`), and a file
name without a dot gets its extension where it stands (`withExtension_join`).
-/

namespace ApiDocs

namespace Text

variable {p : Char → Bool}

theorem cutAt_ne_nil (p : Char → Bool) (cs : List Char) : cutAt p cs ≠ [] := by
  cases cs with
  | nil => exact List.cons_ne_nil _ _
  | cons c rest =>
    rw [cutAt]
    split
    · exact List.cons_ne_nil _ _
    · split <;> exact List.cons_ne_nil _ _

/-- Cutting at a mark, whatever stands before it. -/
theorem cutAt_append (cs : List Char) {c : Char} (hc : p c) (rest : List Char) :
    cutAt p (cs ++ c :: rest) = cutAt p cs ++ cutAt p rest := by
  induction cs with
  | nil =>
    rw [List.nil_append, cutAt.eq_2, if_pos hc]
    rfl
  | cons x cs ih =>
    by_cases hx : p x
    · rw [List.cons_append, cutAt, if_pos hx, ih, cutAt, if_pos hx, List.cons_append]
    · obtain ⟨piece, more, hcut⟩ := List.exists_cons_of_ne_nil (cutAt_ne_nil p cs)
      rw [List.cons_append, cutAt, if_neg hx, ih, cutAt, if_neg hx, hcut]
      rfl

end Text

namespace FilePath

open FileTree

/-- The path of some names below a path. -/
def descend (p : FilePath) (names : List String) : FilePath :=
  names.foldl join p

variable {p : FilePath} {name : String}

/-! ## One name -/

/-- What stands before a text that is joined to a path. -/
def joint (p : FilePath) : String :=
  if p.text.isEmpty || p.text.toList.getLast? == some '/' then p.text else p.text ++ "/"

/-- A relative text is joined behind a slash, which is added only where there is none. -/
theorem join_eq_joint {q : String} (hq : (FilePath.mk q).isAbsolute = false) :
    p.join q = ⟨p.joint ++ q⟩ := by
  rw [join, if_neg (Bool.eq_false_iff.mp hq), joint]
  split <;> rfl

/-- What is joined to a path stands behind a slash, which may be there already, unless the path is
empty. -/
theorem joint_cases (p : FilePath) :
    (p.text = "" ∧ p.joint = "") ∨ p.text ≠ "" ∧
      ∃ front, p.joint.toList = front ++ ['/'] ∧
        (p.text.toList = front ∨ p.text.toList = front ++ ['/']) := by
  rw [joint]
  by_cases hp : p.text = ""
  · exact .inl ⟨hp, by rw [hp]; rfl⟩
  · refine .inr ⟨hp, ?_⟩
    by_cases hlast : p.text.toList.getLast? = some '/'
    · obtain ⟨front, hfront⟩ := List.getLast?_eq_some_iff.mp hlast
      refine ⟨front, ?_, .inr hfront⟩
      rw [if_pos (by rw [hlast]; simp), hfront]
    · refine ⟨p.text.toList, ?_, .inl rfl⟩
      rw [if_neg (by simpa [hp] using hlast), String.toList_append]
      rfl

/-- The empty path leaves no trace in front of a name. -/
theorem empty_join (h : IsName name) : join ⟨""⟩ name = ⟨name⟩ := by
  rw [join_eq_joint (isAbsolute_eq_false h)]
  exact congrArg mk String.empty_append

/-- A slash separates the pieces before it from those after it. -/
theorem cutAt_slash (front rest : List Char) :
    Text.cutAt (· == '/') (front ++ '/' :: rest) =
      Text.cutAt (· == '/') front ++ Text.cutAt (· == '/') rest :=
  Text.cutAt_append (p := (· == '/')) front rfl rest

theorem cutAt_name (h : IsName name) : Text.cutAt (· == '/') name.toList = [name.toList] := by
  refine Text.cutAt_of_forall_not fun c hc heq => h.1 ?_
  rwa [← eq_of_beq heq]

/-- The components of a path, from its pieces. -/
theorem components_of_cutAt {first : List Char} {rest : List (List Char)}
    (h : Text.cutAt (· == '/') p.text.toList = first :: rest) :
    p.components = (if p.isAbsolute then [.root] else if first = ['.'] then [.current]
      else (component? first).toList) ++ rest.filterMap component? := by
  rw [components, h]
  simp only
  split
  · rfl
  · split <;> rfl

/-- A path that goes on starts as before. -/
theorem isAbsolute_join (h : IsName name) (hp : p.text ≠ "") :
    (p.join name).isAbsolute = p.isAbsolute := by
  obtain ⟨hempty, -⟩ | ⟨-, front, hjoint, hfront⟩ := joint_cases p
  · exact absurd hempty hp
  · rw [join_eq_joint (isAbsolute_eq_false h), isAbsolute, isAbsolute, String.toList_append, hjoint]
    cases front with
    | nil =>
      rcases hfront with hfront | hfront
      · exact absurd (String.toList_eq_nil_iff.mp hfront) hp
      · rw [hfront]
        rfl
    | cons c front => rcases hfront with hfront | hfront <;> rw [hfront] <;> rfl

/-- A path that ends with a name is not empty. -/
theorem text_join_ne_empty (h : IsName name) : (p.join name).text ≠ "" := by
  rw [join_eq_joint (isAbsolute_eq_false h)]
  simp [h.2.1]

/-- A path that goes on needs no less room. -/
theorem utf8ByteSize_le_join (h : IsName name) :
    p.text.utf8ByteSize ≤ (p.join name).text.utf8ByteSize := by
  rw [join_eq_joint (isAbsolute_eq_false h), String.utf8ByteSize_append, joint]
  split
  · omega
  · rw [String.utf8ByteSize_append]
    omega

/-- **Joining.** A name that is joined to a path is one more component. -/
theorem components_join (h : IsName name) :
    (p.join name).components = p.components ++ [.name name] := by
  obtain ⟨hp, hjoint⟩ | ⟨hp, front, hjoint, hfront⟩ := joint_cases p
  · have hempty : p.components = [] := by
      obtain ⟨text⟩ := p
      cases hp
      decide
    have hdot : name.toList ≠ ['.'] := fun hdot => h.2.2.1 (String.toList_inj.mp hdot)
    rw [join_eq_joint (isAbsolute_eq_false h), hjoint, String.empty_append, hempty,
      components_of_cutAt (cutAt_name h), isAbsolute_eq_false h, component?_of_isName h]
    simp [hdot]
  · obtain ⟨first, rest, hcut⟩ := List.exists_cons_of_ne_nil (Text.cutAt_ne_nil (· == '/') front)
    have hjoined : Text.cutAt (· == '/') (p.join name).text.toList =
        first :: (rest ++ [name.toList]) := by
      rw [join_eq_joint (isAbsolute_eq_false h), String.toList_append, hjoint, List.append_assoc,
        List.singleton_append, cutAt_slash, hcut, cutAt_name h, List.cons_append]
    -- the piece behind a slash at the end is empty, and no component
    obtain ⟨more, hbefore, hmore⟩ : ∃ more, Text.cutAt (· == '/') p.text.toList =
        first :: (rest ++ more) ∧ more.filterMap component? = [] := by
      rcases hfront with hfront | hfront
      · exact ⟨[], by rw [hfront, hcut, List.append_nil], rfl⟩
      · exact ⟨[[]], by rw [hfront, cutAt_slash, hcut]; rfl, rfl⟩
    rw [components_of_cutAt hjoined, components_of_cutAt hbefore, isAbsolute_join h hp,
      List.filterMap_append, List.filterMap_append, hmore, List.append_nil, List.append_assoc]
    congr 2
    exact List.filterMap_cons_some (component?_of_isName h)

/-! ## Many names -/

variable {names : List String}

theorem descend_append (p : FilePath) (names more : List String) :
    p.descend (names ++ more) = (p.descend names).descend more :=
  List.foldl_append

theorem descend_concat (p : FilePath) (names : List String) (name : String) :
    p.descend (names ++ [name]) = (p.descend names).join name :=
  descend_append p names [name]

/-- **Descending.** Names that are joined to a path are its last components. -/
theorem components_descend (h : ∀ name ∈ names, IsName name) :
    (p.descend names).components = p.components ++ names.map .name := by
  induction names generalizing p with
  | nil => exact (List.append_nil _).symm
  | cons name rest ih =>
    have hname := h name List.mem_cons_self
    rw [descend, List.foldl_cons, ← descend, ih fun other hother => h other (.tail name hother),
      components_join hname, List.append_assoc, List.singleton_append, List.map_cons]

/-- What is below a path again on the way down are the names. -/
theorem below?_descend (h : ∀ name ∈ names, IsName name) :
    p.below? (p.descend names) = some (names.map .name) := by
  rw [below?, components_descend h, if_pos (by simp), List.drop_left]

/-- Different names lead to different paths. -/
theorem descend_inj {other : List String} (h : ∀ name ∈ names, IsName name)
    (hother : ∀ name ∈ other, IsName name) (hsame : (p.descend names).same (p.descend other)) :
    names = other := by
  rw [same, beq_iff_eq, components_descend h, components_descend hother] at hsame
  exact (List.map_inj_right fun _ _ => Component.name.inj).mp (List.append_cancel_left hsame)

/-- What is below a path has its components, and more behind them. -/
theorem components_of_below? {q : FilePath} {rest : List Component} (h : p.below? q = some rest) :
    q.components = p.components ++ rest := by
  obtain ⟨hbegins, hrest⟩ := Option.ite_none_right_eq_some.mp h
  obtain ⟨more, hmore⟩ := List.isPrefixOf_iff_prefix.mp hbegins
  rw [← Option.some.inj hrest, ← hmore, List.drop_left]

/-- A path below another one has the components of the descent to it. -/
theorem same_descend_of_below? {q : FilePath} (h : ∀ name ∈ names, IsName name)
    (hq : p.below? q = some (names.map .name)) : (p.descend names).same q := by
  rw [same, beq_iff_eq, components_descend h, components_of_below? hq]

/-- Whether a text goes on a path: it is a path of its own, does not start at the root and has no
slash at its end. -/
structure GoesOn (q : String) : Prop where
  /-- It is not empty. -/
  ne_empty : q ≠ ""
  /-- It does not start at the root. -/
  relative : (FilePath.mk q).isAbsolute = false
  /-- It has no slash at its end. -/
  last : q.toList.getLast? ≠ some '/'

theorem GoesOn.of_isName (h : IsName name) : GoesOn name :=
  ⟨h.2.1, isAbsolute_eq_false h, fun hlast => h.1 (List.mem_of_getLast? hlast)⟩

theorem GoesOn.getLast?_append {q : String} (hq : GoesOn q) (x : List Char) :
    (x ++ q.toList).getLast? ≠ some '/' := by
  have hne : q.toList ≠ [] := fun hnil => hq.ne_empty (String.toList_eq_nil_iff.mp hnil)
  rw [List.getLast?_append, List.getLast?_eq_some_getLast hne, Option.some_or,
    ← List.getLast?_eq_some_getLast hne]
  exact hq.last

/-- A name is joined to such a text by a slash, whatever stands before it. -/
theorem GoesOn.join_eq {q : String} (hq : GoesOn q) (h : IsName name) (x : String) :
    (FilePath.mk (x ++ q)).join name = ⟨x ++ (q ++ "/" ++ name)⟩ := by
  have hlast := hq.getLast?_append x.toList
  rw [join, if_neg (Bool.eq_false_iff.mp (isAbsolute_eq_false h)),
    if_neg (by simpa [hq.ne_empty] using hlast)]
  simp only [String.append_assoc]

/-- A text that goes on a path still does with a name joined to it. -/
theorem GoesOn.join_name {q : String} (hq : GoesOn q) (h : IsName name) :
    GoesOn (q ++ "/" ++ name) := by
  refine ⟨by simp [hq.ne_empty], ?_, ?_⟩
  · have hne : q.toList ≠ [] := fun hnil => hq.ne_empty (String.toList_eq_nil_iff.mp hnil)
    have hhead := hq.relative
    rw [isAbsolute] at hhead ⊢
    rw [String.append_assoc, String.toList_append, List.head?_append, List.head?_eq_some_head hne,
      Option.some_or, ← List.head?_eq_some_head hne]
    exact hhead
  · rw [String.toList_append]
    exact (GoesOn.of_isName h).getLast?_append _

/-- A text is joined to a path at once, or before its last name. -/
theorem GoesOn.join_join {q : String} (hq : GoesOn q) (h : IsName name) :
    p.join (q ++ "/" ++ name) = (p.join q).join name := by
  rw [join_eq_joint (hq.join_name h).relative, join_eq_joint hq.relative, hq.join_eq h]

/-- Names are joined at once or one by one. -/
theorem join_descend (hne : names ≠ []) (h : ∀ name ∈ names, IsName name) :
    p.join (descend ⟨""⟩ names).text = p.descend names := by
  have hgoes : ∀ {q : String} {rest : List String}, GoesOn q → (∀ name ∈ rest, IsName name) →
      p.join (descend ⟨q⟩ rest).text = (p.join q).descend rest := by
    intro q rest hq hrest
    induction rest generalizing q with
    | nil => rfl
    | cons name rest ih =>
      have hname := hrest name List.mem_cons_self
      have hjoin := hq.join_eq hname ""
      rw [String.empty_append, String.empty_append] at hjoin
      rw [descend, List.foldl_cons, ← descend, hjoin,
        ih (hq.join_name hname) fun other hother => hrest other (.tail name hother),
        hq.join_join hname, descend, descend, List.foldl_cons]
  obtain ⟨name, rest, rfl⟩ := List.exists_cons_of_ne_nil hne
  have hname := h name List.mem_cons_self
  have hgo := hgoes (.of_isName hname) fun other hother => h other (.tail name hother)
  rw [descend, List.foldl_cons, ← descend, empty_join hname, hgo, descend, descend,
    List.foldl_cons]

/-! ## File names -/

/-- A path is split before the name that was joined to it. -/
theorem splitLast_join (h : IsName name) :
    (p.join name).splitLast = (p.joint.toList.reverse, name.toList) := by
  have hstop : ∀ c ∈ name.toList.reverse, (c != '/') = true := by
    intro c hc
    rw [bne_iff_ne]
    rintro rfl
    exact h.1 (List.mem_reverse.mp hc)
  rw [splitLast, join_eq_joint (isAbsolute_eq_false h), String.toList_append, List.reverse_append,
    dropEnd_append h, List.dropWhile_append_of_pos hstop, List.takeWhile_append_of_pos hstop]
  obtain ⟨-, hjoint⟩ | ⟨-, front, hjoint, -⟩ := joint_cases p
  · simp [hjoint]
  · simp [hjoint]

/-- The file name of a path is the name that was joined to it. -/
theorem fileName?_join (h : IsName name) : (p.join name).fileName? = some name.toList := by
  have hname : ¬ (name.toList = [] ∨ name.toList = ['.'] ∨ name.toList = ['.', '.']) := by
    obtain ⟨-, hempty, hdot, hdots⟩ := h
    rintro (hnil | hone | htwo)
    · exact hempty (String.toList_inj.mp hnil)
    · exact hdot (String.toList_inj.mp hone)
    · exact hdots (String.toList_inj.mp htwo)
  rw [fileName?, splitLast_join h]
  exact if_neg hname

theorem splitExtension_of_not_mem {cs : List Char} (h : '.' ∉ cs) :
    splitExtension cs = (cs, none) := by
  have hdrop : cs.reverse.dropWhile (· != '.') = [] := by
    refine List.dropWhile_eq_nil_iff.mpr fun c hc => ?_
    rw [bne_iff_ne]
    rintro rfl
    exact h (List.mem_reverse.mp hc)
  rw [splitExtension, hdrop]

theorem splitExtension_append {stem extension : List Char} (hstem : stem ≠ [])
    (h : '.' ∉ extension) : splitExtension (stem ++ '.' :: extension) = (stem, some extension) := by
  have hstop : ∀ c ∈ extension.reverse, (c != '.') = true := by
    intro c hc
    rw [bne_iff_ne]
    rintro rfl
    exact h (List.mem_reverse.mp hc)
  rw [splitExtension, List.reverse_append, List.reverse_cons, List.append_assoc,
    List.singleton_append, List.dropWhile_append_of_pos hstop, List.takeWhile_append_of_pos hstop]
  obtain ⟨c, rest, hcons⟩ := List.exists_cons_of_ne_nil (mt List.reverse_eq_nil_iff.mp hstem)
  rw [List.dropWhile_cons_of_neg (by decide), List.takeWhile_cons_of_neg (by decide),
    List.append_nil, List.reverse_reverse, hcons]
  simp [← hcons]

/-- An extension stands behind the last dot. -/
theorem splitExtension_eq_some {cs stem extension : List Char}
    (h : splitExtension cs = (stem, some extension)) :
    cs = stem ++ '.' :: extension ∧ '.' ∉ extension := by
  have hsplit := List.takeWhile_append_dropWhile (p := (· != '.')) (l := cs.reverse)
  unfold splitExtension at h
  split at h
  · cases h
  · cases h
  · rename_i dot before _ hdrop
    obtain ⟨rfl, rfl⟩ : before.reverse = stem ∧
        (cs.reverse.takeWhile (· != '.')).reverse = extension := by
      simpa using h
    have hdot : dot = '.' := by
      have hhead := List.head?_dropWhile_not (· != '.') cs.reverse
      simpa [hdrop] using hhead
    refine ⟨?_, fun hmem => ?_⟩
    · rw [hdrop, hdot] at hsplit
      simpa using (congrArg List.reverse hsplit).symm
    · have hne := List.mem_takeWhile_imp (List.mem_reverse.mp hmem)
      exact absurd hne (by decide)

/-- A name without a dot stays a name when something is added to it. -/
theorem isName_append (h : IsName name) (hdot : '.' ∉ name.toList) {more : String}
    (hmore : '/' ∉ more.toList) : IsName (name ++ more) := by
  obtain ⟨c, cs, hcons⟩ := List.exists_cons_of_ne_nil
    (fun hnil => h.2.1 (String.toList_eq_nil_iff.mp hnil) : name.toList ≠ [])
  have hc : c ≠ '.' := fun heq => hdot (by rw [hcons, heq]; exact List.mem_cons_self)
  have hfirst : ∀ other : String, other.toList.head? ≠ some c → name ++ more ≠ other := by
    rintro _ hother rfl
    exact hother (by simp [hcons])
  refine ⟨by simpa using ⟨h.1, hmore⟩, hfirst "" nofun, hfirst "." ?_, hfirst ".." ?_⟩
  · exact fun heq => hc (Option.some.inj heq).symm
  · exact fun heq => hc (Option.some.inj heq).symm

/-- **Extensions.** A file name without a dot gets its extension where it stands. -/
theorem withExtension_join (h : IsName name) (hdot : '.' ∉ name.toList) {extension : String}
    (hextension : '/' ∉ extension.toList) :
    (p.join name).withExtension extension = p.join (name ++ ("." ++ extension)) := by
  have hmore : '/' ∉ ("." ++ extension).toList := by simpa using hextension
  have hlonger := isName_append h hdot hmore
  rw [withExtension, stem?, fileName?_join h, splitLast_join h, Option.map_some,
    splitExtension_of_not_mem hdot, join_eq_joint (isAbsolute_eq_false hlonger),
    List.reverse_reverse]
  simp [String.append_assoc]

end FilePath

end ApiDocs
