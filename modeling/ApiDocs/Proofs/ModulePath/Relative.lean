import ApiDocs.Proofs.ModulePath.Segments
import ApiDocs.Resolution

/-!
# Relative paths

A path that is written in a module may start with `crate`, or with `self` and any number of `super`.
Such a lead denotes a module: the crate, or a module as many levels up as there are `super`, but
never one above the crate. `absolute` puts that module in the place of the lead, and an absolute
path stays as it is (`absolute_absolute`). There is one exception. Where `super` follows `self`,
only the `self` is resolved, and the path keeps its `super` (`absolute_normal_iff`).
-/

namespace ApiDocs.ModulePath

open Session (isRelative)

/-! ## Paths and their segments -/

theorem ofSegments_ofList_cons (a : Char) (cs : List Char) (more : List String) :
    (ofSegments (String.ofList (a :: cs) :: more)).toList =
      a :: (ofSegments (String.ofList cs :: more)).toList := by
  cases more with
  | nil => simp [ofSegments]
  | cons next rest => simp [ofSegments_cons_cons]

theorem cutSegments_ne_nil (cs : List Char) : cutSegments cs ≠ [] := by
  fun_cases cutSegments cs <;> simp

/-- A path is the path of its segments, whatever these are. -/
theorem ofSegments_segments (path : ModulePath) : ofSegments (segments path) = path := by
  have hchars : ∀ cs : List Char,
      (ofSegments ((cutSegments cs).map String.ofList)).toList = cs := by
    intro cs
    fun_induction cutSegments cs with
    | case1 => simp [ofSegments]
    | case2 c => simp [ofSegments]
    | case3 a b rest hmarks ih =>
      obtain ⟨rfl, rfl⟩ := hmarks
      obtain ⟨segment, more, hcut⟩ := List.exists_cons_of_ne_nil (cutSegments_ne_nil rest)
      rw [hcut, List.map_cons] at ih
      rw [hcut, List.map_cons, List.map_cons, ofSegments_cons_cons, String.toList_append, ih]
      rfl
    | case4 a b rest _ hcut => exact absurd hcut (cutSegments_ne_nil _)
    | case5 a b rest _ segment more hcut ih =>
      rw [hcut, List.map_cons] at ih
      rw [List.map_cons, ofSegments_ofList_cons, ih]
  exact String.toList_inj.mp (hchars path.toList)

theorem segments_ne_nil (path : ModulePath) : segments path ≠ [] := by
  rw [segments, ne_eq, List.map_eq_nil_iff]
  exact cutSegments_ne_nil _

/-- The first segment stands before the first mark. -/
theorem cutSegments_of_cutFirst? (cs : List Char) :
    (cutSegments cs).head? = some (((cutFirst? cs).map Prod.fst).getD cs) := by
  fun_induction cutSegments cs with
  | case1 => rfl
  | case2 c => rfl
  | case3 a b rest hmarks ih => simp [cutFirst?, hmarks]
  | case4 a b rest _ hcut => exact absurd hcut (cutSegments_ne_nil _)
  | case5 a b rest hmarks segment more hcut ih =>
    rw [hcut, List.head?_cons, Option.some.injEq] at ih
    rw [cutFirst?, if_neg hmarks, List.head?_cons, ih]
    cases cutFirst? (b :: rest) <;> rfl

/-- The head of a path is its first segment. -/
theorem head?_segments (path : ModulePath) : (segments path).head? = some (splitHead path).1 := by
  rw [segments, List.head?_map, cutSegments_of_cutFirst?, splitHead]
  rcases cutFirst? path.toList with _ | ⟨head, tail⟩
  · simp
  · rfl

/-- How long segments are together, each one with a mark. -/
def markedLength : List String → Nat
  | [] => 0
  | segment :: rest => segment.length + 2 + markedLength rest

theorem markedLength_append (segs others : List String) :
    markedLength (segs ++ others) = markedLength segs + markedLength others := by
  induction segs with
  | nil => exact (Nat.zero_add _).symm
  | cons segment rest ih =>
    rw [List.cons_append, markedLength, markedLength, ih]
    omega

/-- How long a path is: each segment adds a mark, except for the first one. -/
theorem length_ofSegments {segs : List String} (h : segs ≠ []) :
    (ofSegments segs).length + 2 = markedLength segs := by
  induction segs with
  | nil => exact absurd rfl h
  | cons segment rest ih =>
    cases rest with
    | nil => simp [ofSegments, markedLength]
    | cons next more =>
      have hmark : "::".length = 2 := by decide
      rw [ofSegments_cons_cons, String.length_append, String.length_append, markedLength,
        ← ih (List.cons_ne_nil _ _)]
      omega

/-! ## Leads -/

/-- How a path may start: with `crate`, or with `self` or not and then with so many `super`. -/
inductive Lead where
  /-- `crate` -/
  | crate
  /-- `self`, if it is there, and then `super` the given number of times. -/
  | climb (fromSelf : Bool) (supers : Nat)

namespace Lead

/-- The segments of a lead. A plain path has a lead without segments. -/
def segments : Lead → List String
  | .crate => ["crate"]
  | .climb fromSelf supers => (if fromSelf then ["self"] else []) ++ List.replicate supers "super"

/-- The module that a lead denotes in the module with the segments `c :: ss`. -/
def place (c : String) (ss : List String) : Lead → List String
  | .crate => [c]
  | .climb _ supers => c :: ss.take (ss.length - supers)

/-- Whether `super` follows `self`. -/
def isMixed : Lead → Bool
  | .climb true (_ + 1) => true
  | _ => false

/-- A mixed lead is `self` and at least one `super`. -/
theorem exists_of_isMixed {lead : Lead} (h : lead.isMixed = true) :
    ∃ supers, lead = .climb true (supers + 1) := by
  unfold isMixed at h
  split at h
  · exact ⟨_, rfl⟩
  · exact absurd h Bool.false_ne_true

end Lead

variable {module path : ModulePath} {c : String} {ss rest : List String} {lead : Lead}

/-- Each `super` goes up one module, as long as there is one. -/
theorem climb_replicate (c : String) (ss : List String) (supers : Nat)
    (hrest : ∀ s ∈ rest, isRelative s = false) :
    climb (c :: ss) (List.replicate supers "super" ++ rest) =
      c :: ss.take (ss.length - supers) ++ rest := by
  induction supers generalizing ss with
  | zero =>
    rw [List.replicate_zero, List.nil_append, Nat.sub_zero, List.take_length]
    cases rest with
    | nil => simp [climb]
    | cons first more =>
      have hfirst : first ≠ "super" := by
        rintro rfl
        exact absurd (hrest _ List.mem_cons_self) (by decide)
      rw [climb, if_neg hfirst]
  | succ supers ih =>
    rw [List.replicate_succ, List.cons_append, climb, if_pos rfl]
    cases hss : ss with
    | nil =>
      rw [if_neg (by simp)]
      simpa using ih []
    | cons first more =>
      have hup : (if 1 < (c :: ss).length then (c :: ss).dropLast else c :: ss) =
          c :: ss.dropLast := by
        simp [hss]
      rw [← hss, hup, ih, List.length_dropLast, List.dropLast_eq_take, List.take_take]
      congr 3
      omega

/-- **Leads.** A path whose lead is not mixed denotes what its rest denotes in the place of the
lead. -/
theorem relative?_of_not_isMixed (c : String) (ss : List String) (hlead : lead.segments ≠ [])
    (hrest : ∀ s ∈ rest, isRelative s = false) (hmixed : lead.isMixed = false) :
    relative? (c :: ss) (lead.segments ++ rest) = some (lead.place c ss ++ rest) := by
  cases lead with
  | crate => rfl
  | climb fromSelf supers =>
    cases fromSelf with
    | false =>
      cases supers with
      | zero => exact absurd rfl hlead
      | succ supers =>
        have hclimb := climb_replicate c ss (supers + 1) hrest
        rw [List.replicate_succ, List.cons_append] at hclimb
        simp only [Lead.segments, Lead.place, Bool.false_eq_true, if_false, List.nil_append,
          List.replicate_succ, List.cons_append, relative?]
        rw [if_neg (by decide), if_neg (by decide), if_pos trivial, hclimb, List.cons_append]
    | true =>
      cases supers with
      | zero => simp [Lead.segments, Lead.place, relative?]
      | succ supers => exact absurd hmixed (by simp [Lead.isMixed])

/-- After `self`, a `super` is taken for a name. -/
theorem relative?_of_isMixed (c : String) (ss rest : List String) (hmixed : lead.isMixed = true) :
    relative? (c :: ss) (lead.segments ++ rest) =
      some (c :: ss ++ lead.segments.tail ++ rest) := by
  obtain ⟨supers, rfl⟩ := Lead.exists_of_isMixed hmixed
  simp [Lead.segments, relative?]

/-! ## Absolute paths -/

/-- A relative path is replaced by what it denotes. -/
theorem absolute_of_relative? {found : List String}
    (h : relative? (segments module) (segments path) = some found) :
    absolute path module = ofSegments found := by
  rw [absolute, h]

/-- A path that is not relative stays as it is. -/
theorem absolute_of_relative?_eq_none (h : relative? (segments module) (segments path) = none) :
    absolute path module = path := by
  rw [absolute, h]

theorem exists_climb_eq_cons (c : String) (ss segs : List String) :
    ∃ more, climb (c :: ss) segs = c :: more := by
  induction segs generalizing ss with
  | nil => exact ⟨ss, rfl⟩
  | cons segment rest ih =>
    rw [climb]
    split
    · cases ss with
      | nil => exact ih []
      | cons first more => exact ih (first :: more).dropLast
    · exact ⟨_, rfl⟩

/-- What a relative path denotes lies in the crate of its module. -/
theorem exists_eq_cons_of_relative? {segs found : List String}
    (h : relative? (c :: ss) segs = some found) : ∃ more, found = c :: more := by
  cases segs with
  | nil => exact nomatch h
  | cons segment rest =>
    rw [relative?] at h
    split_ifs at h
    · exact ⟨rest, (Option.some.inj h).symm⟩
    · exact ⟨ss ++ rest, (Option.some.inj h).symm⟩
    · obtain ⟨more, hmore⟩ := exists_climb_eq_cons c ss (segment :: rest)
      exact ⟨more, (Option.some.inj h).symm.trans hmore⟩

theorem exists_segments_eq_cons (hc : ':' ∉ c.toList) (more : List String) :
    ∃ others, segments (ofSegments (c :: more)) = c :: others := by
  cases more with
  | nil =>
    refine ⟨[], segments_ofSegments (List.cons_ne_nil _ _) fun s hs => ?_⟩
    rw [List.mem_singleton.mp hs]
    exact hc
  | cons next rest =>
    have htext : (ofSegments (c :: next :: rest)).toList =
        c.toList ++ ':' :: ':' :: (ofSegments (next :: rest)).toList := by
      rw [ofSegments_cons_cons, String.toList_append, String.toList_append, List.append_assoc]
      rfl
    rw [segments, htext, cutSegments_append hc, List.map_cons, String.ofList_toList]
    exact ⟨_, rfl⟩

/-- **Idempotence.** An absolute path stays as it is, if crates are named neither `self` nor
`super`. -/
theorem absolute_absolute (hmodule : segments module = c :: ss) (hself : c ≠ "self")
    (hsuper : c ≠ "super") (hc : ':' ∉ c.toList) (path : ModulePath) :
    absolute (absolute path module) module = absolute path module := by
  cases hfound : relative? (segments module) (segments path) with
  | none =>
    have hpath := absolute_of_relative?_eq_none hfound
    rw [hpath, hpath]
  | some found =>
    rw [absolute_of_relative? hfound]
    rw [hmodule] at hfound
    obtain ⟨more, rfl⟩ := exists_eq_cons_of_relative? hfound
    obtain ⟨others, hothers⟩ := exists_segments_eq_cons hc more
    by_cases hcrate : c = "crate"
    -- the crate of the module is `crate` itself, and is put in its own place
    · have hagain : relative? (segments module) (segments (ofSegments (c :: more))) =
          some (c :: others) := by
        rw [hmodule, hothers, relative?, if_pos hcrate]
        rfl
      rw [absolute_of_relative? hagain, ← hothers, ofSegments_segments]
    · refine absolute_of_relative?_eq_none ?_
      rw [hmodule, hothers, relative?, if_neg hcrate, if_neg hself, if_neg hsuper]

/-- A lead that is resolved makes the path shorter than one that is kept. -/
theorem ofSegments_place_ne (c : String) (ss rest : List String) (hmixed : lead.isMixed = true) :
    ofSegments (lead.place c ss ++ rest) ≠
      ofSegments (c :: ss ++ lead.segments.tail ++ rest) := by
  obtain ⟨supers, rfl⟩ := Lead.exists_of_isMixed hmixed
  intro heq
  have hlength := congrArg (fun text : String => text.length + 2) heq
  have hsum : markedLength ss = markedLength (ss.take (ss.length - (supers + 1))) +
      markedLength (ss.drop (ss.length - (supers + 1))) := by
    rw [← markedLength_append, List.take_append_drop]
  simp only [Lead.place, Lead.segments, if_true, List.tail_cons, List.cons_append,
    length_ofSegments (List.cons_ne_nil _ _), markedLength, markedLength_append, hsum,
    List.nil_append, List.replicate_succ] at hlength
  omega

/-! ## Normal paths -/

/-- Whether a path starts at a crate and goes down from there: neither `self` nor `super` stands in
it, and `crate` only at its front. -/
def isNormal (path : ModulePath) : Bool :=
  match segments path with
  | [] => false
  | c :: ss => c != "self" && c != "super" && ss.all (!isRelative ·)

/-- When a path is normal, by its segments. -/
theorem isNormal_iff (h : segments path = c :: ss) :
    isNormal path = true ↔ (c ≠ "self" ∧ c ≠ "super") ∧ ∀ s ∈ ss, isRelative s = false := by
  simp [isNormal, h]

/-- When a path is normal that is made of segments. -/
theorem isNormal_ofSegments_iff (hmarks : ∀ s ∈ c :: ss, ':' ∉ s.toList) :
    isNormal (ofSegments (c :: ss)) = true ↔
      (c ≠ "self" ∧ c ≠ "super") ∧ ∀ s ∈ ss, isRelative s = false :=
  isNormal_iff (segments_ofSegments (List.cons_ne_nil _ _) hmarks)

/-- A relative path starts with a word that no name is. -/
theorem exists_relative_head (hlead : lead.segments ≠ []) :
    ∃ head tail, lead.segments = head :: tail ∧ isRelative head = true := by
  cases lead with
  | crate => exact ⟨"crate", [], rfl, by decide⟩
  | climb fromSelf supers =>
    cases fromSelf with
    | true => exact ⟨"self", List.replicate supers "super", rfl, by decide⟩
    | false =>
      cases supers with
      | zero => exact absurd rfl hlead
      | succ supers => exact ⟨"super", List.replicate supers "super", rfl, by decide⟩

/-- A path with a lead starts with a relative segment. -/
theorem isRelative_splitHead (hpath : segments path = lead.segments ++ rest)
    (hlead : lead.segments ≠ []) : isRelative (splitHead path).1 = true := by
  obtain ⟨head, tail, heq, hhead⟩ := exists_relative_head hlead
  have hfirst := head?_segments path
  rw [hpath, heq, List.cons_append, List.head?_cons, Option.some.injEq] at hfirst
  rw [← hfirst]
  exact hhead

/-- What is looked for in a relative qualifier is looked for in the module that it denotes. -/
theorem qualifiedSearches_of_lead (hpath : segments path = lead.segments ++ rest)
    (hlead : lead.segments ≠ []) (loader : Loader) (name : String) (u : SourceUnit) :
    Session.qualifiedSearches loader path name u =
      [Session.findIn loader (absolute path u.module) name] := by
  rw [Session.qualifiedSearches]
  simp only [isRelative_splitHead hpath hlead, if_true]

/-- A path that does not start with a module written in the same one is resolved by its lead. -/
theorem importPath_segments {children : List String}
    (h : (splitHead path).1 ∉ children) :
    Source.importPath module children (segments path) = absolute path module := by
  have hfirst := head?_segments path
  obtain ⟨first, more, hsegments⟩ := List.exists_cons_of_ne_nil (segments_ne_nil path)
  rw [hsegments, List.head?_cons, Option.some.injEq] at hfirst
  rw [← hfirst] at h
  rw [Source.importPath.eq_def, ofSegments_segments, hsegments]
  exact if_neg (by simpa using h)

/-- An import that starts with a child of its module denotes something in this child. -/
theorem importPath_segments_of_mem {children : List String} (h : (splitHead path).1 ∈ children) :
    Source.importPath module children (segments path) = join module path := by
  have hfirst := head?_segments path
  obtain ⟨first, more, hsegments⟩ := List.exists_cons_of_ne_nil (segments_ne_nil path)
  rw [hsegments, List.head?_cons, Option.some.injEq] at hfirst
  rw [← hfirst] at h
  rw [Source.importPath.eq_def, ofSegments_segments, hsegments]
  exact if_pos (by simpa using h)

/-- A relative path is resolved by its lead, also where modules are written. -/
theorem importPath_of_lead (hpath : segments path = lead.segments ++ rest)
    (hlead : lead.segments ≠ []) {children : List String}
    (hchildren : ∀ child ∈ children, isRelative child = false) :
    Source.importPath module children (segments path) = absolute path module := by
  refine importPath_segments fun hmem => ?_
  have hhead := isRelative_splitHead hpath hlead
  rw [hchildren _ hmem] at hhead
  exact Bool.false_ne_true hhead

theorem isNormal_of_plain (h : ∀ s ∈ segments path, isRelative s = false) :
    isNormal path = true := by
  obtain ⟨first, more, hsegments⟩ := List.exists_cons_of_ne_nil (segments_ne_nil path)
  rw [hsegments] at h
  refine (isNormal_iff hsegments).mpr ⟨?_, fun s hs => h s (.tail first hs)⟩
  constructor <;> (rintro rfl; exact absurd (h _ List.mem_cons_self) (by decide))

theorem absolute_of_plain (h : ∀ s ∈ segments path, isRelative s = false) :
    absolute path module = path := by
  obtain ⟨first, more, hsegments⟩ := List.exists_cons_of_ne_nil (segments_ne_nil path)
  have hfirst := h first (hsegments ▸ List.mem_cons_self)
  refine absolute_of_relative?_eq_none ?_
  rw [hsegments, relative?, if_neg, if_neg, if_neg]
  all_goals
    rintro rfl
    exact absurd hfirst (by decide)

/-- A plain path below a normal one is normal. -/
theorem isNormal_join (hmodule : isNormal module = true)
    (hplain : ∀ s ∈ segments path, isRelative s = false)
    (hmarks : ∀ s ∈ segments module ++ segments path, ':' ∉ s.toList) :
    isNormal (join module path) = true := by
  by_cases hempty : module = ""
  · rw [hempty, join_empty_left]
    exact isNormal_of_plain hplain
  by_cases hpath : path = ""
  · rw [hpath, join_empty_right]
    exact hmodule
  have hjoin : join module path = ofSegments (segments module ++ segments path) := by
    rw [ofSegments, String.intercalate_append_of_ne_nil (segments_ne_nil _) (segments_ne_nil _)]
    exact (join_of_ne_empty hempty hpath).trans
      (congrArg₂ (· ++ "::" ++ ·) (ofSegments_segments _).symm (ofSegments_segments _).symm)
  obtain ⟨c, ss, hsegments⟩ := List.exists_cons_of_ne_nil (segments_ne_nil module)
  obtain ⟨hcrate, hnames⟩ := (isNormal_iff hsegments).mp hmodule
  rw [hsegments, List.cons_append] at hjoin hmarks
  rw [hjoin, isNormal_ofSegments_iff hmarks]
  refine ⟨hcrate, fun s hs => ?_⟩
  rcases List.mem_append.mp hs with hs | hs
  · exact hnames s hs
  · exact hplain s hs

/-- A plain path is imported from the module in which it is written, or from a crate. -/
theorem isNormal_importPath (hmodule : isNormal module = true)
    (hplain : ∀ s ∈ segments path, isRelative s = false)
    (hmarks : ∀ s ∈ segments module ++ segments path, ':' ∉ s.toList) (children : List String) :
    isNormal (Source.importPath module children (segments path)) = true := by
  by_cases hchild : (splitHead path).1 ∈ children
  · rw [importPath_segments_of_mem hchild]
    exact isNormal_join hmodule hplain hmarks
  · rw [importPath_segments hchild, absolute_of_plain hplain]
    exact isNormal_of_plain hplain

/-- When a relative path denotes a normal one: if no relative segments are left. -/
theorem isNormal_absolute_of_relative? {found : List String}
    (hfound : relative? (segments module) (segments path) = some (c :: found))
    (hcrate : c ≠ "self" ∧ c ≠ "super") (hmarks : ∀ s ∈ c :: found, ':' ∉ s.toList) :
    isNormal (absolute path module) = true ↔ ∀ s ∈ found, isRelative s = false := by
  rw [absolute_of_relative? hfound, isNormal_ofSegments_iff hmarks, and_iff_right hcrate]

/-- A resolved path is normal, unless `super` follows `self` in its lead. -/
theorem isNormal_absolute_iff (hmodule : segments module = c :: ss)
    (hpath : segments path = lead.segments ++ rest) (hrest : ∀ s ∈ rest, isRelative s = false)
    (hlead : lead.segments ≠ []) (hnormal : isNormal module = true)
    (hmarks : ∀ s ∈ c :: ss ++ rest, ':' ∉ s.toList) :
    isNormal (absolute path module) = true ↔ lead.isMixed = false := by
  obtain ⟨hcrate, hnames⟩ := (isNormal_iff hmodule).mp hnormal
  cases hmixed : lead.isMixed with
  | false =>
    have hfound := relative?_of_not_isMixed c ss hlead hrest hmixed
    obtain ⟨more, hplace, hmore⟩ : ∃ more, lead.place c ss = c :: more ∧ ∀ s ∈ more, s ∈ ss := by
      cases lead with
      | crate => exact ⟨[], rfl, nofun⟩
      | climb fromSelf supers => exact ⟨_, rfl, fun s hs => List.mem_of_mem_take hs⟩
    rw [← hmodule, ← hpath, hplace, List.cons_append] at hfound
    have hnames' : ∀ s ∈ more ++ rest, isRelative s = false := by grind
    have hmarks' : ∀ s ∈ c :: (more ++ rest), ':' ∉ s.toList := by grind
    exact iff_of_true ((isNormal_absolute_of_relative? hfound hcrate hmarks').mpr hnames') rfl
  | true =>
    have hfound := relative?_of_isMixed c ss rest hmixed
    obtain ⟨supers, rfl⟩ := Lead.exists_of_isMixed hmixed
    have hsuper : "super" ∈ ss ++ (Lead.climb true (supers + 1)).segments.tail ++ rest := by
      simp [Lead.segments]
    have hcolon : ∀ s ∈ (Lead.climb true (supers + 1)).segments.tail, ':' ∉ s.toList := by
      intro s hs
      rw [List.eq_of_mem_replicate hs]
      decide
    rw [List.cons_append, List.cons_append, ← hmodule, ← hpath] at hfound
    have hmarks' : ∀ s ∈ c :: (ss ++ (Lead.climb true (supers + 1)).segments.tail ++ rest),
        ':' ∉ s.toList := by grind
    refine iff_of_false (fun h => ?_) Bool.noConfusion
    have hall := (isNormal_absolute_of_relative? hfound hcrate hmarks').mp h
    exact absurd (hall "super" hsuper) (by decide)

/-- A mixed lead does not climb: each `super` after `self` stays in the path. -/
theorem absolute_of_isMixed (hmodule : segments module = c :: ss)
    (hpath : segments path = lead.segments ++ rest) (hmixed : lead.isMixed = true) :
    absolute path module = ofSegments (c :: ss ++ lead.segments.tail ++ rest) := by
  have hfound := relative?_of_isMixed c ss rest hmixed
  rw [← hpath] at hfound
  refine absolute_of_relative? ?_
  rw [hmodule]
  exact hfound

/-- **Relative paths.** A path with the given lead is written in a module. The module that the lead
denotes is put in its place, exactly if no `super` follows a `self`; otherwise only the `self` is
resolved. So it is with imported paths and with the qualifiers of type names: if all the names are
proper ones, the paths are normal with this exception. To resolve a path again changes nothing. -/
theorem absolute_normal_iff (hmodule : segments module = c :: ss)
    (hpath : segments path = lead.segments ++ rest) (hrest : ∀ s ∈ rest, isRelative s = false) :
    (lead.segments ≠ [] →
      (absolute path module = ofSegments (lead.place c ss ++ rest) ↔ lead.isMixed = false) ∧
      (lead.isMixed = true →
        absolute path module = ofSegments (c :: ss ++ lead.segments.tail ++ rest)) ∧
      (∀ loader name u, u.module = module → Session.qualifiedSearches loader path name u =
        [Session.findIn loader (absolute path module) name]) ∧
      ∀ children : List String, (∀ child ∈ children, isRelative child = false) →
        Source.importPath module children (segments path) = absolute path module) ∧
    (isNormal module = true → (∀ s ∈ c :: ss ++ rest, ':' ∉ s.toList) →
      (lead.segments ≠ [] →
        (isNormal (absolute path module) = true ↔ lead.isMixed = false)) ∧
      ∀ children : List String, (∀ child ∈ children, isRelative child = false) →
        (isNormal (Source.importPath module children (segments path)) = true ↔
          lead.isMixed = false)) ∧
    (c ≠ "self" → c ≠ "super" → ':' ∉ c.toList →
      absolute (absolute path module) module = absolute path module) := by
  refine ⟨fun hlead => ⟨?_, ?_, ?_, ?_⟩, fun hnormal hmarks => ⟨?_, ?_⟩, ?_⟩
  · constructor
    · intro heq
      by_contra hmixed
      rw [Bool.not_eq_false] at hmixed
      rw [absolute_of_isMixed hmodule hpath hmixed] at heq
      exact ofSegments_place_ne c ss rest hmixed heq.symm
    · intro hmixed
      have hfound := relative?_of_not_isMixed c ss hlead hrest hmixed
      rw [← hmodule, ← hpath] at hfound
      exact absolute_of_relative? hfound
  · exact absolute_of_isMixed hmodule hpath
  · rintro loader name u rfl
    exact qualifiedSearches_of_lead hpath hlead loader name u
  · intro children hchildren
    exact importPath_of_lead hpath hlead hchildren
  · exact fun hlead => isNormal_absolute_iff hmodule hpath hrest hlead hnormal hmarks
  · intro children hchildren
    by_cases hlead : lead.segments = []
    · have hmixed : lead.isMixed = false := by
        by_contra hmixed
        obtain ⟨supers, rfl⟩ := Lead.exists_of_isMixed ((Bool.not_eq_false _).mp hmixed)
        exact absurd hlead (by simp [Lead.segments])
      rw [hlead, List.nil_append] at hpath
      rw [← hpath] at hrest hmarks
      exact iff_of_true (isNormal_importPath hnormal hrest (hmodule ▸ hmarks) children) hmixed
    · rw [importPath_of_lead hpath hlead hchildren]
      exact isNormal_absolute_iff hmodule hpath hrest hlead hnormal hmarks
  · exact fun hself hsuper hc => absolute_absolute hmodule hself hsuper hc path

/-- In `crate::a::b`, the path `self::super::x` keeps its `super`. -/
theorem absolute_normal_iff_selfSuper :
    absolute "self::super::x" "crate::a::b" = "crate::a::b::super::x" ∧
    absolute "self::super::x" "crate::a::b" ≠ "crate::a::x" ∧
    isNormal (Source.importPath "crate::a::b" ["vo"] ["self", "super", "x"]) = false := by
  have hpath : segments "self::super::x" = ["self", "super", "x"] := by decide +kernel
  obtain ⟨hlead, hnames, -⟩ := @absolute_normal_iff "crate::a::b" "self::super::x" "crate"
    ["a", "b"] ["x"] (.climb true 1) (by decide +kernel) hpath (by decide)
  obtain ⟨hplace, hkept, -⟩ := hlead (by decide)
  have himport := (hnames (by decide +kernel) (by decide)).2 ["vo"] (by decide)
  rw [hpath] at himport
  have hplace' : ofSegments (Lead.place "crate" ["a", "b"] (.climb true 1) ++ ["x"]) =
      "crate::a::x" := by decide +kernel
  rw [hplace'] at hplace
  refine ⟨(hkept rfl).trans (by decide +kernel), fun heq => ?_, ?_⟩
  · exact absurd (hplace.mp heq) (by decide)
  · rw [← Bool.not_eq_true, himport]
    decide

end ApiDocs.ModulePath
