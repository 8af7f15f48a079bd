import ApiDocs.Proofs.Assembly.Chapters
import ApiDocs.Proofs.Expansion.Twins

/-!
# Two runs side by side

Two runs with the same library read the same files to the same documents. A line that is applied in
the same unit gives the same document (`applyLine_twin`), and so do the declarations of a file,
read one after the other (`visitAll_twin`). One of the runs may read more files than the other one.
What it reads between the files that they share makes no difference to these (`chapters_twin`).
-/

namespace ApiDocs

open Session

variable {loader : Loader} {lex : Lexicon} {last last' s s' : Session} {unit unit' : Nat}

theorem Session.SameUnit.pathOf_eq (h : SameUnit s s' unit unit') :
    s'.catalog.pathOf unit' = s.catalog.pathOf unit := by
  obtain ⟨u, hu, hu'⟩ := h
  rw [Catalog.pathOf, Catalog.pathOf, hu, hu']

namespace Directive

/-! ## Lines -/

/-- Twins expand a type for a directive to the same result. -/
theorem expand_twin (hpar : Parallel loader lex last last') (h : s.Twin lex s' last last')
    (hunit : SameUnit s s' unit unit') {name : String}
    (hlast : Steps loader (expand (some ⟨loader, unit⟩) name s).2 last)
    (hlast' : Steps loader (expand (some ⟨loader, unit'⟩) name s').2 last') :
    (expand (some ⟨loader, unit⟩) name s).1 = (expand (some ⟨loader, unit'⟩) name s').1 := by
  have hfst : ∀ (unit : Nat) (s : Session), name.isEmpty = false →
      (expand (some ⟨loader, unit⟩) name s).1 = (s.expandNamed loader name unit).1 ∧
        Steps loader (s.expandNamed loader name unit).2
          (expand (some ⟨loader, unit⟩) name s).2 := by
    intro unit s hname
    unfold expand
    simp only [hname, Bool.false_eq_true, if_false]
    rcases s.expandNamed loader name unit with ⟨_ | e, s₁⟩
    · exact ⟨rfl, .single (.note s₁ [.noFields name] rfl)⟩
    · exact ⟨rfl, .refl⟩
  by_cases hname : name.isEmpty
  · unfold expand
    simp only [hname, if_true]
  · have hname : name.isEmpty = false := by simpa using hname
    obtain ⟨heq, hsteps⟩ := hfst unit s hname
    obtain ⟨heq', hsteps'⟩ := hfst unit' s' hname
    rw [heq, heq']
    exact h.expandNamed hpar hunit (hsteps.trans hlast) (hsteps'.trans hlast')

/-- What a directive describes by a type, with its fields and its example. -/
theorem describe_of_typeReference? {α : Type} {scope? : Option TypeScope} {ofField : Field → α}
    {single? : String → Option α} {cause : DirectiveCause} {payload name : String}
    (h : typeReference? payload = some name) :
    describe scope? ofField single? cause payload s =
      (.ok (match (expand scope? name s).1 with
        | some e => (e.allFields.map ofField, some e.sample)
        | none => ([], none)), (expand scope? name s).2) := by
  unfold describe
  rw [h]
  simp only
  rcases expand scope? name s with ⟨_ | e, s₁⟩ <;> rfl

theorem describe_twin {α : Type} {ofField : Field → α} {single? : String → Option α}
    {cause : DirectiveCause} {payload : String} (hpar : Parallel loader lex last last')
    (h : s.Twin lex s' last last') (hunit : SameUnit s s' unit unit')
    (hlast : Steps loader
      (describe (some ⟨loader, unit⟩) ofField single? cause payload s).2 last)
    (hlast' : Steps loader
      (describe (some ⟨loader, unit'⟩) ofField single? cause payload s').2 last') :
    (describe (some ⟨loader, unit⟩) ofField single? cause payload s).1 =
      (describe (some ⟨loader, unit'⟩) ofField single? cause payload s').1 := by
  cases hname : typeReference? payload with
  | some name =>
    rw [describe_of_typeReference? hname] at hlast hlast' ⊢
    rw [describe_of_typeReference? hname]
    simp only
    rw [expand_twin hpar h hunit hlast hlast']
  | none =>
    unfold describe
    rw [hname]
    simp only
    cases single? payload <;> rfl

theorem applyKeyword_twin (hpar : Parallel loader lex last last')
    (h : s.Twin lex s' last last') (hunit : SameUnit s s' unit unit') {keyword : Keyword}
    {payload : String} {doc : Document}
    (hlast : Steps loader (applyKeyword (some ⟨loader, unit⟩) keyword payload doc s).2 last)
    (hlast' : Steps loader (applyKeyword (some ⟨loader, unit'⟩) keyword payload doc s').2 last') :
    (applyKeyword (some ⟨loader, unit⟩) keyword payload doc s).1 =
      (applyKeyword (some ⟨loader, unit'⟩) keyword payload doc s').1 := by
  cases keyword with
  | query =>
    exact congrArg (Except.map _) (describe_twin hpar h hunit hlast hlast')
  | param =>
    exact congrArg (Except.map _) (describe_twin hpar h hunit hlast hlast')
  | response =>
    exact congrArg (Except.map _) (describe_twin hpar h hunit hlast hlast')
  | failure =>
    exact congrArg (Except.map _) (describe_twin hpar h hunit hlast hlast')
  | _ => rfl

/-- **Lines.** A line that is applied in the same unit gives the same document. -/
theorem applyLine_twin (hpar : Parallel loader lex last last') (h : s.Twin lex s' last last')
    (hunit : SameUnit s s' unit unit') {operation line : String} {doc : Document}
    (hlast : Steps loader (applyLine (some ⟨loader, unit⟩) operation line doc s).2 last)
    (hlast' : Steps loader (applyLine (some ⟨loader, unit'⟩) operation line doc s').2 last') :
    (applyLine (some ⟨loader, unit⟩) operation line doc s).1 =
      (applyLine (some ⟨loader, unit'⟩) operation line doc s').1 := by
  unfold applyLine at hlast hlast' ⊢
  cases hparts : splitLine? line with
  | none => rfl
  | some parts =>
    obtain ⟨word, payload⟩ := parts
    rw [hparts] at hlast hlast'
    simp only at hlast hlast' ⊢
    by_cases htitle : (!operation.isEmpty && sameName word operation) = true
    · simp only [htitle, if_true]
    · simp only [htitle, Bool.false_eq_true, if_false] at hlast hlast' ⊢
      exact applyKeyword_twin hpar h hunit hlast hlast'

end Directive

namespace Assembly

/-- The steps of a run that reads a line, and then others. -/
theorem applyLines_cons_steps {operation line : String} {rest : List String} {doc : Document}
    {s₁ : Session} (hs₁ : s₁ = if operation.isEmpty then s else s.note [.applying operation line])
    (hlast : Steps loader (applyLines ⟨loader, unit⟩ operation (line :: rest) doc s).2 last) :
    Steps loader s s₁ ∧
    Steps loader s₁ (Directive.applyLine (some ⟨loader, unit⟩) operation line doc s₁).2 ∧
    Steps loader (Directive.applyLine (some ⟨loader, unit⟩) operation line doc s₁).2 last := by
  refine ⟨?_, Directive.applyLine_steps ⟨loader, unit⟩ operation line doc s₁, ?_⟩
  · rw [hs₁]
    split
    · exact .refl
    · exact .single (.note s _ rfl)
  · rw [applyLines, ← hs₁] at hlast
    rcases hline : Directive.applyLine (some ⟨loader, unit⟩) operation line doc s₁ with
      ⟨e | doc₁, s₂⟩
    · rw [hline] at hlast
      exact hlast
    · rw [hline] at hlast
      exact (applyLines_steps ⟨loader, unit⟩ operation rest doc₁ s₂).trans hlast

/-- **Lines.** They make the same document for twins. -/
theorem applyLines_twin (hpar : Parallel loader lex last last') {operation : String}
    {lines : List String} {doc : Document} (h : s.Twin lex s' last last')
    (hunit : SameUnit s s' unit unit')
    (hlast : Steps loader (applyLines ⟨loader, unit⟩ operation lines doc s).2 last)
    (hlast' : Steps loader (applyLines ⟨loader, unit'⟩ operation lines doc s').2 last') :
    (applyLines ⟨loader, unit⟩ operation lines doc s).1 =
      (applyLines ⟨loader, unit'⟩ operation lines doc s').1 := by
  induction lines generalizing doc s s' with
  | nil => rfl
  | cons line rest ih =>
    obtain ⟨hnote, hline, hafter⟩ := applyLines_cons_steps rfl hlast
    obtain ⟨hnote', hline', hafter'⟩ := applyLines_cons_steps rfl hlast'
    rw [applyLines] at hlast hlast' ⊢
    rw [applyLines]
    generalize (if operation.isEmpty then s else s.note [.applying operation line]) = s₁ at *
    generalize (if operation.isEmpty then s' else s'.note [.applying operation line]) = s₁' at *
    have htwin := h.steps hpar hnote (hline.trans hafter) hnote' (hline'.trans hafter')
    have hunit₁ := hunit.grows hnote.grows hnote'.grows
    have hsame := Directive.applyLine_twin hpar htwin hunit₁ hafter hafter'
    have hnext := htwin.steps hpar hline hafter hline' hafter'
    have hunit₂ := hunit₁.grows hline.grows hline'.grows
    rcases hleft : Directive.applyLine (some ⟨loader, unit⟩) operation line doc s₁ with
      ⟨result, s₂⟩
    rcases hright : Directive.applyLine (some ⟨loader, unit'⟩) operation line doc s₁' with
      ⟨result', s₂'⟩
    rw [hleft] at hlast hsame hnext hunit₂
    rw [hright] at hlast' hsame hnext hunit₂
    cases hsame
    cases result with
    | error e => rfl
    | ok doc₁ => exact ih hnext hunit₂ hlast hlast'

/-! ## Declarations -/

/-- Whether two declarations are the same and stand in the same unit. -/
def SameVisit (s s' : Session) (v v' : Visit) : Prop :=
  v'.decl = v.decl ∧ SameUnit s s' v.unit v'.unit

/-- Whether two files have been read equally far. -/
def SameProgress (p p' : Progress) : Prop :=
  p'.general = p.general ∧ p'.order = p.order

/-- A declaration that both runs read adds the same documents. -/
theorem visit_twin (hpar : Parallel loader lex last last') (h : s.Twin lex s' last last')
    {v v' : Visit} (hv : SameVisit s s' v v') {p p' p₁ p₁' : Progress} (hp : SameProgress p p')
    {s₁ s₁' : Session} (hvisit : visit loader v p s = (.ok p₁, s₁))
    (hvisit' : visit loader v' p' s' = (.ok p₁', s₁')) (hlast : Steps loader s₁ last)
    (hlast' : Steps loader s₁' last') :
    SameProgress p₁ p₁' ∧ added p' p₁' = added p p₁ := by
  obtain ⟨hdecl, hunit⟩ := hv
  obtain ⟨hgeneral, horder⟩ := hp
  -- what the lines of an operation give in both runs
  have hlines : ∀ {operation lines doc result result' s₂ s₂'},
      applyLines ⟨loader, v.unit⟩ operation lines doc s = (.ok result, s₂) →
      applyLines ⟨loader, v'.unit⟩ operation lines doc s' = (.ok result', s₂') →
      Steps loader s₂ last → Steps loader s₂' last' → result' = result := by
    intro operation lines doc result result' s₂ s₂' hleft hright hs₂ hs₂'
    have hsame := applyLines_twin hpar h hunit (by rw [hleft]; exact hs₂)
      (by rw [hright]; exact hs₂')
    rw [hleft, hright] at hsame
    exact (Except.ok.inj hsame).symm
  rcases visit_cases hvisit with ⟨lines, general, hv, happly, rfl⟩ |
    ⟨name, lines, doc, s₂, hv, happly, hs₂, hdoc, rfl⟩ |
    ⟨name, lines, doc, s₂, hv, happly, hs₂, hdoc, rfl⟩ | ⟨path, hv, rfl⟩ <;>
  rcases visit_cases hvisit' with ⟨lines', general', hv', happly', rfl⟩ |
    ⟨name', lines', doc', s₂', hv', happly', hs₂', hdoc', rfl⟩ |
    ⟨name', lines', doc', s₂', hv', happly', hs₂', hdoc', rfl⟩ | ⟨path', hv', rfl⟩ <;>
  rw [hdecl, hv] at hv' <;> cases hv'
  · rw [hgeneral] at happly'
    refine ⟨⟨hlines happly happly' hlast hlast', horder⟩, ?_⟩
    rw [added, added, List.drop_length, List.drop_length]
  · refine ⟨⟨hgeneral, horder⟩, ?_⟩
    rw [added, added, List.drop_length, List.drop_length]
  · rw [hgeneral] at happly'
    rw [hlines happly happly' (hs₂.trans hlast) (hs₂'.trans hlast'), hdoc] at hdoc'
    cases hdoc'
  · rw [hgeneral] at happly'
    rw [hlines happly happly' (hs₂.trans hlast) (hs₂'.trans hlast'), hdoc] at hdoc'
    cases hdoc'
  · rw [hgeneral] at happly'
    have hsame := hlines happly happly' (hs₂.trans hlast) (hs₂'.trans hlast')
    refine ⟨⟨hgeneral, by rw [horder]⟩, ?_⟩
    rw [added, added, List.drop_left, List.drop_left, hsame, horder]
  · refine ⟨⟨hgeneral, horder⟩, ?_⟩
    rw [added, added, List.drop_length, List.drop_length]

/-- **Files.** Declarations that both runs read one after the other are made into the same
documents. -/
theorem visitAll_twin (hpar : Parallel loader lex last last') {vs vs' : List Visit}
    (hvs : List.Forall₂ (SameVisit s s') vs vs') (h : s.Twin lex s' last last')
    {p p' p₁ p₁' : Progress} (hp : SameProgress p p') {s₁ s₁' : Session}
    (hall : visitAll loader vs p s = (.ok p₁, s₁))
    (hall' : visitAll loader vs' p' s' = (.ok p₁', s₁')) (hlast : Steps loader s₁ last)
    (hlast' : Steps loader s₁' last') (earlier earlier' : List Visit) :
    (made loader earlier' vs' p' s').map Made.doc = (made loader earlier vs p s).map Made.doc := by
  induction vs generalizing vs' p p' s s' earlier earlier' with
  | nil =>
    cases hvs
    rw [made, made]
  | cons v rest ih =>
    obtain ⟨v', rest', hv, hrest, rfl⟩ := List.forall₂_cons_left_iff.mp hvs
    obtain ⟨p₂, s₂, hvisit, hmore⟩ := visitAll_cons_ok hall
    obtain ⟨p₂', s₂', hvisit', hmore'⟩ := visitAll_cons_ok hall'
    have hsteps := visit_steps loader v p s
    have hsteps' := visit_steps loader v' p' s'
    rw [hvisit] at hsteps
    rw [hvisit'] at hsteps'
    have hlast₂ : Steps loader s₂ last := by
      have hmoreSteps := visitAll_steps loader rest p₂ s₂
      rw [hmore] at hmoreSteps
      exact hmoreSteps.trans hlast
    have hlast₂' : Steps loader s₂' last' := by
      have hmoreSteps := visitAll_steps loader rest' p₂' s₂'
      rw [hmore'] at hmoreSteps
      exact hmoreSteps.trans hlast'
    obtain ⟨hp₂, hadded⟩ := visit_twin hpar h hv hp hvisit hvisit' hlast₂ hlast₂'
    have hrest₂ : List.Forall₂ (SameVisit s₂ s₂') rest rest' :=
      hrest.imp fun _ _ hsame => ⟨hsame.1, hsame.2.grows hsteps.grows hsteps'.grows⟩
    have hlater := ih hrest₂ (h.steps hpar hsteps hlast₂ hsteps' hlast₂') hp₂ hmore hmore'
      (earlier ++ [v]) (earlier' ++ [v'])
    rw [made_cons hvisit, made_cons hvisit', List.map_append, List.map_append, hlater, hadded,
      List.map_map, List.map_map]
    rfl

/-! ## The declarations of a file -/

theorem unitOfModule?_twin {units units' : List Nat}
    (h : List.Forall₂ (SameUnit s s') units units') (module : ModulePath) :
    Option.Rel (SameUnit s s') (unitOfModule? s.catalog units module)
      (unitOfModule? s'.catalog units' module) := by
  induction h with
  | nil => exact .none
  | @cons a b rest rest' hfirst _ ih =>
    rw [unitOfModule?] at ih ⊢
    rw [unitOfModule?] at ih ⊢
    obtain ⟨u, hu, hu'⟩ := id hfirst
    by_cases hmodule : some u.module = some module
    · rw [List.find?_cons_of_pos (by rw [hu]; simpa using hmodule),
        List.find?_cons_of_pos (by rw [hu']; simpa using hmodule)]
      exact .some hfirst
    · rw [List.find?_cons_of_neg (by rw [hu]; simpa using hmodule),
        List.find?_cons_of_neg (by rw [hu']; simpa using hmodule)]
      exact ih

/-- The same units are read in the same order. -/
theorem visits_twin {units units' : List Nat} (h : List.Forall₂ (SameUnit s s') units units')
    (depth : Nat) {unit unit' : Nat} (hunit : SameUnit s s' unit unit') :
    List.Forall₂ (SameVisit s s') (visits s.catalog units depth unit)
      (visits s'.catalog units' depth unit') := by
  induction depth generalizing unit unit' with
  | zero => exact .nil
  | succ depth ih =>
    obtain ⟨u, hu, hu'⟩ := id hunit
    rw [visits, visits, hu, hu']
    simp only [Option.map_some, Option.getD_some]
    induction u.decls with
    | nil => exact .nil
    | cons decl rest ihrest =>
      rw [List.flatMap_cons, List.flatMap_cons]
      refine List.rel_append ?_ ihrest
      cases decl with
      | general docs => exact .cons ⟨rfl, hunit⟩ .nil
      | operation name docs => exact .cons ⟨rfl, hunit⟩ .nil
      | module path =>
        simp only
        have hinner := unitOfModule?_twin h path
        cases hleft : unitOfModule? s.catalog units path with
        | none =>
          cases hright : unitOfModule? s'.catalog units' path with
          | none => exact .nil
          | some inner' =>
            rw [hleft, hright] at hinner
            cases hinner
        | some inner =>
          cases hright : unitOfModule? s'.catalog units' path with
          | none =>
            rw [hleft, hright] at hinner
            cases hinner
          | some inner' =>
            rw [hleft, hright] at hinner
            cases hinner with
            | some hsame => exact ih hsame

/-! ## All files -/

/-- The path of a chapter with its documents. -/
def Chapter.contents (c : Chapter) : FilePath × List Document :=
  (c.path, c.docs)

/-- Whether the file of a unit is one of those that both runs read. -/
def isShared (shared : FilePath → Bool) (c : Catalog) (unit : Nat) : Bool :=
  shared (c.pathOf unit)

/-- Whether the file of the first of some units is one of those that both runs read. -/
def isSharedGroup (shared : FilePath → Bool) (c : Catalog) (group : List Nat) : Bool :=
  group.head?.any (isShared shared c)

/-- A group of sorted units holds all units of its file, so that leaving files out leaves out their
groups. -/
theorem filter_groupByFile {shared : FilePath → Bool} {c : Catalog} {units : List Nat}
    (hshared : ∀ p q : FilePath, p.same q → shared p = shared q)
    (h : units.Pairwise fun a b => (c.pathOf a).notAfter (c.pathOf b)) :
    (groupByFile c units).filter (isSharedGroup shared c) =
      groupByFile c (units.filter (isShared shared c)) := by
  induction units with
  | nil => rfl
  | cons unit rest ih =>
    have horder := (groupByFile_inOrder h).lt
    have hrest := ih (List.pairwise_cons.mp h).2
    have hhead : ∀ group, isSharedGroup shared c (unit :: group) = isShared shared c unit :=
      fun _ => rfl
    cases rest with
    | nil => cases hunit : isShared shared c unit <;> simp [groupByFile, hhead, hunit]
    | cons next others =>
      obtain ⟨group, groups, heq⟩ := exists_groupByFile_cons c next others
      have hflat := flatten_groupByFile c (next :: others)
      by_cases hsame : (c.pathOf unit).same (c.pathOf next)
      · -- the two units are in one group, and both are shared or none of them
        have hiff : isShared shared c unit = isShared shared c next := hshared _ _ hsame
        have hnextHead : isSharedGroup shared c (next :: group) = isShared shared c next := rfl
        rw [groupByFile_cons_of_same heq hsame, List.filter_cons, List.filter_cons, hhead, hiff]
        rw [heq, List.filter_cons, hnextHead] at hrest
        cases hnext : isShared shared c next with
        | false => simpa only [hnext, Bool.false_eq_true, if_false] using hrest
        | true =>
          rw [hnext, List.filter_cons_of_pos hnext] at hrest
          rw [List.filter_cons_of_pos hnext]
          exact (groupByFile_cons_of_same hrest.symm hsame).symm
      · rw [groupByFile_cons_of_not_same heq hsame, ← heq] at horder ⊢
        rw [List.filter_cons, List.filter_cons, hhead, hrest]
        cases hunit : isShared shared c unit with
        | false => rfl
        | true =>
          -- what is left behind the unit still starts with another file
          rw [if_pos rfl, if_pos rfl]
          refine (@groupByFile_append c [unit] _ ?_).symm
          rintro id ⟨⟩ other hother hsameOther
          have hequal : (c.pathOf unit).compare (c.pathOf other) = .eq :=
            FilePath.compare_eq_iff.mpr hsameOther
          have hmem := (List.mem_filter.mp (List.mem_of_head? hother)).1
          rw [← hflat] at hmem
          obtain ⟨later, hlater, hin⟩ := List.mem_flatten.mp hmem
          have hlt := (List.pairwise_cons.mp horder).1 later hlater unit
            (List.mem_singleton_self unit) other hin
          rw [hequal] at hlt
          cases hlt

/-- Units with the same paths are grouped in the same way. -/
theorem groupByFile_twin {units units' : List Nat}
    (h : List.Forall₂ (SameUnit s s') units units') :
    List.Forall₂ (List.Forall₂ (SameUnit s s')) (groupByFile s.catalog units)
      (groupByFile s'.catalog units') := by
  induction h with
  | nil => exact .nil
  | @cons a b rest rest' hfirst htail ih =>
    cases htail with
    | nil => exact .cons (.cons hfirst .nil) .nil
    | @cons next next' others others' hnext hothers =>
      obtain ⟨group, groups, heq⟩ := exists_groupByFile_cons s.catalog next others
      obtain ⟨group', groups', heq'⟩ := exists_groupByFile_cons s'.catalog next' others'
      rw [heq, heq'] at ih
      have hsame : ((s'.catalog.pathOf b).same (s'.catalog.pathOf next')) =
          ((s.catalog.pathOf a).same (s.catalog.pathOf next)) := by
        rw [hfirst.pathOf_eq, hnext.pathOf_eq]
      obtain ⟨hgroup, hgroups⟩ := List.forall₂_cons.mp ih
      by_cases hfile : (s.catalog.pathOf a).same (s.catalog.pathOf next)
      · rw [groupByFile_cons_of_same heq hfile, groupByFile_cons_of_same heq' (hsame.trans hfile)]
        exact .cons (.cons hfirst hgroup) hgroups
      · rw [groupByFile_cons_of_not_same heq hfile,
          groupByFile_cons_of_not_same heq' (by rw [hsame]; exact hfile)]
        exact .cons (.cons hfirst .nil) ih

/-- The steps of a run that reads a file, and then others. -/
theorem assembleFiles_cons_steps {path : FilePath} {vs : List Visit} {rest : List (List Nat)}
    {p p₁ : Progress} {docs : List Document} {s₁ t : Session}
    (hall : visitAll loader vs p (s.note [.reading path]) = (.ok p₁, s₁))
    (hrest : assembleFiles loader rest p₁.docs s₁ = (.ok docs, t)) :
    Steps loader s (s.note [.reading path]) ∧ Steps loader (s.note [.reading path]) s₁ ∧
      Steps loader s₁ t := by
  have hvisits := visitAll_steps loader vs p (s.note [.reading path])
  have hothers := assembleFiles_steps loader rest p₁.docs s₁
  rw [hall] at hvisits
  rw [hrest] at hothers
  exact ⟨.single (.note s _ rfl), hvisits, hothers⟩

/-- A file that both runs read is made into the same documents, and the runs stay twins. -/
theorem file_twin (hpar : Parallel loader lex last last') {unit unit' : Nat}
    {group group' : List Nat} {docs docs' : List Document} {p p' : Progress} {s₁ s₁' : Session}
    (hunit : SameUnit s s' unit unit') (hgroup : List.Forall₂ (SameUnit s s') group group')
    (h : s.Twin lex s' last last')
    (hall : visitAll loader (visits s.catalog group group.length unit) { docs := docs }
      (s.note [.reading (s.catalog.pathOf unit)]) = (.ok p, s₁))
    (hall' : visitAll loader (visits s'.catalog group' group'.length unit') { docs := docs' }
      (s'.note [.reading (s'.catalog.pathOf unit')]) = (.ok p', s₁'))
    (hlast : Steps loader s₁ last) (hlast' : Steps loader s₁' last') :
    (made loader [] (visits s'.catalog group' group'.length unit') { docs := docs' }
        (s'.note [.reading (s'.catalog.pathOf unit')])).map Made.doc =
      (made loader [] (visits s.catalog group group.length unit) { docs := docs }
        (s.note [.reading (s.catalog.pathOf unit)])).map Made.doc ∧
    s₁.Twin lex s₁' last last' := by
  have hvisits := visitAll_steps loader (visits s.catalog group group.length unit)
    { docs := docs } (s.note [.reading (s.catalog.pathOf unit)])
  have hvisits' := visitAll_steps loader (visits s'.catalog group' group'.length unit')
    { docs := docs' } (s'.note [.reading (s'.catalog.pathOf unit')])
  rw [hall] at hvisits
  rw [hall'] at hvisits'
  have hnoted := h.steps hpar (.single (.note s _ rfl)) (hvisits.trans hlast)
    (.single (.note s' _ rfl)) (hvisits'.trans hlast')
  have hsame : List.Forall₂ (SameVisit (s.note [.reading (s.catalog.pathOf unit)])
      (s'.note [.reading (s'.catalog.pathOf unit')]))
      (visits s.catalog group group.length unit)
      (visits s'.catalog group' group'.length unit') := by
    rw [← hgroup.length_eq]
    exact visits_twin hgroup group.length hunit
  have hp : SameProgress { docs := docs } { docs := docs' } := ⟨rfl, rfl⟩
  exact ⟨visitAll_twin hpar hsame hnoted hp hall hall' hlast hlast' [] [],
    hnoted.steps hpar hvisits hlast hvisits' hlast'⟩

/-- **Chapters.** Where one run reads the same files as the other one and some more, the chapters of
the shared files are the same. -/
theorem chapters_twin (hpar : Parallel loader lex last last') {shared : FilePath → Bool}
    {s₀ : Session} {groups groups' : List (List Nat)} {docs docs₁ docs' docs₁' : List Document}
    {t t' : Session} (hstart : Steps loader s₀ s)
    (hvalid : ∀ group ∈ groups, group ≠ [] ∧ ∀ id ∈ group, id < s₀.catalog.units.length)
    (hgroups : List.Forall₂ (List.Forall₂ (SameUnit s s'))
      (groups.filter (isSharedGroup shared s₀.catalog)) groups')
    (h : s.Twin lex s' last last') (hrun : assembleFiles loader groups docs s = (.ok docs₁, t))
    (hrun' : assembleFiles loader groups' docs' s' = (.ok docs₁', t'))
    (hlast : Steps loader t last) (hlast' : Steps loader t' last') :
    (chapters loader groups' docs' s').map Chapter.contents =
      ((chapters loader groups docs s).filter fun x => shared x.path).map Chapter.contents := by
  induction groups generalizing groups' docs docs' s s' with
  | nil =>
    cases hgroups
    rw [chapters, chapters]
    rfl
  | cons group rest ih =>
    have hrestValid := fun other hother => hvalid other (List.mem_cons_of_mem group hother)
    obtain ⟨hne, hids⟩ := hvalid group List.mem_cons_self
    cases group with
    | nil => exact absurd rfl hne
    | cons unit others =>
      -- the first run reads its next file
      have hpath : s.catalog.pathOf unit = s₀.catalog.pathOf unit :=
        hstart.grows.pathOf_eq (hids unit List.mem_cons_self)
      obtain ⟨p, s₁, hall, hrest, hchapters⟩ := assembleFiles_cons_ok rfl rfl hrun
      obtain ⟨hnote, hvisits, hothers⟩ := assembleFiles_cons_steps hall hrest
      have hfirst : Steps loader s s₁ := hnote.trans hvisits
      have hlast₁ : Steps loader s₁ last := hothers.trans hlast
      rw [hchapters]
      by_cases hshared : shared (s₀.catalog.pathOf unit)
      · -- the other run reads it as well
        have hkeep : isSharedGroup shared s₀.catalog (unit :: others) = true := hshared
        rw [List.filter_cons_of_pos hkeep] at hgroups
        obtain ⟨group', rest', hgroup, hmore, rfl⟩ := List.forall₂_cons_left_iff.mp hgroups
        obtain ⟨unit', others', hunit, -, rfl⟩ := List.forall₂_cons_left_iff.mp hgroup
        obtain ⟨p', s₁', hall', hrest', hchapters'⟩ := assembleFiles_cons_ok rfl rfl hrun'
        obtain ⟨hnote', hvisits', hothers'⟩ := assembleFiles_cons_steps hall' hrest'
        have hfirst' : Steps loader s' s₁' := hnote'.trans hvisits'
        obtain ⟨hdocs, htwin⟩ := file_twin hpar hunit hgroup h hall hall' hlast₁
          (hothers'.trans hlast')
        rw [hchapters', List.filter_cons_of_pos (by simpa only [hpath] using hshared),
          List.map_cons, List.map_cons]
        congr 1
        · exact Prod.ext hunit.pathOf_eq hdocs
        · refine ih (hstart.trans hfirst) hrestValid ?_ htwin hrest hrest'
          exact hmore.imp fun _ _ hgroup => hgroup.imp fun _ _ hsame =>
            hsame.grows hfirst.grows hfirst'.grows
      · -- the other run goes on with its own next file
        have hdrop : isSharedGroup shared s₀.catalog (unit :: others) = false :=
          Bool.eq_false_iff.mpr hshared
        have hsteps' := assembleFiles_steps loader groups' docs' s'
        rw [hrun'] at hsteps'
        rw [List.filter_cons_of_neg (by rw [hdrop]; exact Bool.false_ne_true)] at hgroups
        rw [List.filter_cons_of_neg (by simp only [hpath]; exact hshared)]
        refine ih (hstart.trans hfirst) hrestValid ?_ ?_ hrest hrun'
        · exact hgroups.imp fun _ _ hgroup =>
            hgroup.imp fun _ _ hsame => hsame.grows hfirst.grows (Grows.refl s')
        · exact h.steps hpar hfirst hlast₁ .refl (hsteps'.trans hlast')

end Assembly

end ApiDocs
