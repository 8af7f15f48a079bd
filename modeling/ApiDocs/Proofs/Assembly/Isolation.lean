import ApiDocs.Proofs.Assembly.Twins
import ApiDocs.Proofs.Expansion.Uniform

/-!
# Operations on their own

Where nothing is left to load, the operations of a run do not influence each other, though they
share a session. Sessions that agree make the same of a line (`Directive.applyLine_agree`). So the
document of an operation is the one that it has alone: in a fresh session, after nothing but the
general comments before it in its file (`visitAll_alone`). Other operations that come, go or change
leave it as it is, up to its number (`operations_stand_alone`).
-/

namespace ApiDocs

open Session

variable {loader : Loader} {s s' : Session}

namespace Directive

/-! ## Lines -/

/-- What a directive gets for a type name, without the session. -/
theorem expand_fst (loader : Loader) (unit : Nat) (name : String) (s : Session) :
    (expand (some ⟨loader, unit⟩) name s).1 =
      if name.isEmpty then none else (s.expandNamed loader name unit).1 := by
  unfold expand
  split
  · rfl
  · simp only
    rcases s.expandNamed loader name unit with ⟨_ | e, s₁⟩ <;> rfl

/-- Sessions that agree describe the same parameters. -/
theorem describe_agree {α : Type} {ofField : Field → α} {single? : String → Option α}
    {cause : DirectiveCause} (hloader : loader.GivesNothing) (h : Agree s s') (unit : Nat)
    (payload : String) :
    (describe (some ⟨loader, unit⟩) ofField single? cause payload s').1 =
      (describe (some ⟨loader, unit⟩) ofField single? cause payload s).1 := by
  cases hname : typeReference? payload with
  | some name =>
    rw [describe_of_typeReference? hname, describe_of_typeReference? hname, expand_fst, expand_fst,
      h.expandNamed_fst hloader]
  | none =>
    unfold describe
    rw [hname]
    simp only
    cases single? payload <;> rfl

/-- A directive does the same in sessions that agree. -/
theorem applyKeyword_agree (hloader : loader.GivesNothing) (h : Agree s s') (unit : Nat)
    (keyword : Keyword) (payload : String) (doc : Document) :
    (applyKeyword (some ⟨loader, unit⟩) keyword payload doc s').1 =
      (applyKeyword (some ⟨loader, unit⟩) keyword payload doc s).1 := by
  cases keyword with
  | query => exact congrArg (Except.map _) (describe_agree hloader h unit payload)
  | param => exact congrArg (Except.map _) (describe_agree hloader h unit payload)
  | response => exact congrArg (Except.map _) (describe_agree hloader h unit payload)
  | failure => exact congrArg (Except.map _) (describe_agree hloader h unit payload)
  | _ => rfl

/-- **Lines.** Sessions that agree make the same of a line. -/
theorem applyLine_agree (hloader : loader.GivesNothing) (h : Agree s s') (unit : Nat)
    (operation line : String) (doc : Document) :
    (applyLine (some ⟨loader, unit⟩) operation line doc s').1 =
      (applyLine (some ⟨loader, unit⟩) operation line doc s).1 := by
  unfold applyLine
  cases splitLine? line with
  | none => rfl
  | some parts =>
    obtain ⟨word, payload⟩ := parts
    simp only
    split
    · rfl
    · exact applyKeyword_agree hloader h unit _ payload doc

end Directive

namespace Assembly

/-- **Lines.** They make the same document in sessions that agree. -/
theorem applyLines_agree (hloader : loader.GivesNothing) (h : Agree s s') (unit : Nat)
    (operation : String) (lines : List String) (doc : Document) :
    (applyLines ⟨loader, unit⟩ operation lines doc s').1 =
      (applyLines ⟨loader, unit⟩ operation lines doc s).1 := by
  induction lines generalizing doc s s' with
  | nil => rfl
  | cons line rest ih =>
    have hnoted : Agree (if operation.isEmpty then s else s.note [.applying operation line])
        (if operation.isEmpty then s' else s'.note [.applying operation line]) := by
      split
      · exact h
      · exact h.note _ _
    rw [applyLines, applyLines]
    generalize (if operation.isEmpty then s else s.note [.applying operation line]) = s₁ at *
    generalize (if operation.isEmpty then s' else s'.note [.applying operation line]) = s₁' at *
    have hsame := Directive.applyLine_agree hloader hnoted unit operation line doc
    have hnext := hnoted.steps hloader
      (Directive.applyLine_steps ⟨loader, unit⟩ operation line doc s₁)
      (Directive.applyLine_steps ⟨loader, unit⟩ operation line doc s₁')
    rcases hleft : Directive.applyLine (some ⟨loader, unit⟩) operation line doc s₁ with
      ⟨result, s₂⟩
    rcases hright : Directive.applyLine (some ⟨loader, unit⟩) operation line doc s₁' with
      ⟨result', s₂'⟩
    rw [hleft, hright] at hsame hnext
    obtain rfl : result' = result := hsame
    cases result' with
    | error e => rfl
    | ok doc₁ => exact ih hnext doc₁

/-! ## One operation -/

/-- The lines of general comments, each with the number of the unit in which they stand. -/
def comments (vs : List Visit) : List (Nat × List String) :=
  vs.filterMap fun v =>
    match v.decl with
    | .general lines => some (v.unit, lines)
    | _ => none

/-- Applies the lines of general comments one after the other, up to the first line that is
wrong. -/
def applyComments (loader : Loader) :
    List (Nat × List String) → Document → Session → Except DirectiveError Document × Session
  | [], doc, s => (.ok doc, s)
  | (unit, lines) :: rest, doc, s =>
    match applyLines ⟨loader, unit⟩ "" lines doc s with
    | (.ok doc, s) => applyComments loader rest doc s
    | (.error e, s) => (.error e, s)

/-- What an operation is made into on its own, after what was read before it: the general comments
among that are applied first, and then the lines of the operation. Nothing is made of anything else,
nor of an operation without a title or a URL. -/
def alone (loader : Loader) (s : Session) (earlier : List Visit) (v : Visit) : Option Made :=
  match v.decl, applyComments loader (comments earlier) {} s with
  | .operation name lines, (.ok general, s) =>
    match (applyLines ⟨loader, v.unit⟩ name lines general.seeded s).1 with
    | .ok doc => if doc.isIncomplete then none else some ⟨earlier, v, general, doc⟩
    | .error _ => none
  | _, _ => none

/-- What each operation is made into on its own, after others were read. -/
def alones (loader : Loader) (s : Session) : List Visit → List Visit → List Made
  | _, [] => []
  | earlier, v :: rest =>
    (alone loader s earlier v).toList ++ alones loader s (earlier ++ [v]) rest

/-- The same with another number. -/
def Made.withOrder (x : Made) (n : UInt32) : Made :=
  { x with doc := { x.doc with order := n } }

/-- Numbers documents from `n` on. -/
def numbered (n : UInt32) : List Made → List Made
  | [] => []
  | x :: xs => x.withOrder n :: numbered (n + 1) xs

/-- The numbers go on behind the first documents. -/
theorem numbered_append (n : UInt32) (xs ys : List Made) :
    numbered n (xs ++ ys) = numbered n xs ++ numbered (n + UInt32.ofNat xs.length) ys := by
  induction xs generalizing n with
  | nil => exact congrArg (numbered · ys) (UInt32.add_zero n).symm
  | cons x xs ih =>
    have hnext : n + 1 + UInt32.ofNat xs.length = n + UInt32.ofNat (x :: xs).length := by
      rw [List.length_cons, Nat.add_comm, UInt32.ofNat_add, UInt32.add_assoc]
      rfl
    rw [List.cons_append, numbered, numbered, List.cons_append, ih, hnext]

/-- A numbered document is one of the documents, with its number. -/
theorem mem_numbered {n : UInt32} {xs : List Made} {x : Made} (h : x ∈ numbered n xs) :
    ∃ y ∈ xs, x = y.withOrder x.doc.order := by
  induction xs generalizing n with
  | nil => cases h
  | cons y xs ih =>
    rw [numbered] at h
    rcases List.mem_cons.mp h with rfl | hrest
    · exact ⟨y, List.mem_cons_self, rfl⟩
    · obtain ⟨z, hz, heq⟩ := ih hrest
      exact ⟨z, List.mem_cons_of_mem y hz, heq⟩

/-- Every document gets some number. -/
theorem exists_mem_numbered {xs : List Made} {y : Made} (h : y ∈ xs) (n : UInt32) :
    ∃ k, y.withOrder k ∈ numbered n xs := by
  induction xs generalizing n with
  | nil => cases h
  | cons x xs ih =>
    rw [numbered]
    rcases List.mem_cons.mp h with rfl | hrest
    · exact ⟨n, List.mem_cons_self⟩
    · obtain ⟨k, hk⟩ := ih hrest (n + 1)
      exact ⟨k, List.mem_cons_of_mem _ hk⟩

theorem applyComments_steps (loader : Loader) (cs : List (Nat × List String)) (doc : Document)
    (s : Session) : Steps loader s (applyComments loader cs doc s).2 := by
  induction cs generalizing doc s with
  | nil => exact .refl
  | cons c rest ih =>
    have hlines := applyLines_steps ⟨loader, c.1⟩ "" c.2 doc s
    rw [applyComments]
    rcases hresult : applyLines ⟨loader, c.1⟩ "" c.2 doc s with ⟨e | doc₁, s₁⟩
    · rw [hresult] at hlines
      exact hlines
    · rw [hresult] at hlines
      exact hlines.trans (ih doc₁ s₁)

/-- A comment is applied after those before it. -/
theorem applyComments_concat {cs : List (Nat × List String)} {c : Nat × List String}
    {doc general : Document} {s₁ : Session}
    (h : applyComments loader cs doc s = (.ok general, s₁)) :
    applyComments loader (cs ++ [c]) doc s = applyLines ⟨loader, c.1⟩ "" c.2 general s₁ := by
  induction cs generalizing doc s with
  | nil =>
    cases h
    rw [List.nil_append, applyComments]
    rcases applyLines ⟨loader, c.1⟩ "" c.2 general s₁ with ⟨e | doc₁, s₂⟩ <;> rfl
  | cons first rest ih =>
    rw [List.cons_append, applyComments]
    rw [applyComments] at h
    rcases hfirst : applyLines ⟨loader, first.1⟩ "" first.2 doc s with ⟨e | doc₁, s₂⟩
    · rw [hfirst] at h
      cases h
    · rw [hfirst] at h
      exact ih h

/-- Comments make the same document in sessions that agree. -/
theorem applyComments_agree (hloader : loader.GivesNothing) (h : Agree s s')
    (cs : List (Nat × List String)) (doc : Document) :
    (applyComments loader cs doc s').1 = (applyComments loader cs doc s).1 := by
  induction cs generalizing doc s s' with
  | nil => rfl
  | cons c rest ih =>
    have hsame := applyLines_agree hloader h c.1 "" c.2 doc
    have hnext := h.steps hloader (applyLines_steps ⟨loader, c.1⟩ "" c.2 doc s)
      (applyLines_steps ⟨loader, c.1⟩ "" c.2 doc s')
    rw [applyComments, applyComments]
    rcases hleft : applyLines ⟨loader, c.1⟩ "" c.2 doc s with ⟨result, s₁⟩
    rcases hright : applyLines ⟨loader, c.1⟩ "" c.2 doc s' with ⟨result', s₁'⟩
    rw [hleft, hright] at hsame hnext
    obtain rfl : result' = result := hsame
    cases result' with
    | error e => rfl
    | ok doc₁ => exact ih hnext doc₁

/-! ## A run -/

/-- What an operation is made into on its own, from the general document of the comments. -/
theorem alone_operation {earlier : List Visit} {unit : Nat} {name : String} {lines : List String}
    {general doc : Document} {s₁ : Session}
    (hcomments : applyComments loader (comments earlier) {} s = (.ok general, s₁))
    (hlines : (applyLines ⟨loader, unit⟩ name lines general.seeded s₁).1 = .ok doc) :
    alone loader s earlier ⟨unit, .operation name lines⟩ =
      if doc.isIncomplete then none
      else some ⟨earlier, ⟨unit, .operation name lines⟩, general, doc⟩ := by
  rw [alone, hcomments]
  simp only [hlines]

/-- A declaration that a run reads is made into what it is made into on its own, and leaves the
general document that the comments have built. -/
theorem visit_alone (hloader : loader.GivesNothing) (hs : s.IsIdle) {earlier : List Visit}
    {v : Visit} {p p' : Progress} {s₁ t t' : Session} (ht : Steps loader s t)
    (hcomments : applyComments loader (comments earlier) {} s = (.ok p.general, s₁))
    (h : visit loader v p t = (.ok p', t')) :
    (∃ s₂, applyComments loader (comments (earlier ++ [v])) {} s = (.ok p'.general, s₂)) ∧
      p'.order = p.order + UInt32.ofNat (alone loader s earlier v).toList.length ∧
        (added p p').map (fun doc => ⟨earlier, v, p.general, doc⟩) =
          numbered p.order (alone loader s earlier v).toList := by
  obtain ⟨unit, decl⟩ := v
  have hsteps := applyComments_steps loader (comments earlier) {} s
  rw [hcomments] at hsteps
  -- the session of the run agrees with the fresh one in which only the comments were applied
  have hagree : Agree t s₁ := (Agree.refl hs).steps hloader ht hsteps
  rw [comments, List.filterMap_append, ← comments]
  rcases visit_cases h with ⟨lines, general, rfl, happly, rfl⟩ |
    ⟨name, lines, doc, t₁, rfl, happly, -, hdoc, rfl⟩ |
    ⟨name, lines, doc, t₁, rfl, happly, -, hdoc, rfl⟩ | ⟨path, rfl, rfl⟩
  · have hsame := applyLines_agree hloader hagree unit "" lines p.general
    rw [happly] at hsame
    have hconcat := applyComments_concat (c := (unit, lines)) hcomments
    refine ⟨⟨(applyLines ⟨loader, unit⟩ "" lines p.general s₁).2, ?_⟩,
      (UInt32.add_zero p.order).symm, ?_⟩
    · exact hconcat.trans (Prod.ext hsame rfl)
    rw [added, List.drop_length]
    rfl
  · have hsame := applyLines_agree hloader hagree unit name lines p'.general.seeded
    rw [happly] at hsame
    rw [alone_operation hcomments hsame, if_pos hdoc, added, List.drop_length]
    exact ⟨⟨s₁, (List.append_nil (comments earlier)).symm ▸ hcomments⟩,
      (UInt32.add_zero _).symm, rfl⟩
  · have hsame := applyLines_agree hloader hagree unit name lines p.general.seeded
    rw [happly] at hsame
    rw [alone_operation hcomments hsame, if_neg (by rw [hdoc]; exact Bool.false_ne_true), added,
      List.drop_left]
    exact ⟨⟨s₁, (List.append_nil (comments earlier)).symm ▸ hcomments⟩, rfl, rfl⟩
  · rw [added, List.drop_length]
    exact ⟨⟨s₁, (List.append_nil (comments earlier)).symm ▸ hcomments⟩,
      (UInt32.add_zero _).symm, rfl⟩

/-- **A file.** What a run makes of declarations is what each operation is made into on its own. -/
theorem visitAll_alone (hloader : loader.GivesNothing) (hs : s.IsIdle)
    {vs earlier : List Visit} {p p' : Progress} {s₁ t t' : Session} (ht : Steps loader s t)
    (hcomments : applyComments loader (comments earlier) {} s = (.ok p.general, s₁))
    (h : visitAll loader vs p t = (.ok p', t')) :
    made loader earlier vs p t = numbered p.order (alones loader s earlier vs) := by
  induction vs generalizing earlier p s₁ t with
  | nil => rfl
  | cons v rest ih =>
    obtain ⟨p₁, t₁, hvisit, hrest⟩ := visitAll_cons_ok h
    have hsteps := visit_steps loader v p t
    rw [hvisit] at hsteps
    obtain ⟨⟨s₂, hcomments'⟩, horder, hmade⟩ := visit_alone hloader hs ht hcomments hvisit
    rw [made_cons hvisit, hmade, ih (ht.trans hsteps) hcomments' hrest, horder, alones,
      numbered_append]

/-- An operation on its own is made into the same document in sessions that agree. -/
theorem alone_agree (hloader : loader.GivesNothing) (h : Agree s s') (earlier : List Visit)
    (v : Visit) : alone loader s' earlier v = alone loader s earlier v := by
  have hsame := applyComments_agree hloader h (comments earlier) {}
  have hnext := h.steps hloader (applyComments_steps loader (comments earlier) {} s)
    (applyComments_steps loader (comments earlier) {} s')
  unfold alone
  rcases hleft : applyComments loader (comments earlier) {} s with ⟨result, s₁⟩
  rcases hright : applyComments loader (comments earlier) {} s' with ⟨result', s₁'⟩
  rw [hleft, hright] at hsame hnext
  obtain rfl : result' = result := hsame
  cases v.decl with
  | operation name lines =>
    cases result' with
    | error e => rfl
    | ok general =>
      simp only
      rw [applyLines_agree hloader hnext]
  | _ => rfl

/-- What comes out of an operation on its own. -/
theorem alone_cases {earlier : List Visit} {v : Visit} {x : Made}
    (h : alone loader s earlier v = some x) :
    ∃ name lines general doc s₁, v.decl = .operation name lines ∧
      applyComments loader (comments earlier) {} s = (.ok general, s₁) ∧
        (applyLines ⟨loader, v.unit⟩ name lines general.seeded s₁).1 = .ok doc ∧
          doc.isIncomplete = false ∧ x = ⟨earlier, v, general, doc⟩ := by
  unfold alone at h
  split at h
  · rename_i name lines general s₁ hdecl hcomments
    split at h
    · rename_i doc hlines
      split at h
      · cases h
      · rename_i hdoc
        exact ⟨name, lines, general, doc, s₁, hdecl, hcomments, hlines, by simpa using hdoc,
          (Option.some.inj h).symm⟩
    · cases h
  · cases h

/-- Of what was read before an operation, only the comments count. -/
theorem alone_of_comments_eq {earlier earlier' : List Visit} {v : Visit} {x : Made}
    (h : alone loader s earlier v = some x) (hcomments : comments earlier' = comments earlier) :
    alone loader s earlier' v = some { x with earlier := earlier' } := by
  obtain ⟨unit, decl⟩ := v
  obtain ⟨name, lines, general, doc, s₁, rfl, hgeneral, hlines, hdoc, rfl⟩ := alone_cases h
  rw [← hcomments] at hgeneral
  rw [alone_operation hgeneral hlines, hdoc]
  rfl

/-- What operations are made into one by one is what one of them is made into at its place. -/
theorem alone_of_mem_alones {vs earlier : List Visit} {x : Made}
    (h : x ∈ alones loader s earlier vs) : alone loader s x.earlier x.visit = some x := by
  induction vs generalizing earlier with
  | nil => exact nomatch h
  | cons v rest ih =>
    rw [alones] at h
    rcases List.mem_append.mp h with hfirst | hrest
    · have halone : alone loader s earlier v = some x := Option.mem_toList.mp hfirst
      obtain ⟨name, lines, general, doc, s₁, -, -, -, -, rfl⟩ := alone_cases halone
      exact halone
    · exact ih hrest

/-- An operation that is made into a document on its own is so among others. -/
theorem mem_alones {earlier before after : List Visit} {v : Visit} {x : Made}
    (h : alone loader s (earlier ++ before) v = some x) :
    x ∈ alones loader s earlier (before ++ v :: after) := by
  induction before generalizing earlier with
  | nil =>
    rw [List.append_nil] at h
    rw [List.nil_append, alones, h]
    exact List.mem_append_left _ (List.mem_singleton_self x)
  | cons w rest ih =>
    rw [List.cons_append, alones]
    refine List.mem_append_right _ (ih ?_)
    rw [List.append_assoc]
    exact h

/-! ## Other operations -/

end Assembly

/-- Whether a declaration is an operation. -/
def Decl.isOperation : Decl → Bool
  | .operation _ _ => true
  | _ => false

/-- A unit without its operations. -/
def SourceUnit.withoutOperations (u : SourceUnit) : SourceUnit :=
  { u with decls := u.decls.filter (!·.isOperation) }

/-- Whether units differ in nothing but their operations: which there are, in which order among the
other declarations, and with which lines. -/
def SameButOperations (us us' : List SourceUnit) : Prop :=
  us'.map SourceUnit.withoutOperations = us.map SourceUnit.withoutOperations

namespace SameButOperations

variable {us us' : List SourceUnit}

/-- What does not depend on operations is the same. -/
theorem map_eq {α : Type} (h : SameButOperations us us') {f : SourceUnit → α}
    (hf : ∀ u, f u.withoutOperations = f u) : us'.map f = us.map f := by
  have hmap := congrArg (List.map f) h
  rw [List.map_map, List.map_map] at hmap
  rwa [show f ∘ SourceUnit.withoutOperations = f from funext hf] at hmap

theorem getElem?_eq {α : Type} (h : SameButOperations us us') {f : SourceUnit → α}
    (hf : ∀ u, f u.withoutOperations = f u) (unit : Nat) : us'[unit]?.map f = us[unit]?.map f := by
  rw [← List.getElem?_map, ← List.getElem?_map, h.map_eq hf]

/-- The same types are declared. -/
theorem offered_eq (h : SameButOperations us us') :
    Catalog.offered us' = Catalog.offered us := by
  have hoffered : ∀ us : List SourceUnit,
      Catalog.offered (us.map SourceUnit.withoutOperations) = Catalog.offered us := by
    intro us
    rw [Catalog.offered, Catalog.offered, List.zipIdx_map, List.flatMap_map]
    rfl
  rw [← hoffered us', ← hoffered us, h]

end SameButOperations

/-- The types of a catalog that a run builds are those that its units declare. -/
theorem Session.Built.toTypeIndex_eq (h : Built s) :
    s.catalog.toTypeIndex = (Catalog.offered s.catalog.units).foldl TypeIndex.register {} := by
  refine h.catalog_induction
    (P := fun x us => x = (Catalog.offered us).foldl TypeIndex.register {}) rfl ?_
  intro c u hc
  have hunits : (c.addUnit u).units = c.units ++ [u] := rfl
  rw [hunits, Catalog.offered_concat, List.foldl_append, ← hc]
  rfl

/-- Sessions whose units differ in nothing but their operations agree. -/
theorem Session.Built.agree (h : Built s) (h' : Built s')
    (hunits : SameButOperations s.catalog.units s'.catalog.units) : Agree s s' where
  index := by rw [h.toTypeIndex_eq, h'.toTypeIndex_eq, hunits.offered_eq]
  units := hunits.map_eq fun _ => rfl
  left := h.isIdle
  right := h'.isIdle

namespace Assembly

variable {c c' : Catalog}

theorem pathOf_eq (h : SameButOperations c.units c'.units) (unit : Nat) :
    c'.pathOf unit = c.pathOf unit := by
  have hpath := h.getElem?_eq (f := SourceUnit.path) (fun _ => rfl) unit
  rw [Catalog.pathOf, Catalog.pathOf, hpath]

/-- Units that differ in their operations only are in the same files. -/
theorem groupByFile_eq (h : SameButOperations c.units c'.units) (units : List Nat) :
    groupByFile c' units = groupByFile c units := by
  induction units with
  | nil => rfl
  | cons unit rest ih =>
    rw [groupByFile, groupByFile, ih]
    simp only [pathOf_eq h]

/-- The same files are read. -/
theorem files_eq (h : SameButOperations c.units c'.units) (hscanned : c'.scanned = c.scanned) :
    files c' = files c := by
  rw [files, files, Catalog.scannedUnits, Catalog.scannedUnits, hscanned, groupByFile_eq h]
  simp only [pathOf_eq h]

theorem unitOfModule?_eq (h : SameButOperations c.units c'.units) (units : List Nat)
    (module : ModulePath) : unitOfModule? c' units module = unitOfModule? c units module := by
  have hmodule := h.getElem?_eq (f := SourceUnit.module) fun _ => rfl
  rw [unitOfModule?, unitOfModule?]
  simp only [hmodule]

/-- No comments are read for operations. -/
theorem comments_flatMap (decls : List Decl) {read : Decl → List Visit}
    (h : ∀ decl, decl.isOperation → comments (read decl) = []) :
    comments (decls.flatMap read) =
      (decls.filter (!·.isOperation)).flatMap fun decl => comments (read decl) := by
  induction decls with
  | nil => rfl
  | cons decl rest ih =>
    rw [List.flatMap_cons, comments, List.filterMap_append, ← comments, ← comments, ih]
    cases hdecl : decl.isOperation with
    | true => rw [h decl hdecl, List.filter_cons_of_neg (by rw [hdecl]; decide), List.nil_append]
    | false => rw [List.filter_cons_of_pos (by rw [hdecl]; decide), List.flatMap_cons]

/-- The comments of a file are read in the same order. -/
theorem comments_visits_eq (h : SameButOperations c.units c'.units) (units : List Nat)
    (depth unit : Nat) :
    comments (visits c' units depth unit) = comments (visits c units depth unit) := by
  -- by induction on the depth: modules are read where they stand among the comments
  induction depth generalizing unit with
  | zero => rfl
  | succ depth ih =>
    have hdecls : ((c'.units[unit]?.map SourceUnit.decls).getD []).filter (!·.isOperation) =
        ((c.units[unit]?.map SourceUnit.decls).getD []).filter (!·.isOperation) := by
      have hfilter := h.getElem?_eq (f := fun u => u.decls.filter (!·.isOperation))
        (fun u => by simp [SourceUnit.withoutOperations]) unit
      revert hfilter
      cases c'.units[unit]? <;> cases c.units[unit]? <;> simp
    have hread : ∀ decl, comments (visited c' units depth unit decl) =
        comments (visited c units depth unit decl) := by
      intro decl
      cases decl with
      | module path =>
        rw [visited, visited, unitOfModule?_eq h]
        cases unitOfModule? c units path with
        | none => rfl
        | some inner => exact ih inner
      | _ => rfl
    have hnone : ∀ (c : Catalog) (decl : Decl), decl.isOperation →
        comments (visited c units depth unit decl) = [] := by
      intro c decl hdecl
      cases decl with
      | operation name lines => rfl
      | _ => exact absurd hdecl Bool.false_ne_true
    rw [visits_succ, visits_succ, comments_flatMap _ (hnone c'), comments_flatMap _ (hnone c),
      hdecls]
    simp only [hread]

/-! ## All operations -/

/-- What a run makes of each file is what each operation is made into on its own. -/
theorem chapters_alone {docs : List Document} (hloader : loader.GivesNothing) (hs : Built s)
    (hok : (s.assemble loader).1 = .ok docs) :
    List.Forall₂ (fun group c => c.path = s.catalog.pathOf (group.headD 0) ∧
        comments c.visits =
          comments (visits s.catalog group group.length (group.headD 0)) ∧
        c.made = numbered 1 (alones loader s [] c.visits))
      (files s.catalog) (s.chapters loader) := by
  obtain ⟨s', hrun⟩ := assembleFiles_of_assemble_ok hok
  have hstart : Steps loader s s.start := .single (.note s _ rfl)
  refine forall₂_chapters (files_inOrder s.catalog).ne_nil hrun ?_
  intro unit others docs s₀ s₁ p vs _ hsteps hvs hall
  have hunits := (hsteps.unchanged hloader).2
  have hsame : SameButOperations s.catalog.units s₀.catalog.units := by
    rw [hunits]
    rfl
  refine ⟨pathOf_eq hsame unit, ?_, ?_⟩
  · rw [hvs]
    exact comments_visits_eq hsame (unit :: others) (unit :: others).length unit
  · exact visitAll_alone hloader hs.isIdle (hstart.trans hsteps) rfl hall

/-- Whether an operation that has a document in a chapter has the same one, up to its number, in
another chapter, wherever it stands there after the same comments. -/
def Chapter.SharesDocuments (c c' : Chapter) : Prop :=
  ∀ x ∈ c.made, ∀ earlier later, c'.visits = earlier ++ x.visit :: later →
    comments earlier = comments x.earlier →
      ∃ y ∈ c'.made, y.earlier = earlier ∧ y.visit = x.visit ∧
        y.doc = { x.doc with order := y.doc.order }

/-- **Chapters.** Operations that are in two chapters are made into the same documents. -/
theorem sharesDocuments_of_agree (hloader : loader.GivesNothing) (h : Agree s s') {c c' : Chapter}
    (hc : c.made = numbered 1 (alones loader s [] c.visits))
    (hc' : c'.made = numbered 1 (alones loader s' [] c'.visits)) : c.SharesDocuments c' := by
  intro x hx earlier later hvisits hcomments
  rw [hc] at hx
  obtain ⟨y, hy, hxy⟩ := mem_numbered hx
  have hvisit : x.visit = y.visit := by rw [hxy]; rfl
  have hearlier : x.earlier = y.earlier := by rw [hxy]; rfl
  rw [hearlier] at hcomments
  rw [hvisit] at hvisits
  -- what the operation is made into at its place in the first chapter, it is made into in the other
  have halone := alone_of_comments_eq (alone_of_mem_alones hy) hcomments
  rw [← alone_agree hloader h] at halone
  have hmem : { y with earlier := earlier } ∈ alones loader s' [] c'.visits := by
    rw [hvisits]
    exact mem_alones halone
  obtain ⟨k, hk⟩ := exists_mem_numbered hmem 1
  rw [← hc'] at hk
  refine ⟨_, hk, rfl, hvisit.symm, ?_⟩
  rw [hxy]
  rfl

/-- Two lists that go along with a third one go along with each other. -/
theorem forall₂_of_left {α β γ : Type} {P : α → β → Prop} {Q : α → γ → Prop} {l : List α}
    {l₁ : List β} {l₂ : List γ} (h₁ : List.Forall₂ P l l₁) (h₂ : List.Forall₂ Q l l₂) :
    List.Forall₂ (fun b c => ∃ a, P a b ∧ Q a c) l₁ l₂ := by
  induction h₁ generalizing l₂ with
  | nil =>
    cases h₂
    exact .nil
  | cons hfirst _ ih =>
    cases h₂ with
    | cons hfirst' hrest' => exact .cons ⟨_, hfirst, hfirst'⟩ (ih hrest')

end Assembly

/-- **Operations on their own.** With a loader that gives nothing, the documents of a run without
failures are those of its chapters, and what a chapter holds is what its operations are made into
one by one: each in a fresh session, after the general comments before it in its file, and numbered
from 1 on. Another run whose units differ in nothing but their operations reads the same files with
the same comments, and every operation that stands there after the same comments keeps its
document, up to its number. -/
theorem operations_stand_alone {loader : Loader} (hloader : loader.GivesNothing) {s : Session}
    {docs : List Document} (hs : Built s) (hok : (s.assemble loader).1 = .ok docs) :
    docs = (s.chapters loader).flatMap Assembly.Chapter.docs ∧
    (∀ c ∈ s.chapters loader,
      c.made = Assembly.numbered 1 (Assembly.alones loader s [] c.visits)) ∧
    ∀ (s' : Session) (docs' : List Document), Built s' →
      SameButOperations s.catalog.units s'.catalog.units →
      s'.catalog.scanned = s.catalog.scanned → (s'.assemble loader).1 = .ok docs' →
        List.Forall₂ (fun c c' => c'.path = c.path ∧
            Assembly.comments c'.visits = Assembly.comments c.visits ∧ c.SharesDocuments c')
          (s.chapters loader) (s'.chapters loader) := by
  have hchapters := Assembly.chapters_alone hloader hs hok
  refine ⟨?_, ?_, ?_⟩
  · obtain ⟨s', hrun⟩ := assembleFiles_of_assemble_ok hok
    exact Assembly.docs_eq_flatMap_chapters hrun
  · intro c hc
    obtain ⟨group, -, -, -, hmade⟩ := Assembly.exists_left_of_mem hchapters hc
    exact hmade
  · intro s' docs' hs' hunits hscanned hok'
    have hchapters' := Assembly.chapters_alone hloader hs' hok'
    rw [Assembly.files_eq hunits hscanned] at hchapters'
    refine (Assembly.forall₂_of_left hchapters hchapters').imp ?_
    rintro c c' ⟨group, ⟨hpath, hcomments, hmade⟩, hpath', hcomments', hmade'⟩
    refine ⟨?_, ?_, ?_⟩
    · rw [hpath', hpath, Assembly.pathOf_eq hunits]
    · rw [hcomments', hcomments, Assembly.comments_visits_eq hunits]
    · exact Assembly.sharesDocuments_of_agree hloader (hs.agree hs' hunits) hmade hmade'

/-- A file with a structure and a general comment, and operations after them. -/
def userSession (operations : List Decl) : Session :=
  ({} : Session).addScanned
    [{ path := ⟨"a.rs"⟩, module := "crate::a",
       types := [⟨"User", .struct
         [⟨"name", "name", .named "String", true, false, false, false, "full name"⟩]⟩],
       decls := .general ["@catalog admin"] :: operations }]

/-- An operation that answers with the structure. -/
def answersUser (name : String) : Decl :=
  .operation name [name, "@url GET /" ++ name, "@response User\x7b\x7d"]

/-- Two operations that share the structure. -/
def listAndGet : Session :=
  userSession [answersUser "list", answersUser "get"]

/-- The second of them, after one that has no document. -/
def draftAndGet : Session :=
  userSession [.operation "draft" ["@url GET /draft"], answersUser "get"]

/-- The number and the name of a document, and how many parameters its response has. -/
def Document.summary (doc : Document) : Nat × String × Nat :=
  (doc.order.toNat, doc.name, doc.response.params.length)

theorem files_userSession (operations : List Decl) :
    Assembly.files (userSession operations).start.catalog = [[0]] := by
  have hscanned : (userSession operations).start.catalog.scanned = [0] := rfl
  rw [Assembly.files, Catalog.scannedUnits, hscanned, List.mergeSort_singleton]
  rfl

/-- An operation is left out and another one is documented as before, with another number. -/
theorem operations_stand_alone_listAndGet :
    Loader.none.GivesNothing ∧ Built listAndGet ∧ Built draftAndGet ∧
    SameButOperations listAndGet.catalog.units draftAndGet.catalog.units ∧
    draftAndGet.catalog.scanned = listAndGet.catalog.scanned ∧
    ∃ docs docs', (listAndGet.assemble Loader.none).1 = .ok docs ∧
      (draftAndGet.assemble Loader.none).1 = .ok docs' ∧
      docs.map Document.summary = [(1, "admin/list", 1), (2, "admin/get", 1)] ∧
      docs'.map Document.summary = [(1, "admin/get", 1)] ∧
      docs = (listAndGet.chapters Loader.none).flatMap Assembly.Chapter.docs ∧
      List.Forall₂ Assembly.Chapter.SharesDocuments (listAndGet.chapters Loader.none)
        (draftAndGet.chapters Loader.none) := by
  have hloader : Loader.none.GivesNothing := Loader.givesNothing_of_error fun _ => ⟨_, rfl⟩
  have hbuilt : Built listAndGet := .addScanned _ .empty
  have hbuilt' : Built draftAndGet := .addScanned _ .empty
  have hdocs : (listAndGet.assemble Loader.none).1.toOption.map (List.map Document.summary) =
      some [(1, "admin/list", 1), (2, "admin/get", 1)] := by
    rw [Session.assemble, listAndGet, files_userSession]
    decide +kernel
  have hdocs' : (draftAndGet.assemble Loader.none).1.toOption.map (List.map Document.summary) =
      some [(1, "admin/get", 1)] := by
    rw [Session.assemble, draftAndGet, files_userSession]
    decide +kernel
  cases hrun : (listAndGet.assemble Loader.none).1 with
  | error e =>
    rw [hrun] at hdocs
    cases hdocs
  | ok docs =>
    cases hrun' : (draftAndGet.assemble Loader.none).1 with
    | error e =>
      rw [hrun'] at hdocs'
      cases hdocs'
    | ok docs' =>
      rw [hrun] at hdocs
      rw [hrun'] at hdocs'
      obtain ⟨hchapters, -, hother⟩ := operations_stand_alone hloader hbuilt hrun
      have hshared := hother draftAndGet docs' hbuilt' rfl rfl hrun'
      exact ⟨hloader, hbuilt, hbuilt', rfl, rfl, docs, docs', rfl, rfl, Option.some.inj hdocs,
        Option.some.inj hdocs', hchapters, hshared.imp fun _ _ h => h.2.2⟩

end ApiDocs
