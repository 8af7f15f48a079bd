import ApiDocs.Proofs.Expansion.Twins
import ApiDocs.Proofs.Resolution.Idle

/-!
# Expansions where nothing is loaded

Where a loader gives nothing, walkers whose sessions agree go through the same types, whatever their
sessions remember: each way of a walk has the same result from both and leaves them in agreement
(`Walk.upTo_uniform`). The walk of the first depth always comes to an end, so that an expansion is
the same in sessions that agree (`Session.Agree.expand_fst`).
-/

namespace ApiDocs

namespace Walker

/-- Whether two walkers have sessions that agree, and the same stack. -/
structure Agree (w w' : Walker) : Prop where
  /-- The sessions. -/
  session : w.session.Agree w'.session
  /-- The stacks. -/
  expanding : w'.expanding = w.expanding

variable {loader : Loader} {w w' : Walker}

/-- Walkers that agree enter a structure alike. -/
theorem Agree.enter (h : w.Agree w') (path : ModulePath) : (w.enter path).Agree (w'.enter path) :=
  ⟨h.session, by rw [enter_expanding, enter_expanding, h.expanding]⟩

/-- Walkers that agree leave a structure alike. -/
theorem Agree.leave (h : w.Agree w') : w.leave.Agree w'.leave :=
  ⟨h.session, by rw [leave_expanding, leave_expanding, h.expanding]⟩

theorem Agree.note (h : w.Agree w') (events : Journal) : (w.note events).Agree (w'.note events) :=
  ⟨h.session.note events events, h.expanding⟩

/-- Walkers that agree have the same structures on the stack. -/
theorem Agree.holds_eq (h : w.Agree w') (path : ModulePath) : w'.holds path = w.holds path := by
  rw [holds, holds, h.expanding]

/-- A name stands for the same target. -/
theorem Agree.target (hloader : loader.GivesNothing) (h : w.Agree w') (name : String)
    (unit : Nat) :
    (w'.target loader name unit).1 = (w.target loader name unit).1 ∧
      (w.target loader name unit).2.Agree (w'.target loader name unit).2 := by
  have hreturns := w.target_returns loader name unit
  have hreturns' := w'.target_returns loader name unit
  have hagree := h.session.steps hloader hreturns.steps hreturns'.steps
  refine ⟨?_, hagree, ?_⟩
  · have hindex := hagree.index
    rw [target_eq] at hindex ⊢
    rw [target_eq] at hindex ⊢
    simp only at hindex ⊢
    rw [h.session.resolve_fst hloader, hindex]
  · rw [hreturns'.expanding, hreturns.expanding, h.expanding]

end Walker

namespace Walk

/-! ## Results -/

/-- Whether two walks both end with the same result, in walkers that agree, or both do not end. -/
def SameResult {α : Type} (x y : Option (α × Walker)) : Prop :=
  Option.Rel (fun a b => b.1 = a.1 ∧ a.2.Agree b.2) x y

/-- Walks that end with the same result in walkers that agree. -/
theorem SameResult.ended {α : Type} (a : α) {w w' : Walker} (h : w.Agree w') :
    SameResult (some (a, w)) (some (a, w')) :=
  Option.Rel.some ⟨rfl, h⟩

/-- What is made of the same results is the same. -/
theorem SameResult.map {α β : Type} {x y : Option (α × Walker)} (h : SameResult x y)
    {f : α × Walker → β × Walker}
    (hf : ∀ (a : α) {w w' : Walker}, w.Agree w' →
      (f (a, w')).1 = (f (a, w)).1 ∧ (f (a, w)).2.Agree (f (a, w')).2) :
    SameResult (x.map f) (y.map f) := by
  cases h with
  | none => exact .none
  | @some a b hab =>
    obtain ⟨a, w⟩ := a
    obtain ⟨b, w'⟩ := b
    obtain ⟨rfl, hw⟩ := hab
    exact Option.Rel.some (hf _ hw)

/-- What goes on from the same results in the same way has the same results. -/
theorem SameResult.bind {α β : Type} {x y : Option (α × Walker)} (h : SameResult x y)
    {f : α × Walker → Option (β × Walker)}
    (hf : ∀ (a : α) {w w' : Walker}, w.Agree w' → SameResult (f (a, w)) (f (a, w'))) :
    SameResult (x.bind f) (y.bind f) := by
  cases h with
  | none => exact .none
  | @some a b hab =>
    obtain ⟨a, w⟩ := a
    obtain ⟨b, w'⟩ := b
    obtain ⟨rfl, hw⟩ := hab
    exact hf _ hw

/-- Whether a walk has the same results from walkers that agree. -/
structure Uniform (below : Walk) : Prop where
  /-- Structures. -/
  expand : ∀ (id : Nat) {w w' : Walker}, w.Agree w' →
    SameResult (below.expand id w) (below.expand id w')
  /-- Fields. -/
  build : ∀ (slot : Slot) (owner : String) (type : TypeExpr) (unit : Nat) {w w' : Walker},
    w.Agree w' →
      SameResult (below.build slot owner type unit w) (below.build slot owner type unit w')
  /-- Flattened fields. -/
  flatten : ∀ (type : TypeExpr) (unit : Nat) {w w' : Walker}, w.Agree w' →
    SameResult (below.flatten type unit w) (below.flatten type unit w')

variable {loader : Loader} {below : Walk} {w w' : Walker}

/-! ## The ways of a walk -/

/-- **Names.** A type name is met with the same result from walkers that agree, whichever way is
taken. -/
theorem meet_uniform {α β : Type} {inner : TypeExpr → Nat → Walker → Option (β × Walker)}
    (hloader : loader.GivesNothing) (hbelow : below.Uniform)
    (hinner : ∀ (type : TypeExpr) (unit : Nat) {w w' : Walker}, w.Agree w' →
      SameResult (inner type unit w) (inner type unit w'))
    (ways : Ways α β) (name : String) (unit : Nat) (hw : w.Agree w') :
    SameResult (meet loader below inner ways name unit w)
      (meet loader below inner ways name unit w') := by
  obtain ⟨htarget, hagree⟩ := hw.target hloader name unit
  unfold meet
  rcases hleft : w.target loader name unit with ⟨target, w₁⟩
  rcases hright : w'.target loader name unit with ⟨target', w₁'⟩
  rw [hleft, hright] at htarget hagree
  obtain rfl : target = target' := htarget.symm
  cases target with
  | struct id path =>
    simp only [hagree.holds_eq path]
    by_cases hpath : w₁.holds path
    · rw [if_pos hpath, if_pos hpath]
      exact .ended _ (hagree.note _)
    · rw [if_neg hpath, if_neg hpath]
      exact (hbelow.expand id hagree).map fun _ _ _ h => ⟨rfl, h⟩
  | synonym type unit path =>
    simp only [hagree.holds_eq path]
    by_cases hpath : w₁.holds path
    · rw [if_pos hpath, if_pos hpath]
      exact .ended _ (hagree.note _)
    · rw [if_neg hpath, if_neg hpath]
      exact (hinner type unit (hagree.enter path)).map fun _ _ _ h => ⟨rfl, h.leave⟩
  | enum variants => exact .ended _ (hagree.note _)
  | missing => exact .ended _ (hagree.note _)

/-- A field is built with the same result from walkers that agree. -/
theorem buildWith_uniform (hloader : loader.GivesNothing) (hbelow : below.Uniform) (slot : Slot)
    (owner : String) (type : TypeExpr) (unit : Nat) (hw : w.Agree w') :
    SameResult (buildWith loader below slot owner type unit w)
      (buildWith loader below slot owner type unit w') := by
  have hinner := fun type unit => @Uniform.build below hbelow slot owner type unit
  induction type with
  | named name =>
    rw [buildWith, buildWith]
    by_cases hscalar : Kind.isScalarName name
    · rw [if_pos hscalar, if_pos hscalar]
      exact .ended _ hw
    · rw [if_neg hscalar, if_neg hscalar, buildNamed_eq_meet, buildNamed_eq_meet]
      exact meet_uniform hloader hbelow hinner (namedWays slot name) name unit hw
  | sequence element ih =>
    cases element with
    | named name =>
      rw [buildWith, buildWith]
      simp only
      by_cases hscalar : Kind.isScalarName name
      · rw [if_pos hscalar, if_pos hscalar]
        exact .ended _ hw
      rw [if_neg hscalar, if_neg hscalar]
      by_cases howner : ModulePath.lastSegment name = owner
      · rw [if_pos howner, if_pos howner]
        exact .ended _ hw
      rw [if_neg howner, if_neg howner, elementNamed_eq_meet, elementNamed_eq_meet]
      exact (meet_uniform hloader hbelow hinner elementWays name unit hw).map
        fun _ _ _ h => ⟨rfl, h⟩
    | sequence inner =>
      rw [buildWith, buildWith]
      exact ih.map fun _ _ _ h => ⟨rfl, h⟩
    | map key value => exact .ended _ hw
    | any => exact .ended _ hw
    | unknown => exact .ended _ hw
  | map key value => exact .ended _ hw
  | any => exact .ended _ hw
  | unknown => exact .ended _ hw

/-- A declared field is built with the same result from walkers that agree. -/
theorem buildField_uniform (hloader : loader.GivesNothing) (hbelow : below.Uniform)
    (f : FieldDecl) (unit : Nat) (owner : String) (hw : w.Agree w') :
    SameResult (buildField loader below f unit owner w)
      (buildField loader below f unit owner w') := by
  have hbuild := fun type => buildWith_uniform hloader hbelow ⟨f.name, f.required, f.comment⟩ owner
    type unit hw
  unfold buildField
  simp only
  by_cases htext : f.asText
  · rw [if_pos htext, if_pos htext]
    exact (hbuild (.named "String")).map fun _ _ _ h => ⟨rfl, h⟩
  · rw [if_neg htext, if_neg htext]
    exact hbuild f.type

/-- A type is flattened with the same result from walkers that agree. -/
theorem flattenWith_uniform (hloader : loader.GivesNothing) (hbelow : below.Uniform)
    (type : TypeExpr) (unit : Nat) (hw : w.Agree w') :
    SameResult (flattenWith loader below type unit w) (flattenWith loader below type unit w') := by
  cases type with
  | named name =>
    rw [flattenWith_named, flattenWith_named]
    exact meet_uniform hloader hbelow hbelow.flatten flattenWays name unit hw
  | _ => exact .ended _ hw

/-- A field adds the same to an expansion from walkers that agree. -/
theorem addField_uniform (hloader : loader.GivesNothing) (hbelow : below.Uniform) (d : TypeDecl)
    (e : Expansion) (f : FieldDecl) (hw : w.Agree w') :
    SameResult (addField loader below d (e, w) f) (addField loader below d (e, w') f) := by
  unfold addField
  simp only
  by_cases hflatten : f.flatten
  · rw [if_pos hflatten, if_pos hflatten]
    refine (flattenWith_uniform hloader hbelow f.type d.unit hw).map fun other _ _ h => ?_
    cases other <;> exact ⟨rfl, h⟩
  · rw [if_neg hflatten, if_neg hflatten]
    exact (buildField_uniform hloader hbelow f d.unit d.name hw).map fun _ _ _ h => ⟨rfl, h⟩

theorem addFields_uniform (hloader : loader.GivesNothing) (hbelow : below.Uniform) (d : TypeDecl)
    (fields : List FieldDecl) (e : Expansion) (hw : w.Agree w') :
    SameResult (fields.foldlM (addField loader below d) (e, w))
      (fields.foldlM (addField loader below d) (e, w')) := by
  induction fields generalizing e w w' with
  | nil => exact .ended e hw
  | cons f rest ih =>
    rw [List.foldlM_cons, List.foldlM_cons]
    exact (addField_uniform hloader hbelow d e f hw).bind fun e _ _ h => ih e h

/-- **A structure.** It has the same expansion from walkers that agree, if this is so for the walk
below. -/
theorem expandWith_uniform (hloader : loader.GivesNothing) (hbelow : below.Uniform) (id : Nat)
    (hw : w.Agree w') :
    SameResult (expandWith loader below id w) (expandWith loader below id w') := by
  unfold expandWith
  rw [hw.session.index]
  cases w.session.catalog.decls[id]? with
  | none => exact .ended none hw
  | some d =>
    simp only
    cases d.body with
    | struct fields =>
      have hstart := (hw.note [.expanding d.path]).enter d.path
      exact (addFields_uniform hloader hbelow d (fields.filter (!·.skip)) {} hstart).map
        fun _ _ _ h => ⟨rfl, h.leave⟩
    | synonym type => exact .ended none (hw.note _)
    | enum variants => exact .ended none (hw.note _)

/-- **Walks.** A walk of any depth has the same results from walkers that agree. -/
theorem upTo_uniform (hloader : loader.GivesNothing) (n : Nat) : (upTo loader n).Uniform := by
  induction n with
  | zero => exact ⟨fun _ _ _ _ => .none, fun _ _ _ _ _ _ _ => .none, fun _ _ _ _ _ => .none⟩
  | succ n ih =>
    refine ⟨?_, ?_, ?_⟩
    · intro id w w' hw
      rw [upTo_succ_expand]
      exact expandWith_uniform hloader ih id hw
    · intro slot owner type unit w w' hw
      rw [upTo_succ_build]
      exact buildWith_uniform hloader ih slot owner type unit hw
    · intro type unit w w' hw
      rw [upTo_succ_flatten]
      exact flattenWith_uniform hloader ih type unit hw

end Walk

/-! ## Expansions -/

/-- A loader that gives nothing needs no sources. -/
theorem Loader.GivesNothing.coveredBy_empty {loader : Loader} (hloader : loader.GivesNothing) :
    loader.CoveredBy ∅ := by
  rintro source ⟨module, given, hload, hsource⟩
  have hnone := hloader module
  rw [Loader.given, hload] at hnone
  obtain rfl : given = [] := hnone
  exact absurd hsource List.not_mem_nil

namespace Session

variable {loader : Loader} {s s' : Session}

/-- Where nothing is loaded, no types can come: the walk of the first depth comes to an end. -/
theorem exists_upTo_expand (hloader : loader.GivesNothing) {n : Nat}
    (hn : s.catalog.decls.length + 1 = n) (id : Nat) :
    ∃ e w, (Walk.upTo loader n).expand id ⟨s, []⟩ = some (e, w) ∧
      s.expand loader id = (e, w.session) := by
  have hready : (⟨s, []⟩ : Walker).Ready ∅ n :=
    ⟨List.nodup_nil, nofun, by rw [← hn]; exact Nat.lt_succ_self _⟩
  obtain ⟨⟨e, w⟩, hexpand⟩ := Option.isSome_iff_exists.mp
    ((Walk.upTo_total hloader.coveredBy_empty n).expand hready fun _ _ => List.not_mem_nil)
  refine ⟨e, w, hexpand, ?_⟩
  rw [expand, Walker.expand_of_upTo hn hexpand]

/-- **Expansion.** Sessions that agree expand a type alike. -/
theorem Agree.expand_fst (hloader : loader.GivesNothing) (h : Agree s s') (id : Nat) :
    (s'.expand loader id).1 = (s.expand loader id).1 := by
  -- both walks go equally deep, since there are as many types in both sessions
  obtain ⟨n, hn⟩ : ∃ n, s.catalog.decls.length + 1 = n := ⟨_, rfl⟩
  have hn' : s'.catalog.decls.length + 1 = n := by rw [h.index, hn]
  obtain ⟨e, w, hwalk, hexpand⟩ := exists_upTo_expand hloader hn id
  obtain ⟨e', w', hwalk', hexpand'⟩ := exists_upTo_expand hloader hn' id
  have hstart : Walker.Agree ⟨s, []⟩ ⟨s', []⟩ := ⟨h, rfl⟩
  have hsame := (Walk.upTo_uniform hloader n).expand id hstart
  rw [hwalk, hwalk'] at hsame
  rw [hexpand, hexpand']
  cases hsame with
  | some hresult => exact hresult.1

/-- **Type names.** Sessions that agree expand a type name to the same result. -/
theorem Agree.expandNamed_fst (hloader : loader.GivesNothing) (h : Agree s s') (name : String)
    (unit : Nat) : (s'.expandNamed loader name unit).1 = (s.expandNamed loader name unit).1 := by
  have hid := h.resolve_fst hloader name unit
  have hagree := h.steps hloader (.single (.resolve s name unit)) (.single (.resolve s' name unit))
  rw [expandNamed_eq, expandNamed_eq, hid]
  cases (s.resolve loader name unit).1 with
  | none => rfl
  | some id => exact hagree.expand_fst hloader id

end Session

end ApiDocs
