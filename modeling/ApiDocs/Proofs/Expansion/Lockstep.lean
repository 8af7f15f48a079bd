import ApiDocs.Proofs.Expansion.Nodes
import ApiDocs.Proofs.Expansion.Twins
import ApiDocs.Proofs.Resolution.Retyped

/-!
# Walks in step

Two walks go through the same types where their sessions differ in the fields of one structure that
is being expanded, and where the first one has some types on its stack that the second one does not
have and never comes to. Then whatever the second walk gives the first one gives too
(`unbounded_shadowing`).
-/

namespace ApiDocs

/-- What makes sessions alike has nothing to do with reports. -/
theorem Session.Alike.note {x : Session.Retyping} {s s' : Session} (h : s.Alike x s')
    (events events' : Journal) : (s.note events).Alike x (s'.note events') :=
  ⟨⟨h.catalog, h.remembered, h.own⟩, ⟨h.inOrder.indexed, h.inOrder.marked, h.inOrder.named⟩,
    h.recalls, h.plain, h.declared⟩

/-- Sessions that are alike differ in one declared type only. -/
theorem Session.Alike.getElem?_decls {x : Session.Retyping} {s s' : Session} (h : s.Alike x s')
    {id : Nat} (hid : id ≠ x.id) : s'.catalog.decls[id]? = s.catalog.decls[id]? := by
  rw [h.catalog.index, TypeIndex.getElem?_retype]
  simp only [if_neg (Ne.symm hid), Option.map_id']

/-- Other fields make no other target of a structure. -/
theorem Session.Alike.map_target {x : Session.Retyping} {s s' : Session} (h : s.Alike x s')
    {d : TypeDecl} {fields : List FieldDecl} (hd : s.catalog.decls[x.id]? = some d)
    (hbody : d.body = .struct fields) (id : Nat) :
    s'.catalog.decls[id]?.map (TypeDecl.target id) =
      s.catalog.decls[id]?.map (TypeDecl.target id) := by
  by_cases hid : id = x.id
  · subst hid
    rw [h.catalog.index, TypeIndex.getElem?_retype, hd, Option.map_some, if_pos rfl,
      Option.map_some, Option.map_some, TypeDecl.target, TypeDecl.target, hbody]
    rfl
  · rw [h.getElem?_decls hid]

namespace Walker

open Session

/-! ## Stacks -/

/-- Whether no stack of a walk from `w` to `w'` has one of some types on it. -/
def Avoids (hidden : List ModulePath) (w w' : Walker) : Prop :=
  ∃ trail, w'.history = trail ++ w.history ∧ ∀ stack ∈ trail, ∀ path ∈ hidden, path ∉ stack

variable {loader : Loader} {x : Retyping} {hidden : List ModulePath} {w w' u u' : Walker}

/-- The parts of a walk avoid what the whole walk does. -/
theorem Avoids.split (h : w.Avoids hidden w') (hfirst : w.history <:+ u.history)
    (hsecond : u.history <:+ w'.history) : w.Avoids hidden u ∧ u.Avoids hidden w' := by
  obtain ⟨trail, htrail, hnone⟩ := h
  obtain ⟨first, hfirst⟩ := hfirst
  obtain ⟨second, hsecond⟩ := hsecond
  obtain rfl : trail = second ++ first := by
    rw [← hsecond, ← hfirst, ← List.append_assoc] at htrail
    exact (List.append_cancel_right htrail).symm
  exact ⟨⟨first, hfirst.symm, fun stack hstack => hnone stack (List.mem_append_right _ hstack)⟩,
    ⟨second, hsecond.symm, fun stack hstack => hnone stack (List.mem_append_left _ hstack)⟩⟩

/-- A type that is entered on the way is not one of them. -/
theorem Avoids.notMem (h : w.Avoids hidden w') {path : ModulePath}
    (henter : (w.enter path).history <:+ w'.history) : path ∉ hidden := by
  obtain ⟨trail, htrail, hnone⟩ := (h.split (List.suffix_cons _ _) henter).1
  have hone : [path :: w.expanding] ++ w.history = trail ++ w.history := htrail
  obtain rfl : [path :: w.expanding] = trail := List.append_cancel_right hone
  intro hpath
  exact hnone _ List.mem_cons_self path hpath List.mem_cons_self

theorem Avoids.of_history_eq (h : w.Avoids hidden w') (heq : u.history = w.history) :
    u.Avoids hidden w' := by
  unfold Avoids
  rw [heq]
  exact h

/-! ## Walkers -/

/-- Whether two walkers have sessions that are alike, with the structure in which these differ on
the stack, and the first one has some types more on its stack. -/
structure Alike (x : Retyping) (hidden : List ModulePath) (w w' : Walker) : Prop where
  /-- The sessions. -/
  session : w.session.Alike x w'.session
  /-- The stacks. -/
  stack : ∀ path, path ∈ w.expanding ↔ path ∈ hidden ∨ path ∈ w'.expanding
  /-- The structure. -/
  held : ∃ d fields, w.session.catalog.decls[x.id]? = some d ∧ d.body = .struct fields ∧
    d.path ∈ w'.expanding

/-- Walkers stay alike when they report, even different things. -/
theorem Alike.note (h : w.Alike x hidden w') (events events' : Journal) :
    (w.note events).Alike x hidden (w'.note events') :=
  ⟨h.session.note events events', h.stack, h.held⟩

/-- Walkers stay alike when they enter the same structure. -/
theorem Alike.enter (h : w.Alike x hidden w') (path : ModulePath) :
    (w.enter path).Alike x hidden (w'.enter path) := by
  obtain ⟨d, fields, hd, hbody, hheld⟩ := h.held
  refine ⟨h.session, fun other => ?_, d, fields, hd, hbody, List.mem_cons_of_mem path hheld⟩
  rw [enter_expanding, enter_expanding, List.mem_cons, List.mem_cons, h.stack, or_left_comm]

/-- Walkers that come back are alike if their sessions are. -/
theorem Alike.returned (h : w.Alike x hidden w') (hsession : u.session.Alike x u'.session)
    (hgrows : Grows w.session u.session) (hstack : u.expanding = w.expanding)
    (hstack' : u'.expanding = w'.expanding) : u.Alike x hidden u' := by
  obtain ⟨d, fields, hd, hbody, hheld⟩ := h.held
  refine ⟨hsession, fun path => ?_, d, fields, hgrows.getElem?_decls hd, hbody, hstack' ▸ hheld⟩
  rw [hstack, hstack']
  exact h.stack path

/-- What the second walker has on its stack, the first one has as well. -/
theorem Alike.holds (h : w.Alike x hidden w') {path : ModulePath} (hpath : w'.holds path) :
    w.holds path :=
  holds_iff.mpr ((h.stack path).mpr (Or.inr (holds_iff.mp hpath)))

/-- What the second walker does not have on its stack, the first one does not have either, unless it
is hidden. -/
theorem Alike.not_holds (h : w.Alike x hidden w') {path : ModulePath} (hpath : ¬ w'.holds path)
    (hhidden : path ∉ hidden) : ¬ w.holds path := by
  rw [holds_iff] at hpath ⊢
  rw [h.stack]
  exact not_or.mpr ⟨hhidden, hpath⟩

/-- A type that is not on the stack is declared alike. -/
theorem Alike.ne_of_free (h : w.Alike x hidden w') {id : Nat} {d : TypeDecl}
    (hd : w'.session.catalog.decls[id]? = some d) (hfree : d.path ∉ w'.expanding) : id ≠ x.id := by
  rintro rfl
  obtain ⟨d₀, fields, hd₀, -, hheld⟩ := h.held
  rw [h.session.catalog.index, TypeIndex.getElem?_retype, hd₀, Option.map_some, if_pos rfl] at hd
  cases hd
  exact hfree hheld

/-- Walkers that are alike know the same declared types but one. -/
theorem Alike.getElem?_decls (h : w.Alike x hidden w') {id : Nat} (hid : id ≠ x.id) :
    w'.session.catalog.decls[id]? = w.session.catalog.decls[id]? :=
  h.session.getElem?_decls hid

/-- Looking for the target of a name resolves the name, and changes nothing else in the session. -/
theorem target_session (loader : Loader) (name : String) (unit : Nat) (w : Walker) :
    (w.target loader name unit).2.session = (w.session.resolve loader name unit).2 := by
  rw [target_eq]

/-- **Targets.** A name stands for the same target. -/
theorem Alike.target (h : w.Alike x hidden w') (loader : Loader) (name : String) (unit : Nat) :
    (w'.target loader name unit).1 = (w.target loader name unit).1 ∧
      (w.target loader name unit).2.Alike x hidden (w'.target loader name unit).2 := by
  have hreturns := w.target_returns loader name unit
  have hreturns' := w'.target_returns loader name unit
  obtain ⟨hfirst, hsession⟩ := h.session.resolve loader name unit
  obtain ⟨d, fields, hd, hbody, -⟩ := h.held
  have hgrows := (resolve_changes loader name unit w.session).grows
  constructor
  · rw [target_eq, target_eq, hfirst]
    simp only [hsession.map_target (hgrows.getElem?_decls hd) hbody]
  · refine h.returned ?_ hreturns.steps.grows hreturns.expanding hreturns'.expanding
    rw [target_session, target_session]
    exact hsession

end Walker

namespace Walk

open Session

/-! ## Results -/

/-- Whether the first of two walks comes to all that the second one, from `w'`, comes to without one
of the types that only the first has on its stack. -/
structure Shadows (x : Retyping) (hidden : List ModulePath) (w' : Walker) {α : Type}
    (r r' : Option (α × Walker)) : Prop where
  /-- The result. -/
  run : ∀ {a u'}, r' = some (a, u') → w'.Avoids hidden u' →
    ∃ u, r = some (a, u) ∧ u.Alike x hidden u'

variable {loader : Loader} {x : Retyping} {hidden : List ModulePath} {below : Walk}
  {w w' : Walker}

/-- Walks that end with the same result in walkers that are alike. -/
theorem Shadows.ended {α : Type} (a : α) {v' : Walker} (h : w.Alike x hidden w') :
    Shadows x hidden v' (some (a, w)) (some (a, w')) := by
  refine ⟨fun heq _ => ?_⟩
  cases heq
  exact ⟨w, rfl, h⟩

/-- What is made of results goes along with them. -/
theorem Shadows.map {α β : Type} {r r' : Option (α × Walker)} (h : Shadows x hidden w' r r')
    {f : α × Walker → β × Walker}
    (hf : ∀ a w v, (f (a, w)).2 = w ∧ (f (a, w)).1 = (f (a, v)).1) :
    Shadows x hidden w' (r.map f) (r'.map f) := by
  refine ⟨fun {b u'} hmap havoid => ?_⟩
  obtain ⟨⟨a, v'⟩, ha, heq⟩ := Option.map_eq_some_iff.mp hmap
  obtain rfl : v' = u' := by rw [← (hf a v' v').1, heq]
  obtain ⟨u, hu, halike⟩ := h.run ha havoid
  have hsame : f (a, u) = (b, u) := Prod.ext (by rw [(hf a u v').2, heq]) (hf a u u).1
  exact ⟨u, by rw [hu, Option.map_some, hsame], halike⟩

/-- Whether a walk comes to the same from walkers that are alike. -/
structure Shadowing (loader : Loader) (x : Retyping) (hidden : List ModulePath) (below : Walk) :
    Prop where
  /-- It returns. -/
  balanced : below.Balanced loader
  /-- It enters the structures that it expands. -/
  enters : ∀ {id w r w' d fields}, w.session.catalog.decls[id]? = some d →
    d.body = .struct fields → below.expand id w = some (r, w') →
      (w.enter d.path).history <:+ w'.history
  /-- Structures. -/
  expand : ∀ {id w w'}, w.Alike x hidden w' → id ≠ x.id →
    Shadows x hidden w' (below.expand id w) (below.expand id w')
  /-- Fields. -/
  build : ∀ {slot owner type unit w w'}, w.Alike x hidden w' →
    Shadows x hidden w' (below.build slot owner type unit w) (below.build slot owner type unit w')
  /-- Flattened fields. -/
  flatten : ∀ {type unit w w'}, w.Alike x hidden w' →
    Shadows x hidden w' (below.flatten type unit w) (below.flatten type unit w')

/-! ## The ways of a walk -/

/-- A structure that the second walk expands is not on the first stack either. -/
theorem struct_shadows (hbelow : below.Shadowing loader x hidden) (hw : w.Alike x hidden w')
    {v' u' : Walker} {name : String} {unit id : Nat} {path : ModulePath} {r : Option Expansion}
    (htarget : v'.target loader name unit = (.struct id path, w')) (hpath : ¬ w'.holds path)
    (hexpand : below.expand id w' = some (r, u')) (havoid : w'.Avoids hidden u') :
    ¬ w.holds path ∧ ∃ u, below.expand id w = some (r, u) ∧ u.Alike x hidden u' := by
  obtain ⟨d, fields, hd, hbody⟩ := Walker.target_struct_body htarget
  obtain ⟨d', hd', rfl⟩ := Walker.target_struct htarget
  obtain rfl : d = d' := Option.some.inj (hd.symm.trans hd')
  have hhidden := havoid.notMem (hbelow.enters hd hbody hexpand)
  have hid := hw.ne_of_free hd (mt Walker.holds_iff.mpr hpath)
  exact ⟨hw.not_holds hpath hhidden, (hbelow.expand hw hid).run hexpand havoid⟩

/-- Neither is another name of a type below which the second walk goes. -/
theorem synonym_shadows {β : Type} {inner : Walker → Option (β × Walker)}
    (hinner : ∀ {w w'}, w.Alike x hidden w' → Shadows x hidden w' (inner w) (inner w'))
    (hreturns : ∀ {w b w'}, inner w = some (b, w') → w.Returns loader w')
    (hw : w.Alike x hidden w') {v' : Walker} {path : ModulePath} {b : β}
    (hpath : ¬ w'.holds path) (hrun' : inner (w'.enter path) = some (b, v'))
    (havoid : w'.Avoids hidden v'.leave) :
    ¬ w.holds path ∧ ∃ v, inner (w.enter path) = some (b, v) ∧
      v.leave.Alike x hidden v'.leave := by
  -- what is below the name is the part of the walk between entering it and leaving it
  have hback' := hreturns hrun'
  have hrest : v'.history <:+ v'.leave.history := List.suffix_cons _ _
  have hentered := hback'.history.trans hrest
  have hinside := ((havoid.split (List.suffix_cons _ _) hentered).2.split hback'.history hrest).1
  obtain ⟨v, hrun, halike⟩ := (hinner (hw.enter path)).run hrun' hinside
  have hback := hreturns hrun
  refine ⟨hw.not_holds hpath (havoid.notMem hentered), v, hrun,
    hw.returned halike.session hback.steps.grows ?_ ?_⟩
  · rw [Walker.leave_expanding, hback.expanding, Walker.enter_expanding, List.tail_cons]
  · rw [Walker.leave_expanding, hback'.expanding, Walker.enter_expanding, List.tail_cons]

/-- **Names.** A type name is met alike, whichever way is taken, as long as it leads to no hidden
type. -/
theorem meet_shadows {α β : Type} (inner : TypeExpr → Nat → Walker → Option (β × Walker))
    (hbelow : below.Shadowing loader x hidden)
    (hinner : ∀ {type unit w w'}, w.Alike x hidden w' →
      Shadows x hidden w' (inner type unit w) (inner type unit w'))
    (hreturns : ∀ {type unit w b w'}, inner type unit w = some (b, w') → w.Returns loader w')
    (ways : Ways α β) (name : String) (unit : Nat) (hw : w.Alike x hidden w') :
    Shadows x hidden w' (meet loader below inner ways name unit w)
      (meet loader below inner ways name unit w') := by
  refine ⟨fun {a u'} hmeet havoid => ?_⟩
  obtain ⟨htarget, halike⟩ := hw.target loader name unit
  have havoid₁ := havoid.of_history_eq (w'.target_frame loader name unit).1
  unfold meet at hmeet ⊢
  rcases hleft : w.target loader name unit with ⟨target, w₁⟩
  rcases hright : w'.target loader name unit with ⟨target', w₁'⟩
  rw [hleft, hright] at htarget halike
  rw [hright] at hmeet havoid₁
  obtain rfl : target' = target := htarget
  cases target' with
  | struct id path =>
    simp only at hmeet ⊢
    split at hmeet
    · rename_i hpath
      cases hmeet
      rw [if_pos (halike.holds hpath)]
      exact ⟨_, rfl, halike.note _ _⟩
    · rename_i hpath
      obtain ⟨⟨e, v'⟩, hexpand, heq⟩ := Option.map_eq_some_iff.mp hmeet
      cases heq
      obtain ⟨hfree, u, hu, hualike⟩ := struct_shadows hbelow halike hright hpath hexpand havoid₁
      rw [if_neg hfree, hu]
      exact ⟨u, rfl, hualike⟩
  | synonym type unit' path =>
    simp only at hmeet ⊢
    split at hmeet
    · rename_i hpath
      cases hmeet
      rw [if_pos (halike.holds hpath)]
      exact ⟨_, rfl, halike.note _ _⟩
    · rename_i hpath
      obtain ⟨⟨b, v'⟩, hrun', heq⟩ := Option.map_eq_some_iff.mp hmeet
      cases heq
      obtain ⟨hfree, v, hrun, hvalike⟩ :=
        synonym_shadows hinner hreturns halike hpath hrun' havoid₁
      rw [if_neg hfree, hrun]
      exact ⟨v.leave, rfl, hvalike⟩
  | enum variants =>
    cases hmeet
    exact ⟨_, rfl, halike.note _ _⟩
  | missing =>
    cases hmeet
    exact ⟨_, rfl, halike.note _ _⟩

/-- A field is built alike, whatever its type. -/
theorem buildWith_shadows (hbelow : below.Shadowing loader x hidden) (slot : Slot) (owner : String)
    (type : TypeExpr) (unit : Nat) (hw : w.Alike x hidden w') :
    Shadows x hidden w' (buildWith loader below slot owner type unit w)
      (buildWith loader below slot owner type unit w') := by
  have hreturns : ∀ {type unit w b w'}, below.build slot owner type unit w = some (b, w') →
      w.Returns loader w' := fun h => (hbelow.balanced.build h).toReturns
  induction type with
  | named name =>
    rw [buildWith, buildWith]
    by_cases hscalar : Kind.isScalarName name
    · rw [if_pos hscalar, if_pos hscalar]
      exact .ended _ hw
    · rw [if_neg hscalar, if_neg hscalar, buildNamed_eq_meet, buildNamed_eq_meet]
      exact meet_shadows (below.build slot owner) hbelow hbelow.build hreturns
        (namedWays slot name) name unit hw
  | sequence element ih =>
    cases element with
    | named name =>
      rw [buildWith, buildWith]
      simp only
      by_cases hscalar : Kind.isScalarName name
      · rw [if_pos hscalar, if_pos hscalar]
        exact .ended _ hw
      rw [if_neg hscalar, if_neg hscalar]
      by_cases howner : ModulePath.lastSegment name = owner
      · rw [if_pos howner, if_pos howner]
        exact .ended _ hw
      rw [if_neg howner, if_neg howner, elementNamed_eq_meet, elementNamed_eq_meet]
      exact (meet_shadows (below.build slot owner) hbelow hbelow.build hreturns elementWays name
        unit hw).map fun _ _ _ => ⟨rfl, rfl⟩
    | sequence inner =>
      rw [buildWith, buildWith]
      exact ih.map fun _ _ _ => ⟨rfl, rfl⟩
    | map key value => exact .ended _ hw
    | any => exact .ended _ hw
    | unknown => exact .ended _ hw
  | map key value => exact .ended _ hw
  | any => exact .ended _ hw
  | unknown => exact .ended _ hw

theorem buildField_shadows (hbelow : below.Shadowing loader x hidden) (f : FieldDecl) (unit : Nat)
    (owner : String) (hw : w.Alike x hidden w') :
    Shadows x hidden w' (buildField loader below f unit owner w)
      (buildField loader below f unit owner w') := by
  have hbuild := fun type => buildWith_shadows hbelow ⟨f.name, f.required, f.comment⟩ owner type
    unit hw
  unfold buildField
  simp only
  by_cases htext : f.asText
  · rw [if_pos htext, if_pos htext]
    exact (hbuild (.named "String")).map fun _ _ _ => ⟨rfl, rfl⟩
  · rw [if_neg htext, if_neg htext]
    exact hbuild f.type

theorem flattenWith_shadows (hbelow : below.Shadowing loader x hidden) (type : TypeExpr)
    (unit : Nat) (hw : w.Alike x hidden w') :
    Shadows x hidden w' (flattenWith loader below type unit w)
      (flattenWith loader below type unit w') := by
  cases type with
  | named name =>
    rw [flattenWith_named, flattenWith_named]
    exact meet_shadows below.flatten hbelow hbelow.flatten
      (fun h => (hbelow.balanced.flatten h).toReturns) flattenWays name unit hw
  | _ => exact .ended _ hw

/-- A field adds the same to an expansion. -/
theorem addField_shadows (hbelow : below.Shadowing loader x hidden) (d : TypeDecl) (e : Expansion)
    (f : FieldDecl) (hw : w.Alike x hidden w') :
    Shadows x hidden w' (addField loader below d (e, w) f)
      (addField loader below d (e, w') f) := by
  unfold addField
  simp only
  by_cases hflatten : f.flatten
  · rw [if_pos hflatten, if_pos hflatten]
    refine (flattenWith_shadows hbelow f.type d.unit hw).map fun other _ _ => ?_
    cases other <;> exact ⟨rfl, rfl⟩
  · rw [if_neg hflatten, if_neg hflatten]
    exact (buildField_shadows hbelow f d.unit d.name hw).map fun _ _ _ => ⟨rfl, rfl⟩

theorem addFields_shadows (hbelow : below.Shadowing loader x hidden) (d : TypeDecl)
    (fields : List FieldDecl) (e : Expansion) (hw : w.Alike x hidden w') :
    Shadows x hidden w' (fields.foldlM (addField loader below d) (e, w))
      (fields.foldlM (addField loader below d) (e, w')) := by
  induction fields generalizing e w w' with
  | nil => exact .ended e hw
  | cons f rest ih =>
    refine ⟨fun hfold havoid => ?_⟩
    rw [List.foldlM_cons] at hfold ⊢
    obtain ⟨⟨e₁, w₁'⟩, hfirst', hrest'⟩ := Option.bind_eq_some_iff.mp hfold
    obtain ⟨havoid₁, havoid₂⟩ := havoid.split (addField_returns hbelow.balanced hfirst').history
      (addFields_returns hbelow.balanced hrest').history
    obtain ⟨w₁, hfirst, halike⟩ := (addField_shadows hbelow d e f hw).run hfirst' havoid₁
    rw [hfirst]
    exact (ih e₁ halike).run hrest' havoid₂

/-- **A structure.** It is expanded alike, if this is so for the walk below and it is not the one
that was changed. -/
theorem expandWith_shadows (hbelow : below.Shadowing loader x hidden) {id : Nat}
    (hw : w.Alike x hidden w') (hid : id ≠ x.id) :
    Shadows x hidden w' (expandWith loader below id w) (expandWith loader below id w') := by
  unfold expandWith
  rw [hw.getElem?_decls hid]
  cases w.session.catalog.decls[id]? with
  | none => exact .ended none hw
  | some d =>
    simp only
    cases d.body with
    | struct fields =>
      refine ⟨fun hmap havoid => ?_⟩
      simp only at hmap ⊢
      obtain ⟨⟨e, v'⟩, hfold', heq⟩ := Option.map_eq_some_iff.mp hmap
      cases heq
      have hstart := (hw.note [.expanding d.path] [.expanding d.path]).enter d.path
      have hback' := addFields_returns hbelow.balanced hfold'
      have hrest : v'.history <:+ v'.leave.history := List.suffix_cons _ _
      have hinside := (((havoid.split (List.suffix_cons _ _) (hback'.history.trans hrest)).2).split
        hback'.history hrest).1
      obtain ⟨v, hfold, hvalike⟩ :=
        (addFields_shadows hbelow d (fields.filter (!·.skip)) {} hstart).run hfold' hinside
      have hback := addFields_returns hbelow.balanced hfold
      have hnote : Steps loader w.session (w.note [.expanding d.path]).session :=
        .single (.note _ _ rfl)
      have hgrows : Grows w.session v.session :=
        Steps.grows (hnote.trans hback.steps)
      refine ⟨v.leave, by rw [hfold]; rfl, hw.returned hvalike.session hgrows ?_ ?_⟩
      · rw [Walker.leave_expanding, hback.expanding]
        rfl
      · rw [Walker.leave_expanding, hback'.expanding]
        rfl
    | synonym type => exact .ended none (hw.note _ _)
    | enum variants => exact .ended none (hw.note _ _)

/-- A structure that is expanded was on the stack. -/
theorem expandWith_enters (hbelow : below.Balanced loader) {id : Nat} {r : Option Expansion}
    {d : TypeDecl} {fields : List FieldDecl} (hd : w.session.catalog.decls[id]? = some d)
    (hbody : d.body = .struct fields) (h : expandWith loader below id w = some (r, w')) :
    (w.enter d.path).history <:+ w'.history := by
  rw [expandWith, hd] at h
  simp only [hbody] at h
  obtain ⟨⟨e, v⟩, hfold, heq⟩ := Option.map_eq_some_iff.mp h
  cases heq
  exact (addFields_returns hbelow hfold).history.trans (List.suffix_cons _ _)

/-! ## Walks -/

/-- **Bounded walks.** Every bounded walk comes to the same from walkers that are alike. -/
theorem upTo_shadowing (loader : Loader) (x : Retyping) (hidden : List ModulePath) (n : Nat) :
    (upTo loader n).Shadowing loader x hidden := by
  induction n with
  | zero =>
    refine ⟨upTo_balanced loader 0, fun _ _ h => ?_, fun _ _ => ⟨fun h _ => ?_⟩,
      fun _ => ⟨fun h _ => ?_⟩, fun _ => ⟨fun h _ => ?_⟩⟩ <;> cases h
  | succ n ih =>
    refine ⟨upTo_balanced loader (n + 1), ?_, ?_, ?_, ?_⟩
    · intro id w r w' d fields hd hbody h
      rw [upTo_succ_expand] at h
      exact expandWith_enters ih.balanced hd hbody h
    · intro id w w' hw hid
      rw [upTo_succ_expand]
      exact expandWith_shadows ih hw hid
    · intro slot owner type unit w w' hw
      rw [upTo_succ_build]
      exact buildWith_shadows ih slot owner type unit hw
    · intro type unit w w' hw
      rw [upTo_succ_flatten]
      exact flattenWith_shadows ih type unit hw

/-- **Lockstep.** The walk without a bound comes to the same from walkers that are alike. -/
theorem unbounded_shadowing (loader : Loader) (x : Retyping) (hidden : List ModulePath) :
    (unbounded loader).Shadowing loader x hidden where
  balanced := unbounded_balanced loader
  enters hd hbody h := by
    obtain ⟨n, hn⟩ := (unbounded_isLimit loader).expand.mp h
    exact (upTo_shadowing loader x hidden n).enters hd hbody hn
  expand hw hid := by
    refine ⟨fun h' havoid => ?_⟩
    obtain ⟨n, hn'⟩ := (unbounded_isLimit loader).expand.mp h'
    obtain ⟨u, hn, halike⟩ := ((upTo_shadowing loader x hidden n).expand hw hid).run hn' havoid
    exact ⟨u, (upTo_isPartOf_unbounded loader n).expand hn, halike⟩
  build hw := by
    refine ⟨fun h' havoid => ?_⟩
    obtain ⟨n, hn'⟩ := (unbounded_isLimit loader).build.mp h'
    obtain ⟨u, hn, halike⟩ := ((upTo_shadowing loader x hidden n).build hw).run hn' havoid
    exact ⟨u, (upTo_isPartOf_unbounded loader n).build hn, halike⟩
  flatten hw := by
    refine ⟨fun h' havoid => ?_⟩
    obtain ⟨n, hn'⟩ := (unbounded_isLimit loader).flatten.mp h'
    obtain ⟨u, hn, halike⟩ := ((upTo_shadowing loader x hidden n).flatten hw).run hn' havoid
    exact ⟨u, (upTo_isPartOf_unbounded loader n).flatten hn, halike⟩

end Walk

end ApiDocs
