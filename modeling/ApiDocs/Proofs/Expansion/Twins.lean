import ApiDocs.Proofs.Directive.Steps
import ApiDocs.Proofs.Expansion.Termination
import ApiDocs.Proofs.Resolution.Settled

/-!
# Two walks side by side

Two regular runs that follow the same lexicon resolve names to the same types, though under other
numbers (`Twin.resolve`). So walks that start from the same declaration go on in
lockstep: what one comes to an end with, the other one comes to an end with, however deep each of
them may go (`upTo_twin`). Expansions are therefore the same (`Twin.expand`).
-/

namespace ApiDocs

namespace Session

/-- Whether two sessions can be the last ones of two runs that are compared with the same lexicon.
The second run knows only units whose names are compared. -/
structure Parallel (loader : Loader) (lex : Lexicon) (last last' : Session) : Prop where
  /-- The loader gives at most one source for a module. -/
  single : loader.IsSingle
  /-- The loader has finitely many files. -/
  covered : ∃ sources, loader.CoveredBy sources
  /-- The first run is regular. -/
  left : last.Regular loader lex
  /-- The second run is regular. -/
  right : last'.Regular loader lex
  /-- The units that the second run knows. -/
  known : ∀ u ∈ last'.catalog.units, u ∈ lex.readers

/-- Whether two sessions on the way to two last ones are settled, and the names in the units of the
second one are compared. -/
structure Twin (lex : Lexicon) (s s' last last' : Session) : Prop where
  /-- The first session is settled. -/
  left : s.Settled lex last
  /-- The second session is settled. -/
  right : s'.Settled lex last'
  /-- The units that the second session knows. -/
  known : ∀ u ∈ s'.catalog.units, u ∈ lex.readers

/-- Whether two sessions have the same unit under two numbers. -/
def SameUnit (s s' : Session) (unit unit' : Nat) : Prop :=
  ∃ u, s.catalog.units[unit]? = some u ∧ s'.catalog.units[unit']? = some u

/-- Whether two sessions have the same type under two numbers. -/
def SameDecl (s s' : Session) (id id' : Nat) : Prop :=
  ∃ d d', s.catalog.decls[id]? = some d ∧ s'.catalog.decls[id']? = some d' ∧
    d'.place = d.place ∧ d'.body = d.body ∧ SameUnit s s' d.unit d'.unit

variable {loader : Loader} {lex : Lexicon} {last last' s s' t t' : Session}

/-- Units that are the same stay so while both sessions grow. -/
theorem SameUnit.grows {unit unit' : Nat} (h : SameUnit s s' unit unit') (ht : Grows s t)
    (ht' : Grows s' t') : SameUnit t t' unit unit' := by
  obtain ⟨u, hu, hu'⟩ := h
  exact ⟨u, ht.getElem?_units hu, ht'.getElem?_units hu'⟩

/-- Twins stay twins while the runs go on. -/
theorem Twin.steps (hpar : Parallel loader lex last last') (h : s.Twin lex s' last last')
    (ht : Steps loader s t) (hlast : Steps loader t last) (ht' : Steps loader s' t')
    (hlast' : Steps loader t' last') : t.Twin lex t' last last' := by
  refine ⟨ht.settled hpar.single hpar.left h.left hlast,
    ht'.settled hpar.single hpar.right h.right hlast', fun u hu => ?_⟩
  exact hpar.known u (hlast'.grows.units.subset hu)

/-- Types at the same place that both runs have looked at are the same. -/
theorem Twin.sameDecl (h : s.Twin lex s' last last') {id id' : Nat} {d d' : TypeDecl}
    (hd : s.catalog.decls[id]? = some d) (hd' : s'.catalog.decls[id']? = some d')
    (hplace : d'.place = d.place) (hsought : d.place ∈ last.sought lex.readers)
    (hsought' : d'.place ∈ last'.sought lex.readers) : SameDecl s s' id id' := by
  obtain ⟨u, howner, hunit, htype⟩ := h.left.catalog.exists_owner hd hsought
  obtain ⟨u', howner', hunit', htype'⟩ := h.right.catalog.exists_owner hd' hsought'
  rw [hplace, howner] at howner'
  obtain rfl := Option.some.inj howner'
  have hname : d'.name = d.name := (Prod.mk.inj hplace).2
  rw [hname, htype] at htype'
  obtain ⟨-, hbody⟩ := TypeDef.mk.inj (Option.some.inj htype')
  exact ⟨d, d', hd, hd', hplace, hbody.symm, u, hunit, hunit'⟩

/-- A name that a settled session has resolved to a type means the place of the type, which was
looked at. -/
theorem Settled.of_resolve_eq_some {name : String} {unit id : Nat} {u : SourceUnit}
    (h : (s.resolve loader name unit).2.Settled lex last)
    (hlast : Grows (s.resolve loader name unit).2 last)
    (hu : (s.resolve loader name unit).2.catalog.units[unit]? = some u) (hreader : u ∈ lex.readers)
    (hid : (s.resolve loader name unit).1 = some id) :
    ∃ d, (s.resolve loader name unit).2.catalog.decls[id]? = some d ∧
      lex.meaning (plainName name) u = some d.place ∧ d.place ∈ last.sought lex.readers := by
  have hmem := mem_resolved_of_resolve hid
  obtain ⟨u', d, hu', hd, hmeaning⟩ := h.resolved _ _ _ hmem
  obtain rfl : u' = u := Option.some.inj (hu'.symm.trans hu)
  have hanswer : (plainName name, d.place) ∈ last.answers u' :=
    mem_answers (hlast.resolved.subset hmem) (hlast.getElem?_units hu) (hlast.getElem?_decls hd)
  exact ⟨d, hd, hmeaning hreader, mem_sought_of_mem_answers hreader hanswer List.mem_cons_self⟩

/-- **Names.** Twins resolve a name in the same unit to the same type, or both to none. -/
theorem Twin.resolve (hpar : Parallel loader lex last last') (h : s.Twin lex s' last last')
    {unit unit' : Nat} (hunit : SameUnit s s' unit unit') {name : String}
    (hlast : Steps loader (s.resolve loader name unit).2 last)
    (hlast' : Steps loader (s'.resolve loader name unit').2 last') :
    ((s.resolve loader name unit).1 = none ∧ (s'.resolve loader name unit').1 = none) ∨
      ∃ id id', (s.resolve loader name unit).1 = some id ∧
        (s'.resolve loader name unit').1 = some id' ∧
          SameDecl (s.resolve loader name unit).2 (s'.resolve loader name unit').2 id id' := by
  by_cases hempty : (plainName name).isEmpty
  · rw [resolve_of_isEmpty hempty, resolve_of_isEmpty hempty]
    exact Or.inl ⟨rfl, rfl⟩
  have hname : (plainName name).isEmpty = false := by simpa using hempty
  have hstep : Steps loader s (s.resolve loader name unit).2 := .single (.resolve s name unit)
  have hstep' : Steps loader s' (s'.resolve loader name unit').2 := .single (.resolve s' name unit')
  have hafter := h.steps hpar hstep hlast hstep' hlast'
  obtain ⟨u, hu, hu'⟩ := hunit
  have hreader := h.known u (List.mem_of_getElem? hu')
  -- what a name is resolved to, or that it is not resolved, tells what it means
  have hnone := (h.left.resolve hpar.single hpar.left hlast).2 u hu hreader hname
  have hnone' := (h.right.resolve hpar.single hpar.right hlast').2 u hu' hreader hname
  have hsome (id : Nat) (hid : (s.resolve loader name unit).1 = some id) :=
    hafter.left.of_resolve_eq_some hlast.grows (hstep.grows.getElem?_units hu) hreader hid
  have hsome' (id : Nat) (hid : (s'.resolve loader name unit').1 = some id) :=
    hafter.right.of_resolve_eq_some hlast'.grows (hstep'.grows.getElem?_units hu') hreader hid
  cases hid : (s.resolve loader name unit).1 with
  | none =>
    refine Or.inl ⟨rfl, ?_⟩
    cases hid' : (s'.resolve loader name unit').1 with
    | none => rfl
    | some id' =>
      obtain ⟨d', -, hmeaning, -⟩ := hsome' id' hid'
      rw [hnone hid] at hmeaning
      cases hmeaning
  | some id =>
    obtain ⟨d, hd, hmeaning, hsought⟩ := hsome id hid
    cases hid' : (s'.resolve loader name unit').1 with
    | none =>
      rw [hnone' hid'] at hmeaning
      cases hmeaning
    | some id' =>
      obtain ⟨d', hd', hmeaning', hsought'⟩ := hsome' id' hid'
      have hplace : d'.place = d.place := Option.some.inj (hmeaning'.symm.trans hmeaning)
      exact Or.inr ⟨id, id', rfl, rfl, hafter.sameDecl hd hd' hplace hsought hsought'⟩

/-- Whether two targets are the same in two sessions, under other numbers. -/
inductive SameTarget (s s' : Session) : Target → Target → Prop where
  /-- A structure. -/
  | struct {id id' : Nat} (path : ModulePath) (h : SameDecl s s' id id') :
    SameTarget s s' (.struct id path) (.struct id' path)
  /-- Another name of a type. -/
  | synonym {unit unit' : Nat} (type : TypeExpr) (path : ModulePath)
    (h : SameUnit s s' unit unit') :
    SameTarget s s' (.synonym type unit path) (.synonym type unit' path)
  /-- An enumeration. -/
  | enum (variants : List String) : SameTarget s s' (.enum variants) (.enum variants)
  /-- Nothing that is known. -/
  | missing : SameTarget s s' .missing .missing

end Session

open Session

/-- The target that a declared type is. -/
def TypeDecl.target (id : Nat) (d : TypeDecl) : Target :=
  match d.body with
  | .struct _ => .struct id d.path
  | .synonym type => .synonym type d.unit d.path
  | .enum variants => .enum variants

variable {loader : Loader} {lex : Lexicon} {last last' : Session}

namespace Walker

/-- Whether two walkers have twins as sessions, and the same stack. -/
structure Twin (lex : Lexicon) (w w' : Walker) (last last' : Session) : Prop where
  /-- The sessions. -/
  session : w.session.Twin lex w'.session last last'
  /-- The stacks. -/
  expanding : w'.expanding = w.expanding

variable {w w' w₁ w₁' : Walker}

/-- Walkers that return stay twins. -/
theorem Twin.returns (hpar : Parallel loader lex last last') (h : w.Twin lex w' last last')
    (hw : w.Returns loader w₁) (hlast : Steps loader w₁.session last)
    (hw' : w'.Returns loader w₁') (hlast' : Steps loader w₁'.session last') :
    w₁.Twin lex w₁' last last' :=
  ⟨h.session.steps hpar hw.steps hlast hw'.steps hlast',
    by rw [hw.expanding, hw'.expanding, h.expanding]⟩

theorem Twin.enter (h : w.Twin lex w' last last') (path : ModulePath) :
    (w.enter path).Twin lex (w'.enter path) last last' :=
  ⟨h.session, by rw [enter_expanding, enter_expanding, h.expanding]⟩

/-- Twins have the same structures on their stacks. -/
theorem Twin.holds_eq (h : w.Twin lex w' last last') (path : ModulePath) :
    w'.holds path = w.holds path := by
  rw [holds, holds, h.expanding]

/-- The target of a name, from the type that it is resolved to. -/
theorem target_eq (loader : Loader) (name : String) (unit : Nat) (w : Walker) :
    w.target loader name unit =
      (((w.session.resolve loader name unit).1.bind fun id =>
          (w.session.resolve loader name unit).2.catalog.decls[id]?.map
            (TypeDecl.target id)).getD .missing,
        { w with session := (w.session.resolve loader name unit).2 }) := by
  unfold target
  rcases w.session.resolve loader name unit with ⟨_ | id, s⟩
  · rfl
  · simp only [Option.bind_some]
    cases s.catalog.decls[id]? with
    | none => rfl
    | some d =>
      rw [Option.map_some, Option.getD_some, TypeDecl.target]
      cases hbody : d.body <;> simp only [hbody]

/-- **Targets.** A name in the same unit stands for the same target. -/
theorem Twin.target (hpar : Parallel loader lex last last') (h : w.Twin lex w' last last')
    {name : String} {unit unit' : Nat} (hunit : SameUnit w.session w'.session unit unit')
    (hlast : Steps loader (w.target loader name unit).2.session last)
    (hlast' : Steps loader (w'.target loader name unit').2.session last') :
    SameTarget (w.target loader name unit).2.session (w'.target loader name unit').2.session
      (w.target loader name unit).1 (w'.target loader name unit').1 := by
  rw [target_eq] at hlast hlast' ⊢
  rw [target_eq]
  simp only at hlast hlast' ⊢
  rcases h.session.resolve hpar hunit hlast hlast' with ⟨hid, hid'⟩ |
    ⟨id, id', hid, hid', hdecl⟩
  · rw [hid, hid']
    exact .missing
  · have hkeep := hdecl
    obtain ⟨d, d', hd, hd', hplace, hbody, hsame⟩ := hdecl
    have hpath : d'.path = d.path := by
      rw [TypeDecl.path, TypeDecl.path, (Prod.mk.inj hplace).1, (Prod.mk.inj hplace).2]
    rw [hid, hid', Option.bind_some, Option.bind_some, hd, hd', Option.map_some, Option.map_some,
      Option.getD_some, Option.getD_some, TypeDecl.target, TypeDecl.target, hbody, hpath]
    cases d.body with
    | struct fields => exact .struct d.path hkeep
    | synonym type => exact .synonym type d.path hsame
    | enum variants => exact .enum variants

end Walker

namespace Walk

/-- Whether two walks give the same from twins. -/
structure Twin (loader : Loader) (lex : Lexicon) (last last' : Session) (below below' : Walk) :
    Prop where
  /-- Structures. -/
  expand : ∀ {id id' w w' e e' w₁ w₁'}, w.Twin lex w' last last' →
    SameDecl w.session w'.session id id' → below.expand id w = some (e, w₁) →
      below'.expand id' w' = some (e', w₁') → Steps loader w₁.session last →
        Steps loader w₁'.session last' → e = e'
  /-- Fields. -/
  build : ∀ {slot owner type unit unit' w w' x x' w₁ w₁'}, w.Twin lex w' last last' →
    SameUnit w.session w'.session unit unit' →
      below.build slot owner type unit w = some (x, w₁) →
        below'.build slot owner type unit' w' = some (x', w₁') → Steps loader w₁.session last →
          Steps loader w₁'.session last' → x = x'
  /-- Flattened fields. -/
  flatten : ∀ {type unit unit' w w' e e' w₁ w₁'}, w.Twin lex w' last last' →
    SameUnit w.session w'.session unit unit' → below.flatten type unit w = some (e, w₁) →
      below'.flatten type unit' w' = some (e', w₁') → Steps loader w₁.session last →
        Steps loader w₁'.session last' → e = e'

variable {below below' : Walk} {w w' : Walker} {unit unit' : Nat}

/-! ## Meeting a type name -/

/-- Whether a way to go on changes the session by steps. -/
def IsSteady {β : Type} (loader : Loader)
    (inner : TypeExpr → Nat → Walker → Option (β × Walker)) : Prop :=
  ∀ {type unit w b w₁}, inner type unit w = some (b, w₁) → Steps loader w.session w₁.session

/-- What happens after a name was looked up. -/
theorem meet_steps {α β : Type} {inner : TypeExpr → Nat → Walker → Option (β × Walker)}
    {ways : Ways α β} (h : below.Balanced loader) (hinner : IsSteady loader inner)
    (hevents : ∀ target, (ways.events target).loads = []) {name : String} {a : α} {w₁ : Walker}
    (hmeet : meet loader below inner ways name unit w = some (a, w₁)) :
    Steps loader (w.target loader name unit).2.session w₁.session := by
  rcases meet_cases hmeet with ⟨target, w₂, heq, -, rfl⟩ |
    ⟨id, path, w₂, e, heq, hpath, hexpand, -⟩ |
    ⟨type, unit', path, w₂, b, w₃, heq, -, hrun, -, rfl⟩
  · rw [heq]
    exact .single (.note _ _ (hevents target))
  · rw [heq]
    exact (h.expand (Walker.target_struct_free heq hpath) hexpand).steps
  · rw [heq]
    have hsteps : Steps loader (w₂.enter path).session w₃.session := hinner hrun
    exact hsteps

/-- **Meeting.** Twins make the same of a name in the same unit. -/
theorem meet_twin {α β : Type} {inner inner' : TypeExpr → Nat → Walker → Option (β × Walker)}
    {ways : Ways α β} (hpar : Parallel loader lex last last')
    (hb : below.Balanced loader) (hb' : below'.Balanced loader)
    (hbelow : below.Twin loader lex last last' below') (hsteady : IsSteady loader inner)
    (hsteady' : IsSteady loader inner')
    (hinner : ∀ {type unit unit' w w' b b' w₁ w₁'}, w.Twin lex w' last last' →
      SameUnit w.session w'.session unit unit' → inner type unit w = some (b, w₁) →
        inner' type unit' w' = some (b', w₁') → Steps loader w₁.session last →
          Steps loader w₁'.session last' → b = b')
    (hblocked : ∀ {s s' target target'}, SameTarget s s' target target' →
      ways.blocked target = ways.blocked target')
    (hevents : ∀ target, (ways.events target).loads = [])
    (hw : w.Twin lex w' last last') (hunit : SameUnit w.session w'.session unit unit')
    {name : String} {a a' : α} {w₁ w₁' : Walker}
    (h : meet loader below inner ways name unit w = some (a, w₁))
    (h' : meet loader below' inner' ways name unit' w' = some (a', w₁'))
    (hlast : Steps loader w₁.session last) (hlast' : Steps loader w₁'.session last') : a = a' := by
  -- `Parallel` speaks of the sessions at the end, so both look-ups are followed up to there
  have hsteps := (meet_steps hb hsteady hevents h).trans hlast
  have hsteps' := (meet_steps hb' hsteady' hevents h').trans hlast'
  have hsame := hw.target hpar hunit hsteps hsteps'
  have htwin := hw.returns hpar (w.target_returns loader name unit) hsteps
    (w'.target_returns loader name unit') hsteps'
  unfold meet at h h'
  rcases htarget : w.target loader name unit with ⟨target, w₂⟩
  rcases htarget' : w'.target loader name unit' with ⟨target', w₂'⟩
  rw [htarget, htarget'] at hsame htwin
  rw [htarget] at h
  rw [htarget'] at h'
  simp only at hsame htwin
  have hequal := hblocked hsame
  cases hsame with
  | struct path hdecl =>
    simp only [htwin.holds_eq path] at h h'
    by_cases hpath : w₂.holds path
    · simp only [hpath, if_true] at h h'
      cases h
      cases h'
      exact hequal
    · simp only [hpath, Bool.false_eq_true, if_false] at h h'
      obtain ⟨⟨e, w₃⟩, hexpand, heq⟩ := Option.map_eq_some_iff.mp h
      obtain ⟨⟨e', w₃'⟩, hexpand', heq'⟩ := Option.map_eq_some_iff.mp h'
      cases heq
      cases heq'
      rw [hbelow.expand htwin hdecl hexpand hexpand' hlast hlast']
  | synonym type path hsynonym =>
    simp only [htwin.holds_eq path] at h h'
    by_cases hpath : w₂.holds path
    · simp only [hpath, if_true] at h h'
      cases h
      cases h'
      exact hequal
    · simp only [hpath, Bool.false_eq_true, if_false] at h h'
      obtain ⟨⟨b, w₃⟩, hrun, heq⟩ := Option.map_eq_some_iff.mp h
      obtain ⟨⟨b', w₃'⟩, hrun', heq'⟩ := Option.map_eq_some_iff.mp h'
      cases heq
      cases heq'
      rw [hinner (htwin.enter path) hsynonym hrun hrun' hlast hlast']
  | enum variants =>
    cases h
    cases h'
    rfl
  | missing =>
    cases h
    cases h'
    rfl

/-! ## Fields -/

/-- A field that is not expanded further looks the same for targets that are the same. -/
theorem namedWays_blocked {slot : Slot} {name : String} {s s' : Session} {target target' : Target}
    (h : SameTarget s s' target target') :
    (namedWays slot name).blocked target = (namedWays slot name).blocked target' := by
  cases h <;> rfl

theorem namedWays_events (slot : Slot) (name : String) (target : Target) :
    ((namedWays slot name).events target).loads = [] := by
  cases target <;> rfl

theorem elementWays_blocked {s s' : Session} {target target' : Target}
    (h : SameTarget s s' target target') :
    elementWays.blocked target = elementWays.blocked target' := by
  cases h <;> rfl

section Fields

variable {slot : Slot} {owner : String} {w₁ w₁' : Walker}

/-- Twins build the same field for a type name. -/
theorem buildNamed_twin (hpar : Parallel loader lex last last')
    (hb : below.Balanced loader) (hb' : below'.Balanced loader)
    (hbelow : below.Twin loader lex last last' below') (hw : w.Twin lex w' last last')
    (hunit : SameUnit w.session w'.session unit unit') {name : String} {x x' : Field × Json}
    (h : buildNamed loader below slot owner name unit w = some (x, w₁))
    (h' : buildNamed loader below' slot owner name unit' w' = some (x', w₁'))
    (hlast : Steps loader w₁.session last) (hlast' : Steps loader w₁'.session last') : x = x' := by
  rw [buildNamed_eq_meet] at h h'
  have hsteady : IsSteady loader (below.build slot owner) := fun hrun => (hb.build hrun).steps
  have hsteady' : IsSteady loader (below'.build slot owner) := fun hrun => (hb'.build hrun).steps
  refine meet_twin hpar hb hb' hbelow hsteady hsteady' ?_ (fun hsame => namedWays_blocked hsame)
    (namedWays_events slot name) hw hunit h h' hlast hlast'
  intro type unit unit' w w' b b' w₁ w₁' hw hunit hrun hrun' hlast hlast'
  exact hbelow.build hw hunit hrun hrun' hlast hlast'

/-- Twins build the same array element for a type name. -/
theorem elementNamed_twin (hpar : Parallel loader lex last last')
    (hb : below.Balanced loader) (hb' : below'.Balanced loader)
    (hbelow : below.Twin loader lex last last' below') (hw : w.Twin lex w' last last')
    (hunit : SameUnit w.session w'.session unit unit') {name : String} {x x' : List Field × Json}
    (h : elementNamed loader below slot owner name unit w = some (x, w₁))
    (h' : elementNamed loader below' slot owner name unit' w' = some (x', w₁'))
    (hlast : Steps loader w₁.session last) (hlast' : Steps loader w₁'.session last') : x = x' := by
  rw [elementNamed_eq_meet] at h h'
  have hsteady : IsSteady loader (below.build slot owner) := fun hrun => (hb.build hrun).steps
  have hsteady' : IsSteady loader (below'.build slot owner) := fun hrun => (hb'.build hrun).steps
  have hevents : ∀ target, (elementWays.events target).loads = [] := fun _ => rfl
  refine meet_twin hpar hb hb' hbelow hsteady hsteady' ?_ (fun hsame => elementWays_blocked hsame)
    hevents hw hunit h h' hlast hlast'
  intro type unit unit' w w' b b' w₁ w₁' hw hunit hrun hrun' hlast hlast'
  exact hbelow.build hw hunit hrun hrun' hlast hlast'

/-- Twins build the same field, whatever its type. -/
theorem buildWith_twin (hpar : Parallel loader lex last last')
    (hb : below.Balanced loader) (hb' : below'.Balanced loader)
    (hbelow : below.Twin loader lex last last' below') (hw : w.Twin lex w' last last')
    (hunit : SameUnit w.session w'.session unit unit') {type : TypeExpr} {x x' : Field × Json}
    (h : buildWith loader below slot owner type unit w = some (x, w₁))
    (h' : buildWith loader below' slot owner type unit' w' = some (x', w₁'))
    (hlast : Steps loader w₁.session last) (hlast' : Steps loader w₁'.session last') : x = x' := by
  induction type generalizing x x' with
  | named name =>
    rw [buildWith] at h h'
    by_cases hscalar : Kind.isScalarName name
    · rw [if_pos hscalar] at h h'
      cases h
      cases h'
      rfl
    · rw [if_neg hscalar] at h h'
      exact buildNamed_twin hpar hb hb' hbelow hw hunit h h' hlast hlast'
  | sequence element ih =>
    cases element with
    | named name =>
      rw [buildWith] at h h'
      simp only at h h'
      by_cases hscalar : Kind.isScalarName name
      · rw [if_pos hscalar] at h h'
        cases h
        cases h'
        rfl
      rw [if_neg hscalar] at h h'
      by_cases howner : ModulePath.lastSegment name = owner
      · rw [if_pos howner] at h h'
        cases h
        cases h'
        rfl
      rw [if_neg howner] at h h'
      obtain ⟨⟨y, w₂⟩, helement, heq⟩ := Option.map_eq_some_iff.mp h
      obtain ⟨⟨y', w₂'⟩, helement', heq'⟩ := Option.map_eq_some_iff.mp h'
      cases heq
      cases heq'
      rw [elementNamed_twin hpar hb hb' hbelow hw hunit helement helement' hlast hlast']
    | sequence inner =>
      rw [buildWith] at h h'
      obtain ⟨⟨y, w₂⟩, hnested, heq⟩ := Option.map_eq_some_iff.mp h
      obtain ⟨⟨y', w₂'⟩, hnested', heq'⟩ := Option.map_eq_some_iff.mp h'
      cases heq
      cases heq'
      rw [ih hnested hnested']
    | map _ _ | any | unknown =>
      rw [buildWith] at h h'
      cases h
      cases h'
      rfl
  | map _ _ | any | unknown =>
    rw [buildWith] at h h'
    cases h
    cases h'
    rfl

end Fields

/-- Twins flatten a type to the same expansion. -/
theorem flattenWith_twin (hpar : Parallel loader lex last last')
    (hb : below.Balanced loader) (hb' : below'.Balanced loader)
    (hbelow : below.Twin loader lex last last' below') (hw : w.Twin lex w' last last')
    (hunit : SameUnit w.session w'.session unit unit') {type : TypeExpr}
    {e e' : Option Expansion} {w₁ w₁' : Walker}
    (h : flattenWith loader below type unit w = some (e, w₁))
    (h' : flattenWith loader below' type unit' w' = some (e', w₁'))
    (hlast : Steps loader w₁.session last) (hlast' : Steps loader w₁'.session last') : e = e' := by
  cases type with
  | named name =>
    rw [flattenWith_named] at h h'
    have hsteady : IsSteady loader below.flatten := fun hrun => (hb.flatten hrun).steps
    have hsteady' : IsSteady loader below'.flatten := fun hrun => (hb'.flatten hrun).steps
    have hevents : ∀ target, (flattenWays.events target).loads = [] := fun _ => rfl
    refine meet_twin hpar hb hb' hbelow hsteady hsteady' ?_ (fun _ => rfl) hevents hw hunit h h'
      hlast hlast'
    intro type unit unit' w w' b b' w₁ w₁' hw hunit hrun hrun' hlast hlast'
    exact hbelow.flatten hw hunit hrun hrun' hlast hlast'
  | _ =>
    cases h
    cases h'
    rfl

/-! ## Structures -/

/-- A field adds the same to the expansions of twins. -/
theorem addField_twin (hpar : Parallel loader lex last last')
    (hb : below.Balanced loader) (hb' : below'.Balanced loader)
    (hbelow : below.Twin loader lex last last' below') (hw : w.Twin lex w' last last')
    {d d' : TypeDecl} (hname : d'.name = d.name)
    (hunit : SameUnit w.session w'.session d.unit d'.unit) {e e₁ e₁' : Expansion} {f : FieldDecl}
    {w₁ w₁' : Walker} (h : addField loader below d (e, w) f = some (e₁, w₁))
    (h' : addField loader below' d' (e, w') f = some (e₁', w₁'))
    (hlast : Steps loader w₁.session last) (hlast' : Steps loader w₁'.session last') :
    e₁ = e₁' := by
  unfold addField at h h'
  simp only [hname] at h h'
  by_cases hflatten : f.flatten
  · simp only [hflatten, if_true] at h h'
    obtain ⟨⟨r, w₂⟩, hrun, heq⟩ := Option.map_eq_some_iff.mp h
    obtain ⟨⟨r', w₂'⟩, hrun', heq'⟩ := Option.map_eq_some_iff.mp h'
    have hw₁ : w₂ = w₁ := by cases r <;> exact (Prod.mk.inj heq).2
    have hw₁' : w₂' = w₁' := by cases r' <;> exact (Prod.mk.inj heq').2
    subst hw₁ hw₁'
    obtain rfl := flattenWith_twin hpar hb hb' hbelow hw hunit hrun hrun' hlast hlast'
    cases r with
    | none => rw [← (Prod.mk.inj heq).1, ← (Prod.mk.inj heq').1]
    | some other => rw [← (Prod.mk.inj heq).1, ← (Prod.mk.inj heq').1]
  · simp only [hflatten, Bool.false_eq_true, if_false] at h h'
    obtain ⟨⟨x, w₂⟩, hrun, heq⟩ := Option.map_eq_some_iff.mp h
    obtain ⟨⟨x', w₂'⟩, hrun', heq'⟩ := Option.map_eq_some_iff.mp h'
    cases heq
    cases heq'
    have hfield : x = x' := by
      unfold buildField at hrun hrun'
      by_cases htext : f.asText
      · simp only [htext, if_true] at hrun hrun'
        obtain ⟨⟨y, w₃⟩, hbuild, heq⟩ := Option.map_eq_some_iff.mp hrun
        obtain ⟨⟨y', w₃'⟩, hbuild', heq'⟩ := Option.map_eq_some_iff.mp hrun'
        cases heq
        cases heq'
        rw [buildWith_twin hpar hb hb' hbelow hw hunit hbuild hbuild' hlast hlast']
      · simp only [htext, Bool.false_eq_true, if_false] at hrun hrun'
        exact buildWith_twin hpar hb hb' hbelow hw hunit hrun hrun' hlast hlast'
    rw [hfield]

theorem addFields_twin (hpar : Parallel loader lex last last')
    (hb : below.Balanced loader) (hb' : below'.Balanced loader)
    (hbelow : below.Twin loader lex last last' below') {d d' : TypeDecl}
    (hname : d'.name = d.name) (fields : List FieldDecl) {e e₁ e₁' : Expansion}
    {w w' w₁ w₁' : Walker} (hw : w.Twin lex w' last last')
    (hunit : SameUnit w.session w'.session d.unit d'.unit)
    (h : fields.foldlM (addField loader below d) (e, w) = some (e₁, w₁))
    (h' : fields.foldlM (addField loader below' d') (e, w') = some (e₁', w₁'))
    (hlast : Steps loader w₁.session last) (hlast' : Steps loader w₁'.session last') :
    e₁ = e₁' := by
  induction fields generalizing e w w' with
  | nil =>
    cases h
    cases h'
    rfl
  | cons f rest ih =>
    rw [List.foldlM_cons] at h h'
    obtain ⟨⟨e₂, w₂⟩, hadd, hrest⟩ := Option.bind_eq_some_iff.mp h
    obtain ⟨⟨e₂', w₂'⟩, hadd', hrest'⟩ := Option.bind_eq_some_iff.mp h'
    have hreturns := addField_returns hb hadd
    have hreturns' := addField_returns hb' hadd'
    have hlast₂ := (addFields_returns hb hrest).steps.trans hlast
    have hlast₂' := (addFields_returns hb' hrest').steps.trans hlast'
    obtain rfl := addField_twin hpar hb hb' hbelow hw hname hunit hadd hadd' hlast₂ hlast₂'
    exact ih (hw.returns hpar hreturns hlast₂ hreturns' hlast₂')
      (hunit.grows hreturns.steps.grows hreturns'.steps.grows) hrest hrest'

/-- **A structure.** Twins expand it alike, if this is so for the walks below. -/
theorem expandWith_twin (hpar : Parallel loader lex last last')
    (hb : below.Balanced loader) (hb' : below'.Balanced loader)
    (hbelow : below.Twin loader lex last last' below') (hw : w.Twin lex w' last last')
    {id id' : Nat} (hdecl : SameDecl w.session w'.session id id') {e e' : Option Expansion}
    {w₁ w₁' : Walker} (h : expandWith loader below id w = some (e, w₁))
    (h' : expandWith loader below' id' w' = some (e', w₁'))
    (hlast : Steps loader w₁.session last) (hlast' : Steps loader w₁'.session last') : e = e' := by
  obtain ⟨d, d', hd, hd', hplace, hbody, hunit⟩ := hdecl
  obtain ⟨hmodule, hname⟩ := Prod.mk.inj hplace
  have hpath : d'.path = d.path := by rw [TypeDecl.path, TypeDecl.path, hmodule, hname]
  unfold expandWith at h h'
  simp only [hd] at h
  simp only [hd', hbody, hpath] at h'
  cases hstruct : d.body with
  | struct fields =>
    simp only [hstruct] at h h'
    obtain ⟨⟨x, w₂⟩, hfold, heq⟩ := Option.map_eq_some_iff.mp h
    obtain ⟨⟨x', w₂'⟩, hfold', heq'⟩ := Option.map_eq_some_iff.mp h'
    cases heq
    cases heq'
    have hsteps := (addFields_returns hb hfold).steps.trans hlast
    have hsteps' := (addFields_returns hb' hfold').steps.trans hlast'
    have hstart := (hw.returns hpar (w.note_returns loader rfl) hsteps
      (w'.note_returns loader rfl) hsteps').enter d.path
    exact congrArg some (addFields_twin hpar hb hb' hbelow hname _ hstart hunit hfold hfold' hlast
      hlast')
  | synonym type =>
    simp only [hstruct] at h h'
    cases h
    cases h'
    rfl
  | enum variants =>
    simp only [hstruct] at h h'
    cases h
    cases h'
    rfl

/-- **Lockstep.** Walks of any two depths that come to an end give the same from twins. -/
theorem upTo_twin (hpar : Parallel loader lex last last') (n n' : Nat) :
    (upTo loader n).Twin loader lex last last' (upTo loader n') := by
  induction n generalizing n' with
  | zero => exact ⟨nofun, nofun, nofun⟩
  | succ n ih =>
    cases n' with
    | zero => exact ⟨nofun, nofun, nofun⟩
    | succ n' =>
      have hb := upTo_balanced loader n
      have hb' := upTo_balanced loader n'
      refine ⟨?_, ?_, ?_⟩
      · intro id id' w w' e e' w₁ w₁' hw hdecl h h'
        rw [upTo_succ_expand] at h h'
        exact expandWith_twin hpar hb hb' (ih n') hw hdecl h h'
      · intro slot owner type unit unit' w w' x x' w₁ w₁' hw hunit h h'
        rw [upTo_succ_build] at h h'
        exact buildWith_twin hpar hb hb' (ih n') hw hunit h h'
      · intro type unit unit' w w' e e' w₁ w₁' hw hunit h h'
        rw [upTo_succ_flatten] at h h'
        exact flattenWith_twin hpar hb hb' (ih n') hw hunit h h'

end Walk

namespace Session

variable {s s' : Session}

/-- **Expansions.** Twins expand the same type to the same. -/
theorem Twin.expand (hpar : Parallel loader lex last last') (h : s.Twin lex s' last last')
    {id id' : Nat} (hdecl : SameDecl s s' id id')
    (hlast : Steps loader (s.expand loader id).2 last)
    (hlast' : Steps loader (s'.expand loader id').2 last') :
    (s.expand loader id).1 = (s'.expand loader id').1 := by
  obtain ⟨sources, hsources⟩ := hpar.covered
  obtain ⟨⟨e, w⟩, hrun⟩ := Option.isSome_iff_exists.mp (Walker.expand_isSome hsources s id)
  obtain ⟨⟨e', w'⟩, hrun'⟩ := Option.isSome_iff_exists.mp (Walker.expand_isSome hsources s' id')
  rw [Session.expand, hrun] at hlast ⊢
  rw [Session.expand, hrun'] at hlast' ⊢
  obtain ⟨n, hn⟩ := Walker.expand_eq_upTo hrun
  obtain ⟨n', hn'⟩ := Walker.expand_eq_upTo hrun'
  have hw : (⟨s, []⟩ : Walker).Twin lex ⟨s', []⟩ last last' := ⟨h, rfl⟩
  exact (Walk.upTo_twin hpar n n').expand hw hdecl hn hn' hlast hlast'

/-- What a name is expanded to, from the type that it is resolved to. -/
theorem expandNamed_eq (loader : Loader) (name : String) (unit : Nat) (s : Session) :
    s.expandNamed loader name unit =
      match (s.resolve loader name unit).1 with
      | some id => (s.resolve loader name unit).2.expand loader id
      | none => (none, (s.resolve loader name unit).2) := by
  rw [Session.expandNamed]
  rcases s.resolve loader name unit with ⟨_ | id, s₁⟩
  · rfl
  · rfl

/-- **Type names.** Twins expand a type name to the same result. -/
theorem Twin.expandNamed (hpar : Parallel loader lex last last') (h : s.Twin lex s' last last')
    {unit unit' : Nat} (hunit : SameUnit s s' unit unit') {name : String}
    (hlast : Steps loader (s.expandNamed loader name unit).2 last)
    (hlast' : Steps loader (s'.expandNamed loader name unit').2 last') :
    (s.expandNamed loader name unit).1 = (s'.expandNamed loader name unit').1 := by
  have hafter : ∀ (s : Session) (unit : Nat),
      Steps loader (s.resolve loader name unit).2 (s.expandNamed loader name unit).2 := by
    intro s unit
    rw [expandNamed_eq]
    rcases s.resolve loader name unit with ⟨_ | id, s₁⟩
    · exact .refl
    · exact expand_steps loader id s₁
  have hresolve := (hafter s unit).trans hlast
  have hresolve' := (hafter s' unit').trans hlast'
  have htwin := h.steps hpar (.single (.resolve s name unit)) hresolve
    (.single (.resolve s' name unit')) hresolve'
  rw [expandNamed_eq] at hlast hlast' ⊢
  rw [expandNamed_eq]
  rcases h.resolve hpar hunit hresolve hresolve' with ⟨hid, hid'⟩ | ⟨id, id', hid, hid', hdecl⟩
  · rw [hid, hid']
  · simp only [hid] at hlast ⊢
    simp only [hid'] at hlast' ⊢
    exact htwin.expand hpar hdecl hlast hlast'

end Session

end ApiDocs
