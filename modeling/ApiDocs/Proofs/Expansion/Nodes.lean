import ApiDocs.Proofs.Expansion.Balance
import ApiDocs.Proofs.Expansion.Merging

/-!
# Where the fields of an expansion come from

A field at any depth of an expansion, with its example, is a node of it (`NodeOf`). The walk comes
to declared fields one after the other: to those of the structure itself, and to those of the
structures that it goes on to from a field (`Visits`). Every node is what one of these declared
fields is built to (`node_visits`).
-/

namespace ApiDocs

/-- Whether a field with its example stands somewhere in the given fields and their example. Arrays
around an example do not count. -/
inductive NodeOf : List Field → Json → Field → Json → Prop where
  /-- One of the fields. -/
  | here {fields : List Field} {value : Json} {members : List (String × Json)} {f : Field}
    {v : Json} (hvalue : value.peel = .object members)
    (hmem : (f, v) ∈ fields.zip (members.map Prod.snd)) : NodeOf fields value f v
  /-- A field inside of one of the fields. -/
  | inside {fields : List Field} {value : Json} {members : List (String × Json)} {f g : Field}
    {u v : Json} (hvalue : value.peel = .object members)
    (hmem : (g, u) ∈ fields.zip (members.map Prod.snd)) (hinside : NodeOf g.children u f v) :
    NodeOf fields value f v

/-- Arrays around an example make no difference to its nodes. -/
theorem NodeOf.of_peel_eq {fields : List Field} {value value' : Json} {f : Field} {v : Json}
    (h : NodeOf fields value f v) (hpeel : value.peel = value'.peel) :
    NodeOf fields value' f v := by
  cases h with
  | here hvalue hmem => exact .here (hpeel ▸ hvalue) hmem
  | inside hvalue hmem hinside => exact .inside (hpeel ▸ hvalue) hmem hinside

theorem NodeOf.ne_nil {fields : List Field} {value : Json} {f : Field} {v : Json}
    (h : NodeOf fields value f v) : fields ≠ [] := by
  rintro rfl
  cases h with
  | here _ hmem => cases hmem
  | inside _ hmem _ => cases hmem

/-- The nodes of an expansion are its fields and what is inside of them. -/
theorem NodeOf.of_expansion {e : Expansion} {f : Field} {v : Json}
    (h : NodeOf e.fields e.sample f v) :
    ∃ g u, (g, u) ∈ e.pairs ∧ ((g, u) = (f, v) ∨ NodeOf g.children u f v) := by
  cases h with
  | here hvalue hmem =>
    cases hvalue
    exact ⟨f, v, hmem, Or.inl rfl⟩
  | inside hvalue hmem hinside =>
    cases hvalue
    exact ⟨_, _, hmem, Or.inr hinside⟩

/-- A node inside a field of an expansion is a node of the expansion. -/
theorem NodeOf.to_expansion {e : Expansion} {f g : Field} {u v : Json} (hmem : (g, u) ∈ e.pairs)
    (h : (g, u) = (f, v) ∨ NodeOf g.children u f v) : NodeOf e.fields e.sample f v := by
  rcases h with heq | hinside
  · cases heq
    exact .here rfl hmem
  · exact .inside rfl hmem hinside

/-- Of the fields that are put together, those stand in the expansion that are kept. -/
theorem Expansion.pairs_merge (pairs : List (Field × Json)) :
    (Expansion.merge pairs).pairs = kept pairs := by
  rw [Expansion.merge, Expansion.pairs, ofPairs, List.map_map, List.zip_map', List.map_congr_left,
    List.map_id]
  intro pair _
  rfl

/-! ## Declared fields -/

namespace FieldDecl

/-- What is known of a declared field apart from its type. -/
def slot (f : FieldDecl) : Slot := ⟨f.name, f.required, f.comment⟩

/-- The type with which a field is documented: one that is written out as a text is one. -/
def shown (f : FieldDecl) : TypeExpr :=
  if f.asText then .named "String" else f.type

/-- A field as it is documented: one that is written out as a text keeps the name of its type. -/
def label (f : FieldDecl) (field : Field) : Field :=
  if f.asText then { field with typeName := f.type.text } else field

/-- A label changes the type name that is shown, and nothing else of what a field holds. -/
theorem label_eq (f : FieldDecl) (field : Field) :
    (f.label field).kind = field.kind ∧ (f.label field).value = field.value ∧
      (f.label field).remark = field.remark ∧ (f.label field).children = field.children := by
  unfold label
  split <;> exact ⟨rfl, rfl, rfl, rfl⟩

end FieldDecl

namespace Walk

/-- A declared field is built from its type, and then labelled. -/
theorem buildField_eq (loader : Loader) (below : Walk) (f : FieldDecl) (unit : Nat)
    (owner : String) (w : Walker) :
    buildField loader below f unit owner w =
      (buildWith loader below f.slot owner f.shown unit w).map fun r =>
        ((f.label r.1.1, r.1.2), r.2) := by
  unfold buildField FieldDecl.slot FieldDecl.shown FieldDecl.label
  cases f.asText with
  | true => rfl
  | false => simp

/-- What a declared field is built to, but for the name of its type. -/
theorem exists_buildWith {loader : Loader} {below : Walk} {f : FieldDecl} {unit : Nat}
    {owner : String} {w w' : Walker} {field : Field} {v : Json}
    (h : buildField loader below f unit owner w = some ((field, v), w')) :
    ∃ built, buildWith loader below f.slot owner f.shown unit w = some ((built, v), w') ∧
      field = f.label built := by
  rw [buildField_eq] at h
  obtain ⟨⟨⟨built, x⟩, w₁⟩, hbuild, heq⟩ := Option.map_eq_some_iff.mp h
  cases heq
  exact ⟨built, hbuild, rfl⟩

/-! ## Going on from a field -/

/-- Whether building a field of a type in a unit, inside the structure named `owner`, comes to
expand the structure `id`. The last walker is the one with which it is expanded. -/
inductive Leads (loader : Loader) (owner : String) :
    TypeExpr → Nat → Walker → Nat → Walker → Prop where
  /-- The name of the structure. -/
  | struct {name : String} {unit id : Nat} {path : ModulePath} {w w' : Walker}
    (hname : Kind.isScalarName name = false)
    (htarget : w.target loader name unit = (.struct id path, w')) (hfree : path ∉ w'.expanding) :
    Leads loader owner (.named name) unit w id w'
  /-- Another name of a type that leads to it. -/
  | synonym {name : String} {type : TypeExpr} {unit unit' id : Nat} {path : ModulePath}
    {w w' w'' : Walker} (hname : Kind.isScalarName name = false)
    (htarget : w.target loader name unit = (.synonym type unit' path, w'))
    (hfree : path ∉ w'.expanding) (hrest : Leads loader owner type unit' (w'.enter path) id w'') :
    Leads loader owner (.named name) unit w id w''
  /-- The elements of a sequence lead to it. -/
  | element {name : String} {unit id : Nat} {w w' : Walker}
    (howner : ModulePath.lastSegment name ≠ owner)
    (hname : Leads loader owner (.named name) unit w id w') :
    Leads loader owner (.sequence (.named name)) unit w id w'
  /-- The elements of sequences in a sequence lead to it. -/
  | nested {inner : TypeExpr} {unit id : Nat} {w w' : Walker}
    (hinner : Leads loader owner (.sequence inner) unit w id w') :
    Leads loader owner (.sequence (.sequence inner)) unit w id w'

/-- Whether the walk goes on from a declared field to the structure `id`. -/
inductive Opens (loader : Loader) (d : TypeDecl) (f : FieldDecl) (w : Walker) :
    Nat → Walker → Prop where
  /-- Its type leads there. -/
  | plain {id : Nat} {w' : Walker} (hplain : f.flatten = false)
    (hleads : Leads loader d.name f.shown d.unit w id w') : Opens loader d f w id w'
  /-- It is flattened and its type denotes the structure. -/
  | flattened {chain : List ModulePath} {id : Nat} {w' : Walker} (hflatten : f.flatten = true)
    (hdenotes : Denotes loader f.type d.unit w chain id w') : Opens loader d f w id w'

/-- Whether the walk that expands the declaration `id` comes to a declared field of a structure. The
last walker is the one with which the field is built. -/
inductive Visits (loader : Loader) : Nat → Walker → TypeDecl → FieldDecl → Walker → Prop where
  /-- A field of the declaration itself, after the fields before it. -/
  | own {id : Nat} {w w₁ : Walker} {d : TypeDecl} {fields before after : List FieldDecl}
    {f : FieldDecl} {pairs : List (Field × Json)} (hd : w.session.catalog.decls[id]? = some d)
    (hbody : d.body = .struct fields) (hfields : fields.filter (!·.skip) = before ++ f :: after)
    (hbefore : Collects loader (unbounded loader) d before (start d w) pairs w₁) :
    Visits loader id w d f w₁
  /-- A field of a structure to which the walk goes on from another field. -/
  | inside {id id' : Nat} {w w₁ w₂ w₃ : Walker} {d d' : TypeDecl} {f f' : FieldDecl}
    (hvisits : Visits loader id w d f w₁) (hopens : Opens loader d f w₁ id' w₂)
    (hrest : Visits loader id' w₂ d' f' w₃) : Visits loader id w d' f' w₃

/-! ## Sessions on the way -/

variable {loader : Loader}

/-- The walk without a bound returns as it came, since every bounded one does. -/
theorem unbounded_balanced (loader : Loader) : (unbounded loader).Balanced loader where
  expand hfree h := by
    obtain ⟨n, hn⟩ := (unbounded_isLimit loader).expand.mp h
    exact (upTo_balanced loader n).expand hfree hn
  build h := by
    obtain ⟨n, hn⟩ := (unbounded_isLimit loader).build.mp h
    exact (upTo_balanced loader n).build hn
  flatten h := by
    obtain ⟨n, hn⟩ := (unbounded_isLimit loader).flatten.mp h
    exact (upTo_balanced loader n).flatten hn

/-- Collecting what fields contribute returns as it came. -/
theorem Collects.returns {d : TypeDecl} {fields : List FieldDecl} {pairs : List (Field × Json)}
    {w w' : Walker} (h : Collects loader (unbounded loader) d fields w pairs w') :
    w.Returns loader w' :=
  addFields_returns (unbounded_balanced loader) (h.addFields_eq {})

/-- Looking for the target of a name is a run of steps. -/
theorem target_steps {name : String} {unit : Nat} {w w' : Walker} {target : Target}
    (h : w.target loader name unit = (target, w')) :
    Session.Steps loader w.session w'.session := by
  have hsteps := (w.target_frame loader name unit).2
  rw [h] at hsteps
  exact hsteps

/-- Following a type to the structure that it denotes is a run of steps. -/
theorem Denotes.steps {type : TypeExpr} {unit id : Nat} {chain : List ModulePath} {w w' : Walker}
    (h : Denotes loader type unit w chain id w') : Session.Steps loader w.session w'.session := by
  induction h with
  | struct htarget _ => exact target_steps htarget
  | synonym htarget _ _ ih => exact (target_steps htarget).trans ih

/-- Following the type of a field to a structure is a run of steps. -/
theorem Leads.steps {owner : String} {type : TypeExpr} {unit id : Nat} {w w' : Walker}
    (h : Leads loader owner type unit w id w') : Session.Steps loader w.session w'.session := by
  induction h with
  | struct _ htarget _ => exact target_steps htarget
  | synonym _ htarget _ _ ih => exact (target_steps htarget).trans ih
  | element _ _ ih => exact ih
  | nested _ ih => exact ih

/-- Going on from a declared field to a structure is a run of steps. -/
theorem Opens.steps {d : TypeDecl} {f : FieldDecl} {id : Nat} {w w' : Walker}
    (h : Opens loader d f w id w') : Session.Steps loader w.session w'.session := by
  cases h with
  | plain _ hleads => exact hleads.steps
  | flattened _ hdenotes => exact hdenotes.steps

/-- The walk comes to a field by steps of the session. -/
theorem Visits.steps {id : Nat} {w w' : Walker} {d : TypeDecl} {f : FieldDecl}
    (h : Visits loader id w d f w') : Session.Steps loader w.session w'.session := by
  induction h with
  | @own _ w _ d _ _ _ _ _ _ _ _ hbefore =>
    have hstart : Session.Steps loader w.session (start d w).session :=
      .single (.note _ [.expanding d.path] rfl)
    exact hstart.trans hbefore.returns.steps
  | inside _ hopens _ ih ih' => exact (ih.trans hopens.steps).trans ih'

/-- A field to which the walk comes is one of a declared structure. -/
theorem Visits.declared {id : Nat} {w w' : Walker} {d : TypeDecl} {f : FieldDecl}
    (h : Visits loader id w d f w') :
    ∃ (id' : Nat) (fields : List FieldDecl), w'.session.catalog.decls[id']? = some d ∧
      d.body = .struct fields ∧ f ∈ fields := by
  induction h with
  | @own id w w₁ d fields before after f pairs hd hbody hfields hbefore =>
    have hsteps := (Visits.own hd hbody hfields hbefore).steps
    have hmem : f ∈ fields.filter (!·.skip) := hfields ▸ List.mem_append_right _ List.mem_cons_self
    exact ⟨id, fields, hsteps.grows.getElem?_decls hd, hbody, (List.mem_filter.mp hmem).1⟩
  | inside _ _ _ _ ih => exact ih

/-! ## What is inside of a built field -/

/-- Whether fields with an example are none, or those of a structure to which a type leads. -/
def Nests (loader : Loader) (below : Walk) (owner : String) (type : TypeExpr) (unit : Nat)
    (w : Walker) (children : List Field) (value : Json) : Prop :=
  children = [] ∨ ∃ id w₁ e w₂, Leads loader owner type unit w id w₁ ∧
    below.expand id w₁ = some (some e, w₂) ∧ children = e.fields ∧ value.peel = e.sample

/-- Whether all that a walk builds has only fields of structures to which its type leads. -/
def FollowsTypes (loader : Loader) (below : Walk) : Prop :=
  ∀ {slot owner type unit w f v w'}, below.build slot owner type unit w = some ((f, v), w') →
    Nests loader below owner type unit w f.children v

variable {below : Walk}

/-- What a type name is built to has only fields of structures to which the name leads, whichever
way is taken and whatever is made of it. -/
theorem meet_nests {α : Type} {ways : Ways α (Field × Json)} (children : α → List Field)
    (value : α → Json) (h : FollowsTypes loader below)
    (hexpanded : ∀ e, children (ways.expanded (some e)) = e.fields ∧
      (value (ways.expanded (some e))).peel = e.sample)
    (hnone : children (ways.expanded none) = [])
    (hrenamed : ∀ b, children (ways.renamed b) = b.1.children ∧
      (value (ways.renamed b)).peel = b.2.peel)
    (hblocked : ∀ target, children (ways.blocked target) = []) {slot : Slot} {owner name : String}
    {unit : Nat} {w w' : Walker} {a : α} (hname : Kind.isScalarName name = false)
    (hmeet : meet loader below (below.build slot owner) ways name unit w = some (a, w')) :
    Nests loader below owner (.named name) unit w (children a) (value a) := by
  rcases meet_cases hmeet with ⟨target, _, -, rfl, -⟩ |
    ⟨id, path, w₁, r, htarget, hfree, hexpand, rfl⟩ |
    ⟨type, unit', path, w₁, b, w₂, htarget, hfree, hinner, rfl, rfl⟩
  · exact Or.inl (hblocked target)
  · cases r with
    | none => exact Or.inl hnone
    | some e =>
      exact Or.inr ⟨id, w₁, e, w', .struct hname htarget hfree, hexpand, hexpanded e⟩
  · obtain ⟨hchildren, hvalue⟩ := hrenamed b
    rw [Nests, hchildren, hvalue]
    refine (h hinner).imp_right ?_
    rintro ⟨id, w₃, e, w₄, hleads, hrest⟩
    exact ⟨id, w₃, e, w₄, .synonym hname htarget hfree hleads, hrest⟩

/-- A field that is built for a type name has only fields of structures to which the name leads. -/
theorem buildNamed_nests (h : FollowsTypes loader below) {slot : Slot} {owner name : String}
    {unit : Nat} {w w' : Walker} {f : Field} {v : Json} (hname : Kind.isScalarName name = false)
    (hbuild : buildNamed loader below slot owner name unit w = some ((f, v), w')) :
    Nests loader below owner (.named name) unit w f.children v := by
  rw [buildNamed_eq_meet] at hbuild
  refine meet_nests (fun a => a.1.children) Prod.snd h (fun _ => ⟨rfl, rfl⟩) rfl
    (fun _ => ⟨rfl, rfl⟩) ?_ hname hbuild
  intro target
  cases target <;> rfl

theorem elementNamed_nests (h : FollowsTypes loader below) {slot : Slot} {owner name : String}
    {unit : Nat} {w w' : Walker} {children : List Field} {v : Json}
    (hname : Kind.isScalarName name = false)
    (helement : elementNamed loader below slot owner name unit w = some ((children, v), w')) :
    Nests loader below owner (.named name) unit w children v := by
  rw [elementNamed_eq_meet] at helement
  refine meet_nests Prod.fst Prod.snd h (fun e => ⟨rfl, ?_⟩) rfl (fun b => ⟨rfl, ?_⟩) ?_ hname
    helement
  · rw [elementWays, Json.peel]
    rfl
  · rw [elementWays, Json.peel]
  · intro target
    cases target <;> rfl

/-- **Building.** A field has only fields of structures to which its type leads, if this is so for
the walk below. -/
theorem buildWith_nests (h : FollowsTypes loader below) {slot : Slot} {owner : String}
    {type : TypeExpr} {unit : Nat} {w w' : Walker} {f : Field} {v : Json}
    (hbuild : buildWith loader below slot owner type unit w = some ((f, v), w')) :
    Nests loader below owner type unit w f.children v := by
  induction type generalizing f v w' with
  | named name =>
    rw [buildWith] at hbuild
    split at hbuild
    · obtain ⟨hscalar, -⟩ := Prod.mk.inj (Option.some.inj hbuild)
      have hchildren := scalar_children slot name
      rw [hscalar] at hchildren
      exact Or.inl hchildren
    · rename_i hname
      exact buildNamed_nests h (Bool.not_eq_true _ ▸ hname) hbuild
  | sequence element ih =>
    cases element with
    | named name =>
      rw [buildWith] at hbuild
      simp only at hbuild
      split at hbuild
      · cases hbuild
        exact Or.inl rfl
      · rename_i hname
        split at hbuild
        · cases hbuild
          exact Or.inl rfl
        · rename_i howner
          obtain ⟨⟨⟨children, x⟩, w₁⟩, helement, heq⟩ := Option.map_eq_some_iff.mp hbuild
          cases heq
          refine (elementNamed_nests h (Bool.not_eq_true _ ▸ hname) helement).imp_right ?_
          rintro ⟨id, w₂, e, w₃, hleads, hrest⟩
          exact ⟨id, w₂, e, w₃, .element howner hleads, hrest⟩
    | sequence inner =>
      rw [buildWith] at hbuild
      obtain ⟨⟨⟨nested, x⟩, w₁⟩, hnested, heq⟩ := Option.map_eq_some_iff.mp hbuild
      cases heq
      have hinner : Nests loader below owner (.sequence inner) unit w nested.children x :=
        ih hnested
      refine hinner.imp_right ?_
      rintro ⟨id, w₂, e, w₃, hleads, hexpand, hchildren, hvalue⟩
      exact ⟨id, w₂, e, w₃, .nested hleads, hexpand, hchildren, by rw [Json.peel, hvalue]⟩
    | map _ _ | any | unknown =>
      cases hbuild
      exact Or.inl rfl
  | map _ _ | any | unknown =>
    cases hbuild
    exact Or.inl rfl

theorem upTo_followsTypes (loader : Loader) (n : Nat) : FollowsTypes loader (upTo loader n) := by
  induction n with
  | zero => exact nofun
  | succ n ih =>
    intro slot owner type unit w f v w' h
    rw [upTo_succ_build] at h
    refine (buildWith_nests ih h).imp_right ?_
    rintro ⟨id, w₁, e, w₂, hleads, hexpand, hrest⟩
    exact ⟨id, w₁, e, w₂, hleads, (upTo_isPartOf_succ loader n).expand hexpand, hrest⟩

/-! ## Nodes -/

/-- Where a node comes from: a declared field to which the walk comes, and that is built to it. -/
def Origin (loader : Loader) (id : Nat) (w : Walker) (f : Field) (v : Json) : Prop :=
  ∃ d fd w₁ w₂, Visits loader id w d fd w₁ ∧ fd.flatten = false ∧
    buildField loader (unbounded loader) fd d.unit d.name w₁ = some ((f, v), w₂)

/-- What comes from a structure to which the walk goes on comes from the structure that it left. -/
theorem Origin.inside {id id' : Nat} {w w₁ w₂ : Walker} {d : TypeDecl} {fd : FieldDecl} {f : Field}
    {v : Json} (hvisits : Visits loader id w d fd w₁) (hopens : Opens loader d fd w₁ id' w₂)
    (h : Origin loader id' w₂ f v) : Origin loader id w f v := by
  obtain ⟨d', fd', w₃, w₄, hrest, hbuild⟩ := h
  exact ⟨d', fd', w₃, w₄, .inside hvisits hopens hrest, hbuild⟩

/-- **Bounded walks.** Every node of an expansion comes from a declared field. -/
theorem upTo_nodes (loader : Loader) (n : Nat) {id : Nat} {w w' : Walker} {e : Expansion}
    (h : (upTo loader n).expand id w = some (some e, w')) {f : Field} {v : Json}
    (hnode : NodeOf e.fields e.sample f v) : Origin loader id w f v := by
  induction n generalizing id w e w' with
  | zero => cases h
  | succ n ih =>
    rw [upTo_succ_expand] at h
    obtain ⟨d, fields, pairs, w₁, hd, hbody, hpairs, rfl, -⟩ := upTo_collects h
    rw [Expansion.pushAll_eq_merge] at hnode
    obtain ⟨g, u, hmem, hgu⟩ := hnode.of_expansion
    rw [Expansion.pairs_merge] at hmem
    obtain ⟨before, fd, after, earlier, mine, w₂, w₃, hfields, hbefore, hmine, hpair⟩ :=
      hpairs.exists_contributes (Expansion.mem_of_mem_kept hmem)
    have hvisits : Visits loader id w d fd w₂ := .own hd hbody hfields hbefore.mono
    cases hmine with
    | @plain field value _ hplain hbuild =>
      cases List.mem_singleton.mp hpair
      rcases hgu with heq | hinside
      · cases heq
        have hdeep := (buildField_continuous fd d.unit d.name w₂).mono
          (upTo_isPartOf_unbounded loader n) hbuild
        exact ⟨d, fd, w₂, w₃, hvisits, hplain, hdeep⟩
      · obtain ⟨built, hbuilt, rfl⟩ := exists_buildWith hbuild
        rw [(fd.label_eq built).2.2.2] at hinside
        rcases buildWith_nests (upTo_followsTypes loader n) hbuilt with hnil |
          ⟨id', w₄, e', w₅, hleads, hexpand, hfields', hvalue⟩
        · exact absurd hnil hinside.ne_nil
        · rw [hfields'] at hinside
          exact .inside hvisits (.plain hplain hleads) (ih hexpand (hinside.of_peel_eq hvalue))
    | @flattened chain id' e' w₄ w₅ hflatten hdenotes hexpand =>
      exact .inside hvisits (.flattened hflatten hdenotes)
        (ih hexpand (NodeOf.to_expansion hpair hgu))
    | nothing => cases hpair

/-- **Nodes.** Every node of an expansion is what a declared field, to which the walk comes, is
built to. -/
theorem node_visits {id : Nat} {w w' : Walker} {e : Expansion}
    (h : w.expand loader id = some (some e, w')) {f : Field} {v : Json}
    (hnode : NodeOf e.fields e.sample f v) : Origin loader id w f v := by
  obtain ⟨n, hn⟩ := Walker.expand_eq_upTo h
  exact upTo_nodes loader n hn hnode

end Walk

end ApiDocs
