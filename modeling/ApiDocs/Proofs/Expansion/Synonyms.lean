import ApiDocs.Proofs.Expansion.Lockstep
import ApiDocs.Proofs.Expansion.Merging

/-!
# Other names of types as elements

A sequence of a type and a sequence of another name of it are built in different ways: the first
looks at the type itself, the second builds a field of the type and puts its example into an array.
For which types the two come to the same is said by `SeenThrough`, which looks no further than to
what the type stands for (`sequence_of_synonym`).
-/

namespace ApiDocs

/-- Whether an element that stands for a target looks the same if it is given by another name. An
enumeration has the documentation as its example only behind the other name, and what is not known
or is being expanded is left out only without it. -/
def Target.SeenThrough (remark : String) (w : Walker) : Target → Prop
  | .struct _ path | .synonym _ _ path => path ∉ w.expanding
  | .enum variants => remark = "" ∨ remark = firstVariant variants
  | .missing => False

instance (remark : String) (w : Walker) : DecidablePred (Target.SeenThrough remark w)
  | .struct _ path | .synonym _ _ path => inferInstanceAs (Decidable (path ∉ w.expanding))
  | .enum variants =>
    inferInstanceAs (Decidable (remark = "" ∨ remark = firstVariant variants))
  | .missing => .isFalse id

namespace Walk

open Session

/-- Whether the elements of a sequence look the same if another name of their type is given. A text
has the documentation as its example only behind the other name. -/
def SeenThrough (loader : Loader) (owner remark : String) (type : TypeExpr) (unit : Nat)
    (w : Walker) : Prop :=
  match type with
  | .sequence _ | .map _ _ => True
  | .any | .unknown => False
  | .named name =>
    if Kind.isScalarName name then (Kind.ofTypeName name).zero?.isSome ∨ remark = ""
    else ModulePath.lastSegment name ≠ owner ∧
      (w.target loader name unit).1.SeenThrough remark (w.target loader name unit).2

instance (loader : Loader) (owner remark : String) (type : TypeExpr) (unit : Nat) (w : Walker) :
    Decidable (SeenThrough loader owner remark type unit w) :=
  match type with
  | .sequence _ | .map _ _ => .isTrue trivial
  | .any | .unknown => .isFalse id
  | .named name => inferInstanceAs (Decidable (if Kind.isScalarName name then _ else _ ∧ _))

/-- A scalar has the same example as a field and as an element, unless it is a text with a
remark. -/
theorem scalar_eq_scalarElement_iff (slot : Slot) (name : String) :
    (slot.scalar name).2 = scalarElement name ↔
      (Kind.ofTypeName name).zero?.isSome ∨ slot.remark = "" := by
  unfold Slot.scalar scalarElement
  simp only
  cases (Kind.ofTypeName name).zero? with
  | none => simp
  | some zero => simp

theorem array_singleton_inj {v v' : Json} : Json.array [v] = Json.array [v'] ↔ v = v' := by
  rw [Json.array.injEq, List.cons_eq_cons, and_iff_left rfl]

theorem array_singleton_ne_nil (v : Json) : Json.array [v] ≠ Json.array [] := by
  rw [Ne, Json.array.injEq]
  exact List.cons_ne_nil v []

variable {loader : Loader} {x : Retyping} {hidden : List ModulePath} {w w' u u' : Walker}
  {slot : Slot} {owner name : String} {unit : Nat} {b : Field} {value v : Json}
  {children : List Field}

/-- What a name gives for a field and for the elements of a sequence. -/
theorem elementNamed_agree_iff (hw : w.Alike x hidden w')
    (hfield : buildNamed loader (unbounded loader) slot owner name unit w = some ((b, value), u))
    (helement : elementNamed loader (unbounded loader) slot owner name unit w' =
      some ((children, v), u')) (havoid : w'.Avoids hidden u') :
    (b.children = children ∧ Json.array [value] = v) ↔
      (w'.target loader name unit).1.SeenThrough slot.remark (w'.target loader name unit).2 := by
  obtain ⟨htarget, halike⟩ := hw.target loader name unit
  have hbelow := unbounded_shadowing loader x hidden
  have havoid₁ := havoid.of_history_eq (w'.target_frame loader name unit).1
  unfold buildNamed at hfield
  unfold elementNamed at helement
  rcases hleft : w.target loader name unit with ⟨target, w₁⟩
  rcases hright : w'.target loader name unit with ⟨target', w₁'⟩
  rw [hleft, hright] at htarget halike
  rw [hleft] at hfield
  rw [hright] at helement havoid₁
  obtain rfl : target' = target := htarget
  -- a type that is blocked or not found gives an empty array, which no array of one value is
  cases target' with
  | struct id path =>
    simp only at hfield helement ⊢
    by_cases hpath : w₁'.holds path
    · rw [if_pos hpath] at helement
      cases helement
      exact iff_of_false (fun h => array_singleton_ne_nil _ h.2)
        (not_not.mpr (Walker.holds_iff.mp hpath))
    · rw [if_neg hpath] at helement
      obtain ⟨⟨r, t'⟩, hexpand', heq'⟩ := Option.map_eq_some_iff.mp helement
      obtain ⟨d, fields, hd, hbody⟩ := Walker.target_struct_body hright
      have hrun' : w₁'.expand loader id = some (r, t') := hexpand'
      rw [unbounded_expand] at hrun'
      obtain ⟨e, rfl⟩ := expandWith_struct hd hbody hrun'
      cases heq'
      obtain ⟨hfree, t, hexpand, -⟩ := struct_shadows hbelow halike hright hpath hexpand' havoid₁
      rw [if_neg hfree, hexpand] at hfield
      cases hfield
      exact iff_of_true ⟨rfl, rfl⟩ (mt Walker.holds_iff.mpr hpath)
  | synonym type unit' path =>
    simp only at hfield helement ⊢
    by_cases hpath : w₁'.holds path
    · rw [if_pos hpath] at helement
      cases helement
      exact iff_of_false (fun h => array_singleton_ne_nil _ h.2)
        (not_not.mpr (Walker.holds_iff.mp hpath))
    · rw [if_neg hpath] at helement
      obtain ⟨⟨⟨f, z⟩, t'⟩, hbuild', heq'⟩ := Option.map_eq_some_iff.mp helement
      cases heq'
      obtain ⟨hfree, t, hbuild, -⟩ := synonym_shadows hbelow.build
        (fun h => (hbelow.balanced.build h).toReturns) halike hpath hbuild' havoid₁
      rw [if_neg hfree, hbuild] at hfield
      cases hfield
      exact iff_of_true ⟨rfl, rfl⟩ (mt Walker.holds_iff.mpr hpath)
  | enum variants =>
    cases helement
    cases hfield
    simp only [array_singleton_inj, Json.string.injEq, Target.SeenThrough]
    by_cases hempty : slot.remark.isEmpty
    · rw [if_pos hempty]
      exact iff_of_true ⟨rfl, rfl⟩ (Or.inl (String.isEmpty_iff.mp hempty))
    · rw [if_neg hempty, or_iff_right (mt String.isEmpty_iff.mpr hempty)]
      exact and_iff_right rfl
  | missing =>
    cases helement
    exact iff_of_false (fun h => array_singleton_ne_nil _ h.2) id

/-- **Elements.** A field of a type, and a sequence of the type. -/
theorem elements_agree_iff {type : TypeExpr} {g : Field} (hw : w.Alike x hidden w')
    (hfield : buildWith loader (unbounded loader) slot owner type unit w = some ((b, value), u))
    (hsequence : buildWith loader (unbounded loader) slot owner (.sequence type) unit w' =
      some ((g, v), u')) (havoid : w'.Avoids hidden u') :
    (b.children = g.children ∧ Json.array [value] = v) ↔
      SeenThrough loader owner slot.remark type unit w' := by
  cases type with
  | named name =>
    rw [SeenThrough]
    simp only [buildWith] at hfield hsequence
    by_cases hscalar : Kind.isScalarName name
    · rw [if_pos hscalar] at hfield hsequence ⊢
      obtain ⟨hpair, rfl⟩ := Prod.mk.inj (Option.some.inj hfield)
      cases hsequence
      have hchildren := scalar_children slot name
      have hvalue := scalar_eq_scalarElement_iff slot name
      rw [hpair] at hchildren hvalue
      rw [array_singleton_inj, hvalue]
      exact and_iff_right hchildren
    rw [if_neg hscalar] at hfield hsequence ⊢
    by_cases howner : ModulePath.lastSegment name = owner
    · rw [if_pos howner] at hsequence
      cases hsequence
      exact iff_of_false (fun h => array_singleton_ne_nil _ h.2) fun h => h.1 howner
    · rw [if_neg howner] at hsequence
      obtain ⟨⟨⟨children, z⟩, t'⟩, helement, heq⟩ := Option.map_eq_some_iff.mp hsequence
      cases heq
      exact (elementNamed_agree_iff hw hfield helement havoid).trans (and_iff_right howner).symm
  | sequence inner =>
    -- the elements are built as a field of the inner sequence on both sides
    rw [buildWith] at hsequence
    obtain ⟨⟨⟨nested, z⟩, t'⟩, hnested, heq⟩ := Option.map_eq_some_iff.mp hsequence
    cases heq
    obtain ⟨t, hbuild, -⟩ := (buildWith_shadows (unbounded_shadowing loader x hidden) slot owner
      (.sequence inner) unit hw).run hnested havoid
    rw [hfield] at hbuild
    cases hbuild
    exact iff_of_true ⟨rfl, rfl⟩ trivial
  | map key element =>
    cases hfield
    cases hsequence
    exact iff_of_true ⟨rfl, rfl⟩ trivial
  | any =>
    cases hsequence
    exact iff_of_false (fun h => array_singleton_ne_nil _ h.2) id
  | unknown =>
    cases hsequence
    exact iff_of_false (fun h => array_singleton_ne_nil _ h.2) id

/-! ## Fields -/

/-- A field whose type is a sequence is an array. -/
theorem buildWith_sequence_kind {below : Walk} {element : TypeExpr} {g : Field}
    (h : buildWith loader below slot owner (.sequence element) unit w = some ((g, v), u)) :
    g.kind = .array ∧ g.value = "" := by
  cases element with
  | named name =>
    simp only [buildWith] at h
    split at h
    · cases h
      exact ⟨rfl, rfl⟩
    split at h
    · cases h
      exact ⟨rfl, rfl⟩
    obtain ⟨_, _, heq⟩ := Option.map_eq_some_iff.mp h
    cases heq
    exact ⟨rfl, rfl⟩
  | sequence inner =>
    rw [buildWith] at h
    obtain ⟨_, _, heq⟩ := Option.map_eq_some_iff.mp h
    cases heq
    exact ⟨rfl, rfl⟩
  | _ =>
    cases h
    exact ⟨rfl, rfl⟩

/-- The name next to the structure stands for its type, also if only the first walker asks. -/
theorem target_own {a : TypeDecl} (hw : w.Alike x hidden w') (loader : Loader)
    (ha : w.session.catalog.decls[x.named]? = some a) :
    ∃ w₁, w.target loader x.name x.unit = (a.target x.named, w₁) ∧
      w₁.expanding = w.expanding ∧ w₁.Alike x hidden w' := by
  obtain ⟨hresolve, hcatalog, hsession⟩ := hw.session.resolve_own loader
  have hreturns := w.target_returns loader x.name x.unit
  have hsession₁ : (w.target loader x.name x.unit).2.session.Alike x w'.session := by
    rw [Walker.target_session]
    exact hsession
  have htarget : (w.target loader x.name x.unit).1 = a.target x.named := by
    rw [Walker.target_eq, hresolve, hcatalog, Option.bind_some, ha, Option.map_some,
      Option.getD_some]
  rcases hpair : w.target loader x.name x.unit with ⟨target, w₁⟩
  rw [hpair] at hreturns hsession₁ htarget
  obtain rfl : target = a.target x.named := htarget
  exact ⟨w₁, rfl, hreturns.expanding,
    hw.returned hsession₁ hreturns.steps.grows hreturns.expanding rfl⟩

/-- A sequence of another name of a type has the field of the type for its elements. -/
theorem sequence_own {type : TypeExpr} {a : TypeDecl} {g : Field} (hw : w.Alike x [] w')
    (ha : w.session.catalog.decls[x.named]? = some a) (hbody : a.body = .synonym type)
    (hfree : a.path ∉ w.expanding) (hscalar : Kind.isScalarName x.name = false)
    (howner : ModulePath.lastSegment x.name ≠ owner)
    (h : buildWith loader (unbounded loader) slot owner (.sequence (.named x.name)) x.unit w =
      some ((g, v), u)) :
    ∃ w₁ b value u₁, w₁.Alike x [a.path] w' ∧
      buildWith loader (unbounded loader) slot owner type a.unit w₁ = some ((b, value), u₁) ∧
        g.children = b.children ∧ v = .array [value] := by
  obtain ⟨w₁, htarget, hstack, halike⟩ := target_own hw loader ha
  simp only [TypeDecl.target, hbody] at htarget
  rw [← hstack] at hfree
  simp only [buildWith, hscalar, Bool.false_eq_true, if_false, if_neg howner, elementNamed,
    htarget, if_neg (mt Walker.holds_iff.mp hfree), unbounded_build] at h
  obtain ⟨⟨⟨children, z⟩, t⟩, helement, heq⟩ := Option.map_eq_some_iff.mp h
  cases heq
  obtain ⟨⟨⟨b, value⟩, u₁⟩, hbuild, heq⟩ := Option.map_eq_some_iff.mp helement
  cases heq
  refine ⟨w₁.enter a.path, b, value, u₁, ⟨halike.session, fun path => ?_, halike.held⟩, hbuild,
    rfl, rfl⟩
  -- from here on the name is on the first stack only
  rw [Walker.enter_expanding, List.mem_cons, List.mem_singleton, halike.stack]
  exact or_congr_right (or_iff_right List.not_mem_nil)

/-- **Sequences.** A sequence of another name of a type, and a sequence of the type. -/
theorem sequences_agree_iff {type : TypeExpr} {a : TypeDecl} {g g' : Field} {v' : Json}
    (hw : w.Alike x [] w') (ha : w.session.catalog.decls[x.named]? = some a)
    (hbody : a.body = .synonym type) (hunit : a.unit = x.unit) (hfree : a.path ∉ w.expanding)
    (hscalar : Kind.isScalarName x.name = false) (howner : ModulePath.lastSegment x.name ≠ owner)
    (h : buildWith loader (unbounded loader) slot owner (.sequence (.named x.name)) x.unit w =
      some ((g, v), u))
    (h' : buildWith loader (unbounded loader) slot owner (.sequence type) x.unit w' =
      some ((g', v'), u')) (havoid : w'.Avoids [a.path] u') :
    (g.children = g'.children ∧ v = v') ↔ SeenThrough loader owner slot.remark type x.unit w' := by
  obtain ⟨w₁, b, value, u₁, halike, hfield, hchildren, rfl⟩ :=
    sequence_own hw ha hbody hfree hscalar howner h
  rw [hunit] at hfield
  rw [hchildren]
  exact elements_agree_iff halike hfield h' havoid

/-- A field that is written out as a text does not depend on its type. -/
theorem buildField_asText {f : FieldDecl} {g g' : Field} {type : TypeExpr} (htext : f.asText = true)
    (h : buildField loader (unbounded loader) f unit owner w = some ((g, v), u))
    (h' : buildField loader (unbounded loader) { f with type := type } unit owner w' =
      some ((g', value), u')) :
    g.kind = g'.kind ∧ g.value = g'.value ∧ g.children = g'.children ∧ v = value := by
  have hscalar : Kind.isScalarName "String" = true := by decide
  simp only [buildField, htext, if_true, buildWith, hscalar, Option.map_some] at h h'
  cases h
  cases h'
  exact ⟨rfl, rfl, rfl, rfl⟩

/-- A field that is shown with its own type is built from it. -/
theorem buildField_plain {below : Walk} {f : FieldDecl} (htext : f.asText = false) :
    buildField loader below f unit owner w = buildWith loader below f.slot owner f.type unit w := by
  rw [buildField, htext]
  rfl

/-! ## Expansions -/

/-- What fields contribute is what those before a field, the field itself and those after it
contribute. -/
theorem Collects.split {below : Walk} {d : TypeDecl} {before after : List FieldDecl}
    {f : FieldDecl} {pairs : List (Field × Json)}
    (h : Collects loader below d (before ++ f :: after) w pairs w') :
    ∃ earlier mine later u u', Collects loader below d before w earlier u ∧
      Contributes loader below d f u mine u' ∧ Collects loader below d after u' later w' ∧
        pairs = earlier ++ (mine ++ later) := by
  induction before generalizing w pairs with
  | nil =>
    cases h with
    | cons hfirst hrest => exact ⟨[], _, _, w, _, .nil w, hfirst, hrest, rfl⟩
  | cons g before ih =>
    cases h with
    | cons hfirst hrest =>
      obtain ⟨earlier, mine, later, u, u', hearlier, hmine, hlater, rfl⟩ := ih hrest
      exact ⟨_, mine, later, u, u', .cons hfirst hearlier, hmine, hlater,
        (List.append_assoc _ _ _).symm⟩

/-- Whether the expansion `e` of a structure from `w` has the field `g` with the example `v` for its
plain field `f`, which stands between others and is built on the way from `u` to `u'`. -/
structure Builds (loader : Loader) (d : TypeDecl) (before : List FieldDecl) (f : FieldDecl)
    (after : List FieldDecl) (w : Walker) (e : Expansion) (u : Walker) (g : Field) (v : Json)
    (u' : Walker) : Prop where
  /-- The field is built. -/
  build : buildField loader (unbounded loader) f d.unit d.name u = some ((g, v), u')
  /-- Others come before it and after it. -/
  merged : ∃ earlier later t,
    Collects loader (unbounded loader) d (before.filter (!·.skip)) (start d w) earlier u ∧
      Collects loader (unbounded loader) d (after.filter (!·.skip)) u' later t ∧
        e = .merge (earlier ++ (g, v) :: later)

/-- A structure that is expanded has built each of its fields. -/
theorem exists_builds {d : TypeDecl} {before after : List FieldDecl} {f : FieldDecl} {id : Nat}
    {e : Expansion} (hd : w.session.catalog.decls[id]? = some d)
    (hbody : d.body = .struct (before ++ f :: after)) (hskip : f.skip = false)
    (hplain : f.flatten = false) (hexpand : w.expand loader id = some (some e, w')) :
    ∃ u g v u', Builds loader d before f after w e u g v u' := by
  obtain ⟨d', fields, pairs, t, hd', hbody', hcollects, rfl, -⟩ :=
    expand_iff_collects.mp hexpand
  obtain rfl : d = d' := Option.some.inj (hd.symm.trans hd')
  obtain rfl : before ++ f :: after = fields := TypeBody.struct.inj (hbody.symm.trans hbody')
  have hfilter : (before ++ f :: after).filter (!·.skip) =
      before.filter (!·.skip) ++ f :: after.filter (!·.skip) := by
    rw [List.filter_append, List.filter_cons_of_pos (by rw [hskip]; rfl)]
  rw [hfilter] at hcollects
  obtain ⟨earlier, mine, later, u, u', hearlier, hmine, hlater, rfl⟩ := hcollects.split
  cases hmine with
  | plain _ hbuild =>
    exact ⟨u, _, _, u', hbuild, earlier, later, t, hearlier, hlater,
      Expansion.pushAll_eq_merge _⟩
  | flattened hflatten _ _ =>
    rw [hplain] at hflatten
    cases hflatten
  | nothing hflatten _ _ =>
    rw [hplain] at hflatten
    cases hflatten

/-- The only field of a structure. -/
theorem Builds.alone {d : TypeDecl} {f : FieldDecl} {e : Expansion} {g : Field} {v : Json}
    {t : Walker} (h : Builds loader d [] f [] w e u g v t) :
    u = start d w ∧ e = .merge [(g, v)] := by
  obtain ⟨earlier, later, s, hearlier, hlater, rfl⟩ := h.merged
  cases hearlier
  cases hlater
  exact ⟨rfl, rfl⟩

/-- Other fields leave the rest of a declaration. -/
theorem decl_retyped (h : w.session.Retyped x w'.session) {d d' : TypeDecl}
    (hd : w.session.catalog.decls[x.id]? = some d)
    (hd' : w'.session.catalog.decls[x.id]? = some d') :
    d' = { d with body := .struct x.fields } := by
  rw [h.catalog.index, TypeIndex.getElem?_retype, hd, Option.map_some, if_pos rfl] at hd'
  exact (Option.some.inj hd').symm

/-- Walkers are alike when they start on the structure that was changed. -/
theorem start_alike (h : w.session.Alike x w'.session) (hstack : w'.expanding = w.expanding)
    {d : TypeDecl} {fields : List FieldDecl} (hd : w.session.catalog.decls[x.id]? = some d)
    (hbody : d.body = .struct fields) : (start d w).Alike x [] (start d w') := by
  refine ⟨h.note _ _, fun path => ?_, d, fields, hd, hbody, List.mem_cons_self⟩
  have hsame : (start d w').expanding = (start d w).expanding := congrArg (d.path :: ·) hstack
  rw [hsame]
  exact (or_iff_right List.not_mem_nil).symm

/-- Another type stays declared while a structure is expanded, and it is entered only if the walk
comes to it. -/
theorem own_of_returns {d a : TypeDecl} {named : Nat} (h : (start d w).Returns loader u)
    (ha : w.session.catalog.decls[named]? = some a) (hpath : a.path ≠ d.path)
    (hfree : a.path ∉ w.expanding) :
    u.session.catalog.decls[named]? = some a ∧ a.path ∉ u.expanding := by
  have hgrows : Grows w.session u.session := Steps.grows (.head (.note _ _ rfl) h.steps)
  refine ⟨hgrows.getElem?_decls ha, ?_⟩
  rw [h.expanding]
  exact List.not_mem_cons_of_ne_of_not_mem hpath hfree

/-- Up to a field that is the first one to differ, expansions go in step. -/
theorem Builds.alike {d d' : TypeDecl} {fields before after after' : List FieldDecl}
    {f f' : FieldDecl} {e e' : Expansion} {g g' : Field} {v v' : Json} {t t' : Walker}
    (h : Builds loader d before f after w e u g v t)
    (h' : Builds loader d' before f' after' w' e' u' g' v' t')
    (halike : w.session.Alike x w'.session) (hstack : w'.expanding = w.expanding)
    (hd : w.session.catalog.decls[x.id]? = some d) (hbody : d.body = .struct fields)
    (hd' : w'.session.catalog.decls[x.id]? = some d') :
    u.Alike x [] u' ∧ (start d w).Returns loader u := by
  obtain rfl := decl_retyped halike.toRetyped hd hd'
  obtain ⟨earlier, -, -, hearlier, -, -⟩ := h.merged
  obtain ⟨earlier', -, -, hearlier', -, -⟩ := h'.merged
  have hrun := hearlier.addFields_eq {}
  have hrun' : (before.filter (!·.skip)).foldlM (addField loader (unbounded loader) d)
      ({}, start d w') = some (.pushAll {} earlier', u') := hearlier'.addFields_eq {}
  have hbalanced := unbounded_balanced loader
  -- nothing is hidden before the field, so there is nothing to avoid
  have havoid : (start d w').Avoids [] u' := by
    obtain ⟨trail, htrail⟩ := (addFields_returns hbalanced hrun').history
    exact ⟨trail, htrail.symm, nofun⟩
  obtain ⟨u₀, hu₀, hsame⟩ := (addFields_shadows (unbounded_shadowing loader x []) d _ {}
    (start_alike halike hstack hd hbody)).run hrun' havoid
  obtain ⟨-, rfl⟩ := Prod.mk.inj (Option.some.inj (hrun.symm.trans hu₀))
  exact ⟨hsame, addFields_returns hbalanced hrun⟩

end Walk

open Walk in
/-- **Other names in sequences.** Let a plain field of a structure have the type of the sequences of
a name `a` that the unit of the structure gives to another type. With this type in place of `a` the
field has the same kind and the same value. It also has the same children and the same example if it
is written out as a text, and otherwise, unless `a` is named like a scalar type or is entered on the
way, exactly if the type is seen through. -/
theorem sequence_of_synonym {loader : Loader} {id named : Nat} {d d' a : TypeDecl}
    {before after : List FieldDecl} {f : FieldDecl} {type : TypeExpr} {w w₁ w' w₁' : Walker}
    {e e' : Expansion} (huses : Session.Uses loader {} w.session)
    (hd : w.session.catalog.decls[id]? = some d) (hbody : d.body = .struct (before ++ f :: after))
    (hskip : f.skip = false) (hplain : f.flatten = false)
    (ha : w.session.catalog.decls[named]? = some a) (hunit : a.unit = d.unit)
    (hsynonym : a.body = .synonym type) (htype : f.type = .sequence (.named a.name))
    (hretyped : w.session.Retyped
      ⟨id, before ++ { f with type := .sequence type } :: after, a.unit, a.name, named⟩ w'.session)
    (hd' : w'.session.catalog.decls[id]? = some d') (hstack : w'.expanding = w.expanding)
    (hfree : a.path ∉ w.expanding) (hexpand : w.expand loader id = some (some e, w₁))
    (hexpand' : w'.expand loader id = some (some e', w₁')) :
    ∃ u g v t u' g' v' t', Builds loader d before f after w e u g v t ∧
      Builds loader d' before { f with type := .sequence type } after w' e' u' g' v' t' ∧
      g.kind = g'.kind ∧ g.value = g'.value ∧
      (f.asText = true → g.children = g'.children ∧ v = v') ∧
      (f.asText = false → Kind.isScalarName a.name = true →
        g.children = [] ∧ v = .array [scalarElement a.name]) ∧
      (f.asText = false → Kind.isScalarName a.name = false → u'.Avoids [a.path] t' →
        (g.children = g'.children ∧ v = v' ↔
          SeenThrough loader d.name f.comment type d.unit u')) := by
  have halike := hretyped.alike huses ha rfl rfl
  obtain rfl := decl_retyped hretyped hd hd'
  obtain ⟨u, g, v, t, hbuilds⟩ := exists_builds hd hbody hskip hplain hexpand
  obtain ⟨u', g', v', t', hbuilds'⟩ :=
    exists_builds (f := { f with type := .sequence type }) hd' rfl hskip hplain hexpand'
  refine ⟨u, g, v, t, u', g', v', t', hbuilds, hbuilds', ?_⟩
  cases htext : f.asText with
  | true =>
    obtain ⟨hkind, hvalue, hsame⟩ := buildField_asText htext hbuilds.build hbuilds'.build
    exact ⟨hkind, hvalue, fun _ => hsame, nofun, nofun⟩
  | false =>
    have hbuild := hbuilds.build
    rw [buildField_plain htext, htype] at hbuild
    have hbuild' : buildWith loader (unbounded loader) f.slot d.name (.sequence type) d.unit u' =
        some ((g', v'), t') :=
      (buildField_plain (f := { f with type := .sequence type }) htext).symm.trans hbuilds'.build
    obtain ⟨hkind, hvalue⟩ := buildWith_sequence_kind hbuild
    obtain ⟨hkind', hvalue'⟩ := buildWith_sequence_kind hbuild'
    refine ⟨hkind.trans hkind'.symm, hvalue.trans hvalue'.symm, nofun, fun _ hscalar => ?_,
      fun _ hscalar havoid => ?_⟩
    · simp only [buildWith, hscalar, if_true] at hbuild
      cases hbuild
      exact ⟨rfl, rfl⟩
    obtain ⟨hsame, hreturns⟩ := hbuilds.alike hbuilds' halike hstack hd hbody hd'
    have hne : a ≠ d := by
      rintro rfl
      rw [hsynonym] at hbody
      cases hbody
    obtain ⟨howner, hpath⟩ := halike.inOrder.name_ne ha hd hunit hne
    obtain ⟨hkept, hnotin⟩ := own_of_returns hreturns ha hpath hfree
    rw [← hunit] at hbuild hbuild' ⊢
    have hagree :=
      sequences_agree_iff hsame hkept hsynonym rfl hnotin hscalar howner hbuild hbuild' havoid
    exact hagree

/-- A field of a page that is a sequence. -/
def pageField (remark : String) (element : TypeExpr) : FieldDecl :=
  ⟨"rows", "rows", .sequence element, false, false, false, false, remark⟩

/-- The page. -/
def pageDecl (remark : String) (element : TypeExpr) : TypeDecl :=
  ⟨"Page", "crate::a", .struct ([] ++ pageField remark element :: []), 0⟩

/-- A unit with the page, and with types for the elements. -/
def pageUnit (remark : String) (element : TypeExpr) : SourceUnit where
  path := ⟨"a.rs"⟩
  module := "crate::a"
  types :=
    [⟨"Page", .struct [pageField remark element]⟩, ⟨"Line", .synonym (.named "Row")⟩,
      ⟨"Row", .struct [⟨"n", "n", .named "u32", false, false, false, false, ""⟩]⟩,
      ⟨"Name", .synonym (.named "String")⟩]

/-- A walker that has scanned the unit. -/
def pageWalker (remark : String) (element : TypeExpr) : Walker :=
  ⟨({} : Session).addScanned [pageUnit remark element], []⟩

/-- The unit in which the elements are lines, as a source. -/
def pageModel : LoadedSource :=
  ⟨⟨"a.rs"⟩, "crate::a", "struct Page \x7b rows: Vec<Line> \x7d type Line = Row;
    struct Row \x7b n: u32 \x7d type Name = String;"⟩

theorem pageModel_units : pageModel.units = [pageUnit "" (.named "Line")] := by
  decide +kernel

theorem pageWalker_retyped (remark : String) (element type : TypeExpr) (name : String)
    (named : Nat) :
    (pageWalker remark element).session.Retyped
      ⟨0, [] ++ pageField remark type :: [], 0, name, named⟩ (pageWalker remark type).session :=
  Session.addScanned_retyped [] [] (pageUnit remark element) [] _ ⟨"Page", _⟩ rfl rfl rfl nofun

/-- The page is expanded, with the example that was computed for it. -/
theorem exists_expand_pageWalker (remark : String) (element : TypeExpr) (text : String)
    (h : (((pageWalker remark element).expand .none 0).bind Prod.fst).map (·.sample.compact) =
      some text) :
    ∃ e w', (pageWalker remark element).expand .none 0 = some (some e, w') ∧
      e.sample.compact = text := by
  obtain ⟨e, he, htext⟩ := Option.map_eq_some_iff.mp h
  obtain ⟨⟨r, w'⟩, hexpand, hr⟩ := Option.bind_eq_some_iff.mp he
  obtain rfl : r = some e := hr
  exact ⟨e, w', hexpand, htext⟩

open Walk in
/-- A sequence of lines and a sequence of rows have the same children and the same example. -/
theorem sequence_of_synonym_pageWalker :
    ∃ e w₁ e' w₁' g g' v, (pageWalker "" (.named "Line")).expand .none 0 = some (some e, w₁) ∧
      (pageWalker "" (.named "Row")).expand .none 0 = some (some e', w₁') ∧
      e = .merge [(g, v)] ∧ e' = .merge [(g', v)] ∧ g.kind = g'.kind ∧ g.value = g'.value ∧
      g.children = g'.children := by
  obtain ⟨e, w₁, hexpand, -⟩ := exists_expand_pageWalker "" (.named "Line")
    "\x7b\"rows\":[\x7b\"n\":0\x7d]\x7d" (by decide +kernel)
  obtain ⟨e', w₁', hexpand', -⟩ := exists_expand_pageWalker "" (.named "Row")
    "\x7b\"rows\":[\x7b\"n\":0\x7d]\x7d" (by decide +kernel)
  have huses : Session.Uses .none {} (pageWalker "" (.named "Line")).session := by
    rw [pageWalker, ← pageModel_units]
    exact .single (.scan {} pageModel)
  have hd : (pageWalker "" (.named "Line")).session.catalog.decls[0]? =
      some (pageDecl "" (.named "Line")) := by decide +kernel
  have hd' : (pageWalker "" (.named "Row")).session.catalog.decls[0]? =
      some (pageDecl "" (.named "Row")) := by decide +kernel
  have ha : (pageWalker "" (.named "Line")).session.catalog.decls[1]? =
      some ⟨"Line", "crate::a", .synonym (.named "Row"), 0⟩ := by decide +kernel
  obtain ⟨u, g, v, t, u', g', v', t', hbuilds, hbuilds', hkind, hvalue, -, -, hagree⟩ :=
    sequence_of_synonym huses hd rfl rfl rfl ha rfl rfl rfl (pageWalker_retyped "" _ _ _ _) hd' rfl
      List.not_mem_nil hexpand hexpand'
  obtain ⟨-, hmerge⟩ := hbuilds.alone
  obtain ⟨rfl, hmerge'⟩ := hbuilds'.alone
  -- the row is the only type that is entered below the page
  have hhistory : (buildField .none (unbounded .none) (pageField "" (.named "Row")) 0 "Page"
      (start (pageDecl "" (.named "Row")) (pageWalker "" (.named "Row")))).map (·.2.history) =
      some ([["crate::a::Page"], ["crate::a::Row", "crate::a::Page"]] ++ [["crate::a::Page"]]) := by
    decide +kernel
  have hbuild' : buildField .none (unbounded .none) (pageField "" (.named "Row")) 0 "Page"
      (start (pageDecl "" (.named "Row")) (pageWalker "" (.named "Row"))) =
        some ((g', v'), t') := hbuilds'.build
  rw [hbuild', Option.map_some] at hhistory
  have hsame := (hagree rfl (by decide) ⟨_, Option.some.inj hhistory, by decide⟩).mpr
    (by decide +kernel)
  obtain ⟨hchildren, rfl⟩ := hsame
  exact ⟨e, w₁, e', w₁', g, g', v, hexpand, hexpand', hmerge, hmerge', hkind, hvalue, hchildren⟩

/-- A sequence of names and a sequence of texts have different examples. -/
theorem sequence_of_synonym_differs_pageWalker :
    ∃ e w₁ e' w₁', (pageWalker "tags" (.named "Name")).session.Retyped
        ⟨0, [] ++ pageField "tags" (.named "String") :: [], 0, "Name", 3⟩
        (pageWalker "tags" (.named "String")).session ∧
      (pageWalker "tags" (.named "Name")).expand .none 0 = some (some e, w₁) ∧
      (pageWalker "tags" (.named "String")).expand .none 0 = some (some e', w₁') ∧
      e.sample.compact = "\x7b\"rows\":[\"tags\"]\x7d" ∧
      e'.sample.compact = "\x7b\"rows\":[\"\"]\x7d" := by
  obtain ⟨e, w₁, hexpand, hsample⟩ := exists_expand_pageWalker "tags" (.named "Name")
    "\x7b\"rows\":[\"tags\"]\x7d" (by decide +kernel)
  obtain ⟨e', w₁', hexpand', hsample'⟩ := exists_expand_pageWalker "tags" (.named "String")
    "\x7b\"rows\":[\"\"]\x7d" (by decide +kernel)
  exact ⟨e, w₁, e', w₁', pageWalker_retyped _ _ _ _ _, hexpand, hexpand', hsample, hsample'⟩

end ApiDocs
