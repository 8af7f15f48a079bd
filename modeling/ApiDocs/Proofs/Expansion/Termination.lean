import ApiDocs.Proofs.Expansion.Balance
import Mathlib.Data.List.Perm.Subperm

/-!
# Expansion comes to an end

Types go on the stack of a walk at most once, and there are never more types than the bound on what
a loader with finitely many sources can add. So a walk comes to an end if it may go as deep as the
bound leaves room above its stack: `Ready` says that it may, and every way below a type uses up as
much depth as it puts on the stack (`upTo_total`). Hence every expansion ends, with an empty stack
and a result that is not nested deeper than there are structures (`expand_terminates`).
-/

namespace ApiDocs

namespace Walker

/-- Whether a walk of depth `n` is enough: its stack holds declared types, none twice, and leaves at
most `n` types. -/
structure Ready (sources : Finset LoadedSource) (n : Nat) (w : Walker) : Prop where
  /-- No type is on the stack twice. -/
  nodup : w.expanding.Nodup
  /-- Types on the stack are declared. -/
  declared : ∀ path ∈ w.expanding, ∃ d ∈ w.session.catalog.decls, d.path = path
  /-- The types that are left. -/
  bound : w.session.typeBound sources < n + w.expanding.length

variable {loader : Loader} {sources : Finset LoadedSource} {n : Nat} {w w' : Walker}

/-- The stack is never higher than there are types, so some depth is needed. -/
theorem not_ready_zero : ¬ w.Ready sources 0 := by
  intro h
  have hsub : w.expanding ⊆ w.session.catalog.decls.map TypeDecl.path := by
    intro path hpath
    obtain ⟨d, hd, rfl⟩ := h.declared path hpath
    exact List.mem_map_of_mem hd
  have hlength := (h.nodup.subperm hsub).length_le
  rw [List.length_map] at hlength
  have hdecls := w.session.decls_length_le_typeBound sources
  have hbound := h.bound
  omega

/-- A walk of the same depth is enough after a walk has returned. -/
theorem Ready.returns (hsources : loader.CoveredBy sources)
    (h : w.Ready sources n) (hreturns : w.Returns loader w') : w'.Ready sources n := by
  have hgrows := hreturns.steps.grows
  have hbound := Session.Steps.typeBound_le hsources hreturns.steps
  refine ⟨?_, ?_, ?_⟩
  · rw [hreturns.expanding]
    exact h.nodup
  · intro path hpath
    rw [hreturns.expanding] at hpath
    obtain ⟨d, hd, hdpath⟩ := h.declared path hpath
    exact ⟨d, hgrows.decls.subset hd, hdpath⟩
  · rw [hreturns.expanding]
    exact Nat.lt_of_le_of_lt hbound h.bound

/-- A walk is enough with one level less once a type is on the stack. -/
theorem Ready.enter (h : w.Ready sources (n + 1)) {path : ModulePath}
    (hpath : path ∉ w.expanding) (hdeclared : ∃ d ∈ w.session.catalog.decls, d.path = path) :
    (w.enter path).Ready sources n := by
  refine ⟨?_, ?_, ?_⟩
  · rw [enter_expanding]
    exact List.nodup_cons.mpr ⟨hpath, h.nodup⟩
  · intro other hother
    rw [enter_expanding] at hother
    rcases List.mem_cons.mp hother with rfl | hold
    · exact hdeclared
    · exact h.declared other hold
  · have hbound := h.bound
    rw [enter_expanding, enter_session, List.length_cons]
    omega

end Walker

namespace Walk

/-- Whether a walk of depth `n` comes to an end where this is enough. Going on to build or to
flatten takes one level more than expanding, since the type is on the stack already. -/
structure Total (sources : Finset LoadedSource) (n : Nat) (below : Walk) : Prop where
  /-- Structures. -/
  expand : ∀ {id w}, w.Ready sources n →
    (∀ d, w.session.catalog.decls[id]? = some d → d.path ∉ w.expanding) →
      (below.expand id w).isSome
  /-- Fields. -/
  build : ∀ {m slot owner type unit w}, n = m + 1 → w.Ready sources m →
    (below.build slot owner type unit w).isSome
  /-- Flattened fields. -/
  flatten : ∀ {m type unit w}, n = m + 1 → w.Ready sources m →
    (below.flatten type unit w).isSome

variable {loader : Loader} {sources : Finset LoadedSource} {below : Walk} {n : Nat} {w : Walker}

/-- Meeting a type name comes to an end if going below it does. -/
theorem meet_isSome {α β : Type} {inner : TypeExpr → Nat → Walker → Option (β × Walker)}
    {ways : Ways α β} (hsources : loader.CoveredBy sources)
    (h : below.Total sources n)
    (hinner : ∀ {m type unit w}, n = m + 1 → w.Ready sources m → (inner type unit w).isSome)
    (hw : w.Ready sources n) (name : String) (unit : Nat) :
    (meet loader below inner ways name unit w).isSome := by
  have hready := hw.returns hsources (w.target_returns loader name unit)
  unfold meet
  rcases htarget : w.target loader name unit with ⟨target, w₁⟩
  rw [htarget] at hready
  cases target with
  | struct id path =>
    by_cases hpath : w₁.holds path
    · simp only [hpath, if_true, Option.isSome_some]
    · simp only [hpath, Option.isSome_map, Bool.false_eq_true, if_false]
      exact h.expand hready (Walker.target_struct_free htarget (mt Walker.holds_iff.mpr hpath))
  | synonym type unit' path =>
    have hdeclared := Walker.target_synonym htarget
    by_cases hpath : w₁.holds path
    · simp only [hpath, if_true, Option.isSome_some]
    · simp only [hpath, Option.isSome_map, Bool.false_eq_true, if_false]
      -- the other name takes a place on the stack, so there is depth left for it
      cases n with
      | zero => exact absurd hready Walker.not_ready_zero
      | succ m => exact hinner rfl (hready.enter (mt Walker.holds_iff.mpr hpath) hdeclared)
  | enum variants => rfl
  | missing => rfl

/-- Building a field comes to an end, whatever its type. -/
theorem buildWith_isSome (hsources : loader.CoveredBy sources)
    (h : below.Total sources n) (hw : w.Ready sources n) (slot : Slot) (owner : String)
    (type : TypeExpr) (unit : Nat) : (buildWith loader below slot owner type unit w).isSome := by
  induction type with
  | named name =>
    rw [buildWith]
    split
    · rfl
    · rw [buildNamed_eq_meet]
      exact meet_isSome hsources h h.build hw name unit
  | sequence element ih =>
    cases element with
    | named name =>
      rw [buildWith]
      simp only
      split
      · rfl
      · split
        · rfl
        · rw [Option.isSome_map, elementNamed_eq_meet]
          exact meet_isSome hsources h h.build hw name unit
    | sequence inner =>
      rw [buildWith, Option.isSome_map]
      exact ih
    | map key value => rfl
    | any => rfl
    | unknown => rfl
  | map key value => rfl
  | any => rfl
  | unknown => rfl

theorem flattenWith_isSome (hsources : loader.CoveredBy sources)
    (h : below.Total sources n) (hw : w.Ready sources n) (type : TypeExpr) (unit : Nat) :
    (flattenWith loader below type unit w).isSome := by
  cases type with
  | named name =>
    rw [flattenWith_named]
    exact meet_isSome hsources h h.flatten hw name unit
  | _ => rfl

theorem addField_isSome (hsources : loader.CoveredBy sources)
    (h : below.Total sources n) (hw : w.Ready sources n) (d : TypeDecl) (e : Expansion)
    (f : FieldDecl) : (addField loader below d (e, w) f).isSome := by
  unfold addField
  simp only
  split
  · rw [Option.isSome_map]
    exact flattenWith_isSome hsources h hw f.type d.unit
  · rw [Option.isSome_map]
    unfold buildField
    simp only
    split
    · rw [Option.isSome_map]
      exact buildWith_isSome hsources h hw _ _ _ _
    · exact buildWith_isSome hsources h hw _ _ _ _

/-- Steps that come to an end where something holds, and keep it, come to an end one after the
other. -/
theorem foldlM_isSome {α β : Type} {step : β → α → Option β} {P : β → Prop} {l : List α}
    (hstep : ∀ b a, P b → (step b a).isSome) (hkeep : ∀ b a b', P b → step b a = some b' → P b')
    {b : β} (hb : P b) : (l.foldlM step b).isSome := by
  induction l generalizing b with
  | nil => rfl
  | cons a l ih =>
    obtain ⟨b', hb'⟩ := Option.isSome_iff_exists.mp (hstep b a hb)
    rw [List.foldlM_cons, hb']
    exact ih (hkeep b a b' hb hb')

/-- **A structure.** Expanding it comes to an end with one level more than the walk below needs. -/
theorem expandWith_isSome (hsources : loader.CoveredBy sources)
    (hbalanced : below.Balanced loader) (h : below.Total sources n) {id : Nat}
    (hw : w.Ready sources (n + 1))
    (hfree : ∀ d, w.session.catalog.decls[id]? = some d → d.path ∉ w.expanding) :
    (expandWith loader below id w).isSome := by
  unfold expandWith
  split
  · rfl
  · rename_i d hd
    split
    · rw [Option.isSome_map]
      have hnote : w.Returns loader (w.note [.expanding d.path]) := w.note_returns loader rfl
      have hstart := (hw.returns hsources hnote).enter (hfree d hd)
        ⟨d, List.mem_of_getElem? hd, rfl⟩
      refine foldlM_isSome (P := fun acc => acc.2.Ready sources n) ?_ ?_ hstart
      · rintro ⟨e, w₁⟩ f hready
        exact addField_isSome hsources h hready d e f
      · rintro ⟨e, w₁⟩ f ⟨e', w₂⟩ hready hadd
        exact hready.returns hsources (addField_returns hbalanced hadd)
    · rfl

/-- **Termination.** A walk comes to an end where its depth is enough. -/
theorem upTo_total (hsources : loader.CoveredBy sources) (n : Nat) :
    (upTo loader n).Total sources n := by
  induction n with
  | zero => exact ⟨fun h => absurd h Walker.not_ready_zero, nofun, nofun⟩
  | succ n ih =>
    refine ⟨?_, ?_, ?_⟩
    · intro id w hw hfree
      rw [upTo_succ_expand]
      exact expandWith_isSome hsources (upTo_balanced loader n) ih hw hfree
    · intro m slot owner type unit w heq hw
      obtain rfl : n = m := by omega
      rw [upTo_succ_build]
      exact buildWith_isSome hsources ih hw slot owner type unit
    · intro m type unit w heq hw
      obtain rfl : n = m := by omega
      rw [upTo_succ_flatten]
      exact flattenWith_isSome hsources ih hw type unit

end Walk

/-- Where finitely many sources cover the loader, an expansion that starts with an empty stack comes
to an end. -/
theorem Walker.expand_isSome {loader : Loader} {sources : Finset LoadedSource}
    (hsources : loader.CoveredBy sources) (s : Session) (id : Nat) :
    (Walker.expand loader id ⟨s, []⟩).isSome := by
  have hready : (⟨s, []⟩ : Walker).Ready sources (s.typeBound sources + 1) :=
    ⟨List.nodup_nil, nofun, Nat.lt_succ_self _⟩
  -- the search starts no deeper than there are types, and so gets to the depth that is enough
  have hle := s.decls_length_le_typeBound sources
  rw [Walker.expand_eq_result?]
  exact Walk.Search.isSome_result? (by omega : s.catalog.decls.length + 1 ≤ _)
    ((Walk.upTo_total hsources _).expand hready fun _ _ => List.not_mem_nil)

/-- **Expansion ends.** With a loader of finitely many sources, as one of finitely many modules is,
every expansion that starts with an empty stack comes to an end. No stack on the way holds a type
twice, the stack is empty again, and fields are nested at most as deep as there are structures. -/
theorem expand_terminates {loader : Loader} (hfinite : loader.sources.Finite) (s : Session)
    (id : Nat) :
    ∃ e w', Walker.expand loader id ⟨s, []⟩ = some (e, w') ∧
      s.expand loader id = (e, w'.session) ∧
      (∀ stack ∈ w'.history, stack.Nodup) ∧ w'.expanding = [] ∧
      ∀ tree, e = some tree → fieldsDepth tree.fields ≤
        (w'.session.catalog.decls.filter TypeDecl.isStruct).length := by
  obtain ⟨⟨e, w'⟩, hexpand⟩ := Option.isSome_iff_exists.mp
    (Walker.expand_isSome (Loader.coveredBy_of_finite hfinite) s id)
  obtain ⟨n, hn⟩ := Walker.expand_eq_upTo hexpand
  have hwithin := (Walk.upTo_balanced loader n).expand (fun _ _ => List.not_mem_nil) hn
  refine ⟨e, w', hexpand, ?_, hwithin.nodup nofun, hwithin.expanding, ?_⟩
  · rw [Session.expand, hexpand]
  · rintro tree rfl
    have hdepth : fieldsDepth tree.fields ≤ w'.session.room [] := hwithin.depth_le
    exact hdepth.trans w'.session.room_nil_le

/-- A structure that holds sequences of another name of itself and a structure that is not known. -/
def loop : List SourceUnit :=
  [{ path := ⟨"a.rs"⟩, module := "crate::a",
     types :=
      [⟨"Node", .struct
        [⟨"below", "below", .sequence (.named "Nodes"), false, false, false, false, ""⟩,
          ⟨"leaf", "leaf", .named "crate::b::Leaf", false, false, false, false, ""⟩]⟩,
        ⟨"Nodes", .synonym (.named "Node")⟩] }]

/-- Two structures that hold each other are expanded, one of them in a file that is loaded on the
way. -/
theorem expand_terminates_loop :
    (Loader.ofSources [("crate::b", ⟨⟨"b.rs"⟩, "crate::b", "struct Leaf { n: crate::a::Node }"⟩)]
      ).sources.Finite ∧
    ∃ e w', Walker.expand
        (Loader.ofSources [("crate::b", ⟨⟨"b.rs"⟩, "crate::b",
          "struct Leaf { n: crate::a::Node }"⟩)]) 0 ⟨({} : Session).addScanned loop, []⟩ =
      some (e, w') ∧ w'.expanding = [] := by
  have hfinite := Loader.ofSources_sources_finite
    [("crate::b", ⟨⟨"b.rs"⟩, "crate::b", "struct Leaf { n: crate::a::Node }"⟩)]
  obtain ⟨e, w', hexpand, -, -, hempty, -⟩ :=
    expand_terminates hfinite (({} : Session).addScanned loop) 0
  exact ⟨hfinite, e, w', hexpand, hempty⟩

end ApiDocs
