import ApiDocs.Proofs.Expansion.Agreement
import ApiDocs.Proofs.Expansion.Unbounded
import Mathlib.Logic.Function.Iterate

/-!
# What the fields of a structure contribute

A plain field contributes itself with its example. A flattened field contributes what the structure
that its type denotes expands to, where a type may denote a structure through any chain of other
names (`Denotes`), or else nothing. `Collects` puts the contributions of all fields together, and
`expandWith_collects` says that expanding a structure is nothing but adding them one after the
other.
-/

namespace ApiDocs

/-- The fields of an expansion, each with its example. -/
def Expansion.pairs (e : Expansion) : List (Field × Json) :=
  e.fields.zip (e.members.map Prod.snd)

theorem Expansion.pushAll_append (e : Expansion) (pairs more : List (Field × Json)) :
    e.pushAll (pairs ++ more) = (e.pushAll pairs).pushAll more :=
  List.foldl_append

/-- A structure that a name stands for is declared as one. -/
theorem Walker.target_struct_body {loader : Loader} {name : String} {unit id : Nat}
    {path : ModulePath} {w w' : Walker}
    (h : w.target loader name unit = (.struct id path, w')) :
    ∃ d fields, w'.session.catalog.decls[id]? = some d ∧ d.body = .struct fields := by
  unfold target at h
  split at h
  · simp at h
  · simp only at h
    split at h
    · simp at h
    · rename_i d hd
      split at h <;> simp only [Prod.mk.injEq, Target.struct.injEq, reduceCtorEq, false_and] at h
      rename_i fields hbody
      obtain ⟨⟨rfl, -⟩, rfl⟩ := h
      exact ⟨d, fields, hd, hbody⟩

namespace Walk

/-- Whether a type in a unit denotes the structure `id`, through the other names of types in a
chain. Nothing on the way is being expanded. The last walker has the chain on its stack. -/
inductive Denotes (loader : Loader) :
    TypeExpr → Nat → Walker → List ModulePath → Nat → Walker → Prop where
  /-- The name of the structure. -/
  | struct {name : String} {unit id : Nat} {path : ModulePath} {w w' : Walker}
    (htarget : w.target loader name unit = (.struct id path, w')) (hfree : path ∉ w'.expanding) :
    Denotes loader (.named name) unit w [] id w'
  /-- Another name of a type that denotes it. -/
  | synonym {name : String} {type : TypeExpr} {unit unit' id : Nat} {path : ModulePath}
    {chain : List ModulePath} {w w' w'' : Walker}
    (htarget : w.target loader name unit = (.synonym type unit' path, w'))
    (hfree : path ∉ w'.expanding) (hrest : Denotes loader type unit' (w'.enter path) chain id w'') :
    Denotes loader (.named name) unit w (path :: chain) id w''

/-- What a declared field contributes to the expansion of a structure, and the walker after it. -/
inductive Contributes (loader : Loader) (below : Walk) (d : TypeDecl) (f : FieldDecl) (w : Walker) :
    List (Field × Json) → Walker → Prop where
  /-- A plain field contributes itself. -/
  | plain {field : Field} {value : Json} {w' : Walker} (hplain : f.flatten = false)
    (hbuild : buildField loader below f d.unit d.name w = some ((field, value), w')) :
    Contributes loader below d f w [(field, value)] w'
  /-- A flattened field contributes all fields of the structure that its type denotes. -/
  | flattened {chain : List ModulePath} {id : Nat} {e : Expansion} {w₁ w₂ : Walker}
    (hflatten : f.flatten = true) (hdenotes : Denotes loader f.type d.unit w chain id w₁)
    (hexpand : below.expand id w₁ = some (some e, w₂)) :
    Contributes loader below d f w e.pairs (Walker.leave^[chain.length] w₂)
  /-- Any other flattened field contributes nothing. -/
  | nothing {w' : Walker} (hflatten : f.flatten = true)
    (hnone : ∀ chain id w₁, ¬ Denotes loader f.type d.unit w chain id w₁)
    (hlook : flattenWith loader below f.type d.unit w = some (none, w')) :
    Contributes loader below d f w [] w'

/-- What declared fields contribute, one after the other. -/
inductive Collects (loader : Loader) (below : Walk) (d : TypeDecl) :
    List FieldDecl → Walker → List (Field × Json) → Walker → Prop where
  /-- There is no field. -/
  | nil (w : Walker) : Collects loader below d [] w [] w
  /-- A field and those after it. -/
  | cons {f : FieldDecl} {rest : List FieldDecl} {pairs more : List (Field × Json)}
    {w w₁ w₂ : Walker} (hfirst : Contributes loader below d f w pairs w₁)
    (hrest : Collects loader below d rest w₁ more w₂) :
    Collects loader below d (f :: rest) w (pairs ++ more) w₂

variable {loader : Loader}

/-! ## Flattened fields -/

/-- A denoted structure is declared as one. -/
theorem Denotes.declared {type : TypeExpr} {unit id : Nat} {chain : List ModulePath}
    {w w' : Walker} (h : Denotes loader type unit w chain id w') :
    ∃ d fields, w'.session.catalog.decls[id]? = some d ∧ d.body = .struct fields := by
  induction h with
  | struct htarget _ => exact Walker.target_struct_body htarget
  | synonym _ _ _ ih => exact ih

/-- A structure is expanded, if that comes to an end. -/
theorem expandWith_struct {below : Walk} {id : Nat} {d : TypeDecl} {fields : List FieldDecl}
    {w w' : Walker} {r : Option Expansion} (hd : w.session.catalog.decls[id]? = some d)
    (hbody : d.body = .struct fields) (h : expandWith loader below id w = some (r, w')) :
    ∃ e, r = some e := by
  rw [expandWith, hd] at h
  simp only [hbody] at h
  obtain ⟨⟨e, _⟩, -, heq⟩ := Option.map_eq_some_iff.mp h
  cases heq
  exact ⟨e, rfl⟩

/-- Flattening follows the chain to the structure that a type denotes, and goes back along it. -/
theorem Denotes.flattenWith_eq {type : TypeExpr} {unit id : Nat} {chain : List ModulePath}
    {w w' : Walker} (h : Denotes loader type unit w chain id w') :
    flattenWith loader (unbounded loader) type unit w =
      ((unbounded loader).expand id w').map fun r => (r.1, Walker.leave^[chain.length] r.2) := by
  induction h with
  | @struct name unit id path w w' htarget hfree =>
    simp only [flattenWith, htarget, mt Walker.holds_iff.mp hfree]
    simp
  | @synonym name type unit unit' id path chain w w' w'' htarget hfree _ ih =>
    simp only [flattenWith, htarget, mt Walker.holds_iff.mp hfree]
    rw [unbounded_flatten, ih]
    simp [Function.iterate_succ_apply', Function.comp_def]

/-- Whether a walk flattens a type only to a structure that it denotes. -/
def FollowsChains (loader : Loader) (below : Walk) : Prop :=
  ∀ {type unit w e w'}, below.flatten type unit w = some (some e, w') →
    ∃ chain id w₁ w₂, Denotes loader type unit w chain id w₁ ∧
      below.expand id w₁ = some (some e, w₂) ∧ w' = Walker.leave^[chain.length] w₂

/-- A flattened type is expanded at the end of the names that it goes through. -/
theorem flattenWith_follows {below : Walk} (h : FollowsChains loader below) {type : TypeExpr}
    {unit : Nat} {w w' : Walker} {e : Expansion}
    (hflatten : flattenWith loader below type unit w = some (some e, w')) :
    ∃ chain id w₁ w₂, Denotes loader type unit w chain id w₁ ∧
      below.expand id w₁ = some (some e, w₂) ∧ w' = Walker.leave^[chain.length] w₂ := by
  cases type with
  | named name =>
    rw [flattenWith_named] at hflatten
    rcases meet_cases hflatten with ⟨_, _, -, hblocked, -⟩ |
      ⟨id, path, w₁, r, htarget, hfree, hexpand, heq⟩ |
      ⟨type, unit', path, w₁, r, w₂, htarget, hfree, hinner, heq, rfl⟩
    · cases hblocked
    · cases heq
      exact ⟨[], id, w₁, w', .struct htarget hfree, hexpand, rfl⟩
    · cases heq
      obtain ⟨chain, id, w₃, w₄, hdenotes, hexpand, rfl⟩ := h hinner
      refine ⟨path :: chain, id, w₃, w₄, .synonym htarget hfree hdenotes, hexpand, ?_⟩
      rw [List.length_cons, Function.iterate_succ_apply']
  | _ => cases hflatten

/-- Every bounded walk follows these names to their end. -/
theorem upTo_followsChains (loader : Loader) (n : Nat) : FollowsChains loader (upTo loader n) := by
  induction n with
  | zero => exact nofun
  | succ n ih =>
    intro type unit w e w' h
    rw [upTo_succ_flatten] at h
    obtain ⟨chain, id, w₁, w₂, hdenotes, hexpand, hleave⟩ := flattenWith_follows ih h
    exact ⟨chain, id, w₁, w₂, hdenotes, (upTo_isPartOf_succ loader n).expand hexpand, hleave⟩

/-- What is flattened to nothing denotes no structure. -/
theorem not_denotes_of_flattenWith {type : TypeExpr} {unit : Nat} {w w' : Walker}
    (h : flattenWith loader (unbounded loader) type unit w = some (none, w'))
    (chain : List ModulePath) (id : Nat) (w₁ : Walker) :
    ¬ Denotes loader type unit w chain id w₁ := by
  intro hdenotes
  rw [hdenotes.flattenWith_eq] at h
  obtain ⟨⟨r, w₂⟩, hexpand, heq⟩ := Option.map_eq_some_iff.mp h
  have hexpand' : w₁.expand loader id = some (r, w₂) := hexpand
  rw [unbounded_expand] at hexpand'
  obtain ⟨d, fields, hd, hbody⟩ := hdenotes.declared
  obtain ⟨e, rfl⟩ := expandWith_struct hd hbody hexpand'
  cases heq

/-! ## One field -/

/-- What adding a declared field to an expansion adds. -/
theorem addField_contributes {n : Nat} {d : TypeDecl} {f : FieldDecl} {e e' : Expansion}
    {w w' : Walker} (h : addField loader (upTo loader n) d (e, w) f = some (e', w')) :
    ∃ pairs, Contributes loader (upTo loader n) d f w pairs w' ∧ e' = e.pushAll pairs := by
  unfold addField at h
  simp only at h
  split at h
  · rename_i hflatten
    obtain ⟨⟨r, w₁⟩, hr, heq⟩ := Option.map_eq_some_iff.mp h
    cases r with
    | some other =>
      cases heq
      obtain ⟨chain, id, w₂, w₃, hdenotes, hexpand, rfl⟩ :=
        flattenWith_follows (upTo_followsChains loader n) hr
      exact ⟨other.pairs, .flattened hflatten hdenotes hexpand,
        Expansion.splice_eq_pushAll e ((upTo_agreeing loader n).expand hexpand)⟩
    | none =>
      cases heq
      have hlook := (flattenWith_continuous f.type d.unit w).mono
        (upTo_isPartOf_unbounded loader n) hr
      exact ⟨[], .nothing hflatten (not_denotes_of_flattenWith hlook) hr, rfl⟩
  · rename_i hplain
    obtain ⟨⟨⟨field, value⟩, w₁⟩, hbuild, heq⟩ := Option.map_eq_some_iff.mp h
    cases heq
    exact ⟨[(field, value)], .plain (Bool.not_eq_true _ ▸ hplain) hbuild, rfl⟩

/-- A contribution is what adding the field adds. -/
theorem Contributes.addField_eq {d : TypeDecl} {f : FieldDecl} {pairs : List (Field × Json)}
    {w w' : Walker} (h : Contributes loader (unbounded loader) d f w pairs w') (e : Expansion) :
    addField loader (unbounded loader) d (e, w) f = some (e.pushAll pairs, w') := by
  cases h with
  | plain hplain hbuild =>
    simp only [addField, hplain, hbuild]
    rfl
  | flattened hflatten hdenotes hexpand =>
    simp only [addField, hflatten, hdenotes.flattenWith_eq, hexpand, if_true, Option.map_some]
    obtain ⟨n, hn⟩ := (unbounded_isLimit loader).expand.mp hexpand
    have hsplice := Expansion.splice_eq_pushAll e ((upTo_agreeing loader n).expand hn)
    rw [hsplice]
    rfl
  | nothing hflatten _ hlook =>
    simp only [addField, hflatten, hlook, if_true]
    rfl

/-- A deeper walk gives the same contribution. -/
theorem Contributes.mono {n : Nat} {d : TypeDecl} {f : FieldDecl} {pairs : List (Field × Json)}
    {w w' : Walker} (h : Contributes loader (upTo loader n) d f w pairs w') :
    Contributes loader (unbounded loader) d f w pairs w' := by
  have hpart := upTo_isPartOf_unbounded loader n
  cases h with
  | plain hplain hbuild =>
    exact .plain hplain ((buildField_continuous f d.unit d.name w).mono hpart hbuild)
  | flattened hflatten hdenotes hexpand =>
    exact .flattened hflatten hdenotes (hpart.expand hexpand)
  | nothing hflatten hnone hlook =>
    exact .nothing hflatten hnone ((flattenWith_continuous f.type d.unit w).mono hpart hlook)

/-! ## All fields -/

/-- **Fields.** What fields add to an expansion are their contributions. -/
theorem addFields_collects {n : Nat} {d : TypeDecl} {fields : List FieldDecl} {e e' : Expansion}
    {w w' : Walker}
    (h : fields.foldlM (addField loader (upTo loader n) d) (e, w) = some (e', w')) :
    ∃ pairs, Collects loader (upTo loader n) d fields w pairs w' ∧ e' = e.pushAll pairs := by
  induction fields generalizing e w with
  | nil =>
    cases h
    exact ⟨[], .nil _, rfl⟩
  | cons f rest ih =>
    rw [List.foldlM_cons] at h
    obtain ⟨⟨e₁, w₁⟩, hfirst, hrest⟩ := Option.bind_eq_some_iff.mp h
    obtain ⟨pairs, hpairs, rfl⟩ := addField_contributes hfirst
    obtain ⟨more, hmore, rfl⟩ := ih hrest
    exact ⟨pairs ++ more, .cons hpairs hmore, (e.pushAll_append pairs more).symm⟩

/-- Contributions are what fields add to any expansion. -/
theorem Collects.addFields_eq {d : TypeDecl} {fields : List FieldDecl}
    {pairs : List (Field × Json)} {w w' : Walker}
    (h : Collects loader (unbounded loader) d fields w pairs w') (e : Expansion) :
    fields.foldlM (addField loader (unbounded loader) d) (e, w) =
      some (e.pushAll pairs, w') := by
  induction h generalizing e with
  | nil w => rfl
  | @cons f rest pairs more w w₁ w₂ hfirst _ ih =>
    rw [List.foldlM_cons, hfirst.addField_eq e, e.pushAll_append]
    exact ih (e.pushAll pairs)

/-- What a bounded walk collects is collected without a bound. -/
theorem Collects.mono {n : Nat} {d : TypeDecl} {fields : List FieldDecl}
    {pairs : List (Field × Json)} {w w' : Walker}
    (h : Collects loader (upTo loader n) d fields w pairs w') :
    Collects loader (unbounded loader) d fields w pairs w' := by
  induction h with
  | nil w => exact .nil w
  | cons hfirst _ ih => exact .cons hfirst.mono ih

/-- What fields contribute is contributed by one of them. -/
theorem Collects.exists_contributes {below : Walk} {d : TypeDecl} {fields : List FieldDecl}
    {pairs : List (Field × Json)} {pair : Field × Json} {w w' : Walker}
    (h : Collects loader below d fields w pairs w') (hmem : pair ∈ pairs) :
    ∃ before f after earlier mine w₁ w₂, fields = before ++ f :: after ∧
      Collects loader below d before w earlier w₁ ∧ Contributes loader below d f w₁ mine w₂ ∧
        pair ∈ mine := by
  induction h with
  | nil => cases hmem
  | @cons f rest mine more w w₁ w₂ hfirst _ ih =>
    rcases List.mem_append.mp hmem with hmine | hmore
    · exact ⟨[], f, rest, [], mine, w, w₁, rfl, .nil w, hfirst, hmine⟩
    · obtain ⟨before, g, after, earlier, theirs, w₃, w₄, rfl, hbefore, hg, hpair⟩ := ih hmore
      exact ⟨f :: before, g, after, mine ++ earlier, theirs, w₃, w₄, rfl, .cons hfirst hbefore, hg,
        hpair⟩

/-- The walker with which the fields of a declaration are added. -/
def start (d : TypeDecl) (w : Walker) : Walker :=
  (w.note [.expanding d.path]).enter d.path

/-- **Contributions.** An expansion is made of what the fields of a structure that are not skipped
contribute, one after the other. -/
theorem upTo_collects {n id : Nat} {w w' : Walker} {e : Expansion}
    (h : expandWith loader (upTo loader n) id w = some (some e, w')) :
    ∃ d fields pairs w₁, w.session.catalog.decls[id]? = some d ∧ d.body = .struct fields ∧
      Collects loader (upTo loader n) d (fields.filter (!·.skip)) (start d w) pairs w₁ ∧
        e = Expansion.pushAll {} pairs ∧ w' = w₁.leave := by
  rcases expandWith_cases h with ⟨hnone, -⟩ | ⟨d, fields, e', w₁, hd, hbody, hfold, heq, rfl⟩
  · cases hnone
  · cases heq
    obtain ⟨pairs, hpairs, he⟩ := addFields_collects hfold
    exact ⟨d, fields, pairs, w₁, hd, hbody, hpairs, he, rfl⟩

/-- **Contributions, without a bound.** And whatever the fields contribute is an expansion. -/
theorem expand_iff_collects {id : Nat} {w w' : Walker} {e : Expansion} :
    w.expand loader id = some (some e, w') ↔
      ∃ d fields pairs w₁, w.session.catalog.decls[id]? = some d ∧ d.body = .struct fields ∧
        Collects loader (unbounded loader) d (fields.filter (!·.skip)) (start d w) pairs w₁ ∧
          e = Expansion.pushAll {} pairs ∧ w' = w₁.leave := by
  constructor
  · intro h
    obtain ⟨_ | n, hn⟩ := Walker.expand_eq_upTo h
    · cases hn
    · rw [upTo_succ_expand] at hn
      obtain ⟨d, fields, pairs, w₁, hd, hbody, hpairs, hrest⟩ := upTo_collects hn
      exact ⟨d, fields, pairs, w₁, hd, hbody, hpairs.mono, hrest⟩
  · rintro ⟨d, fields, pairs, w₁, hd, hbody, hpairs, rfl, rfl⟩
    have hfold := hpairs.addFields_eq {}
    rw [start] at hfold
    rw [unbounded_expand, expandWith, hd]
    simp only [hbody, hfold]
    rfl

end Walk

end ApiDocs
