import ApiDocs.Expansion
import ApiDocs.Proofs.Session.Steps

/-!
# What a walk through types can do

Building a field, an element of a sequence and a flattened field all treat a type name in the same
way: they go below a structure or another name of a type unless it is being expanded, and stop
otherwise. `meet` is this one way, `meet_cases` says what comes out of it, and `buildWith_cases` and
`expandWith_cases` say the same of the functions around it. Whatever holds of all these outcomes
holds of a walk of any depth, hence of an expansion (`expand_eq_upTo`).
-/

namespace ApiDocs

namespace Walker

/-! ## Walkers -/

@[simp] theorem enter_expanding (w : Walker) (path : ModulePath) :
    (w.enter path).expanding = path :: w.expanding := rfl

@[simp] theorem enter_session (w : Walker) (path : ModulePath) :
    (w.enter path).session = w.session := rfl

@[simp] theorem leave_expanding (w : Walker) : w.leave.expanding = w.expanding.tail := rfl

@[simp] theorem note_nil (w : Walker) : w.note [] = w := by
  rw [note, Session.note, List.append_nil]

/-- A walker holds what is on its stack. -/
theorem holds_iff {w : Walker} {path : ModulePath} : w.holds path ↔ path ∈ w.expanding := by
  rw [holds, List.contains_iff_mem]

/-- Looking a type name up leaves the stack as it is and changes the session by steps. -/
theorem target_frame (loader : Loader) (name : String) (unit : Nat) (w : Walker) :
    (w.target loader name unit).2.history = w.history ∧
      Session.Steps loader w.session (w.target loader name unit).2.session := by
  have hsteps : Session.Steps loader w.session (w.session.resolve loader name unit).2 :=
    .single (.resolve _ name unit)
  unfold target
  split
  · rename_i s heq
    rw [heq] at hsteps
    exact ⟨rfl, hsteps⟩
  · rename_i id s heq
    rw [heq] at hsteps
    simp only
    split
    · exact ⟨rfl, hsteps⟩
    · split <;> exact ⟨rfl, hsteps⟩

/-- A structure that a name stands for is declared. -/
theorem target_struct {loader : Loader} {name : String} {unit id : Nat} {path : ModulePath}
    {w w' : Walker} (h : w.target loader name unit = (.struct id path, w')) :
    ∃ d, w'.session.catalog.decls[id]? = some d ∧ d.path = path := by
  unfold target at h
  split at h
  · simp at h
  · simp only at h
    split at h
    · simp at h
    · rename_i d hd
      split at h <;> simp only [Prod.mk.injEq, Target.struct.injEq, reduceCtorEq, false_and] at h
      obtain ⟨⟨rfl, rfl⟩, rfl⟩ := h
      exact ⟨d, hd, rfl⟩

/-- A structure that a name stands for may be expanded if its path is not on the stack. -/
theorem target_struct_free {loader : Loader} {name : String} {unit id : Nat} {path : ModulePath}
    {w w' : Walker} (h : w.target loader name unit = (.struct id path, w'))
    (hpath : path ∉ w'.expanding) :
    ∀ d, w'.session.catalog.decls[id]? = some d → d.path ∉ w'.expanding := by
  intro d hd
  obtain ⟨d', hd', hdpath⟩ := target_struct h
  obtain rfl : d' = d := Option.some.inj (hd'.symm.trans hd)
  rw [hdpath]
  exact hpath

/-- Another name of a type that a name stands for is declared. -/
theorem target_synonym {loader : Loader} {name : String} {unit unit' : Nat} {type : TypeExpr}
    {path : ModulePath} {w w' : Walker}
    (h : w.target loader name unit = (.synonym type unit' path, w')) :
    ∃ d ∈ w'.session.catalog.decls, d.path = path := by
  unfold target at h
  split at h
  · simp at h
  · simp only at h
    split at h
    · simp at h
    · rename_i d hd
      split at h <;> simp only [Prod.mk.injEq, Target.synonym.injEq, reduceCtorEq, false_and] at h
      obtain ⟨⟨rfl, rfl, rfl⟩, rfl⟩ := h
      exact ⟨d, List.mem_of_getElem? hd, rfl⟩

end Walker

/-! ## Values without members -/

/-- Values that a walk makes on the spot: scalars, and what is empty or holds one such value. -/
inductive Json.Leaf : Json → Prop where
  /-- The value of a number or truth value. -/
  | zero {kind : Kind} {text : String} {v : Json} (h : kind.zero? = some (text, v)) : Leaf v
  /-- A text. -/
  | string (s : String) : Leaf (.string s)
  /-- An object without members. -/
  | emptyObject : Leaf (.object [])
  /-- A sequence without elements. -/
  | emptyArray : Leaf (.array [])
  /-- A sequence of one element. -/
  | single {v : Json} (h : Leaf v) : Leaf (.array [v])

/-- The example of a scalar element is made on the spot. -/
theorem scalarElement_leaf (typeName : String) : (scalarElement typeName).Leaf := by
  unfold scalarElement
  split
  · rename_i heq
    exact .zero heq
  · exact .string _

theorem scalar_leaf (slot : Slot) (typeName : String) : (slot.scalar typeName).2.Leaf := by
  unfold Slot.scalar
  simp only
  split
  · rename_i heq
    exact .zero heq
  · exact .string _

/-- A scalar field has no fields inside. -/
theorem scalar_children (slot : Slot) (typeName : String) :
    (slot.scalar typeName).1.children = [] := by
  unfold Slot.scalar
  simp only
  split <;> rfl

namespace Walk

/-! ## Meeting a type name -/

/-- What is made of a type name: of the expansion of a structure, of what another name of a type
gives, and of a target below which the walk does not go. -/
structure Ways (α β : Type) where
  /-- The result for an expanded structure. -/
  expanded : Option Expansion → α
  /-- The result for another name of a type. -/
  renamed : β → α
  /-- The result for any other target. -/
  blocked : Target → α
  /-- What is reported for any other target. -/
  events : Target → Journal := fun _ => []

/-- Goes below the type that a name stands for, unless it is being expanded. -/
def meet {α β : Type} (loader : Loader) (below : Walk)
    (inner : TypeExpr → Nat → Walker → Option (β × Walker)) (ways : Ways α β) (name : String)
    (unit : Nat) (w : Walker) : Option (α × Walker) :=
  match w.target loader name unit with
  | (.struct id path, w) =>
    if w.holds path then
      some (ways.blocked (.struct id path), w.note (ways.events (.struct id path)))
    else (below.expand id w).map fun (e, w) => (ways.expanded e, w)
  | (.synonym type unit path, w) =>
    if w.holds path then
      some (ways.blocked (.synonym type unit path), w.note (ways.events (.synonym type unit path)))
    else (inner type unit (w.enter path)).map fun (b, w) => (ways.renamed b, w.leave)
  | (target, w) => some (ways.blocked target, w.note (ways.events target))

/-- What a field of a named type is made of. -/
def namedWays (slot : Slot) (name : String) : Ways (Field × Json) (Field × Json) where
  expanded
    | some e => ({ slot.field .object name "" with children := e.fields }, e.sample)
    | none => (slot.field .object name "", .object [])
  renamed := fun (field, value) => ({ field with typeName := name }, value)
  blocked
    | .struct _ _ => (slot.field .object name "", .object [])
    | .enum variants =>
      (slot.field .string name "",
        .string (if slot.remark.isEmpty then firstVariant variants else slot.remark))
    | .synonym _ _ _ => (slot.field (Kind.ofTypeName name) name "", .string slot.remark)
    | .missing => (slot.field (Kind.ofTypeName name) name "", .string slot.remark)
  events
    | .struct _ _ => [.cycle name]
    | _ => []

/-- What the elements of a sequence of a named type are made of. -/
def elementWays : Ways (List Field × Json) (Field × Json) where
  expanded
    | some e => (e.fields, .array [e.sample])
    | none => ([], .array [])
  renamed := fun (field, value) => (field.children, .array [value])
  blocked
    | .enum variants => ([], .array [.string (firstVariant variants)])
    | _ => ([], .array [])

/-- What a flattened field is made of. -/
def flattenWays : Ways (Option Expansion) (Option Expansion) where
  expanded := id
  renamed := id
  blocked _ := none

/-- A field of a named type is built by meeting the name. -/
theorem buildNamed_eq_meet (loader : Loader) (below : Walk) (slot : Slot) (owner name : String)
    (unit : Nat) (w : Walker) :
    buildNamed loader below slot owner name unit w =
      meet loader below (below.build slot owner) (namedWays slot name) name unit w := by
  unfold buildNamed meet
  rcases w.target loader name unit with ⟨target, w'⟩
  cases target with
  | struct id path =>
    by_cases hpath : w'.holds path
    · simp only [hpath, if_true]
      rfl
    · simp only [hpath]
      rcases below.expand id w' with _ | ⟨_ | e, w''⟩ <;> rfl
  | synonym type unit path =>
    by_cases hpath : w'.holds path
    · simp only [hpath, if_true, Walker.note_nil, namedWays]
    · simp only [hpath]
      rfl
  | enum variants => simp only [Walker.note_nil, namedWays]
  | missing => simp only [Walker.note_nil, namedWays]

theorem elementNamed_eq_meet (loader : Loader) (below : Walk) (slot : Slot) (owner name : String)
    (unit : Nat) (w : Walker) :
    elementNamed loader below slot owner name unit w =
      meet loader below (below.build slot owner) elementWays name unit w := by
  unfold elementNamed meet
  rcases w.target loader name unit with ⟨target, w'⟩
  cases target with
  | struct id path =>
    by_cases hpath : w'.holds path
    · simp only [hpath, if_true, Walker.note_nil, elementWays]
    · simp only [hpath]
      rcases below.expand id w' with _ | ⟨_ | e, w''⟩ <;> rfl
  | synonym type unit path =>
    by_cases hpath : w'.holds path
    · simp only [hpath, if_true, Walker.note_nil, elementWays]
    · simp only [hpath]
      rfl
  | enum variants => simp only [Walker.note_nil, elementWays]
  | missing => simp only [Walker.note_nil, elementWays]

/-- A named type is flattened by meeting the name. -/
theorem flattenWith_named (loader : Loader) (below : Walk) (name : String) (unit : Nat)
    (w : Walker) :
    flattenWith loader below (.named name) unit w =
      meet loader below below.flatten flattenWays name unit w := by
  simp only [flattenWith, meet]
  rcases w.target loader name unit with ⟨target, w'⟩
  cases target with
  | struct id path =>
    by_cases hpath : w'.holds path
    · simp only [hpath, if_true, Walker.note_nil, flattenWays]
    · simp only [hpath]
      rcases below.expand id w' with _ | ⟨e, w''⟩ <;> rfl
  | synonym type unit path =>
    by_cases hpath : w'.holds path
    · simp only [hpath, if_true, Walker.note_nil, flattenWays]
    · simp only [hpath]
      rfl
  | enum variants => simp only [Walker.note_nil, flattenWays]
  | missing => simp only [Walker.note_nil, flattenWays]

/-- What comes out of meeting a type name. -/
theorem meet_cases {α β : Type} {loader : Loader} {below : Walk}
    {inner : TypeExpr → Nat → Walker → Option (β × Walker)} {ways : Ways α β} {name : String}
    {unit : Nat} {w w' : Walker} {a : α}
    (h : meet loader below inner ways name unit w = some (a, w')) :
    (∃ target w₁, w.target loader name unit = (target, w₁) ∧ a = ways.blocked target ∧
      w' = w₁.note (ways.events target)) ∨
    (∃ id path w₁ e, w.target loader name unit = (.struct id path, w₁) ∧ path ∉ w₁.expanding ∧
      below.expand id w₁ = some (e, w') ∧ a = ways.expanded e) ∨
    (∃ type unit' path w₁ b w₂, w.target loader name unit = (.synonym type unit' path, w₁) ∧
      path ∉ w₁.expanding ∧ inner type unit' (w₁.enter path) = some (b, w₂) ∧
        a = ways.renamed b ∧ w' = w₂.leave) := by
  unfold meet at h
  split at h
  · rename_i id path w₁ htarget
    split at h
    · cases h
      exact Or.inl ⟨_, _, htarget, rfl, rfl⟩
    · rename_i hpath
      obtain ⟨⟨e, w₂⟩, hexpand, heq⟩ := Option.map_eq_some_iff.mp h
      cases heq
      exact Or.inr (Or.inl ⟨id, path, w₁, e, htarget, mt Walker.holds_iff.mpr hpath, hexpand, rfl⟩)
  · rename_i type unit' path w₁ htarget
    split at h
    · cases h
      exact Or.inl ⟨_, _, htarget, rfl, rfl⟩
    · rename_i hpath
      obtain ⟨⟨b, w₂⟩, hinner, heq⟩ := Option.map_eq_some_iff.mp h
      cases heq
      exact Or.inr (Or.inr ⟨type, unit', path, w₁, b, w₂, htarget, mt Walker.holds_iff.mpr hpath,
        hinner, rfl, rfl⟩)
  · rename_i target w₁ _ _ htarget
    cases h
    exact Or.inl ⟨_, _, htarget, rfl, rfl⟩

/-! ## Fields -/

/-- **Building.** What is built for a type is a value that the walk makes on the spot, what a type
name or the name of an element type gives, or a sequence of one such value. -/
theorem buildWith_induction {loader : Loader} {below : Walk} {slot : Slot} {owner : String}
    {unit : Nat} {w : Walker} {P : List Field → Json → Walker → Prop}
    (hleaf : ∀ v : Json, v.Leaf → P [] v w)
    (hnamed : ∀ name f v w', buildNamed loader below slot owner name unit w = some ((f, v), w') →
      P f.children v w')
    (helement : ∀ name children v w',
      elementNamed loader below slot owner name unit w = some ((children, v), w') →
        P children v w')
    (harray : ∀ children v w', P children v w' → P children (.array [v]) w')
    {type : TypeExpr} {f : Field} {v : Json} {w' : Walker}
    (h : buildWith loader below slot owner type unit w = some ((f, v), w')) :
    P f.children v w' := by
  -- a sequence looks at the head of its element type, so only nested sequences use the hypothesis
  induction type generalizing f v w' with
  | named name =>
    rw [buildWith] at h
    split at h
    · obtain ⟨hscalar, rfl⟩ := Prod.mk.inj (Option.some.inj h)
      have hchildren := scalar_children slot name
      have hvalue := scalar_leaf slot name
      rw [hscalar] at hchildren hvalue
      exact hchildren ▸ hleaf v hvalue
    · exact hnamed name f v w' h
  | sequence element ih =>
    cases element with
    | named name =>
      rw [buildWith] at h
      simp only at h
      split at h
      · cases h
        exact hleaf _ (.single (scalarElement_leaf name))
      · split at h
        · cases h
          exact hleaf _ .emptyArray
        · obtain ⟨⟨⟨children, x⟩, w₁⟩, helem, heq⟩ := Option.map_eq_some_iff.mp h
          cases heq
          exact helement name children x w₁ helem
    | sequence inner =>
      rw [buildWith] at h
      obtain ⟨⟨⟨nested, x⟩, w₁⟩, hnested, heq⟩ := Option.map_eq_some_iff.mp h
      cases heq
      have hinner : P nested.children x w' := ih hnested
      exact harray _ _ _ hinner
    | map key value =>
      cases h
      exact hleaf _ (.single .emptyObject)
    | any =>
      cases h
      exact hleaf _ .emptyArray
    | unknown =>
      cases h
      exact hleaf _ .emptyArray
  | map key value =>
    cases h
    exact hleaf _ .emptyObject
  | any =>
    cases h
    exact hleaf _ (.string _)
  | unknown =>
    cases h
    exact hleaf _ (.string _)

/-- What a declared field adds to an expansion. -/
theorem addField_cases {loader : Loader} {below : Walk} {d : TypeDecl} {e e' : Expansion}
    {w w' : Walker} {f : FieldDecl} (h : addField loader below d (e, w) f = some (e', w')) :
    (∃ other, flattenWith loader below f.type d.unit w = some (some other, w') ∧
      e' = e.splice other) ∨
    (flattenWith loader below f.type d.unit w = some (none, w') ∧ e' = e) ∨
    (∃ slot type built field v, buildWith loader below slot d.name type d.unit w =
      some ((built, v), w') ∧ field.children = built.children ∧ e' = e.push field v) := by
  unfold addField at h
  simp only at h
  split at h
  · obtain ⟨⟨r, w₁⟩, hflatten, heq⟩ := Option.map_eq_some_iff.mp h
    cases r with
    | some other =>
      cases heq
      exact Or.inl ⟨other, hflatten, rfl⟩
    | none =>
      cases heq
      exact Or.inr (Or.inl ⟨hflatten, rfl⟩)
  · obtain ⟨⟨⟨field, v⟩, w₁⟩, hfield, heq⟩ := Option.map_eq_some_iff.mp h
    cases heq
    refine Or.inr (Or.inr ?_)
    unfold buildField at hfield
    simp only at hfield
    split at hfield
    · obtain ⟨⟨⟨built, x⟩, w₂⟩, hbuild, heq⟩ := Option.map_eq_some_iff.mp hfield
      cases heq
      exact ⟨_, _, built, { built with typeName := f.type.text }, x, hbuild, rfl, rfl⟩
    · exact ⟨_, _, field, field, v, hfield, rfl, rfl⟩

/-! ## Structures -/

/-- What holds at first and is kept by each step holds at the end. -/
theorem foldlM_induction {α β : Type} {step : β → α → Option β} {P : β → Prop} {l : List α}
    (hstep : ∀ b a b', P b → step b a = some b' → P b') {b b' : β} (hb : P b)
    (h : l.foldlM step b = some b') : P b' := by
  induction l generalizing b with
  | nil =>
    cases h
    exact hb
  | cons a l ih =>
    rw [List.foldlM_cons] at h
    obtain ⟨b₁, hfirst, hrest⟩ := Option.bind_eq_some_iff.mp h
    exact ih (hstep b a b₁ hb hfirst) hrest

/-- What comes out of expanding a declaration. -/
theorem expandWith_cases {loader : Loader} {below : Walk} {id : Nat} {w w' : Walker}
    {r : Option Expansion} (h : expandWith loader below id w = some (r, w')) :
    (r = none ∧ ∃ events : Journal, events.loads = [] ∧ w' = w.note events) ∨
    (∃ d fields e w₁, w.session.catalog.decls[id]? = some d ∧ d.body = .struct fields ∧
      (fields.filter (!·.skip)).foldlM (addField loader below d)
        ({}, (w.note [.expanding d.path]).enter d.path) = some (e, w₁) ∧
          r = some e ∧ w' = w₁.leave) := by
  unfold expandWith at h
  split at h
  · cases h
    exact Or.inl ⟨rfl, [], rfl, (Walker.note_nil w).symm⟩
  · rename_i d hd
    split at h
    · rename_i fields hbody
      obtain ⟨⟨e, w₁⟩, hfold, heq⟩ := Option.map_eq_some_iff.mp h
      cases heq
      exact Or.inr ⟨d, fields, e, w₁, hd, hbody, hfold, rfl, rfl⟩
    · cases h
      exact Or.inl ⟨rfl, [.notStruct d.path], rfl, rfl⟩

/-! ## Depth -/

theorem upTo_succ_expand (loader : Loader) (n : Nat) :
    (upTo loader (n + 1)).expand = expandWith loader (upTo loader n) := rfl

theorem upTo_succ_build (loader : Loader) (n : Nat) :
    (upTo loader (n + 1)).build = buildWith loader (upTo loader n) := rfl

theorem upTo_succ_flatten (loader : Loader) (n : Nat) :
    (upTo loader (n + 1)).flatten = flattenWith loader (upTo loader n) := rfl

/-- The first attempt that comes to an end is one of the attempts. -/
theorem Search.exists_of_result? {α : Type} {search : Search α} {a : α}
    (h : search.result? = some a) : ∃ n, search.attempt n = some a := by
  refine result?.partial_correctness (fun search a => ∃ n, search.attempt n = some a) ?_ search a h
  intro next hnext search a ha
  split at ha
  · rename_i b hb
    cases ha
    exact ⟨search.depth, hb⟩
  · exact hnext search.deepen a ha

/-- If an attempt comes to an end, a first one does. -/
theorem Search.isSome_result? {α : Type} {search : Search α} {n : Nat} (hle : search.depth ≤ n)
    (h : (search.attempt n).isSome) : search.result?.isSome := by
  induction hk : n - search.depth generalizing search with
  | zero =>
    obtain rfl : search.depth = n := by omega
    obtain ⟨a, ha⟩ := Option.isSome_iff_exists.mp h
    rw [result?, ha]
    rfl
  | succ k ih =>
    rw [result?]
    split
    · rfl
    · have hdeeper : search.deepen.depth = search.depth + 1 := rfl
      exact ih (by omega) h (by omega)

end Walk

/-- A declared type is expanded with a depth that is found by search, from the number of declared
types on. -/
theorem Walker.expand_eq_result? (loader : Loader) (id : Nat) (w : Walker) :
    w.expand loader id = Walk.Search.result?
      ⟨fun n => (Walk.upTo loader n).expand id w, w.session.catalog.decls.length + 1⟩ := by
  conv_rhs => rw [Walk.Search.result?]
  rw [Walker.expand]
  simp only
  cases (Walk.upTo loader (w.session.catalog.decls.length + 1)).expand id w <;> rfl

/-- **Expansion.** An expansion is a walk of some depth. -/
theorem Walker.expand_eq_upTo {loader : Loader} {id : Nat} {w : Walker}
    {result : Option Expansion × Walker} (h : w.expand loader id = some result) :
    ∃ n, (Walk.upTo loader n).expand id w = some result := by
  rw [Walker.expand_eq_result?] at h
  exact Walk.Search.exists_of_result? h

/-- Where one level more than there are types is enough, the expansion is that walk. -/
theorem Walker.expand_of_upTo {loader : Loader} {id n : Nat} {w : Walker}
    {result : Option Expansion × Walker} (hn : w.session.catalog.decls.length + 1 = n)
    (h : (Walk.upTo loader n).expand id w = some result) : w.expand loader id = some result := by
  rw [Walker.expand, hn]
  simp only [h]

end ApiDocs
