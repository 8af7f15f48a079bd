import ApiDocs.Proofs.Expansion.Walk
import ApiDocs.Proofs.Session.Growth
import Mathlib.Data.Finset.Card
import Mathlib.Data.List.Nodup

/-!
# The stack of a walk

A walk puts a type on the stack only if it is not there, and takes it away again. So it returns with
the stack it started from, and no stack on the way holds a type twice (`Returns`). Each level of
nested fields belongs to a structure that was put on the stack, hence the depth of what a walk gives
is at most the number of structures that were not on the stack before (`Within`).
-/

namespace ApiDocs

/-! ## Depth of fields -/

mutual

/-- How deep fields are nested inside a field. -/
def Field.depth : Field → Nat
  | ⟨_, _, _, _, _, _, children⟩ => fieldsDepth children

/-- How deep fields are nested, themselves included. -/
def fieldsDepth : List Field → Nat
  | [] => 0
  | f :: rest => max (f.depth + 1) (fieldsDepth rest)

end

/-- A field is as deep as the fields inside it. -/
theorem Field.depth_eq (f : Field) : f.depth = fieldsDepth f.children := by
  cases f
  rw [Field.depth]

/-- Fields have a depth within a bound if the fields inside each of them have one below it. -/
theorem fieldsDepth_le_iff {fields : List Field} {n : Nat} :
    fieldsDepth fields ≤ n ↔ ∀ f ∈ fields, fieldsDepth f.children + 1 ≤ n := by
  induction fields with
  | nil => simp [fieldsDepth]
  | cons f rest ih => rw [fieldsDepth, Nat.max_le, ih, f.depth_eq, List.forall_mem_cons]

namespace Expansion

/-- A field that is put in is there, and all others were there before. -/
theorem mem_put {f g : Field} {fields : List Field} (h : g ∈ put f fields) :
    g = f ∨ g ∈ fields := by
  induction fields with
  | nil => exact Or.inl (List.mem_singleton.mp h)
  | cons old rest ih =>
    rw [put] at h
    split at h
    · rcases List.mem_cons.mp h with heq | hrest
      · exact Or.inl heq
      · exact Or.inr (List.mem_cons_of_mem old hrest)
    · rcases List.mem_cons.mp h with heq | hrest
      · exact Or.inr (heq ▸ List.mem_cons_self)
      · exact (ih hrest).imp_right (List.mem_cons_of_mem old)

/-- Fields that are spliced in bring no others with them. -/
theorem mem_spliceFields {e : Expansion} {g : Field} {fields : List Field}
    {members : List (String × Json)} (h : g ∈ (e.spliceFields fields members).fields) :
    g ∈ e.fields ∨ g ∈ fields := by
  induction fields generalizing e members with
  | nil => exact Or.inl h
  | cons f rest ih =>
    rcases ih h with hpush | hrest
    · rcases mem_put hpush with heq | hold
      · exact Or.inr (heq ▸ List.mem_cons_self)
      · exact Or.inl hold
    · exact Or.inr (List.mem_cons_of_mem f hrest)

/-- A field that is added makes an expansion at most one level deeper than itself. -/
theorem depth_push_le {e : Expansion} {f : Field} {value : Json} {n : Nat}
    (he : fieldsDepth e.fields ≤ n) (hf : fieldsDepth f.children + 1 ≤ n) :
    fieldsDepth (e.push f value).fields ≤ n := by
  rw [fieldsDepth_le_iff] at he ⊢
  intro g hg
  rcases mem_put hg with rfl | hold
  · exact hf
  · exact he g hold

/-- An expansion whose fields are added makes another one at most as deep as itself. -/
theorem depth_splice_le {e other : Expansion} {n : Nat} (he : fieldsDepth e.fields ≤ n)
    (hother : fieldsDepth other.fields ≤ n) : fieldsDepth (e.splice other).fields ≤ n := by
  rw [fieldsDepth_le_iff] at he hother ⊢
  intro g hg
  rcases mem_spliceFields hg with hold | hnew
  · exact he g hold
  · exact hother g hnew

end Expansion

/-! ## Structures that are not on the stack -/

/-- Whether a declared type is a structure. -/
def TypeDecl.isStruct (d : TypeDecl) : Bool :=
  match d.body with
  | .struct _ => true
  | _ => false

/-- The paths of all structures. -/
def TypeIndex.structPaths (x : TypeIndex) : Finset ModulePath :=
  ((x.decls.filter TypeDecl.isStruct).map TypeDecl.path).toFinset

/-- How many structures are not on a stack. -/
def Session.room (s : Session) (stack : List ModulePath) : Nat :=
  (s.catalog.structPaths \ stack.toFinset).card

namespace Session

/-- The path of a declared structure is one of those of all structures. -/
theorem mem_structPaths {s : Session} {d : TypeDecl} (hd : d ∈ s.catalog.decls)
    (hstruct : d.isStruct) : d.path ∈ s.catalog.structPaths :=
  List.mem_toFinset.mpr (List.mem_map_of_mem (List.mem_filter.mpr ⟨hd, hstruct⟩))

/-- On an empty stack there is room for the declared structures at most. -/
theorem room_nil_le (s : Session) :
    s.room [] ≤ (s.catalog.decls.filter TypeDecl.isStruct).length := by
  rw [room, List.toFinset_nil, Finset.sdiff_empty, TypeIndex.structPaths]
  refine (List.toFinset_card_le _).trans ?_
  rw [List.length_map]

theorem room_cons_le (s : Session) (path : ModulePath) (stack : List ModulePath) :
    s.room (path :: stack) ≤ s.room stack := by
  apply Finset.card_le_card
  rw [List.toFinset_cons]
  exact Finset.sdiff_subset_sdiff (Finset.Subset.refl _) (Finset.subset_insert _ _)

/-- Putting a structure on the stack takes its room. -/
theorem room_cons_lt {s : Session} {path : ModulePath} {stack : List ModulePath}
    (hpath : path ∈ s.catalog.structPaths) (hnot : path ∉ stack) :
    s.room (path :: stack) + 1 ≤ s.room stack := by
  apply Finset.card_lt_card
  rw [List.toFinset_cons, Finset.ssubset_iff_of_subset
    (Finset.sdiff_subset_sdiff (Finset.Subset.refl _) (Finset.subset_insert _ _))]
  exact ⟨path, Finset.mem_sdiff.mpr ⟨hpath, by simpa using hnot⟩, by simp⟩

/-- Room does not get lost while a session grows. -/
theorem Grows.room_le {s s' : Session} (h : Grows s s') (stack : List ModulePath) :
    s.room stack ≤ s'.room stack := by
  refine Finset.card_le_card (Finset.sdiff_subset_sdiff ?_ (Finset.Subset.refl _))
  intro path hpath
  obtain ⟨d, hd, rfl⟩ := List.mem_map.mp (List.mem_toFinset.mp hpath)
  obtain ⟨hmem, hstruct⟩ := List.mem_filter.mp hd
  exact mem_structPaths (h.decls.subset hmem) hstruct

end Session

/-! ## Returning -/

namespace Walker

/-- Whether a walk from `w` that came back as `w'` has left the stack as it was, has changed the
session by steps, has had no type twice on a stack if it did not start with one, and has forgotten
no stack. -/
structure Returns (loader : Loader) (w w' : Walker) : Prop where
  /-- The stack. -/
  expanding : w'.expanding = w.expanding
  /-- The session. -/
  steps : Session.Steps loader w.session w'.session
  /-- The stacks on the way. -/
  nodup : (∀ stack ∈ w.history, stack.Nodup) → ∀ stack ∈ w'.history, stack.Nodup
  /-- The stacks before. -/
  history : w.history <:+ w'.history

theorem Returns.refl (loader : Loader) (w : Walker) : Returns loader w w :=
  ⟨rfl, .refl, id, List.suffix_rfl⟩

theorem Returns.trans {loader : Loader} {w w' w'' : Walker} (h : Returns loader w w')
    (h' : Returns loader w' w'') : Returns loader w w'' :=
  ⟨h'.expanding.trans h.expanding, h.steps.trans h'.steps, h'.nodup ∘ h.nodup,
    h.history.trans h'.history⟩

/-- A report changes nothing that matters for the way back. -/
theorem note_returns (loader : Loader) (w : Walker) {events : Journal}
    (h : events.loads = []) : Returns loader w (w.note events) :=
  ⟨rfl, .single (.note _ events h), id, List.suffix_rfl⟩

/-- Looking for the target of a name leaves the stack as it is. -/
theorem target_returns (loader : Loader) (name : String) (unit : Nat) (w : Walker) :
    Returns loader w (w.target loader name unit).2 := by
  obtain ⟨hhistory, hsteps⟩ := w.target_frame loader name unit
  refine ⟨?_, hsteps, fun h => ?_, ?_⟩
  · rw [Walker.expanding, hhistory, ← Walker.expanding]
  · rw [hhistory]
    exact h
  · rw [hhistory]

/-- The stack itself is one of the stacks on the way. -/
theorem nodup_expanding {w : Walker} (h : ∀ stack ∈ w.history, stack.Nodup) :
    w.expanding.Nodup := by
  unfold Walker.expanding
  cases hhistory : w.history with
  | nil => exact List.nodup_nil
  | cons stack rest => exact h stack (hhistory ▸ List.mem_cons_self)

/-- A walk below a type that was not on the stack returns once the type is taken away. -/
theorem Returns.leave {loader : Loader} {w w' : Walker} {path : ModulePath}
    (hpath : path ∉ w.expanding) (h : Returns loader (w.enter path) w') :
    Returns loader w w'.leave := by
  refine ⟨?_, h.steps, fun hw => ?_,
    (List.suffix_cons _ _).trans (h.history.trans (List.suffix_cons _ _))⟩
  · rw [leave_expanding, h.expanding, enter_expanding, List.tail_cons]
  · have henter : ∀ stack ∈ (w.enter path).history, stack.Nodup := by
      intro stack hstack
      rcases List.mem_cons.mp hstack with rfl | hold
      · exact List.nodup_cons.mpr ⟨hpath, nodup_expanding hw⟩
      · exact hw stack hold
    have hall := h.nodup henter
    intro stack hstack
    rcases List.mem_cons.mp hstack with rfl | hold
    · exact (nodup_expanding hall).sublist (List.tail_sublist _)
    · exact hall stack hold

/-- Whether a walk returns with something that is nested at most as deep as there were structures
that were not on the stack. -/
structure Within (loader : Loader) (w w' : Walker) (depth : Nat) : Prop
    extends Returns loader w w' where
  /-- The depth. -/
  depth_le : depth ≤ w'.session.room w.expanding

theorem Within.trans {loader : Loader} {w w' w'' : Walker} {depth : Nat}
    (h : Returns loader w w') (h' : Within loader w' w'' depth) : Within loader w w'' depth :=
  ⟨h.trans h'.toReturns, h.expanding ▸ h'.depth_le⟩

/-- What is nested less deep is within the bound, too. -/
theorem Within.mono {loader : Loader} {w w' : Walker} {depth depth' : Nat}
    (h : Within loader w w' depth) (hle : depth' ≤ depth) : Within loader w w' depth' :=
  ⟨h.toReturns, hle.trans h.depth_le⟩

/-- What is within the room of a stack with a structure more is within that of the stack itself. -/
theorem Within.leave {loader : Loader} {w w' : Walker} {path : ModulePath} {depth : Nat}
    (hpath : path ∉ w.expanding) (h : Within loader (w.enter path) w' depth) :
    Within loader w w'.leave depth :=
  ⟨h.toReturns.leave hpath, h.depth_le.trans (Session.room_cons_le _ path _)⟩

end Walker

namespace Walk

/-! ## Walks -/

/-- The depth of the expansion of what may be no structure. -/
def expansionDepth (e : Option Expansion) : Nat :=
  e.elim 0 fun e => fieldsDepth e.fields

/-- Whether a walk always returns, with something that is not nested too deep. Only structures that
are not on the stack are expanded. -/
structure Balanced (loader : Loader) (below : Walk) : Prop where
  /-- Structures. -/
  expand : ∀ {id w r w'}, (∀ d, w.session.catalog.decls[id]? = some d → d.path ∉ w.expanding) →
    below.expand id w = some (r, w') → w.Within loader w' (expansionDepth r)
  /-- Fields. -/
  build : ∀ {slot owner type unit w f v w'},
    below.build slot owner type unit w = some ((f, v), w') →
      w.Within loader w' (fieldsDepth f.children)
  /-- Flattened fields. -/
  flatten : ∀ {type unit w r w'}, below.flatten type unit w = some (r, w') →
    w.Within loader w' (expansionDepth r)

variable {loader : Loader} {below : Walk}

/-- Meeting a type name returns if going below it does. -/
theorem meet_within {α β : Type} {inner : TypeExpr → Nat → Walker → Option (β × Walker)}
    {ways : Ways α β} (depth : α → Nat) (innerDepth : β → Nat) (h : below.Balanced loader)
    (hinner : ∀ {type unit w b w'}, inner type unit w = some (b, w') →
      w.Within loader w' (innerDepth b))
    (hexpanded : ∀ e, depth (ways.expanded e) ≤ expansionDepth e)
    (hrenamed : ∀ b, depth (ways.renamed b) ≤ innerDepth b)
    (hblocked : ∀ target, depth (ways.blocked target) = 0 ∧ (ways.events target).loads = [])
    {name : String} {unit : Nat} {w w' : Walker} {a : α}
    (hmeet : meet loader below inner ways name unit w = some (a, w')) :
    w.Within loader w' (depth a) := by
  have htarget := w.target_returns loader name unit
  rcases meet_cases hmeet with ⟨target, w₁, heq, rfl, rfl⟩ |
    ⟨id, path, w₁, e, heq, hpath, hexpand, rfl⟩ |
    ⟨type, unit', path, w₁, b, w₂, heq, hpath, hrun, rfl, rfl⟩
  · rw [heq] at htarget
    have hnote := w₁.note_returns loader (hblocked target).2
    exact ⟨htarget.trans hnote, by rw [(hblocked target).1]; exact Nat.zero_le _⟩
  · rw [heq] at htarget
    have hfree := Walker.target_struct_free heq hpath
    exact Walker.Within.trans htarget ((h.expand hfree hexpand).mono (hexpanded e))
  · rw [heq] at htarget
    exact Walker.Within.trans htarget (((hinner hrun).leave hpath).mono (hrenamed b))

/-- What a type name is built to is nested no deeper than there is room. -/
theorem buildNamed_within (h : below.Balanced loader) {slot : Slot} {owner name : String}
    {unit : Nat} {w w' : Walker} {f : Field} {v : Json}
    (hbuild : buildNamed loader below slot owner name unit w = some ((f, v), w')) :
    w.Within loader w' (fieldsDepth f.children) := by
  rw [buildNamed_eq_meet] at hbuild
  refine meet_within (fun a => fieldsDepth a.1.children) (fun b => fieldsDepth b.1.children)
    h h.build ?_ ?_ ?_ hbuild
  · intro e
    cases e <;> exact Nat.le_refl _
  · intro b
    exact Nat.le_refl _
  · intro target
    cases target <;> exact ⟨rfl, rfl⟩

theorem elementNamed_within (h : below.Balanced loader) {slot : Slot} {owner name : String}
    {unit : Nat} {w w' : Walker} {children : List Field} {v : Json}
    (helement : elementNamed loader below slot owner name unit w = some ((children, v), w')) :
    w.Within loader w' (fieldsDepth children) := by
  rw [elementNamed_eq_meet] at helement
  refine meet_within (fun a => fieldsDepth a.1) (fun b => fieldsDepth b.1.children)
    h h.build ?_ ?_ ?_ helement
  · intro e
    cases e <;> exact Nat.le_refl _
  · intro b
    exact Nat.le_refl _
  · intro target
    cases target <;> exact ⟨rfl, rfl⟩

/-- A field is nested no deeper than there is room, whatever its type. -/
theorem buildWith_within (h : below.Balanced loader) {slot : Slot} {owner : String}
    {type : TypeExpr} {unit : Nat} {w w' : Walker} {f : Field} {v : Json}
    (hbuild : buildWith loader below slot owner type unit w = some ((f, v), w')) :
    w.Within loader w' (fieldsDepth f.children) :=
  buildWith_induction (P := fun children _ w' => w.Within loader w' (fieldsDepth children))
    (fun _ _ => ⟨.refl loader w, Nat.zero_le _⟩)
    (fun _ _ _ _ hnamed => buildNamed_within h hnamed)
    (fun _ _ _ _ helement => elementNamed_within h helement)
    (fun _ _ _ hwithin => hwithin) hbuild

theorem flattenWith_within (h : below.Balanced loader) {type : TypeExpr} {unit : Nat}
    {w w' : Walker} {r : Option Expansion}
    (hflatten : flattenWith loader below type unit w = some (r, w')) :
    w.Within loader w' (expansionDepth r) := by
  cases type with
  | named name =>
    rw [flattenWith_named] at hflatten
    exact meet_within expansionDepth expansionDepth h h.flatten (fun _ => Nat.le_refl _)
      (fun _ => Nat.le_refl _) (fun _ => ⟨rfl, rfl⟩) hflatten
  | _ =>
    cases hflatten
    exact ⟨.refl loader w, Nat.zero_le _⟩

/-- A walk returns from each field of a structure. -/
theorem addField_returns (h : below.Balanced loader) {d : TypeDecl} {e e' : Expansion}
    {w w' : Walker} {f : FieldDecl} (hadd : addField loader below d (e, w) f = some (e', w')) :
    w.Returns loader w' := by
  rcases addField_cases hadd with ⟨other, hflatten, -⟩ | ⟨hflatten, -⟩ |
    ⟨slot, type, built, field, v, hbuild, -, -⟩
  · exact (flattenWith_within h hflatten).toReturns
  · exact (flattenWith_within h hflatten).toReturns
  · exact (buildWith_within h hbuild).toReturns

/-- Adding fields one after the other returns. -/
theorem addFields_returns (h : below.Balanced loader) {d : TypeDecl} {fields : List FieldDecl}
    {acc acc' : Expansion × Walker}
    (hadd : fields.foldlM (addField loader below d) acc = some acc') :
    acc.2.Returns loader acc'.2 :=
  foldlM_induction (P := fun x => acc.2.Returns loader x.2)
    (fun _ _ _ hx hstep => hx.trans (addField_returns h hstep)) (.refl loader acc.2) hadd

/-- A field of the structure on top of the stack adds one level to what is nested in it. -/
theorem addField_depth_le (h : below.Balanced loader) {d : TypeDecl} {e e' : Expansion}
    {w w' : Walker} {f : FieldDecl}
    (he : fieldsDepth e.fields ≤ w.session.room w.expanding + 1)
    (hadd : addField loader below d (e, w) f = some (e', w')) :
    fieldsDepth e'.fields ≤ w'.session.room w'.expanding + 1 := by
  have hreturns := addField_returns h hadd
  have hroom := hreturns.steps.grows.room_le w.expanding
  rw [hreturns.expanding]
  rcases addField_cases hadd with ⟨other, hflatten, rfl⟩ | ⟨-, rfl⟩ |
    ⟨slot, type, built, field, v, hbuild, hchildren, rfl⟩
  · have hother : fieldsDepth other.fields ≤ w'.session.room w.expanding :=
      (flattenWith_within h hflatten).depth_le
    exact Expansion.depth_splice_le (by omega) (by omega)
  · omega
  · have hfield : fieldsDepth field.children ≤ w'.session.room w.expanding := by
      rw [hchildren]
      exact (buildWith_within h hbuild).depth_le
    exact Expansion.depth_push_le (by omega) (by omega)

/-- **A structure.** An expansion is nested no deeper than there was room on the stack, if this is
so for the walk below. -/
theorem expandWith_within (h : below.Balanced loader) {id : Nat} {w w' : Walker}
    {r : Option Expansion}
    (hfree : ∀ d, w.session.catalog.decls[id]? = some d → d.path ∉ w.expanding)
    (hexpand : expandWith loader below id w = some (r, w')) :
    w.Within loader w' (expansionDepth r) := by
  rcases expandWith_cases hexpand with ⟨rfl, events, hloads, rfl⟩ |
    ⟨d, fields, e, w₁, hd, hbody, hfold, rfl, rfl⟩
  · exact ⟨w.note_returns loader hloads, Nat.zero_le _⟩
  · have hnote : w.Returns loader (w.note [.expanding d.path]) := w.note_returns loader rfl
    have hpath : d.path ∉ (w.note [.expanding d.path]).expanding := hfree d hd
    -- the fields so far fit into the structures that are left once `d` is on the stack, and one
    -- more
    obtain ⟨hreturns, hdepth⟩ := foldlM_induction
      (P := fun acc => ((w.note [.expanding d.path]).enter d.path).Returns loader acc.2 ∧
        fieldsDepth acc.1.fields ≤ acc.2.session.room acc.2.expanding + 1)
      (fun acc f acc' hacc hadd =>
        ⟨hacc.1.trans (addField_returns h hadd), addField_depth_le h hacc.2 hadd⟩)
      ⟨.refl loader _, Nat.zero_le _⟩ hfold
    have hstruct : d.path ∈ w₁.session.catalog.structPaths := by
      have hmem := hreturns.steps.grows.decls.subset (List.mem_of_getElem? hd)
      refine Session.mem_structPaths hmem ?_
      rw [TypeDecl.isStruct, hbody]
    refine ⟨hnote.trans (hreturns.leave hpath), ?_⟩
    have hroom := Session.room_cons_lt hstruct (hfree d hd)
    have hstack : w₁.expanding = d.path :: w.expanding := hreturns.expanding
    rw [hstack] at hdepth
    exact hdepth.trans hroom

/-- **Balance.** Walks of any depth return, with something that is not nested too deep. -/
theorem upTo_balanced (loader : Loader) (n : Nat) : (upTo loader n).Balanced loader := by
  induction n with
  | zero => exact ⟨nofun, nofun, nofun⟩
  | succ n ih =>
    refine ⟨?_, ?_, ?_⟩
    · intro id w r w' hfree h
      rw [upTo_succ_expand] at h
      exact expandWith_within ih hfree h
    · intro slot owner type unit w f v w' h
      rw [upTo_succ_build] at h
      exact buildWith_within ih h
    · intro type unit w r w' h
      rw [upTo_succ_flatten] at h
      exact flattenWith_within ih h

end Walk

end ApiDocs
