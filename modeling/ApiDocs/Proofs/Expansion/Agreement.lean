import ApiDocs.Proofs.Expansion.Walk
import Mathlib.Data.List.Nodup
import Mathlib.Data.List.Perm.Basic

/-!
# Fields and examples agree

An expansion keeps its fields and the members of its example apart, and both change field by field:
a field is put in the place of one with the same name, and a flattened structure hands its members
over one by one. `Sound` says that the two always fit together, in every nested field too, and that
the example holds no null. Adding a field keeps this (`push_sound`), and so does adding the fields
of another expansion, for each of which the value is there (`splice_eq_pushAll`). Hence every
expansion is sound (`expand_fields_agree`).
-/

namespace ApiDocs

namespace Json

/-! ## Members of an object -/

/-- Where names do not repeat, a value is found under its name. -/
theorem get?_eq_some_of_mem {name : String} {v : Json} {members : List (String × Json)}
    (hnodup : (members.map Prod.fst).Nodup) (h : (name, v) ∈ members) :
    get? name members = some v := by
  induction members with
  | nil => cases h
  | cons member rest ih =>
    obtain ⟨key, value⟩ := member
    rw [List.map_cons, List.nodup_cons] at hnodup
    rcases List.mem_cons.mp h with heq | hrest
    · cases heq
      rw [get?, if_pos rfl]
    · have hne : key ≠ name := by
        rintro rfl
        exact hnodup.1 (List.mem_map.mpr ⟨_, hrest, rfl⟩)
      rw [get?, if_neg hne]
      exact ih hnodup.2 hrest

/-- The last of some members may as well stand first. -/
theorem getLast?_append_dropLast_perm (members : List (String × Json)) :
    (members.getLast?.toList ++ members.dropLast).Perm members := by
  rcases List.eq_nil_or_concat members with rfl | ⟨before, last, rfl⟩
  · exact .refl _
  · rw [List.concat_eq_append, List.getLast?_concat, List.dropLast_concat]
    exact List.perm_append_comm

/-- Taking a member away leaves the other ones, in some order. -/
theorem take_perm {name : String} {members : List (String × Json)}
    (hnodup : (members.map Prod.fst).Nodup) :
    (take name members).Perm (members.filter fun member => member.1 != name) := by
  induction members with
  | nil => exact .refl _
  | cons member rest ih =>
    obtain ⟨key, value⟩ := member
    rw [List.map_cons, List.nodup_cons] at hnodup
    by_cases hkey : key = name
    · rw [take, if_pos hkey, List.filter_cons_of_neg (by simp [hkey])]
      have hall : rest.filter (fun member => member.1 != name) = rest := by
        rw [List.filter_eq_self]
        intro member hmem
        rw [bne_iff_ne]
        rintro rfl
        exact hnodup.1 (List.mem_map.mpr ⟨_, hmem, hkey.symm⟩)
      rw [hall]
      exact getLast?_append_dropLast_perm rest
    · rw [take, if_neg hkey, List.filter_cons_of_pos (by simp [hkey])]
      exact (ih hnodup.2).cons _

/-- A member that is taken out leaves no repetitions. -/
theorem take_nodup {name : String} {members : List (String × Json)}
    (hnodup : (members.map Prod.fst).Nodup) : ((take name members).map Prod.fst).Nodup :=
  ((take_perm hnodup).map Prod.fst).nodup_iff.mpr
    (hnodup.sublist (List.filter_sublist.map Prod.fst))

theorem mem_take {name : String} {members : List (String × Json)} {member : String × Json}
    (hnodup : (members.map Prod.fst).Nodup) (h : member ∈ members) (hne : member.1 ≠ name) :
    member ∈ take name members :=
  (take_perm hnodup).mem_iff.mpr (List.mem_filter.mpr ⟨h, by simpa using hne⟩)

/-! ## Arrays around a value and nulls in it -/

/-- A value without the arrays of one element around it. -/
def peel : Json → Json
  | .array [v] => v.peel
  | v => v

mutual

/-- Whether no null stands in a value. -/
def NullFree : Json → Prop
  | .null => False
  | .array items => NullFreeAll items
  | .object members => NullFreeMembers members
  | _ => True

/-- Whether no null stands in some values. -/
def NullFreeAll : List Json → Prop
  | [] => True
  | v :: rest => v.NullFree ∧ NullFreeAll rest

/-- Whether no null stands in the values of some members. -/
def NullFreeMembers : List (String × Json) → Prop
  | [] => True
  | (_, v) :: rest => v.NullFree ∧ NullFreeMembers rest

end

end Json

mutual

/-- Whether the fields inside a field are those of its example value: without arrays around it, the
value is an object with a member for each of them, or there are none. -/
def Field.Agrees : Field → Json → Prop
  | ⟨_, _, _, _, _, _, children⟩, value =>
    match value.peel with
    | .object members => (children.map Field.name).Nodup ∧ AgreeAll children members
    | _ => children = []

/-- Whether fields and members have the same names in the same order, and each field agrees with the
value of its member. -/
def AgreeAll : List Field → List (String × Json) → Prop
  | [], [] => True
  | f :: fields, (name, value) :: members =>
    f.name = name ∧ f.Agrees value ∧ AgreeAll fields members
  | [], _ :: _ => False
  | _ :: _, [] => False

end

/-! ## Examples -/

/-- Whether fields are those inside a value, as in `Field.Agrees`. -/
def Fits (children : List Field) (value : Json) : Prop :=
  match value.peel with
  | .object members => (children.map Field.name).Nodup ∧ AgreeAll children members
  | _ => children = []

/-- A field agrees with a value if the fields inside it fit the value. -/
theorem Field.agrees_iff_fits (f : Field) (value : Json) :
    f.Agrees value ↔ Fits f.children value := by
  cases f
  rw [Field.Agrees]
  rfl

/-- Whether a value is an example for the given fields, without nulls. -/
def IsExample (children : List Field) (value : Json) : Prop :=
  Fits children value ∧ value.NullFree

/-- An array of one example is an example. -/
theorem IsExample.single {children : List Field} {value : Json} (h : IsExample children value) :
    IsExample children (.array [value]) := by
  refine ⟨?_, ?_⟩
  · rw [Fits, Json.peel]
    exact h.1
  · rw [Json.NullFree, Json.NullFreeAll, Json.NullFreeAll]
    exact ⟨h.2, trivial⟩

/-- What a walk makes on the spot is an example for no fields. -/
theorem Json.Leaf.isExample {value : Json} (h : value.Leaf) : IsExample [] value := by
  induction h with
  | @zero kind _ _ h => cases kind <;> cases h <;> exact ⟨rfl, trivial⟩
  | string s => exact ⟨rfl, trivial⟩
  | emptyObject => exact ⟨⟨List.nodup_nil, trivial⟩, trivial⟩
  | emptyArray => exact ⟨rfl, trivial⟩
  | single _ ih => exact ih.single

/-- Fields and members that agree have the same names. -/
theorem AgreeAll.names_eq {fields : List Field} {members : List (String × Json)}
    (h : AgreeAll fields members) : fields.map Field.name = members.map Prod.fst := by
  induction fields generalizing members with
  | nil =>
    cases members with
    | nil => rfl
    | cons member rest => exact h.elim
  | cons f fields ih =>
    cases members with
    | nil => exact h.elim
    | cons member rest =>
      rw [List.map_cons, List.map_cons, ih h.2.2, h.1]

namespace Expansion

/-- Whether the fields and the example of an expansion fit together. -/
structure Sound (e : Expansion) : Prop where
  /-- Names do not repeat. -/
  distinct : (e.fields.map Field.name).Nodup
  /-- Each field has its member. -/
  agree : AgreeAll e.fields e.members
  /-- No null stands in the example. -/
  nullFree : Json.NullFreeMembers e.members

/-- The example of a sound expansion. -/
theorem Sound.isExample {e : Expansion} (h : e.Sound) : IsExample e.fields e.sample :=
  ⟨⟨h.distinct, h.agree⟩, h.nullFree⟩

/-- Without fields there is nothing to disagree. -/
theorem empty_sound : ({} : Expansion).Sound :=
  ⟨List.nodup_nil, trivial, trivial⟩

/-! ## Adding a field -/

/-- The names after a field was put among others. -/
theorem map_name_put (f : Field) (fields : List Field) :
    (put f fields).map Field.name =
      if f.name ∈ fields.map Field.name then fields.map Field.name
      else fields.map Field.name ++ [f.name] := by
  induction fields with
  | nil => rfl
  | cons old rest ih =>
    rw [put]
    by_cases hname : old.name = f.name
    · rw [if_pos hname, if_pos (by simp [hname]), List.map_cons, List.map_cons, hname]
    · rw [if_neg hname, List.map_cons, List.map_cons, ih]
      by_cases hrest : f.name ∈ rest.map Field.name
      · rw [if_pos hrest, if_pos (List.mem_cons_of_mem _ hrest)]
      · have hnot : f.name ∉ old.name :: rest.map Field.name := by
          rw [List.mem_cons]
          exact fun h => h.elim (Ne.symm hname) hrest
        rw [if_neg hrest, if_neg hnot, List.cons_append]

/-- Fields and members still agree when a field is put in on both sides, in place or at the end. -/
theorem put_agreeAll {f : Field} {value : Json} (hf : f.Agrees value) {fields : List Field}
    {members : List (String × Json)} (h : AgreeAll fields members) :
    AgreeAll (put f fields) (Json.put f.name value members) := by
  induction fields generalizing members with
  | nil =>
    cases members with
    | nil => exact ⟨rfl, hf, trivial⟩
    | cons member rest => exact h.elim
  | cons old fields ih =>
    cases members with
    | nil => exact h.elim
    | cons member rest =>
      obtain ⟨hname, hold, hrest⟩ := h
      rw [put, Json.put, ← hname]
      by_cases heq : old.name = f.name
      · rw [if_pos heq, if_pos heq]
        exact ⟨rfl, hf, hrest⟩
      · rw [if_neg heq, if_neg heq]
        exact ⟨rfl, hold, ih hrest⟩

/-- No null comes in with a value that has none. -/
theorem put_nullFree {name : String} {value : Json} (hvalue : value.NullFree)
    {members : List (String × Json)} (h : Json.NullFreeMembers members) :
    Json.NullFreeMembers (Json.put name value members) := by
  induction members with
  | nil => exact ⟨hvalue, trivial⟩
  | cons member rest ih =>
    rw [Json.put]
    split
    · exact ⟨hvalue, h.2⟩
    · exact ⟨h.1, ih h.2⟩

/-- **Adding a field.** A field that is added with an example keeps an expansion sound. -/
theorem push_sound {e : Expansion} (h : e.Sound) {f : Field} {value : Json}
    (hvalue : IsExample f.children value) : (e.push f value).Sound where
  distinct := by
    rw [push, map_name_put]
    split
    · exact h.distinct
    · rename_i hnew
      exact List.nodup_append.mpr ⟨h.distinct, List.nodup_singleton _,
        fun a ha b hb heq => hnew (List.mem_singleton.mp hb ▸ heq ▸ ha)⟩
  agree := put_agreeAll ((f.agrees_iff_fits value).mpr hvalue.1) h.agree
  nullFree := put_nullFree hvalue.2 h.nullFree

/-! ## Adding the fields of another expansion -/

/-- Adds fields one after the other, each with its example. -/
def pushAll (e : Expansion) (pairs : List (Field × Json)) : Expansion :=
  pairs.foldl (fun e pair => e.push pair.1 pair.2) e

/-- Fields that agree with their members can be added one after the other. -/
theorem pushAll_sound {e : Expansion} (h : e.Sound) {fields : List Field}
    {members : List (String × Json)} (hagree : AgreeAll fields members)
    (hnull : Json.NullFreeMembers members) :
    (e.pushAll (fields.zip (members.map Prod.snd))).Sound := by
  induction fields generalizing e members with
  | nil => exact h
  | cons f fields ih =>
    cases members with
    | nil => exact hagree.elim
    | cons member rest =>
      have hexample : IsExample f.children member.2 :=
        ⟨(f.agrees_iff_fits member.2).mp hagree.2.1, hnull.1⟩
      exact ih (push_sound h hexample) hagree.2.2 hnull.2

/-- Each field finds its value, as long as the members that are left hold those of the fields to
come. -/
theorem spliceFields_eq_pushAll (e : Expansion) {fields : List Field}
    {members left : List (String × Json)} (hagree : AgreeAll fields members)
    (hdistinct : (fields.map Field.name).Nodup) (hleft : (left.map Prod.fst).Nodup)
    (hsub : ∀ member ∈ members, member ∈ left) :
    e.spliceFields fields left = e.pushAll (fields.zip (members.map Prod.snd)) := by
  induction fields generalizing e members left with
  | nil => rfl
  | cons f fields ih =>
    cases members with
    | nil => exact hagree.elim
    | cons member rest =>
      obtain ⟨name, value⟩ := member
      obtain ⟨rfl, -, hrest⟩ := hagree
      rw [List.map_cons, List.nodup_cons, hrest.names_eq] at hdistinct
      rw [spliceFields, Json.get?_eq_some_of_mem hleft (hsub _ List.mem_cons_self),
        Option.getD_some]
      apply ih _ hrest (hrest.names_eq ▸ hdistinct.2) (Json.take_nodup hleft)
      -- the value that was taken away belongs to no field to come
      intro member hmem
      refine Json.mem_take hleft (hsub member (List.mem_cons_of_mem _ hmem)) ?_
      intro hname
      exact hdistinct.1 (List.mem_map.mpr ⟨member, hmem, hname⟩)

/-- **Adding an expansion.** All fields of a sound expansion are added with the values of its
example. -/
theorem splice_eq_pushAll (e : Expansion) {other : Expansion} (h : other.Sound) :
    e.splice other = e.pushAll (other.fields.zip (other.members.map Prod.snd)) :=
  spliceFields_eq_pushAll e h.agree h.distinct (h.agree.names_eq ▸ h.distinct) fun _ h => h

theorem splice_sound {e other : Expansion} (h : e.Sound) (hother : other.Sound) :
    (e.splice other).Sound := by
  rw [splice_eq_pushAll e hother]
  exact pushAll_sound h hother.agree hother.nullFree

end Expansion

/-! ## Walks -/

namespace Walk

/-- Whether all that a walk gives fits together. -/
structure Agreeing (below : Walk) : Prop where
  /-- Structures. -/
  expand : ∀ {id w e w'}, below.expand id w = some (some e, w') → e.Sound
  /-- Fields. -/
  build : ∀ {slot owner type unit w f v w'},
    below.build slot owner type unit w = some ((f, v), w') → IsExample f.children v
  /-- Flattened fields. -/
  flatten : ∀ {type unit w e w'}, below.flatten type unit w = some (some e, w') → e.Sound

variable {loader : Loader} {below : Walk}

/-- A field of a named type is built with an example that fits. -/
theorem buildNamed_isExample (h : below.Agreeing) {slot : Slot} {owner name : String}
    {unit : Nat} {w w' : Walker} {f : Field} {v : Json}
    (hbuild : buildNamed loader below slot owner name unit w = some ((f, v), w')) :
    IsExample f.children v := by
  rw [buildNamed_eq_meet] at hbuild
  rcases meet_cases hbuild with ⟨target, _, -, hblocked, -⟩ | ⟨id, _, _, e, -, -, hexpand, heq⟩ |
    ⟨type, _, _, _, ⟨g, x⟩, _, -, -, hinner, heq, -⟩
  · cases target <;> cases hblocked
    · exact Json.Leaf.emptyObject.isExample
    · exact (Json.Leaf.string _).isExample
    · exact (Json.Leaf.string _).isExample
    · exact (Json.Leaf.string _).isExample
  · cases e with
    | none =>
      cases heq
      exact Json.Leaf.emptyObject.isExample
    | some e =>
      cases heq
      exact (h.expand hexpand).isExample
  · cases heq
    have hvalue : IsExample g.children _ := h.build hinner
    exact hvalue

theorem elementNamed_isExample (h : below.Agreeing) {slot : Slot} {owner name : String}
    {unit : Nat} {w w' : Walker} {children : List Field} {v : Json}
    (helement : elementNamed loader below slot owner name unit w = some ((children, v), w')) :
    IsExample children v := by
  rw [elementNamed_eq_meet] at helement
  rcases meet_cases helement with ⟨target, _, -, hblocked, -⟩ | ⟨id, _, _, e, -, -, hexpand, heq⟩ |
    ⟨type, _, _, _, ⟨g, x⟩, _, -, -, hinner, heq, -⟩
  · cases target <;> cases hblocked
    · exact Json.Leaf.emptyArray.isExample
    · exact Json.Leaf.emptyArray.isExample
    · exact (Json.Leaf.string _).isExample.single
    · exact Json.Leaf.emptyArray.isExample
  · cases e with
    | none =>
      cases heq
      exact Json.Leaf.emptyArray.isExample
    | some e =>
      cases heq
      exact (h.expand hexpand).isExample.single
  · cases heq
    exact (h.build hinner).single

/-- **Building.** A field of any type has an example that fits, if this is so for the walk below. -/
theorem buildWith_isExample (h : below.Agreeing) {slot : Slot} {owner : String} {type : TypeExpr}
    {unit : Nat} {w w' : Walker} {f : Field} {v : Json}
    (hbuild : buildWith loader below slot owner type unit w = some ((f, v), w')) :
    IsExample f.children v :=
  buildWith_induction (P := fun children v _ => IsExample children v)
    (fun _ hleaf => hleaf.isExample)
    (fun _ _ _ _ hnamed => buildNamed_isExample h hnamed)
    (fun _ _ _ _ helement => elementNamed_isExample h helement)
    (fun _ _ _ hvalue => hvalue.single) hbuild

/-- A flattened type has a sound expansion. -/
theorem flattenWith_sound (h : below.Agreeing) {type : TypeExpr} {unit : Nat} {w w' : Walker}
    {e : Expansion} (hflatten : flattenWith loader below type unit w = some (some e, w')) :
    e.Sound := by
  cases type with
  | named name =>
    rw [flattenWith_named] at hflatten
    rcases meet_cases hflatten with ⟨_, _, -, hblocked, -⟩ | ⟨id, _, _, r, -, -, hexpand, heq⟩ |
      ⟨type, _, _, _, r, _, -, -, hinner, heq, -⟩
    · cases hblocked
    · cases heq
      exact h.expand hexpand
    · cases heq
      exact h.flatten hinner
  | _ => cases hflatten

/-- **A structure.** Its expansion is sound, if this is so for the walk below. -/
theorem expandWith_sound (h : below.Agreeing) {id : Nat} {w w' : Walker} {e : Expansion}
    (hexpand : expandWith loader below id w = some (some e, w')) : e.Sound := by
  rcases expandWith_cases hexpand with ⟨hnone, -⟩ | ⟨d, fields, e', w₁, -, -, hfold, heq, -⟩
  · cases hnone
  · cases heq
    refine foldlM_induction (P := fun acc => acc.1.Sound) ?_ Expansion.empty_sound hfold
    rintro ⟨acc, w⟩ f ⟨acc', w'⟩ hacc hadd
    rcases addField_cases hadd with ⟨other, hflatten, rfl⟩ | ⟨-, rfl⟩ |
      ⟨slot, type, built, field, v, hbuild, hchildren, rfl⟩
    · exact Expansion.splice_sound hacc (flattenWith_sound h hflatten)
    · exact hacc
    · exact Expansion.push_sound hacc (hchildren ▸ buildWith_isExample h hbuild)

/-- Walks of any depth give only what fits together. -/
theorem upTo_agreeing (loader : Loader) (n : Nat) : (upTo loader n).Agreeing := by
  induction n with
  | zero => exact ⟨nofun, nofun, nofun⟩
  | succ n ih =>
    refine ⟨?_, ?_, ?_⟩
    · intro id w e w' h
      rw [upTo_succ_expand] at h
      exact expandWith_sound ih h
    · intro slot owner type unit w f v w' h
      rw [upTo_succ_build] at h
      exact buildWith_isExample ih h
    · intro type unit w e w' h
      rw [upTo_succ_flatten] at h
      exact flattenWith_sound ih h

end Walk

/-- **Fields and example agree.** In every expansion the fields are those of the example, in the
same order and without repetition, and so they are inside every field. The example holds no null,
and wherever the expansion is added to another one, each field comes with its value. -/
theorem expand_fields_agree {loader : Loader} {id : Nat} {w w' : Walker} {e : Expansion}
    (h : w.expand loader id = some (some e, w')) :
    e.fields.map Field.name = e.members.map Prod.fst ∧ (e.fields.map Field.name).Nodup ∧
      AgreeAll e.fields e.members ∧ e.sample.NullFree ∧
        ∀ outer : Expansion, outer.splice e =
          outer.pushAll (e.fields.zip (e.members.map Prod.snd)) := by
  obtain ⟨n, hn⟩ := Walker.expand_eq_upTo h
  have hsound : e.Sound := (Walk.upTo_agreeing loader n).expand hn
  exact ⟨hsound.agree.names_eq, hsound.distinct, hsound.agree, hsound.nullFree,
    fun outer => Expansion.splice_eq_pushAll outer hsound⟩

/-- A structure with a flattened field, a field that takes the place of a flattened one, a field of
its own type, and a sequence of sequences of another structure. -/
def shelf : List SourceUnit :=
  [{ path := ⟨"a.rs"⟩, module := "crate::a",
     types :=
      [⟨"Shelf", .struct
        [⟨"base", "base", .named "Base", false, false, true, false, ""⟩,
          ⟨"id", "id", .named "String", false, false, false, false, "an id"⟩,
          ⟨"next", "next", .named "Shelf", false, false, false, false, ""⟩,
          ⟨"rows", "rows", .sequence (.sequence (.named "Base")), false, false, false, false, ""⟩]⟩,
        ⟨"Base", .struct
          [⟨"id", "id", .named "u32", false, false, false, false, ""⟩,
            ⟨"name", "name", .named "String", false, false, false, false, "a name"⟩]⟩] }]

/-- A flattened field and a field of the structure share the name `id`; it stands in the expansion
once. -/
theorem expand_fields_agree_shelf :
    ∃ e w', Walker.expand Loader.none 0 ⟨({} : Session).addScanned shelf, []⟩ =
      some (some e, w') ∧ e.members.map Prod.fst = ["id", "name", "next", "rows"] ∧
        AgreeAll e.fields e.members := by
  have hnames : (((Walk.upTo Loader.none 3).expand 0 ⟨({} : Session).addScanned shelf, []⟩).bind
      Prod.fst).map (fun e => e.members.map Prod.fst) = some ["id", "name", "next", "rows"] := by
    decide +kernel
  obtain ⟨e, he, hmembers⟩ := Option.map_eq_some_iff.mp hnames
  obtain ⟨⟨r, w'⟩, hupTo, hr⟩ := Option.bind_eq_some_iff.mp he
  obtain rfl : r = some e := hr
  have hexpand := Walker.expand_of_upTo (by decide +kernel) hupTo
  exact ⟨e, w', hexpand, hmembers, (expand_fields_agree hexpand).2.2.1⟩

end ApiDocs
