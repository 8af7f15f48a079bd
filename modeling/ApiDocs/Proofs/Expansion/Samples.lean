import ApiDocs.Proofs.Expansion.Merging
import ApiDocs.Proofs.Json.RoundTrip

/-!
# Examples are read back from their texts

How deep a value is nested says how deep a reader has to go (`ReadsBack.readable`). The only numbers
in the example of a structure are the zeros of the kinds, and its members have different names
since contributions are merged by name. So every example is read back from its text, as long as it
is not nested too deep (`expand_readsBack`).
-/

namespace ApiDocs

namespace Json

/-! ## Nesting -/

mutual

/-- How many arrays and objects of a value stand inside one another. -/
def nesting : Json → Nat
  | .array items => nestingItems items + 1
  | .object members => nestingMembers members + 1
  | _ => 0

/-- The greatest nesting of some values. -/
def nestingItems : List Json → Nat
  | [] => 0
  | v :: rest => max v.nesting (nestingItems rest)

/-- The greatest nesting of the values of some members. -/
def nestingMembers : List (String × Json) → Nat
  | [] => 0
  | (_, v) :: rest => max v.nesting (nestingMembers rest)

end

/-- A value is nested no deeper than the array that it stands in. -/
theorem nesting_le_nestingItems {v : Json} {items : List Json} (h : v ∈ items) :
    v.nesting ≤ nestingItems items := by
  induction items with
  | nil => cases h
  | cons item rest ih =>
    rw [nestingItems]
    rcases List.mem_cons.mp h with rfl | hrest
    · exact Nat.le_max_left _ _
    · exact Nat.le_trans (ih hrest) (Nat.le_max_right _ _)

/-- The value of a member is nested no deeper than the members together. -/
theorem nesting_le_nestingMembers {member : String × Json} {members : List (String × Json)}
    (h : member ∈ members) : member.2.nesting ≤ nestingMembers members := by
  induction members with
  | nil => cases h
  | cons first rest ih =>
    rw [nestingMembers]
    rcases List.mem_cons.mp h with rfl | hrest
    · exact Nat.le_max_left _ _
    · exact Nat.le_trans (ih hrest) (Nat.le_max_right _ _)

/-- A reader that goes deeper reads as much. -/
theorem Readable.mono {depth depth' : Nat} {j : Json} (h : Readable depth j)
    (hle : depth ≤ depth') : Readable depth' j := by
  induction h generalizing depth' with
  | null => exact .null _
  | bool _ b => exact .bool _ b
  | string _ s => exact .string _ s
  | number _ hn => exact .number _ hn
  | array _ ih =>
    obtain ⟨k, rfl⟩ : ∃ k, depth' = k + 1 := ⟨depth' - 1, by omega⟩
    exact .array fun item hitem => ih item hitem (by omega)
  | object hnames _ ih =>
    obtain ⟨k, rfl⟩ : ∃ k, depth' = k + 1 := ⟨depth' - 1, by omega⟩
    exact .object hnames fun member hmember => ih member hmember (by omega)

/-- Whether a value is read back by a reader that goes as deep as the value is nested. -/
def ReadsBack (j : Json) : Prop :=
  Readable j.nesting j

/-- A reader that may go deeper than the value is nested reads it back, too. -/
theorem ReadsBack.readable {j : Json} (h : j.ReadsBack) {depth : Nat} (hle : j.nesting ≤ depth) :
    Readable depth j :=
  Readable.mono h hle

theorem ReadsBack.pretty_ne_empty {j : Json} (h : j.ReadsBack) (width : Nat) :
    j.pretty width ≠ "" := by
  obtain ⟨c, cs, hrender, -⟩ := render_eq_cons h (.indented width) 0
  rw [pretty, hrender, Ne, ← String.toList_eq_nil_iff, String.toList_ofList]
  exact List.cons_ne_nil c cs

/-- An array with one value is read back if the value is. -/
theorem ReadsBack.single {v : Json} (h : v.ReadsBack) : (Json.array [v]).ReadsBack := by
  rw [ReadsBack, nesting]
  refine .array fun item hitem => ?_
  cases List.mem_singleton.mp hitem
  exact h.readable (nesting_le_nestingItems hitem)

/-- An object is read back if no name stands twice in it, and the values of its members are read
back. -/
theorem ReadsBack.object {members : List (String × Json)} (hnames : (members.map Prod.fst).Nodup)
    (h : ∀ member ∈ members, member.2.ReadsBack) : (Json.object members).ReadsBack := by
  rw [ReadsBack, nesting]
  exact .object hnames fun member hmember =>
    (h member hmember).readable (nesting_le_nestingMembers hmember)

/-- What a reader with any bound reads back is read back with the bound that it needs. -/
theorem Readable.readsBack {depth : Nat} {j : Json} (h : Readable depth j) : j.ReadsBack := by
  induction h with
  | null => exact .null _
  | bool _ b => exact .bool _ b
  | string _ s => exact .string _ s
  | number _ hn => exact .number _ hn
  | array _ ih =>
    rw [ReadsBack, nesting]
    exact .array fun item hitem => (ih item hitem).readable (nesting_le_nestingItems hitem)
  | object hnames _ ih => exact .object hnames ih

/-- In an object that is read back no name stands twice, and the values of its members are read
back. -/
theorem ReadsBack.of_object {members : List (String × Json)}
    (h : (Json.object members).ReadsBack) :
    (members.map Prod.fst).Nodup ∧ ∀ member ∈ members, member.2.ReadsBack := by
  rw [ReadsBack, nesting] at h
  cases h with
  | object hnames hmembers =>
    exact ⟨hnames, fun member hmember => (hmembers member hmember).readsBack⟩

/-! ## Zeros -/

/-- Zero is read back as a number with a fraction. -/
theorem Number.readsBack_zero : (Number.double Decimal.Double.zero).ReadsBack := by
  refine ⟨⟨'0', ['.', '0'], rfl, Or.inl rfl⟩, fun rest hrest => ?_⟩
  have hfraction : takeDigits ('0' :: rest) = (['0'], rest) := takeDigits_natChars 0 hrest
  have hsigned : signedDouble false 0 (-1) = some (.double Decimal.Double.zero) := by
    decide +kernel
  have hdouble : readDouble false 0 (-1) rest =
      some (.double Decimal.Double.zero, rest) := by
    unfold readDouble
    split
    · exact absurd (hrest 'e' rfl) (by decide)
    · exact absurd (hrest 'E' rfl) (by decide)
    · rw [hsigned]
      rfl
  have hread : readFraction false 0 0 ('0' :: rest) =
      some (.double Decimal.Double.zero, rest) := by
    unfold readFraction
    rw [hfraction]
    exact hdouble
  exact hread

theorem Leaf.readsBack {v : Json} (h : v.Leaf) : v.ReadsBack := by
  induction h with
  | @zero kind _ _ h =>
    cases kind <;> cases h
    · exact .number _ (Number.readsBack_natCast (n := 0) (by decide))
    · exact .number _ (Number.readsBack_natCast (n := 0) (by decide))
    · exact .number _ Number.readsBack_zero
    · exact .bool _ false
  | string s => exact .string _ s
  | emptyObject => exact .object List.nodup_nil nofun
  | emptyArray => exact .array nofun
  | single _ ih => exact ih.single

end Json

/-! ## Walks -/

namespace Walk

/-- Whether all examples that a walk gives are read back. -/
structure Legible (below : Walk) : Prop where
  /-- Structures. -/
  expand : ∀ {id w e w'}, below.expand id w = some (some e, w') → e.sample.ReadsBack
  /-- Fields. -/
  build : ∀ {slot owner type unit w f v w'},
    below.build slot owner type unit w = some ((f, v), w') → v.ReadsBack

variable {loader : Loader} {below : Walk}

/-- The example of a field that is built for a type name is read back. -/
theorem buildNamed_readsBack (h : below.Legible) {slot : Slot} {owner name : String} {unit : Nat}
    {w w' : Walker} {f : Field} {v : Json}
    (hbuild : buildNamed loader below slot owner name unit w = some ((f, v), w')) :
    v.ReadsBack := by
  rw [buildNamed_eq_meet] at hbuild
  rcases meet_cases hbuild with ⟨target, _, -, hblocked, -⟩ | ⟨id, _, _, e, -, -, hexpand, heq⟩ |
    ⟨type, _, _, _, ⟨g, x⟩, _, -, -, hinner, heq, -⟩
  · cases target <;> cases hblocked
    · exact Json.Leaf.emptyObject.readsBack
    · exact (Json.Leaf.string _).readsBack
    · exact (Json.Leaf.string _).readsBack
    · exact (Json.Leaf.string _).readsBack
  · cases e with
    | none =>
      cases heq
      exact Json.Leaf.emptyObject.readsBack
    | some e =>
      cases heq
      exact h.expand hexpand
  · cases heq
    exact h.build hinner

/-- The example of an array element that is built for a type name is read back. -/
theorem elementNamed_readsBack (h : below.Legible) {slot : Slot} {owner name : String}
    {unit : Nat} {w w' : Walker} {children : List Field} {v : Json}
    (helement : elementNamed loader below slot owner name unit w = some ((children, v), w')) :
    v.ReadsBack := by
  rw [elementNamed_eq_meet] at helement
  rcases meet_cases helement with ⟨target, _, -, hblocked, -⟩ | ⟨id, _, _, e, -, -, hexpand, heq⟩ |
    ⟨type, _, _, _, ⟨g, x⟩, _, -, -, hinner, heq, -⟩
  · cases target <;> cases hblocked
    · exact Json.Leaf.emptyArray.readsBack
    · exact Json.Leaf.emptyArray.readsBack
    · exact (Json.Leaf.single (.string _)).readsBack
    · exact Json.Leaf.emptyArray.readsBack
  · cases e with
    | none =>
      cases heq
      exact Json.Leaf.emptyArray.readsBack
    | some e =>
      cases heq
      exact (h.expand hexpand).single
  · cases heq
    exact (h.build hinner).single

/-- The example of a field is read back, whatever its type. -/
theorem buildWith_readsBack (h : below.Legible) {slot : Slot} {owner : String} {type : TypeExpr}
    {unit : Nat} {w w' : Walker} {f : Field} {v : Json}
    (hbuild : buildWith loader below slot owner type unit w = some ((f, v), w')) : v.ReadsBack :=
  buildWith_induction (P := fun _ v _ => v.ReadsBack) (fun _ hleaf => hleaf.readsBack)
    (fun _ _ _ _ hnamed => buildNamed_readsBack h hnamed)
    (fun _ _ _ _ helement => elementNamed_readsBack h helement)
    (fun _ _ _ hvalue => hvalue.single) hbuild

/-- What a field contributes is read back. -/
theorem Contributes.readsBack (h : below.Legible) {d : TypeDecl} {f : FieldDecl}
    {pairs : List (Field × Json)} {w w' : Walker}
    (hmine : Contributes loader below d f w pairs w') {pair : Field × Json} (hpair : pair ∈ pairs) :
    pair.2.ReadsBack := by
  cases hmine with
  | plain _ hbuild =>
    cases List.mem_singleton.mp hpair
    unfold buildField at hbuild
    simp only at hbuild
    split at hbuild
    · obtain ⟨⟨⟨built, x⟩, w₁⟩, hbuilt, heq⟩ := Option.map_eq_some_iff.mp hbuild
      cases heq
      exact buildWith_readsBack h hbuilt
    · exact buildWith_readsBack h hbuild
  | @flattened _ _ e _ _ _ _ hexpand =>
    have hvalue : pair.2 ∈ e.members.map Prod.snd := (List.of_mem_zip (a := pair.1) hpair).2
    obtain ⟨member, hmember, heq⟩ := List.mem_map.mp hvalue
    rw [← heq]
    exact (h.expand hexpand).of_object.2 member hmember
  | nothing => cases hpair

/-- **Bounded walks.** All examples that a bounded walk gives are read back. -/
theorem upTo_legible (loader : Loader) (n : Nat) : (upTo loader n).Legible := by
  induction n with
  | zero => exact ⟨nofun, nofun⟩
  | succ n ih =>
    refine ⟨?_, ?_⟩
    · intro id w e w' h
      rw [upTo_succ_expand] at h
      obtain ⟨d, fields, pairs, w₁, -, -, hpairs, rfl, -⟩ := upTo_collects h
      rw [Expansion.pushAll_eq_merge]
      refine .object (Expansion.nodup_names_merge pairs) fun member hmember => ?_
      obtain ⟨pair, hkept, rfl⟩ := List.mem_map.mp hmember
      obtain ⟨_, _, _, _, _, _, _, -, -, hmine, hpair⟩ :=
        hpairs.exists_contributes (Expansion.mem_of_mem_kept hkept)
      exact hmine.readsBack ih hpair
    · intro slot owner type unit w f v w' h
      rw [upTo_succ_build] at h
      exact buildWith_readsBack ih h

end Walk

/-- **Examples.** The example of an expansion is read back from its text by a reader that goes as
deep as it is nested. -/
theorem expand_readsBack {loader : Loader} {id : Nat} {w w' : Walker} {e : Expansion}
    (h : w.expand loader id = some (some e, w')) : e.sample.ReadsBack := by
  obtain ⟨n, hn⟩ := Walker.expand_eq_upTo h
  exact (Walk.upTo_legible loader n).expand hn

end ApiDocs
