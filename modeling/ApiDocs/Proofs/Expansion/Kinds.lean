import ApiDocs.Proofs.Expansion.Nodes
import ApiDocs.Proofs.Source.Shapes

/-!
# Kind, value and example of a field agree

A field is built in many ways, and each of them sets its kind, its value as a text and its example
at another place. `Shown` is the table of all combinations. What a walk builds is in the table
(`upTo_shows`), and so is every node of an expansion (`expand_kinds_agree`). An array whose example
is no array is the one case in which it matters at which name a type ends (`EndsOpen`).
-/

namespace ApiDocs

/-- The combinations of the kind of a field, its value as a text and its example. The last one is
for a type that ends at a name. -/
inductive Shown (remark : String) (isOpen : Prop) : Kind → String → Json → Prop where
  /-- A number or a truth value has that of its kind. -/
  | zero {kind : Kind} {text : String} {v : Json} (h : kind.zero? = some (text, v)) :
    Shown remark isOpen kind text v
  /-- A text. -/
  | string (text : String) : Shown remark isOpen .string "" (.string text)
  /-- An object with members. -/
  | object (members : List (String × Json)) : Shown remark isOpen .object "" (.object members)
  /-- An object of which nothing is known but the documentation. -/
  | remark : Shown remark isOpen .object "" (.string remark)
  /-- An array of at most one element. -/
  | array (items : List Json) (h : items.length ≤ 1) : Shown remark isOpen .array "" (.array items)
  /-- An array of which nothing is known but the documentation. -/
  | isOpen (h : isOpen) : Shown remark isOpen .array "" (.string remark)

/-- The table has more rows where more types end at an array. -/
theorem Shown.imp {remark : String} {p q : Prop} {kind : Kind} {text : String} {v : Json}
    (h : Shown remark p kind text v) (hpq : p → q) : Shown remark q kind text v := by
  cases h with
  | zero h => exact .zero h
  | string text => exact .string text
  | object members => exact .object members
  | remark => exact .remark
  | array items h => exact .array items h
  | isOpen h => exact .isOpen (hpq h)

/-- Numbers and truth values are told by their value and example, and nothing else has a value. -/
theorem Shown.zero_iff {remark : String} {isOpen : Prop} {kind : Kind} {text : String} {v : Json}
    (h : Shown remark isOpen kind text v) :
    (kind = .int ∨ kind = .long ↔ text = "0" ∧ v = Json.whole 0) ∧
    (kind = .number ↔ text = "0.0" ∧ v = .number (.double Decimal.Double.zero)) ∧
    (kind = .boolean ↔ text = "false" ∧ v = .bool false) ∧
    (kind.zero? = none → text = "") := by
  cases h with
  | zero h =>
    cases kind <;> cases h <;> simp [Json.whole, Kind.zero?]
  | _ => simp

/-- The examples of texts, objects and arrays. -/
theorem Shown.examples {remark : String} {isOpen : Prop} {kind : Kind} {text : String} {v : Json}
    (h : Shown remark isOpen kind text v) :
    (kind = .string → ∃ shown, v = .string shown) ∧
    (kind = .object → (∃ members, v = .object members) ∨ v = .string remark) ∧
    (kind = .array → (∃ items, v = .array items ∧ items.length ≤ 1) ∨ isOpen) := by
  cases h with
  | zero h =>
    cases kind <;> cases h <;> simp
  | string text => simp
  | object members => simp
  | remark => simp
  | array items h => simpa using Or.inl h
  | isOpen h => simpa using h

namespace Walk

/-- Whether a type in a unit, followed through other names of types, ends at a name that stands for
nothing, or for another name of a type that is being expanded. The name of a scalar is not
followed. -/
inductive EndsOpen (loader : Loader) : TypeExpr → Nat → Walker → String → Prop where
  /-- The name stands for nothing. -/
  | missing {name : String} {unit : Nat} {w w' : Walker} (hname : Kind.isScalarName name = false)
    (htarget : w.target loader name unit = (.missing, w')) :
    EndsOpen loader (.named name) unit w name
  /-- The name is another one of a type, and is being expanded. -/
  | held {name : String} {type : TypeExpr} {unit unit' : Nat} {path : ModulePath} {w w' : Walker}
    (hname : Kind.isScalarName name = false)
    (htarget : w.target loader name unit = (.synonym type unit' path, w'))
    (hheld : path ∈ w'.expanding) : EndsOpen loader (.named name) unit w name
  /-- The name is another one of a type that ends so. -/
  | through {name last : String} {type : TypeExpr} {unit unit' : Nat} {path : ModulePath}
    {w w' : Walker} (hname : Kind.isScalarName name = false)
    (htarget : w.target loader name unit = (.synonym type unit' path, w'))
    (hfree : path ∉ w'.expanding) (hrest : EndsOpen loader type unit' (w'.enter path) last) :
    EndsOpen loader (.named name) unit w last

variable {loader : Loader} {below : Walk}

/-! ## Building -/

/-- Whether a type ends at a name that is taken for an array. -/
def OpensArray (loader : Loader) (type : TypeExpr) (unit : Nat) (w : Walker) : Prop :=
  ∃ name, EndsOpen loader type unit w name ∧ Kind.ofTypeName name = .array

/-- Whether all that a walk builds is in the table. -/
def Shows (loader : Loader) (below : Walk) : Prop :=
  ∀ {slot owner type unit w f v w'}, below.build slot owner type unit w = some ((f, v), w') →
    f.remark = slot.remark ∧ Shown slot.remark (OpensArray loader type unit w) f.kind f.value v

theorem scalar_shown (slot : Slot) {name : String} (hname : Kind.isScalarName name = true)
    (isOpen : Prop) :
    (slot.scalar name).1.remark = slot.remark ∧
      Shown slot.remark isOpen (slot.scalar name).1.kind (slot.scalar name).1.value
        (slot.scalar name).2 := by
  unfold Slot.scalar
  simp only
  split
  · rename_i heq
    exact ⟨rfl, .zero heq⟩
  · rename_i heq
    have hkind : Kind.ofTypeName name = .string := by
      unfold Kind.isScalarName at hname
      cases hk : Kind.ofTypeName name <;> simp [hk, Kind.zero?] at hname heq ⊢
    refine ⟨rfl, ?_⟩
    rw [Slot.field, hkind]
    exact .string _

/-- A name that is no scalar and of which nothing is known is an object or an array. -/
theorem blocked_shown (remark : String) {name : String} (hname : Kind.isScalarName name = false)
    {isOpen : Prop} (hopen : Kind.ofTypeName name = .array → isOpen) :
    Shown remark isOpen (Kind.ofTypeName name) "" (.string remark) := by
  unfold Kind.isScalarName at hname
  split at hname
  · rename_i hkind
    rw [hkind]
    exact .isOpen (hopen hkind)
  · rename_i hkind
    rw [hkind]
    exact .remark
  · cases hname

/-- A field of a named type is in the table. -/
theorem buildNamed_shown (h : Shows loader below) {slot : Slot} {owner name : String} {unit : Nat}
    {w w' : Walker} {f : Field} {v : Json} (hname : Kind.isScalarName name = false)
    (hbuild : buildNamed loader below slot owner name unit w = some ((f, v), w')) :
    f.remark = slot.remark ∧
      Shown slot.remark (OpensArray loader (.named name) unit w) f.kind f.value v := by
  unfold buildNamed at hbuild
  split at hbuild
  · simp only at hbuild
    split at hbuild
    · cases hbuild
      exact ⟨rfl, .object []⟩
    · obtain ⟨⟨r, w₁⟩, -, heq⟩ := Option.map_eq_some_iff.mp hbuild
      cases r with
      | none =>
        cases heq
        exact ⟨rfl, .object []⟩
      | some e =>
        cases heq
        exact ⟨rfl, .object e.members⟩
  · rename_i type unit' path w₁ htarget
    split at hbuild
    · rename_i hheld
      cases hbuild
      exact ⟨rfl, blocked_shown slot.remark hname
        fun hkind => ⟨name, .held hname htarget (Walker.holds_iff.mp hheld), hkind⟩⟩
    · rename_i hfree
      obtain ⟨⟨⟨g, x⟩, w₂⟩, hinner, heq⟩ := Option.map_eq_some_iff.mp hbuild
      cases heq
      obtain ⟨hremark, hshown⟩ := h hinner
      refine ⟨hremark, hshown.imp ?_⟩
      rintro ⟨last, hlast, hkind⟩
      exact ⟨last, .through hname htarget (mt Walker.holds_iff.mpr hfree) hlast, hkind⟩
  · cases hbuild
    exact ⟨rfl, .string _⟩
  · rename_i w₁ htarget
    cases hbuild
    exact ⟨rfl, blocked_shown slot.remark hname
      fun hkind => ⟨name, .missing hname htarget, hkind⟩⟩

/-- The example of a sequence is an array of at most one element. -/
theorem elementNamed_array {slot : Slot} {owner name : String} {unit : Nat} {w w' : Walker}
    {children : List Field} {v : Json}
    (h : elementNamed loader below slot owner name unit w = some ((children, v), w')) :
    ∃ items, v = .array items ∧ items.length ≤ 1 := by
  rw [elementNamed_eq_meet] at h
  rcases meet_cases h with ⟨target, _, -, hblocked, -⟩ | ⟨_, _, _, r, -, -, -, hexpanded⟩ |
    ⟨_, _, _, _, b, _, -, -, -, hrenamed, -⟩
  · cases target with
    | enum variants => exact ⟨_, (Prod.mk.inj hblocked).2, Nat.le_refl 1⟩
    | _ => exact ⟨_, (Prod.mk.inj hblocked).2, Nat.zero_le 1⟩
  · cases r with
    | none => exact ⟨_, (Prod.mk.inj hexpanded).2, Nat.zero_le 1⟩
    | some e => exact ⟨_, (Prod.mk.inj hexpanded).2, Nat.le_refl 1⟩
  · exact ⟨_, (Prod.mk.inj hrenamed).2, Nat.le_refl 1⟩

/-- **Building.** A field of any type is in the table, if this is so for the walk below. -/
theorem buildWith_shown (h : Shows loader below) {slot : Slot} {owner : String} {type : TypeExpr}
    {unit : Nat} {w w' : Walker} {f : Field} {v : Json}
    (hbuild : buildWith loader below slot owner type unit w = some ((f, v), w')) :
    f.remark = slot.remark ∧
      Shown slot.remark (OpensArray loader type unit w) f.kind f.value v := by
  cases type with
  | named name =>
    rw [buildWith] at hbuild
    split at hbuild
    · rename_i hname
      obtain ⟨hscalar, -⟩ := Prod.mk.inj (Option.some.inj hbuild)
      have hshown := scalar_shown slot hname (OpensArray loader (.named name) unit w)
      rw [hscalar] at hshown
      exact hshown
    · rename_i hname
      exact buildNamed_shown h (Bool.not_eq_true _ ▸ hname) hbuild
  | sequence element =>
    cases element with
    | named name =>
      rw [buildWith] at hbuild
      simp only at hbuild
      split at hbuild
      · cases hbuild
        exact ⟨rfl, .array _ (Nat.le_refl 1)⟩
      · split at hbuild
        · cases hbuild
          exact ⟨rfl, .array _ (Nat.zero_le 1)⟩
        · obtain ⟨⟨⟨children, x⟩, w₁⟩, helement, heq⟩ := Option.map_eq_some_iff.mp hbuild
          cases heq
          obtain ⟨items, rfl, hitems⟩ := elementNamed_array helement
          exact ⟨rfl, .array items hitems⟩
    | sequence inner =>
      rw [buildWith] at hbuild
      obtain ⟨⟨⟨nested, x⟩, w₁⟩, -, heq⟩ := Option.map_eq_some_iff.mp hbuild
      cases heq
      exact ⟨rfl, .array _ (Nat.le_refl 1)⟩
    | map _ _ =>
      cases hbuild
      exact ⟨rfl, .array _ (Nat.le_refl 1)⟩
    | any | unknown =>
      cases hbuild
      exact ⟨rfl, .array _ (Nat.zero_le 1)⟩
  | map _ _ =>
    cases hbuild
    exact ⟨rfl, .object []⟩
  | any | unknown =>
    cases hbuild
    exact ⟨rfl, .remark⟩

/-- All that a bounded walk builds is in the table. -/
theorem upTo_shows (loader : Loader) (n : Nat) : Shows loader (upTo loader n) := by
  induction n with
  | zero => exact nofun
  | succ n ih =>
    intro slot owner type unit w f v w' h
    rw [upTo_succ_build] at h
    exact buildWith_shown ih h

theorem unbounded_shows (loader : Loader) : Shows loader (unbounded loader) := by
  intro slot owner type unit w f v w' h
  obtain ⟨n, hn⟩ := (unbounded_isLimit loader).build.mp h
  exact upTo_shows loader n hn

/-- **Open ends.** A field whose type ends at a name has the kind of that name, no value, and its
documentation as the example. -/
theorem EndsOpen.buildWith_eq {type : TypeExpr} {unit : Nat} {w : Walker} {last : String}
    (h : EndsOpen loader type unit w last) {slot : Slot} {owner : String} {f : Field} {v : Json}
    {w' : Walker}
    (hbuild : buildWith loader (unbounded loader) slot owner type unit w = some ((f, v), w')) :
    f.kind = Kind.ofTypeName last ∧ v = .string slot.remark := by
  induction h generalizing f v w' with
  | missing hname htarget =>
    simp only [buildWith, buildNamed, hname, htarget] at hbuild
    cases hbuild
    exact ⟨rfl, rfl⟩
  | held hname htarget hheld =>
    simp only [buildWith, buildNamed, hname, htarget, Walker.holds_iff.mpr hheld] at hbuild
    cases hbuild
    exact ⟨rfl, rfl⟩
  | through hname htarget hfree _ ih =>
    simp only [buildWith, buildNamed, hname, htarget, mt Walker.holds_iff.mp hfree] at hbuild
    rw [unbounded_build] at hbuild
    obtain ⟨⟨⟨g, x⟩, w₂⟩, hinner, heq⟩ := Option.map_eq_some_iff.mp hbuild
    cases heq
    have hend : g.kind = _ ∧ _ := ih hinner
    exact hend

/-! ## Nodes -/

/-- A name of another type that was parsed stands for a type that was written there. -/
theorem target_synonym_isWritten {name : String} {unit unit' : Nat} {type : TypeExpr}
    {path : ModulePath} {w w' : Walker} (hw : w.session.Parsed)
    (h : w.target loader name unit = (.synonym type unit' path, w')) : type.IsWritten := by
  have hparsed := (target_steps h).changes.parsed hw
  unfold Walker.target at h
  split at h
  · simp at h
  · simp only at h
    split at h
    · simp at h
    · rename_i d hd
      split at h <;> simp only [Prod.mk.injEq, Target.synonym.injEq, reduceCtorEq, false_and] at h
      rename_i target hbody
      obtain ⟨⟨rfl, -, -⟩, rfl⟩ := h
      have hwritten := hparsed.isWritten hd
      rw [hbody] at hwritten
      exact hwritten

/-- The name that a written type ends at is written too. -/
theorem EndsOpen.isWritten {type : TypeExpr} {unit : Nat} {w : Walker} {last : String}
    (h : EndsOpen loader type unit w last) (hw : w.session.Parsed) (htype : type.IsWritten) :
    (TypeExpr.named last).IsWritten := by
  induction h with
  | missing => exact htype
  | held => exact htype
  | through _ htarget _ _ ih =>
    exact ih ((target_steps htarget).changes.parsed hw) (target_synonym_isWritten hw htarget)

/-- Whether the type of a declared field ends at a name whose last segment is `array`. -/
def EndsAtArray (loader : Loader) (f : FieldDecl) (unit : Nat) (w : Walker) : Prop :=
  ∃ name, EndsOpen loader f.shown unit w name ∧ ModulePath.lastSegment name = "array"

/-- The type of a field to which the walk comes ends at an array if its last segment says so. -/
theorem Visits.endsAtArray_iff {id : Nat} {w w' : Walker} {d : TypeDecl} {f : FieldDecl}
    (h : Visits loader id w d f w') (hw : w.session.Parsed) :
    EndsAtArray loader f d.unit w' ↔ OpensArray loader f.shown d.unit w' := by
  have hparsed := h.steps.changes.parsed hw
  obtain ⟨_, fields, hd, hbody, hmem⟩ := h.declared
  have hfields := hparsed.isWritten hd
  rw [hbody] at hfields
  have hshown : f.shown.IsWritten := by
    unfold FieldDecl.shown
    split
    · exact Source.isWritten_string
    · exact hfields f hmem
  refine exists_congr fun name => and_congr_right fun hend => ?_
  rw [kind_of_isWritten (hend.isWritten hparsed hshown), Kind.ofSegment_eq_array_iff]

end Walk

/-- **Kinds agree.** In every session that is used from the start, and for every field at any depth
of an expansion: whole numbers, numbers with a fraction and truth values are those with the value
and the example of their kind; all other fields have no value, texts have a text as their example,
objects have an object or their documentation, and arrays have an array of at most one element. The
one exception is an array because of the name `array` alone: its example is its documentation. -/
theorem expand_kinds_agree {loader : Loader} {id : Nat} {w w' : Walker} {e : Expansion}
    (hw : Session.Uses loader {} w.session) (h : w.expand loader id = some (some e, w')) {f : Field}
    {v : Json} (hnode : NodeOf e.fields e.sample f v) :
    (f.kind = .int ∨ f.kind = .long ↔ f.value = "0" ∧ v = Json.whole 0) ∧
    (f.kind = .number ↔ f.value = "0.0" ∧ v = .number (.double Decimal.Double.zero)) ∧
    (f.kind = .boolean ↔ f.value = "false" ∧ v = .bool false) ∧
    (f.kind = .string → f.value = "" ∧ ∃ text, v = .string text) ∧
    (f.kind = .object →
      f.value = "" ∧ ((∃ members, v = .object members) ∨ v = .string f.remark)) ∧
    (f.kind = .array → f.value = "") ∧
    ∃ d fd w₁ w₂, Walk.Visits loader id w d fd w₁ ∧ fd.flatten = false ∧
      Walk.buildField loader (Walk.unbounded loader) fd d.unit d.name w₁ = some ((f, v), w₂) ∧
      (Walk.EndsAtArray loader fd d.unit w₁ → f.kind = .array ∧ v = .string f.remark) ∧
      (¬ Walk.EndsAtArray loader fd d.unit w₁ → f.kind = .array →
        ∃ items, v = .array items ∧ items.length ≤ 1) := by
  obtain ⟨d, fd, w₁, w₂, hvisits, hplain, hbuild⟩ := Walk.node_visits h hnode
  obtain ⟨built, hbuilt, rfl⟩ := Walk.exists_buildWith hbuild
  obtain ⟨hremark, hshown⟩ := Walk.buildWith_shown (Walk.unbounded_shows loader) hbuilt
  obtain ⟨hkind, hvalue, hlabel, -⟩ := fd.label_eq built
  rw [← hremark, ← hlabel, ← hkind, ← hvalue] at hshown
  obtain ⟨hwhole, hnumber, hbool, hempty⟩ := hshown.zero_iff
  obtain ⟨hstring, hobject, harray⟩ := hshown.examples
  have hends := hvisits.endsAtArray_iff hw.parsed
  refine ⟨hwhole, hnumber, hbool, fun hk => ⟨hempty (by rw [hk]; rfl), hstring hk⟩,
    fun hk => ⟨hempty (by rw [hk]; rfl), hobject hk⟩, fun hk => hempty (by rw [hk]; rfl),
    d, fd, w₁, w₂, hvisits, hplain, hbuild, ?_, ?_⟩
  · intro hend
    obtain ⟨name, hopen, hname⟩ := hends.mp hend
    obtain ⟨hk, hv⟩ := hopen.buildWith_eq hbuilt
    exact ⟨by rw [hkind, hk, hname], by rw [hv, hlabel, hremark]⟩
  · intro hend hk
    exact (harray hk).resolve_right (mt hends.mpr hend)

/-- A structure in a structure, with a field whose type is another name of an unknown `array`. -/
def rowModel : LoadedSource :=
  ⟨⟨"a.rs"⟩, "crate::a",
    "pub struct Shelf \x7b pub base: Base \x7d
    pub struct Base \x7b
      /// all rows
      pub rows: Rows \x7d
    pub type Rows = lib::array;"⟩

/-- The session in which it was scanned. -/
def rowSession : Session :=
  ({} : Session).addScanned rowModel.units

/-- The only field in the only field of an expansion, with its example. -/
def innerPair? (e : Expansion) : Option (Field × Json) :=
  match e.pairs with
  | [(g, .object members)] => (g.children.zip (members.map Prod.snd)).head?
  | _ => none

/-- The inner field of an expansion is one of its nodes. -/
theorem nodeOf_of_innerPair? {e : Expansion} {f : Field} {v : Json}
    (h : innerPair? e = some (f, v)) : NodeOf e.fields e.sample f v := by
  unfold innerPair? at h
  split at h
  · rename_i g members heq
    have hmem : (g, Json.object members) ∈ e.pairs := heq ▸ List.mem_cons_self
    exact NodeOf.to_expansion hmem (Or.inr (.here rfl (List.mem_of_head? h)))
  · cases h

/-- An array whose type is not known has its remark as its example, even inside of another
structure. -/
theorem expand_kinds_agree_rowSession :
    ∃ e w' f v, Session.Uses Loader.none {} rowSession ∧
      Walker.expand Loader.none 0 ⟨rowSession, []⟩ = some (some e, w') ∧
        NodeOf e.fields e.sample f v ∧ f.kind = .array ∧ f.value = "" ∧
          v.string? = some "all rows" := by
  have hnode : ((((Walk.upTo Loader.none 4).expand 0 ⟨rowSession, []⟩).bind Prod.fst).bind
      innerPair?).map (fun pair => (pair.1.kind, pair.2.string?)) =
        some (.array, some "all rows") := by
    decide +kernel
  obtain ⟨⟨f, v⟩, hinner, hshown⟩ := Option.map_eq_some_iff.mp hnode
  obtain ⟨e, he, hpair⟩ := Option.bind_eq_some_iff.mp hinner
  obtain ⟨⟨r, w'⟩, hupTo, hr⟩ := Option.bind_eq_some_iff.mp he
  obtain rfl : r = some e := hr
  obtain ⟨hkind, htext⟩ := Prod.mk.inj hshown
  have huses : Session.Uses Loader.none {} rowSession := .single (.scan {} rowModel)
  have hexpand := Walker.expand_of_upTo (by decide +kernel) hupTo
  have hnodeOf := nodeOf_of_innerPair? hpair
  have hagree := expand_kinds_agree (w := ⟨rowSession, []⟩) huses hexpand hnodeOf
  exact ⟨e, w', f, v, huses, hexpand, hnodeOf, hkind, hagree.2.2.2.2.2.1 hkind, htext⟩

end ApiDocs
