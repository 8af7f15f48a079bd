import ApiDocs.Proofs.Expansion.Agreement
import ApiDocs.Proofs.Expansion.Balance

/-!
# The levels of nested fields

The fields of an expansion are a level, and so are the fields inside a field of a level (`LevelOf`).
On no level does a name stand twice (`Fits.nodup_of_levelOf`). Each name is one that a field of a
known structure is written out under (`Walk.Declaring`), whether the structure was expanded, nested
or flattened.
-/

namespace ApiDocs

/-- The levels of nested fields. -/
inductive LevelOf (fields : List Field) : List Field → Prop where
  /-- The outermost fields. -/
  | top : LevelOf fields fields
  /-- The fields inside a field. -/
  | inside {level : List Field} {f : Field} (h : LevelOf fields level) (hf : f ∈ level) :
    LevelOf fields f.children

/-- A level inside a field is a level of the fields around it. -/
theorem LevelOf.of_mem {fields level : List Field} {f : Field} (hf : f ∈ fields)
    (h : LevelOf f.children level) : LevelOf fields level := by
  induction h with
  | top => exact LevelOf.top.inside hf
  | inside _ hg ih => exact ih.inside hg

/-- What holds on all levels holds on the outermost one and below each of its fields. -/
theorem forall_levelOf_iff {fields : List Field} {P : List Field → Prop} :
    (∀ level, LevelOf fields level → P level) ↔
      P fields ∧ ∀ f ∈ fields, ∀ level, LevelOf f.children level → P level := by
  refine ⟨fun h => ⟨h fields .top, fun f hf level hlevel => h level (hlevel.of_mem hf)⟩, ?_⟩
  rintro ⟨htop, hbelow⟩ level hlevel
  have hcases : level = fields ∨ ∃ f ∈ fields, LevelOf f.children level := by
    induction hlevel with
    | top => exact Or.inl rfl
    | @inside level g _ hg ih =>
      rcases ih with rfl | ⟨f, hf, hlevel⟩
      · exact Or.inr ⟨g, hg, .top⟩
      · exact Or.inr ⟨f, hf, hlevel.inside hg⟩
  rcases hcases with rfl | ⟨f, hf, hlevel⟩
  · exact htop
  · exact hbelow f hf level hlevel

/-! ## Names on a level -/

/-- Fields that fit a value have names of their own. -/
theorem Fits.nodup {children : List Field} {value : Json} (h : Fits children value) :
    (children.map Field.name).Nodup := by
  unfold Fits at h
  split at h
  · exact h.1
  · rw [h]
    exact List.nodup_nil

/-- Each of the fields that agree with members has fields inside that fit some value. -/
theorem AgreeAll.exists_fits {fields : List Field} {members : List (String × Json)}
    (h : AgreeAll fields members) {f : Field} (hf : f ∈ fields) :
    ∃ value, Fits f.children value := by
  induction fields generalizing members with
  | nil => cases hf
  | cons g fields ih =>
    cases members with
    | nil => exact h.elim
    | cons member rest =>
      rcases List.mem_cons.mp hf with rfl | hrest
      · exact ⟨member.2, (f.agrees_iff_fits member.2).mp h.2.1⟩
      · exact ih h.2.2 hrest

/-- The fields inside a field that fits fit some value themselves. -/
theorem Fits.inside {children : List Field} {value : Json} (h : Fits children value) {f : Field}
    (hf : f ∈ children) : ∃ value, Fits f.children value := by
  unfold Fits at h
  split at h
  · exact h.2.exists_fits hf
  · rw [h] at hf
    cases hf

/-- **Levels.** On no level of the fields inside a value does a name stand twice. -/
theorem Fits.nodup_of_levelOf {children level : List Field} {value : Json}
    (h : Fits children value) (hlevel : LevelOf children level) :
    (level.map Field.name).Nodup := by
  have hfits : ∃ value, Fits level value := by
    induction hlevel with
    | top => exact ⟨value, h⟩
    | inside _ hf ih =>
      obtain ⟨value, hvalue⟩ := ih
      exact hvalue.inside hf
  obtain ⟨value, hvalue⟩ := hfits
  exact hvalue.nodup

/-! ## Names that are declared -/

namespace Session

/-- Whether a field of a known structure is written out under a name. -/
def Declares (s : Session) (name : String) : Prop :=
  ∃ d ∈ s.catalog.decls, ∃ fields, d.body = .struct fields ∧ ∃ f ∈ fields, f.name = name

/-- Whether the names on all levels are declared. -/
def DeclaresAll (s : Session) (fields : List Field) : Prop :=
  ∀ level, LevelOf fields level → ∀ f ∈ level, s.Declares f.name

variable {s s' : Session}

/-- A name that is declared stays declared. -/
theorem Grows.declares (h : Grows s s') {name : String} (hname : s.Declares name) :
    s'.Declares name := by
  obtain ⟨d, hd, hfields⟩ := hname
  exact ⟨d, h.decls.subset hd, hfields⟩

/-- Names on all levels stay declared while a session grows. -/
theorem DeclaresAll.grows {fields : List Field} (hfields : s.DeclaresAll fields)
    (h : Grows s s') : s'.DeclaresAll fields :=
  fun level hlevel f hf => h.declares (hfields level hlevel f hf)

/-- The names on all levels are declared if those of the outermost fields are, and those inside each
of them. -/
theorem declaresAll_iff {fields : List Field} :
    s.DeclaresAll fields ↔ ∀ f ∈ fields, s.Declares f.name ∧ s.DeclaresAll f.children := by
  rw [DeclaresAll, forall_levelOf_iff]
  exact ⟨fun h f hf => ⟨h.1 f hf, h.2 f hf⟩,
    fun h => ⟨fun f hf => (h f hf).1, fun f hf => (h f hf).2⟩⟩

theorem declaresAll_nil (s : Session) : s.DeclaresAll [] :=
  declaresAll_iff.mpr nofun

/-- An expansion keeps to declared names when a field is added whose names are declared. -/
theorem DeclaresAll.push {e : Expansion} (h : s.DeclaresAll e.fields) {f : Field}
    (hname : s.Declares f.name) (hchildren : s.DeclaresAll f.children) (value : Json) :
    s.DeclaresAll (e.push f value).fields := by
  rw [declaresAll_iff] at h ⊢
  intro g hg
  rcases Expansion.mem_put hg with rfl | hold
  · exact ⟨hname, hchildren⟩
  · exact h g hold

/-- An expansion keeps to declared names when the fields of another one are added to it. -/
theorem DeclaresAll.splice {e other : Expansion} (h : s.DeclaresAll e.fields)
    (hother : s.DeclaresAll other.fields) : s.DeclaresAll (e.splice other).fields := by
  rw [declaresAll_iff] at h hother ⊢
  intro g hg
  rcases Expansion.mem_spliceFields hg with hold | hnew
  · exact h g hold
  · exact hother g hnew

end Session

namespace Walk

/-- Whether all that a walk gives has names that are declared once it has returned. A field that is
built has the name of its slot. -/
structure Declaring (below : Walk) : Prop where
  /-- Structures. -/
  expand : ∀ {id w e w'}, below.expand id w = some (some e, w') → w'.session.DeclaresAll e.fields
  /-- Fields. -/
  build : ∀ {slot owner type unit w f v w'},
    below.build slot owner type unit w = some ((f, v), w') →
      f.name = slot.name ∧ w'.session.DeclaresAll f.children
  /-- Flattened fields. -/
  flatten : ∀ {type unit w e w'}, below.flatten type unit w = some (some e, w') →
    w'.session.DeclaresAll e.fields

variable {loader : Loader} {below : Walk}

/-- A field that is built for a type name has the name of its slot, and declared names inside. -/
theorem buildNamed_declaring (h : below.Declaring) {slot : Slot} {owner name : String}
    {unit : Nat} {w w' : Walker} {f : Field} {v : Json}
    (hbuild : buildNamed loader below slot owner name unit w = some ((f, v), w')) :
    f.name = slot.name ∧ w'.session.DeclaresAll f.children := by
  rw [buildNamed_eq_meet] at hbuild
  rcases meet_cases hbuild with ⟨target, _, -, hblocked, -⟩ | ⟨id, _, _, e, -, -, hexpand, heq⟩ |
    ⟨type, _, _, _, ⟨g, x⟩, w₂, -, -, hinner, heq, rfl⟩
  · cases target <;> cases hblocked <;> exact ⟨rfl, Session.declaresAll_nil _⟩
  · cases e with
    | none =>
      cases heq
      exact ⟨rfl, Session.declaresAll_nil _⟩
    | some e =>
      cases heq
      exact ⟨rfl, h.expand hexpand⟩
  · cases heq
    show g.name = slot.name ∧ w₂.session.DeclaresAll g.children
    exact h.build hinner

/-- The fields of an array element that is built for a type name have declared names. -/
theorem elementNamed_declaring (h : below.Declaring) {slot : Slot} {owner name : String}
    {unit : Nat} {w w' : Walker} {children : List Field} {v : Json}
    (helement : elementNamed loader below slot owner name unit w = some ((children, v), w')) :
    w'.session.DeclaresAll children := by
  rw [elementNamed_eq_meet] at helement
  rcases meet_cases helement with ⟨target, _, -, hblocked, -⟩ | ⟨id, _, _, e, -, -, hexpand, heq⟩ |
    ⟨type, _, _, _, ⟨g, x⟩, _, -, -, hinner, heq, rfl⟩
  · cases target <;> cases hblocked <;> exact Session.declaresAll_nil _
  · cases e with
    | none =>
      cases heq
      exact Session.declaresAll_nil _
    | some e =>
      cases heq
      exact h.expand hexpand
  · cases heq
    exact (h.build hinner).2

/-- A scalar field has the name of its slot. -/
theorem scalar_name (slot : Slot) (typeName : String) :
    (slot.scalar typeName).1.name = slot.name := by
  unfold Slot.scalar
  simp only
  split <;> rfl

/-- A field has the name of its slot, whatever its type. -/
theorem buildWith_name (h : below.Declaring) {slot : Slot} {owner : String} {type : TypeExpr}
    {unit : Nat} {w w' : Walker} {f : Field} {v : Json}
    (hbuild : buildWith loader below slot owner type unit w = some ((f, v), w')) :
    f.name = slot.name := by
  cases type with
  | named name =>
    rw [buildWith] at hbuild
    split at hbuild
    · obtain ⟨hscalar, -⟩ := Prod.mk.inj (Option.some.inj hbuild)
      have hname := scalar_name slot name
      rw [hscalar] at hname
      exact hname
    · exact (buildNamed_declaring h hbuild).1
  | sequence element =>
    cases element with
    | named name =>
      rw [buildWith] at hbuild
      simp only at hbuild
      split at hbuild
      · cases hbuild
        rfl
      · split at hbuild
        · cases hbuild
          rfl
        · obtain ⟨_, -, heq⟩ := Option.map_eq_some_iff.mp hbuild
          cases heq
          rfl
    | sequence inner =>
      rw [buildWith] at hbuild
      obtain ⟨_, -, heq⟩ := Option.map_eq_some_iff.mp hbuild
      cases heq
      rfl
    | _ =>
      cases hbuild
      rfl
  | _ =>
    cases hbuild
    rfl

/-- A field that is built has the name of its slot, and declared names inside. -/
theorem buildWith_declaring (h : below.Declaring) {slot : Slot} {owner : String} {type : TypeExpr}
    {unit : Nat} {w w' : Walker} {f : Field} {v : Json}
    (hbuild : buildWith loader below slot owner type unit w = some ((f, v), w')) :
    f.name = slot.name ∧ w'.session.DeclaresAll f.children :=
  ⟨buildWith_name h hbuild,
    buildWith_induction (P := fun children _ w' => w'.session.DeclaresAll children)
      (fun _ _ => Session.declaresAll_nil _)
      (fun _ _ _ _ hnamed => (buildNamed_declaring h hnamed).2)
      (fun _ _ _ _ helement => elementNamed_declaring h helement)
      (fun _ _ _ hchildren => hchildren) hbuild⟩

/-- A declared field is written out under its own name, with declared names inside. -/
theorem buildField_declaring (h : below.Declaring) {f : FieldDecl} {unit : Nat} {owner : String}
    {w w' : Walker} {field : Field} {v : Json}
    (hbuild : buildField loader below f unit owner w = some ((field, v), w')) :
    field.name = f.name ∧ w'.session.DeclaresAll field.children := by
  unfold buildField at hbuild
  simp only at hbuild
  split at hbuild
  · obtain ⟨⟨⟨built, x⟩, w₁⟩, hinner, heq⟩ := Option.map_eq_some_iff.mp hbuild
    cases heq
    show built.name = f.name ∧ w₁.session.DeclaresAll built.children
    exact buildWith_declaring h hinner
  · exact buildWith_declaring h hbuild

/-- The fields that a flattened type contributes have declared names. -/
theorem flattenWith_declaring (h : below.Declaring) {type : TypeExpr} {unit : Nat}
    {w w' : Walker} {e : Expansion}
    (hflatten : flattenWith loader below type unit w = some (some e, w')) :
    w'.session.DeclaresAll e.fields := by
  cases type with
  | named name =>
    rw [flattenWith_named] at hflatten
    rcases meet_cases hflatten with ⟨_, _, -, hblocked, -⟩ | ⟨id, _, _, r, -, -, hexpand, heq⟩ |
      ⟨type, _, _, _, r, w₂, -, -, hinner, heq, rfl⟩
    · cases hblocked
    · cases heq
      exact h.expand hexpand
    · cases heq
      show w₂.session.DeclaresAll e.fields
      exact h.flatten hinner
  | _ => cases hflatten

/-- A declared field adds fields whose names are declared, if its own name is. -/
theorem addField_declaring (h : below.Declaring) (hb : below.Balanced loader) {d : TypeDecl}
    {e e' : Expansion} {w w' : Walker} {f : FieldDecl} (he : w.session.DeclaresAll e.fields)
    (hf : w.session.Declares f.name)
    (hadd : addField loader below d (e, w) f = some (e', w')) :
    w'.session.DeclaresAll e'.fields := by
  have hgrows := (addField_returns hb hadd).steps.grows
  unfold addField at hadd
  simp only at hadd
  split at hadd
  · obtain ⟨⟨r, w₁⟩, hflatten, heq⟩ := Option.map_eq_some_iff.mp hadd
    cases r with
    | some other =>
      cases heq
      exact (he.grows hgrows).splice (flattenWith_declaring h hflatten)
    | none =>
      cases heq
      exact he.grows hgrows
  · obtain ⟨⟨⟨field, v⟩, w₁⟩, hfield, heq⟩ := Option.map_eq_some_iff.mp hadd
    cases heq
    obtain ⟨hname, hchildren⟩ := buildField_declaring h hfield
    exact (he.grows hgrows).push (hname ▸ hgrows.declares hf) hchildren v

/-- **Fields.** The fields of a structure add declared names only, one after the other. -/
theorem addFields_declaring (h : below.Declaring) (hb : below.Balanced loader) {d : TypeDecl}
    {fields : List FieldDecl} {e e' : Expansion} {w w' : Walker}
    (he : w.session.DeclaresAll e.fields) (hfields : ∀ f ∈ fields, w.session.Declares f.name)
    (hadd : fields.foldlM (addField loader below d) (e, w) = some (e', w')) :
    w'.session.DeclaresAll e'.fields := by
  induction fields generalizing e w with
  | nil =>
    cases hadd
    exact he
  | cons f rest ih =>
    rw [List.foldlM_cons] at hadd
    obtain ⟨⟨e₁, w₁⟩, hfirst, hrest⟩ := Option.bind_eq_some_iff.mp hadd
    have hgrows := (addField_returns hb hfirst).steps.grows
    have hnames : ∀ f ∈ rest, w₁.session.Declares f.name := fun g hg =>
      hgrows.declares (hfields g (List.mem_cons_of_mem f hg))
    exact ih (addField_declaring h hb he (hfields f List.mem_cons_self) hfirst) hnames hrest

/-- **A structure.** The names on all levels of an expansion are declared, if those of the walk
below are. -/
theorem expandWith_declaring (h : below.Declaring) (hb : below.Balanced loader) {id : Nat}
    {w w' : Walker} {e : Expansion}
    (hexpand : expandWith loader below id w = some (some e, w')) :
    w'.session.DeclaresAll e.fields := by
  rcases expandWith_cases hexpand with ⟨hnone, -⟩ | ⟨d, fields, e', w₁, hd, hbody, hfold, heq, rfl⟩
  · cases hnone
  · cases heq
    have hnames : ∀ f ∈ fields.filter (!·.skip),
        ((w.note [.expanding d.path]).enter d.path).session.Declares f.name := fun f hf =>
      ⟨d, List.mem_of_getElem? hd, fields, hbody, f, List.mem_of_mem_filter hf, rfl⟩
    show w₁.session.DeclaresAll e.fields
    exact addFields_declaring h hb (Session.declaresAll_nil _) hnames hfold

/-- **Names.** Walks of any depth give only names that are declared. -/
theorem upTo_declaring (loader : Loader) (n : Nat) : (upTo loader n).Declaring := by
  induction n with
  | zero => exact ⟨nofun, nofun, nofun⟩
  | succ n ih =>
    refine ⟨?_, ?_, ?_⟩
    · intro id w e w' h
      rw [upTo_succ_expand] at h
      exact expandWith_declaring ih (upTo_balanced loader n) h
    · intro slot owner type unit w f v w' h
      rw [upTo_succ_build] at h
      exact buildWith_declaring ih h
    · intro type unit w e w' h
      rw [upTo_succ_flatten] at h
      exact flattenWith_declaring ih h

end Walk

end ApiDocs
