import ApiDocs.Proofs.Catalog.Loading
import ApiDocs.Proofs.Expansion.Levels
import Mathlib.Data.List.Pairwise

/-!
# Dotted names

When the fields of an expansion are listed, a nested field is named by the names of the fields
around it and its own, with dots between them (`dottedAll`). On no level does a name stand twice,
but a dot may also stand in a name, so that `b.c` may be a field by itself and the field `c` inside
`b`. Only fields that clash in this way are listed under the same name (`Clash`,
`dotted_names_distinct_iff`).
-/

namespace ApiDocs

mutual

/-- The dotted names of a field and of all fields inside it. -/
def Field.dotted : Field → List String
  | ⟨name, _, _, _, _, _, children⟩ =>
    name :: (dottedAll children).map fun inner => name ++ "." ++ inner

/-- The dotted names of fields and of all fields inside them. -/
def dottedAll : List Field → List String
  | [] => []
  | f :: rest => f.dotted ++ dottedAll rest

end

/-- The dotted names of a field: its own, and behind it those inside. -/
theorem Field.dotted_eq (f : Field) :
    f.dotted = f.name :: (dottedAll f.children).map fun inner => f.name ++ "." ++ inner := by
  cases f
  rw [Field.dotted]

/-- What follows the name of a field in the dotted names: nothing, or a dot and the dotted name of a
field inside it. -/
def Field.Ending (f : Field) (ending : String) : Prop :=
  ending = "" ∨ ∃ inner ∈ dottedAll f.children, ending = "." ++ inner

/-- A dotted name is the name of the field with an ending. -/
theorem Field.mem_dotted {f : Field} {name : String} :
    name ∈ f.dotted ↔ ∃ ending, f.Ending ending ∧ name = f.name ++ ending := by
  rw [f.dotted_eq, List.mem_cons, List.mem_map]
  constructor
  · rintro (rfl | ⟨inner, hinner, rfl⟩)
    · exact ⟨"", Or.inl rfl, by rw [String.append_empty]⟩
    · exact ⟨"." ++ inner, Or.inr ⟨inner, hinner, rfl⟩, String.append_assoc⟩
  · rintro ⟨ending, rfl | ⟨inner, hinner, rfl⟩, rfl⟩
    · exact Or.inl String.append_empty
    · exact Or.inr ⟨inner, hinner, String.append_assoc⟩

theorem dottedAll_eq_flatMap (fields : List Field) :
    dottedAll fields = fields.flatMap Field.dotted := by
  induction fields with
  | nil => rfl
  | cons f rest ih => rw [dottedAll, List.flatMap_cons, ih]

/-! ## Listed fields -/

mutual

/-- The names below a name that is not empty. -/
theorem Field.map_name_flatten {outer : String} (h : outer ≠ "") : ∀ f : Field,
    (f.flatten outer).map Field.name = f.dotted.map fun inner => outer ++ "." ++ inner
  | ⟨name, _, _, _, _, _, children⟩ => by
    have hnonempty : outer ++ "." ++ name ≠ "" := by simp
    rw [Field.flatten, Field.dotted]
    simp only [String.isEmpty_iff, if_neg h, List.map_cons, List.map_map]
    rw [map_name_flattenFields hnonempty children]
    simp only [Function.comp_def, String.append_assoc]

/-- Fields that are listed below a name have the dotted names behind it. -/
theorem map_name_flattenFields {outer : String} (h : outer ≠ "") : ∀ fields : List Field,
    (flattenFields outer fields).map Field.name =
      (dottedAll fields).map fun inner => outer ++ "." ++ inner
  | [] => rfl
  | f :: rest => by
    rw [flattenFields, dottedAll, List.map_append, List.map_append, f.map_name_flatten h,
      map_name_flattenFields h rest]

end

/-- The listed fields have the dotted names, as long as no field is inside one without a name. -/
theorem Expansion.map_name_allFields {e : Expansion}
    (h : ∀ f ∈ e.fields, f.name = "" → f.children = []) :
    e.allFields.map Field.name = dottedAll e.fields := by
  have hall : ∀ fields : List Field, (∀ f ∈ fields, f.name = "" → f.children = []) →
      (flattenFields "" fields).map Field.name = dottedAll fields := by
    intro fields
    induction fields with
    | nil => exact fun _ => rfl
    | cons f rest ih =>
      intro h
      obtain ⟨name, kind, typeName, required, value, remark, children⟩ := f
      rw [flattenFields, dottedAll, List.map_append, ih fun g hg => h g (List.mem_cons_of_mem _ hg),
        Field.flatten, Field.dotted]
      simp only [String.isEmpty_iff, if_true, List.map_cons]
      by_cases hname : name = ""
      · obtain rfl : children = [] := h _ List.mem_cons_self hname
        rfl
      · rw [map_name_flattenFields hname]
  exact hall e.fields h

/-! ## Two fields of a level -/

/-- Whether the name of `g` goes on with a dot after the name of `f`, and the rest of it, with one
of the endings of `g`, is the dotted name of a field inside `f`. -/
def Clash (f g : Field) : Prop :=
  ∃ rest, g.name = f.name ++ "." ++ rest ∧
    ∃ ending, g.Ending ending ∧ rest ++ ending ∈ dottedAll f.children

theorem Clash.dot_mem {f g : Field} (h : Clash f g) : '.' ∈ g.name.toList := by
  obtain ⟨rest, hname, -⟩ := h
  rw [hname]
  simp

theorem ne_append_dot (name rest : String) : name ≠ name ++ "." ++ rest := by
  intro heq
  have hlength := congrArg String.length heq
  have hdot : ".".length = 1 := rfl
  simp only [String.length_append] at hlength
  omega

theorem not_clash_self (f : Field) : ¬ Clash f f := by
  rintro ⟨rest, hname, -⟩
  exact ne_append_dot f.name rest hname

/-- If the name of a field with one of its endings is a longer name with something after it, then
the longer name goes on with a dot. -/
theorem Field.Ending.exists_dot {f : Field} {ending other name : String} {more : List Char}
    (h : f.Ending ending) (hne : f.name ≠ name) (hname : name.toList = f.name.toList ++ more)
    (hending : ending.toList = more ++ other.toList) :
    ∃ rest, name = f.name ++ "." ++ rest ∧ rest ++ other ∈ dottedAll f.children := by
  cases more with
  | nil => exact absurd (String.toList_inj.mp (by rw [hname, List.append_nil])).symm hne
  | cons c rest =>
    rcases h with rfl | ⟨inner, hinner, rfl⟩
    · cases hending
    · obtain ⟨rfl, hrest⟩ : '.' = c ∧ inner.toList = rest ++ other.toList := by simpa using hending
      have hdot : name = f.name ++ "." ++ String.ofList rest :=
        String.toList_inj.mp (by simp [hname])
      have hmem : inner = String.ofList rest ++ other := String.toList_inj.mp (by simp [hrest])
      exact ⟨String.ofList rest, hdot, hmem ▸ hinner⟩

/-- Fields that clash share a dotted name. -/
theorem Clash.not_disjoint {f g : Field} (h : Clash f g) : ¬ f.dotted.Disjoint g.dotted := by
  obtain ⟨rest, hname, ending, hending, hmem⟩ := h
  intro hdisjoint
  refine hdisjoint (a := g.name ++ ending) ?_ ?_
  · refine Field.mem_dotted.mpr ⟨"." ++ (rest ++ ending), Or.inr ⟨_, hmem, rfl⟩, ?_⟩
    simp only [hname, String.append_assoc]
  · exact Field.mem_dotted.mpr ⟨ending, hending, rfl⟩

/-- Fields of different names that do not clash have no dotted name in common. -/
theorem disjoint_dotted_iff {f g : Field} (hne : f.name ≠ g.name) :
    f.dotted.Disjoint g.dotted ↔ ¬ Clash f g ∧ ¬ Clash g f := by
  constructor
  · exact fun h => ⟨fun hfg => hfg.not_disjoint h, fun hgf => hgf.not_disjoint h.symm⟩
  · rintro ⟨hfg, hgf⟩ name hf hg
    obtain ⟨ending, hending, rfl⟩ := Field.mem_dotted.mp hf
    obtain ⟨ending', hending', heq⟩ := Field.mem_dotted.mp hg
    have hchars := congrArg String.toList heq
    simp only [String.toList_append] at hchars
    -- one of the two names is the longer one
    rcases List.append_eq_append_iff.mp hchars with ⟨more, hname, hmore⟩ | ⟨more, hname, hmore⟩
    · obtain ⟨rest, hdot, hmem⟩ := hending.exists_dot hne hname hmore
      exact hfg ⟨rest, hdot, ending', hending', hmem⟩
    · obtain ⟨rest, hdot, hmem⟩ := hending'.exists_dot hne.symm hname hmore
      exact hgf ⟨rest, hdot, ending, hending, hmem⟩

/-! ## All levels -/

/-- The dotted names of a field are distinct if those inside are. -/
theorem Field.nodup_dotted_iff (f : Field) : f.dotted.Nodup ↔ (dottedAll f.children).Nodup := by
  have hinjective : Function.Injective fun inner => f.name ++ "." ++ inner :=
    fun _ _ heq => (String.append_right_inj _).mp heq
  have hname : f.name ∉ (dottedAll f.children).map fun inner => f.name ++ "." ++ inner := by
    intro hmem
    obtain ⟨inner, -, heq⟩ := List.mem_map.mp hmem
    exact ne_append_dot f.name inner heq.symm
  rw [f.dotted_eq, List.nodup_cons, List.nodup_map_iff hinjective]
  exact and_iff_right hname

/-- The dotted names of a level are distinct exactly if those inside its fields are and none of its
fields clash. -/
theorem nodup_dottedAll_iff {fields : List Field} (hnames : (fields.map Field.name).Nodup) :
    (dottedAll fields).Nodup ↔
      (∀ f ∈ fields, ∀ g ∈ fields, ¬ Clash f g) ∧
        ∀ f ∈ fields, (dottedAll f.children).Nodup := by
  have hne : fields.Pairwise fun f g => f.name ≠ g.name := List.pairwise_map.mp hnames
  rw [dottedAll_eq_flatMap, List.nodup_flatMap, and_comm]
  refine and_congr ⟨fun hdisjoint => ?_, fun hclash => ?_⟩
    (forall₂_congr fun f _ => f.nodup_dotted_iff)
  · have hfirst : fields.Pairwise fun f g => ¬ Clash f g :=
      hdisjoint.imp fun hfg hclash => hclash.not_disjoint hfg
    have hsecond : fields.Pairwise (flip fun f g => ¬ Clash f g) :=
      hdisjoint.imp fun hfg hclash => hclash.not_disjoint hfg.symm
    exact hfirst.forall_of_forall_of_flip (fun f _ => not_clash_self f) hsecond
  · exact hne.imp_of_mem fun hf hg hfg =>
      (disjoint_dotted_iff hfg).mpr ⟨hclash _ hf _ hg, hclash _ hg _ hf⟩

/-- **Levels.** The dotted names are distinct exactly if no fields of one level clash. -/
theorem nodup_dottedAll_iff_levels {fields : List Field}
    (hnames : ∀ level, LevelOf fields level → (level.map Field.name).Nodup) :
    (dottedAll fields).Nodup ↔
      ∀ level, LevelOf fields level → ∀ f ∈ level, ∀ g ∈ level, ¬ Clash f g := by
  induction hdepth : fieldsDepth fields using Nat.strong_induction_on generalizing fields with
  | _ n ih =>
    rw [nodup_dottedAll_iff (hnames fields .top), forall_levelOf_iff]
    refine and_congr_right fun _ => forall₂_congr fun f hf => ?_
    -- what is inside a field is not nested as deep
    have hless : fieldsDepth f.children < n := hdepth ▸ fieldsDepth_le_iff.mp (Nat.le_refl _) f hf
    exact ih _ hless (fun level hlevel => hnames level (hlevel.of_mem hf)) rfl

/-- **Dotted names.** If no field is inside an outermost one without a name, the listed fields have
different names exactly if no fields of one level clash. They always have if no field of a known
structure is written out under a name with a dot. -/
theorem dotted_names_distinct_iff {loader : Loader} {id : Nat} {w w' : Walker} {e : Expansion}
    (h : w.expand loader id = some (some e, w'))
    (hroot : ∀ f ∈ e.fields, f.name = "" → f.children = []) :
    ((e.allFields.map Field.name).Nodup ↔
      ∀ level, LevelOf e.fields level → ∀ f ∈ level, ∀ g ∈ level, ¬ Clash f g) ∧
    ((∀ name, w'.session.Declares name → '.' ∉ name.toList) →
      (e.allFields.map Field.name).Nodup) := by
  obtain ⟨n, hn⟩ := Walker.expand_eq_upTo h
  have hsound : e.Sound := (Walk.upTo_agreeing loader n).expand hn
  have hdeclared := (Walk.upTo_declaring loader n).expand hn
  have hiff := nodup_dottedAll_iff_levels fun _ hlevel => hsound.isExample.1.nodup_of_levelOf hlevel
  rw [Expansion.map_name_allFields hroot, hiff]
  refine ⟨Iff.rfl, fun hdot level hlevel f hf g hg hclash => ?_⟩
  exact hdot g.name (hdeclared level hlevel g hg) hclash.dot_mem

/-- A session with a structure that has a field of the given name and a nested one, `b.c`. -/
def dottedSession (name : String) : Session :=
  ({} : Session).addScanned (LoadedSource.units ⟨⟨"a.rs"⟩, "crate::a",
    "pub struct B \x7b pub c: i32 \x7d pub struct S \x7b #[serde(rename = \"" ++ name ++
      "\")] pub x: i32, pub b: B \x7d"⟩)

/-- What the structure is expanded into, given its names. -/
theorem exists_expand_dottedSession (name : String) (outer all : List String)
    (hlength : (dottedSession name).catalog.decls.length = 2)
    (h : (((Walk.upTo .none 3).expand 1 ⟨dottedSession name, []⟩).bind Prod.fst).map
      (fun e => (e.fields.map Field.name, e.allFields.map Field.name)) = some (outer, all)) :
    ∃ e w', Walker.expand .none 1 ⟨dottedSession name, []⟩ = some (some e, w') ∧
      e.fields.map Field.name = outer ∧ e.allFields.map Field.name = all := by
  obtain ⟨e, he, hnames⟩ := Option.map_eq_some_iff.mp h
  obtain ⟨⟨r, w'⟩, hupTo, hr⟩ := Option.bind_eq_some_iff.mp he
  obtain rfl : r = some e := hr
  have hn : (dottedSession name).catalog.decls.length + 1 = 3 := by rw [hlength]
  exact ⟨e, w', Walker.expand_of_upTo hn hupTo, Prod.mk.inj hnames⟩

/-- A dot in a name need not do harm. -/
theorem dotted_names_distinct_iff_dottedSession :
    ∃ e w', Walker.expand .none 1 ⟨dottedSession "b.d", []⟩ = some (some e, w') ∧
      e.allFields.map Field.name = ["b.d", "b", "b.c"] ∧
      ∀ level, LevelOf e.fields level → ∀ f ∈ level, ∀ g ∈ level, ¬ Clash f g := by
  obtain ⟨e, w', hexpand, houter, hall⟩ := exists_expand_dottedSession "b.d" ["b.d", "b"]
    ["b.d", "b", "b.c"] (by decide +kernel) (by decide +kernel)
  have hroot : ∀ f ∈ e.fields, f.name = "" → f.children = [] := by
    intro f hf hname
    have hmem : "" ∈ e.fields.map Field.name := hname ▸ List.mem_map_of_mem hf
    rw [houter] at hmem
    exact absurd hmem (by decide)
  refine ⟨e, w', hexpand, hall, (dotted_names_distinct_iff hexpand hroot).1.mp ?_⟩
  rw [hall]
  decide

/-- A field has the name of a nested one. -/
theorem dotted_names_repeat_dottedSession :
    ∃ e w', Walker.expand .none 1 ⟨dottedSession "b.c", []⟩ = some (some e, w') ∧
      e.allFields.map Field.name = ["b.c", "b", "b.c"] ∧ ¬ (e.allFields.map Field.name).Nodup := by
  obtain ⟨e, w', hexpand, -, hall⟩ := exists_expand_dottedSession "b.c" ["b.c", "b"]
    ["b.c", "b", "b.c"] (by decide +kernel) (by decide +kernel)
  refine ⟨e, w', hexpand, hall, ?_⟩
  rw [hall]
  decide

end ApiDocs
