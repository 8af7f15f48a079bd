import ApiDocs.Kind
import ApiDocs.Proofs.Session.Uses

/-!
# The shapes of declared types

The names in the types of a source are paths of identifiers (`LoadedSource.isWritten_of_mem_types`).
Every unit of a session that is used from the start was read from a source, so this holds of all
types that the session knows, and of those that it comes to know while names are resolved
(`Parsed`). The kind of such a name is told by its last segment alone (`kind_of_isWritten`): no
blank, bracket or reference mark stands in it.
-/

namespace ApiDocs

/-- Whether every name in the types of a declaration is a path of identifiers. -/
def TypeBody.IsWritten : TypeBody → Prop
  | .struct fields => ∀ f ∈ fields, f.type.IsWritten
  | .synonym type => type.IsWritten
  | .enum _ => True

/-! ## Sources -/

namespace Source

theorem isWritten_string : (TypeExpr.named "String").IsWritten :=
  ⟨["String"], by decide +kernel, by decide +kernel⟩

/-- The fields of a structure have types as they are written. -/
theorem structBodyOf_isWritten (attributes : List Attribute) (fields : FieldsTree) :
    (structBodyOf attributes fields).IsWritten := by
  have hfields : ∀ (rule : Option CaseRule) (fields : List FieldTree),
      ∀ f ∈ fields.map (FieldTree.decl rule), f.type.IsWritten := by
    intro rule fields f hf
    obtain ⟨tree, -, rfl⟩ := List.mem_map.mp hf
    exact tree.type.valid
  unfold structBodyOf
  split
  · rename_i trees
    simp only
    split
    · unfold transparentBody
      split
      · rename_i inner hinner
        have hmem := List.mem_of_find?_eq_some hinner
        rw [TypeBody.IsWritten]
        split
        · exact isWritten_string
        · exact hfields _ trees inner hmem
      · exact hfields _ trees
    · exact hfields _ trees
  · rename_i type
    exact type.valid
  · exact trivial
  · exact fun f hf => nomatch hf

/-- A type that an item declares has a body as it is written. -/
theorem Item.isWritten_of_type? {item : Item} {t : TypeDef} (h : item.type? = some t) :
    t.body.IsWritten := by
  cases item with
  | struct attributes name fields =>
    cases h
    exact structBodyOf_isWritten attributes fields
  | enum attributes name variants =>
    cases h
    unfold enumBodyOf
    split <;> exact trivial
  | synonym attributes name type =>
    cases h
    exact type.valid
  | _ => cases h

end Source

/-- A unit of a source is that of a module. -/
theorem LoadedSource.exists_unitOf_of_mem_units {source : LoadedSource} {u : SourceUnit}
    (hu : u ∈ source.units) :
    ∃ module attributes items, u = Source.unitOf source.path module attributes items := by
  unfold units at hu
  cases hparse : Source.parseUnits? source.path source.module source.content with
  | none =>
    rw [hparse] at hu
    cases hu
  | some us =>
    rw [hparse] at hu
    obtain ⟨tree, -, rfl⟩ := Option.map_eq_some_iff.mp hparse
    rcases List.mem_cons.mp hu with rfl | hbelow
    · exact ⟨_, _, _, rfl⟩
    · exact Source.exists_unitOf_of_mem_unitsBelow tree.items hbelow

/-- **Shapes.** The names in the types of a source are paths of identifiers. -/
theorem LoadedSource.isWritten_of_mem_types {source : LoadedSource} {u : SourceUnit}
    (hu : u ∈ source.units) {t : TypeDef} (ht : t ∈ u.types) : t.body.IsWritten := by
  obtain ⟨module, attributes, items, rfl⟩ := exists_unitOf_of_mem_units hu
  obtain ⟨item, -, htype⟩ := List.mem_filterMap.mp ht
  exact item.isWritten_of_type? htype

/-! ## Sessions -/

namespace Session

/-- Whether the units of a session were read from sources, and its index is that of the units. -/
structure Parsed (s : Session) : Prop where
  /-- The index of the catalog is right. -/
  indexed : s.catalog.IsIndexed
  /-- The units are those of sources. -/
  read : ∀ u ∈ s.catalog.units, ∃ source : LoadedSource, u ∈ source.units

variable {loader : Loader} {s s' : Session}

/-- A session holds what was parsed after every change. -/
theorem Change.parsed (h : Change loader s s') (hs : s.Parsed) : s'.Parsed := by
  refine ⟨h.isIndexed hs.indexed, ?_⟩
  cases h with
  | note | remember | ask => exact hs.read
  | take module given source =>
    rw [takeSource_catalog]
    intro u hu
    rcases Catalog.mem_units_take.mp hu with hold | ⟨-, hnew⟩
    · exact hs.read u hold
    · exact ⟨source, hnew⟩

theorem Changes.parsed (h : Changes loader s s') (hs : s.Parsed) : s'.Parsed := by
  induction h with
  | refl => exact hs
  | tail _ hchange ih => exact hchange.parsed ih

/-- **Uses.** So it does after every use. -/
theorem Use.parsed (h : Use loader s s') (hs : s.Parsed) : s'.Parsed := by
  refine h.induction (P := Parsed) (fun _ _ h => ⟨h.indexed, h.read⟩) ?_
    (fun _ _ h => ⟨h.indexed, h.read⟩)
    (fun s module h => (ensure_changes loader module s).parsed h)
    (fun s name unit h => (resolve_changes loader name unit s).parsed h) hs
  intro s source h
  refine ⟨Catalog.addUnits_isIndexed h.indexed _, fun u hu => ?_⟩
  have hunits : (s.addScanned source.units).catalog.units = s.catalog.units ++ source.units :=
    (Catalog.addUnits_frame _ _).2.1
  rw [hunits] at hu
  rcases List.mem_append.mp hu with hold | hnew
  · exact h.read u hold
  · exact ⟨source, hnew⟩

/-- **Invariant.** A session that is used from the start has all its units from sources. -/
theorem Uses.parsed (h : Uses loader {} s) : s.Parsed := by
  induction h with
  | refl => exact ⟨Catalog.empty_isIndexed, nofun⟩
  | tail _ huse ih => exact huse.parsed ih

/-- The names in a declared type are paths of identifiers. -/
theorem Parsed.isWritten (h : s.Parsed) {id : Nat} {d : TypeDecl}
    (hd : s.catalog.decls[id]? = some d) : d.body.IsWritten := by
  have hoffered := List.mem_of_find?_eq_some (h.indexed.first d (List.mem_of_getElem? hd))
  obtain ⟨u, hu, -, htype⟩ := Catalog.mem_offered.mp hoffered
  obtain ⟨source, hsource⟩ := h.read u (List.mem_of_getElem? hu)
  exact LoadedSource.isWritten_of_mem_types hsource htype

end Session

/-! ## Kinds of names -/

/-- A character of an identifier may start or continue one. -/
theorem Text.mem_of_isIdentifier {name : String} (h : isIdentifier name = true) {c : Char}
    (hc : c ∈ name.toList) : isIdentifierStart c = true ∨ isIdentifierPart c = true := by
  unfold isIdentifier at h
  split at h
  · cases h
  · rename_i first rest heq
    rw [Bool.and_eq_true, List.all_eq_true] at h
    rw [heq] at hc
    rcases List.mem_cons.mp hc with rfl | hrest
    · exact Or.inl h.1
    · exact Or.inr (h.2 c hrest)

/-- The characters of a path of names are colons and those of the names. -/
theorem ModulePath.mem_ofSegments {names : List String} {c : Char}
    (h : c ∈ (ofSegments names).toList) : c = ':' ∨ ∃ name ∈ names, c ∈ name.toList := by
  induction names with
  | nil => simp [ofSegments] at h
  | cons name rest ih =>
    cases rest with
    | nil =>
      rw [ofSegments, String.intercalate_singleton] at h
      exact Or.inr ⟨name, List.mem_cons_self, h⟩
    | cons next rest =>
      rw [ofSegments, String.intercalate_cons_cons, String.toList_append, String.toList_append,
        List.mem_append, List.mem_append] at h
      rcases h with (hname | hmark) | hrest
      · exact Or.inr ⟨name, List.mem_cons_self, hname⟩
      · left
        simpa using hmark
      · rcases ih hrest with hcolon | ⟨other, hother, hc⟩
        · exact Or.inl hcolon
        · exact Or.inr ⟨other, List.mem_cons_of_mem name hother, hc⟩

/-- Signs that a type name may start with, or that open the arguments of a type. -/
def typeSigns : List Char := ['&', '[', '<']

/-- Neither a blank nor a sign stands in a path of identifiers. -/
theorem plain_of_isWritten {name : String} (h : (TypeExpr.named name).IsWritten) {c : Char}
    (hc : c ∈ name.toList) : Text.isBlank c = false ∧ c ∉ typeSigns := by
  obtain ⟨names, hnames, rfl⟩ := h
  have hsigns : typeSigns.all (fun c => !(Text.isIdentifierStart c || Text.isIdentifierPart c)) =
      true := by decide
  rcases ModulePath.mem_ofSegments hc with rfl | ⟨name, hname, hmem⟩
  · decide
  · refine ⟨Text.not_blank_of_isIdentifier (hnames name hname) hmem, fun hsign => ?_⟩
    have hnone := List.all_eq_true.mp hsigns c hsign
    rw [Bool.not_eq_true', Bool.or_eq_false_iff] at hnone
    rcases Text.mem_of_isIdentifier (hnames name hname) hmem with hident | hident
    · exact Bool.false_ne_true (hnone.1.symm.trans hident)
    · exact Bool.false_ne_true (hnone.2.symm.trans hident)

/-- **Kinds.** The kind of a path of identifiers is that of its last segment. -/
theorem kind_of_isWritten {name : String} (h : (TypeExpr.named name).IsWritten) :
    Kind.ofTypeName name = Kind.ofSegment (ModulePath.lastSegment name) := by
  have hsign : ∀ c ∈ typeSigns, c ∉ name.toList := fun c hc hmem =>
    (plain_of_isWritten h hmem).2 hc
  have htrim : Text.trimChars name.toList = name.toList :=
    Text.trimChars_eq_self fun c hc => (plain_of_isWritten h hc).1
  have hdrop : name.toList.dropWhile (· == '&') = name.toList := by
    cases hlist : name.toList with
    | nil => rfl
    | cons c rest =>
      have hne : c ≠ '&' := by
        rintro rfl
        exact hsign '&' (by decide) (hlist ▸ List.mem_cons_self)
      exact List.dropWhile_cons_of_neg (by simpa using hne)
  have hbracket : "[".toList.isPrefixOf name.toList = false := by
    rw [← Bool.not_eq_true, List.isPrefixOf_iff_prefix]
    intro hpre
    exact hsign '[' (by decide) (hpre.subset (by decide))
  have hangle : "Vec<".toList.isPrefixOf name.toList = false := by
    rw [← Bool.not_eq_true, List.isPrefixOf_iff_prefix]
    intro hpre
    exact hsign '<' (by decide) (hpre.subset (by decide))
  rw [Kind.ofTypeName, htrim, hdrop]
  simp only [hbracket, hangle, Bool.or_self, Bool.false_eq_true, if_false, String.ofList_toList]

/-- Only the segment `array` is taken for an array. -/
theorem Kind.ofSegment_eq_array_iff {segment : String} :
    ofSegment segment = array ↔ segment = "array" := by
  constructor
  · intro h
    unfold ofSegment at h
    split_ifs at h with _ _ _ _ _ harray
    exact harray
  · rintro rfl
    decide

end ApiDocs
