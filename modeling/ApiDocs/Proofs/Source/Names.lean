import ApiDocs.Proofs.Catalog.Loading
import ApiDocs.Proofs.ModulePath

/-!
# The names of declared types

A type that is read from a source is named by an identifier (`isIdentifier_of_mem_types`). Neither a
blank nor a colon stands in an identifier, so as a type name it is taken as it is, and has no
qualifier (`plainName_of_isIdentifier`, `splitName_of_isIdentifier`).
-/

namespace ApiDocs

/-! ## The types of a source -/

namespace Source

/-- A type that an item declares is named by an identifier. -/
theorem Item.isIdentifier_of_type? {item : Item} {t : TypeDef} (h : item.type? = some t) :
    Text.isIdentifier t.name = true := by
  cases item with
  | struct attributes name fields =>
    cases h
    exact name.valid
  | enum attributes name variants =>
    cases h
    exact name.valid
  | synonym attributes name type =>
    cases h
    exact name.valid
  | _ => cases h

/-- The types of a unit are named by identifiers. -/
theorem isIdentifier_of_mem_types_unitOf {path : FilePath} {module : ModulePath}
    {attributes : List Attribute} {items : List Item} {t : TypeDef}
    (h : t ∈ (unitOf path module attributes items).types) : Text.isIdentifier t.name = true := by
  obtain ⟨item, -, htype⟩ := List.mem_filterMap.mp h
  exact item.isIdentifier_of_type? htype

mutual

/-- The units of an item are units of modules. -/
theorem Item.exists_unitOf_of_mem_units {path : FilePath} {module : ModulePath} {u : SourceUnit} :
    ∀ item : Item, u ∈ item.units path module →
      ∃ module attributes items, u = unitOf path module attributes items
  | .module attributes name items => by
    intro h
    rw [Item.units] at h
    split at h
    · cases h
    · rcases List.mem_cons.mp h with rfl | hbelow
      · exact ⟨_, _, _, rfl⟩
      · exact exists_unitOf_of_mem_unitsBelow items hbelow
  | .function _ | .methods _ _ | .moduleFile _ _ | .skipped | .imports _ _ | .struct _ _ _
  | .enum _ _ _ | .synonym _ _ _ | .other _ => fun h => by
    rw [Item.units] at h
    · cases h
    · exact nofun

/-- The units of items are made of the items of some module. -/
theorem exists_unitOf_of_mem_unitsBelow {path : FilePath} {module : ModulePath} {u : SourceUnit} :
    ∀ items : List Item, u ∈ unitsBelow path module items →
      ∃ module attributes items, u = unitOf path module attributes items
  | [] => nofun
  | item :: rest => by
    intro h
    rw [unitsBelow] at h
    rcases List.mem_append.mp h with hitem | hrest
    · exact item.exists_unitOf_of_mem_units hitem
    · exact exists_unitOf_of_mem_unitsBelow rest hrest

end

/-- The types of a source that was parsed are named by identifiers. -/
theorem isIdentifier_of_parseUnits? {path : FilePath} {module : ModulePath} {text : String}
    {us : List SourceUnit} (h : parseUnits? path module text = some us) {u : SourceUnit}
    (hu : u ∈ us) {t : TypeDef} (ht : t ∈ u.types) : Text.isIdentifier t.name = true := by
  obtain ⟨tree, -, rfl⟩ := Option.map_eq_some_iff.mp h
  rcases List.mem_cons.mp hu with rfl | hbelow
  · exact isIdentifier_of_mem_types_unitOf ht
  · obtain ⟨_, _, _, rfl⟩ := exists_unitOf_of_mem_unitsBelow tree.items hbelow
    exact isIdentifier_of_mem_types_unitOf ht

end Source

/-- **Names.** The types of a source are named by identifiers. -/
theorem LoadedSource.isIdentifier_of_mem_types {source : LoadedSource} {u : SourceUnit}
    (hu : u ∈ source.units) {t : TypeDef} (ht : t ∈ u.types) :
    Text.isIdentifier t.name = true := by
  unfold units at hu
  cases hparse : Source.parseUnits? source.path source.module source.content with
  | none =>
    rw [hparse] at hu
    cases hu
  | some us =>
    rw [hparse] at hu
    exact Source.isIdentifier_of_parseUnits? hparse hu ht

/-! ## Identifiers as type names -/

namespace Text

/-- The code points of the blanks. -/
def blankCodes : List Nat :=
  [0x9, 0xa, 0xb, 0xc, 0xd, 0x20, 0x85, 0xa0, 0x1680, 0x2000, 0x2001, 0x2002, 0x2003, 0x2004,
    0x2005, 0x2006, 0x2007, 0x2008, 0x2009, 0x200a, 0x2028, 0x2029, 0x202f, 0x205f, 0x3000]

theorem mem_blankCodes {c : Char} (h : isBlank c = true) : c.toNat ∈ blankCodes := by
  simp only [isBlank, Bool.or_eq_true, Bool.and_eq_true, decide_eq_true_eq, beq_iff_eq] at h
  simp only [blankCodes, List.mem_cons, List.not_mem_nil, or_false]
  omega

/-- No blank may stand in an identifier, neither first nor later. -/
theorem not_identifier_of_isBlank {c : Char} (h : isBlank c = true) :
    isIdentifierStart c = false ∧ isIdentifierPart c = false := by
  have hall : ∀ n ∈ blankCodes, isIdentifierStart (Char.ofNat n) = false ∧
      isIdentifierPart (Char.ofNat n) = false := by
    decide +kernel
  rw [← Char.ofNat_toNat c]
  exact hall c.toNat (mem_blankCodes h)

theorem not_blank_of_isIdentifier {name : String} (h : isIdentifier name = true) {c : Char}
    (hc : c ∈ name.toList) : isBlank c = false := by
  rw [← Bool.not_eq_true]
  intro hblank
  obtain ⟨hstart, hpart⟩ := not_identifier_of_isBlank hblank
  unfold isIdentifier at h
  split at h
  · cases h
  · rename_i first rest heq
    rw [Bool.and_eq_true, List.all_eq_true] at h
    rw [heq] at hc
    rcases List.mem_cons.mp hc with rfl | hrest
    · rw [hstart] at h
      cases h.1
    · have := h.2 c hrest
      rw [hpart] at this
      cases this

/-- A text without blanks stays as it is when it is trimmed. -/
theorem trimChars_eq_self {cs : List Char} (h : ∀ c ∈ cs, isBlank c = false) :
    trimChars cs = cs := by
  have hkeep : ∀ ds : List Char, (∀ c ∈ ds, isBlank c = false) → ds.dropWhile isBlank = ds := by
    intro ds hds
    cases ds with
    | nil => rfl
    | cons d ds => exact List.dropWhile_cons_of_neg (by rw [hds d List.mem_cons_self]; simp)
  rw [trimChars, stripWhile, dropEndWhile, hkeep cs h,
    hkeep cs.reverse fun c hc => h c (List.mem_reverse.mp hc), List.reverse_reverse]

end Text

namespace ModulePath

/-- A text without a colon cannot be cut. -/
theorem cutLast?_eq_none {cs : List Char} (h : ∀ c ∈ cs, c ≠ ':') : cutLast? cs = none := by
  induction cs with
  | nil => rfl
  | cons c rest ih =>
    rw [cutLast?, ih fun c' hc' => h c' (List.mem_cons_of_mem c hc')]
    exact fun _ hc _ => h c List.mem_cons_self hc

theorem splitName_of_isIdentifier {name : String} (h : Text.isIdentifier name = true) :
    splitName name = (none, name) := by
  rw [splitName, cutLast?_eq_none fun c hc => not_colon_of_isIdentifier h hc]

/-- Nothing is dropped from a text that does not start with a colon. -/
theorem dropLeadingMarks_eq_self {cs : List Char} (h : ∀ c ∈ cs, c ≠ ':') :
    dropLeadingMarks cs = cs := by
  unfold dropLeadingMarks
  split
  · exact absurd rfl (h ':' List.mem_cons_self)
  · rfl

end ModulePath

/-- An identifier is taken as it is. -/
theorem Session.plainName_of_isIdentifier {name : String} (h : Text.isIdentifier name = true) :
    plainName name = name := by
  rw [plainName, Text.trimChars_eq_self fun c hc => Text.not_blank_of_isIdentifier h hc,
    ModulePath.dropLeadingMarks_eq_self fun c hc => ModulePath.not_colon_of_isIdentifier h hc,
    String.ofList_toList]

end ApiDocs
