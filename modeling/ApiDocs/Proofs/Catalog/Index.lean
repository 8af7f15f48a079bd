import ApiDocs.Catalog
import Mathlib.Data.List.Nodup
import Mathlib.Tactic.Common

/-!
# The indexes of a catalog

A catalog keeps its declared types in a list and in three indexes that are changed step by step:
the numbers by module and name, the numbers by short key, and the short keys that several types
have. `Indexed` says what these indexes hold in terms of the list alone, and that the list holds the
first declaration offered for each module and name. Registering a declaration keeps it
(`register_indexed`), hence so does adding units (`addUnits_isIndexed`).
-/

namespace ApiDocs

/-- At most one element of a list has a property if and only if no two places hold such elements. -/
theorem countP_le_one_iff {α : Type} {p : α → Bool} {l : List α} :
    l.countP p ≤ 1 ↔
      ∀ (i j : Nat) (a b : α), l[i]? = some a → l[j]? = some b → p a → p b → i = j := by
  induction l with
  | nil => simp
  | cons x l ih =>
    by_cases hx : p x
    · rw [List.countP_cons_of_pos hx]
      constructor
      · intro h i j a b hi hj ha hb
        have hzero : ∀ y ∈ l, ¬ p y := List.countP_eq_zero.mp (by omega)
        cases i with
        | zero =>
          cases j with
          | zero => rfl
          | succ j => exact absurd hb (hzero b (List.mem_of_getElem? hj))
        | succ i => exact absurd ha (hzero a (List.mem_of_getElem? hi))
      · intro h
        have hzero : l.countP p = 0 := by
          rw [List.countP_eq_zero]
          intro y hy hpy
          obtain ⟨i, hi⟩ := List.mem_iff_getElem?.mp hy
          have := h 0 (i + 1) x y rfl hi hx hpy
          omega
        omega
    · rw [List.countP_cons_of_neg hx, ih]
      constructor
      · intro h i j a b hi hj ha hb
        cases i with
        | zero => cases hi; exact absurd ha hx
        | succ i =>
          cases j with
          | zero => cases hj; exact absurd hb hx
          | succ j => rw [h i j a b hi hj ha hb]
      · intro h i j a b hi hj ha hb
        have := h (i + 1) (j + 1) a b hi hj ha hb
        omega

/-- An entry at the end counts where there is none before it. -/
theorem lookup_concat {α β : Type} [BEq α] (l : List (α × β)) (key other : α) (b : β) :
    (l ++ [(key, b)]).lookup other =
      (l.lookup other).or (if other == key then some b else none) := by
  rw [List.lookup_append, List.lookup_cons, List.lookup_nil]
  cases other == key <;> rfl

/-- Dropping the entries of a key leaves the entries of the other keys. -/
theorem lookup_filter_bne {β : Type} (key other : String) (l : List (String × β)) :
    (l.filter fun entry => entry.1 != key).lookup other =
      if other = key then none else l.lookup other := by
  induction l with
  | nil => simp
  | cons entry l ih =>
    obtain ⟨k, b⟩ := entry
    by_cases hk : k = key
    · rw [List.filter_cons_of_neg (by simp [hk]), ih]
      by_cases ho : other = key
      · rw [if_pos ho, if_pos ho]
      · rw [if_neg ho, if_neg ho, List.lookup_cons, beq_false_of_ne (by rw [hk]; exact ho)]
    · rw [List.filter_cons_of_pos (by simp [hk]), List.lookup_cons, List.lookup_cons, ih]
      by_cases ho : other = key
      · rw [if_pos ho, if_pos ho, beq_false_of_ne (by rw [ho]; exact Ne.symm hk)]
      · rw [if_neg ho, if_neg ho]

/-- The module and the name of a type. -/
def TypeDecl.place (d : TypeDecl) : ModulePath × String :=
  (d.module, d.name)

namespace TypeIndex

/-- How many declared types have a short key. -/
def keyCount (x : TypeIndex) (key : String) : Nat :=
  x.decls.countP fun d => d.key == key

/-- What the list of declared types and the indexes hold after the declarations `offers` were
registered in this order. -/
structure Indexed (x : TypeIndex) (offers : List TypeDecl) : Prop where
  /-- A module has one type of a name. -/
  distinct : (x.decls.map TypeDecl.place).Nodup
  /-- Each type is the first one that was offered for its place. -/
  first : ∀ d ∈ x.decls, offers.find? (fun o => o.place == d.place) = some d
  /-- Every place that a declaration was offered for has a type. -/
  known : ∀ o ∈ offers, o.place ∈ x.decls.map TypeDecl.place
  /-- Types are found by their places. -/
  find_iff : ∀ module name id, x.find? module name = some id ↔
    ∃ d, x.decls[id]? = some d ∧ d.place = (module, name)
  /-- Types are found by short keys that no other type has. -/
  unique_iff : ∀ key id, x.unique? key = some id ↔
    (∃ d, x.decls[id]? = some d ∧ d.key = key) ∧ x.keyCount key = 1
  /-- The other short keys are ambiguous. -/
  ambiguous_iff : ∀ key, key ∈ x.ambiguous ↔ 2 ≤ x.keyCount key

/-! ## Short keys -/

/-- Types of one module with the same short key have the same place. -/
theorem place_eq_of_key_eq {d d' : TypeDecl} (hmodule : d.module = d'.module)
    (hkey : d.key = d'.key) : d.place = d'.place := by
  rw [TypeDecl.key, TypeDecl.key, shortKey, shortKey, hmodule, String.append_right_inj] at hkey
  rw [TypeDecl.place, TypeDecl.place, hmodule, hkey]

/-- A key that no type has is counted zero times. -/
theorem keyCount_eq_zero {x : TypeIndex} {key : String} :
    x.keyCount key = 0 ↔ ∀ d ∈ x.decls, d.key ≠ key := by
  simp [keyCount, List.countP_eq_zero]

/-- A key is counted if some type has it. -/
theorem keyCount_pos_iff {x : TypeIndex} {key : String} :
    0 < x.keyCount key ↔ ∃ (id : Nat) (d : TypeDecl), x.decls[id]? = some d ∧ d.key = key := by
  rw [keyCount, List.countP_pos_iff]
  constructor
  · rintro ⟨d, hd, hkey⟩
    obtain ⟨id, hid⟩ := List.mem_iff_getElem?.mp hd
    exact ⟨id, d, hid, by simpa using hkey⟩
  · rintro ⟨id, d, hid, hkey⟩
    exact ⟨d, List.mem_of_getElem? hid, by simpa using hkey⟩

/-- A declaration that is added last counts for its own key. -/
theorem keyCount_concat {x x' : TypeIndex} {d : TypeDecl} (h : x'.decls = x.decls ++ [d])
    (key : String) :
    x'.keyCount key = x.keyCount key + if d.key = key then 1 else 0 := by
  rw [keyCount, keyCount, h, List.countP_append]
  simp [List.countP_cons]

/-! ## Registering a declaration -/

/-- Adding a short key changes the two indexes of keys only. -/
theorem addKey_eq (x : TypeIndex) (key : String) (module : ModulePath) (id : Nat) :
    ∃ byKey ambiguous, x.addKey key module id = { x with byKey, ambiguous } := by
  unfold addKey
  split
  · exact ⟨_, _, rfl⟩
  · split
    · split <;> exact ⟨_, _, rfl⟩
    · exact ⟨_, _, rfl⟩

/-- An ambiguous key stays so. -/
theorem addKey_of_mem {x : TypeIndex} {key : String} (h : key ∈ x.ambiguous) (module : ModulePath)
    (id : Nat) : x.addKey key module id = x := by
  rw [addKey, if_pos (by simpa using h)]

/-- A key that a type of another module has becomes ambiguous. -/
theorem addKey_of_unique {x : TypeIndex} {key : String} {module : ModulePath} {other : Nat}
    (h : key ∉ x.ambiguous) (hother : x.unique? key = some other)
    (hmodule : x.moduleOf? other ≠ some module) (id : Nat) :
    x.addKey key module id =
      { x with
        byKey := x.byKey.filter fun entry => entry.1 != key
        ambiguous := x.ambiguous ++ [key] } := by
  rw [addKey, if_neg (by simpa using h)]
  simp only [hother]
  rw [if_neg hmodule]

/-- A key that no type has is added. -/
theorem addKey_of_none {x : TypeIndex} {key : String} (h : key ∉ x.ambiguous)
    (hnone : x.unique? key = none) (module : ModulePath) (id : Nat) :
    x.addKey key module id = { x with byKey := x.byKey ++ [(key, id)] } := by
  rw [addKey, if_neg (by simpa using h)]
  simp only [hnone]

/-- Registering a declaration of a new place. -/
theorem register_of_find?_eq_none {x : TypeIndex} {d : TypeDecl}
    (h : x.find? d.module d.name = none) :
    x.register d = (x.append d).addKey d.key d.module x.decls.length := by
  rw [register, if_neg (by simp [h])]

/-- Registering a declaration of a known place. -/
theorem register_of_find?_isSome {x : TypeIndex} {d : TypeDecl}
    (h : (x.find? d.module d.name).isSome) : x.register d = x := by
  rw [register, if_pos h]

/-- Registering a declaration adds it at the end of the list or leaves the list as it is. -/
theorem register_decls (x : TypeIndex) (d : TypeDecl) :
    (x.register d).decls =
      if (x.find? d.module d.name).isSome then x.decls else x.decls ++ [d] := by
  by_cases h : (x.find? d.module d.name).isSome
  · rw [register_of_find?_isSome h, if_pos h]
  · rw [register_of_find?_eq_none (by simpa using h), if_neg h]
    obtain ⟨byKey, ambiguous, heq⟩ :=
      addKey_eq (x.append d) d.key d.module x.decls.length
    rw [heq]
    rfl

/-- The place of a declaration that is not found has no type. -/
theorem Indexed.place_notMem {x : TypeIndex} {offers : List TypeDecl} {d : TypeDecl}
    (h : Indexed x offers) (hnew : x.find? d.module d.name = none) :
    d.place ∉ x.decls.map TypeDecl.place := by
  intro hmem
  obtain ⟨d', hd', hplace⟩ := List.mem_map.mp hmem
  obtain ⟨id, hid⟩ := List.mem_iff_getElem?.mp hd'
  have hfound := (h.find_iff d.module d.name id).mpr ⟨d', hid, hplace⟩
  rw [hnew] at hfound
  cases hfound

/-- A type of a list with one more at the end. -/
theorem getElem?_concat_iff {α : Type} {l : List α} {a b : α} {i : Nat} :
    (l ++ [a])[i]? = some b ↔ l[i]? = some b ∨ i = l.length ∧ b = a := by
  rw [List.getElem?_append]
  by_cases hi : i < l.length
  · rw [if_pos hi]
    exact ⟨Or.inl, fun h => h.elim id fun h => absurd h.1 (by omega)⟩
  · rw [if_neg hi, List.getElem?_eq_none (by omega : l.length ≤ i), List.getElem?_singleton]
    by_cases heq : i = l.length
    · rw [if_pos (by omega)]
      simp [heq, eq_comm]
    · rw [if_neg (by omega)]
      simp [heq]

/-- The list of types after a declaration of a new place. -/
theorem Indexed.register_list {x : TypeIndex} {offers : List TypeDecl} {d : TypeDecl}
    (h : Indexed x offers) (hnew : x.find? d.module d.name = none) :
    ((x.decls ++ [d]).map TypeDecl.place).Nodup ∧
      (∀ d' ∈ x.decls ++ [d], (offers ++ [d]).find? (fun o => o.place == d'.place) = some d') ∧
      (∀ o ∈ offers ++ [d], o.place ∈ (x.decls ++ [d]).map TypeDecl.place) := by
  have hplace := h.place_notMem hnew
  refine ⟨?_, ?_, ?_⟩
  · rw [List.map_append, List.map_singleton]
    exact List.nodup_append.mpr ⟨h.distinct, List.nodup_singleton _,
      fun a ha b hb heq => hplace (by rw [← List.mem_singleton.mp hb, ← heq]; exact ha)⟩
  · intro d' hd'
    rw [List.find?_append]
    rcases List.mem_append.mp hd' with hold | hlast
    · rw [h.first d' hold]
      rfl
    · rw [List.mem_singleton.mp hlast]
      have hnone : offers.find? (fun o => o.place == d.place) = none := by
        rw [List.find?_eq_none]
        intro o ho heq
        exact hplace (by rw [← beq_iff_eq.mp heq]; exact h.known o ho)
      rw [hnone]
      simp
  · intro o ho
    rw [List.map_append, List.mem_append]
    rcases List.mem_append.mp ho with hold | hlast
    · exact Or.inl (h.known o hold)
    · exact Or.inr (by rw [List.mem_singleton.mp hlast]; simp)

/-- Looking up places after a declaration of a new place. -/
theorem Indexed.append_find_iff {x : TypeIndex} {offers : List TypeDecl} {d : TypeDecl}
    (h : Indexed x offers) (hnew : x.find? d.module d.name = none) (module : ModulePath)
    (name : String) (id : Nat) :
    (x.append d).find? module name = some id ↔
      ∃ d', (x.append d).decls[id]? = some d' ∧ d'.place = (module, name) := by
  have hold := h.find_iff module name id
  simp only [append, find?, getElem?_concat_iff, lookup_concat] at *
  by_cases hsame : (module, name) = (d.module, d.name)
  · rw [hsame] at hold ⊢
    rw [hnew, if_pos (by simp), Option.none_or, Option.some.injEq]
    constructor
    · intro hid
      exact ⟨d, Or.inr ⟨hid.symm, rfl⟩, rfl⟩
    · rintro ⟨d', hd' | ⟨hid, -⟩, hplace⟩
      · rw [hnew] at hold
        exact absurd (hold.mpr ⟨d', hd', hplace⟩) (by simp)
      · exact hid.symm
  · rw [if_neg (by simpa using hsame), Option.or_none, hold]
    constructor
    · rintro ⟨d', hd', hplace⟩
      exact ⟨d', Or.inl hd', hplace⟩
    · rintro ⟨d', hd' | ⟨-, rfl⟩, hplace⟩
      · exact ⟨d', hd', hplace⟩
      · exact absurd hplace.symm hsame

/-- What adding the key of a new last declaration has to do to the indexes of keys: the other keys
stay as they are, and the key itself is found if no type had it and is ambiguous otherwise. -/
theorem Indexed.keys_of_concat {x x' : TypeIndex} {offers : List TypeDecl} {d : TypeDecl}
    (h : Indexed x offers) (hdecls : x'.decls = x.decls ++ [d])
    (hother : ∀ key, key ≠ d.key → x'.unique? key = x.unique? key ∧
      (key ∈ x'.ambiguous ↔ key ∈ x.ambiguous))
    (hunique : ∀ id, x'.unique? d.key = some id ↔ id = x.decls.length ∧ x.keyCount d.key = 0)
    (hambiguous : d.key ∈ x'.ambiguous ↔ 1 ≤ x.keyCount d.key) :
    (∀ key id, x'.unique? key = some id ↔
      (∃ d', x'.decls[id]? = some d' ∧ d'.key = key) ∧ x'.keyCount key = 1) ∧
    (∀ key, key ∈ x'.ambiguous ↔ 2 ≤ x'.keyCount key) := by
  have hcount := keyCount_concat hdecls
  constructor
  · intro key id
    rw [hcount, hdecls]
    simp only [getElem?_concat_iff]
    by_cases hkey : key = d.key
    · rw [hkey, hunique, if_pos rfl]
      constructor
      · rintro ⟨hid, hzero⟩
        exact ⟨⟨d, Or.inr ⟨hid, rfl⟩, rfl⟩, by omega⟩
      · rintro ⟨⟨d', hd' | ⟨hid, -⟩, hkey'⟩, hone⟩
        · have hzero := keyCount_eq_zero.mp (by omega : x.keyCount d.key = 0)
          exact absurd hkey' (hzero d' (List.mem_of_getElem? hd'))
        · exact ⟨hid, by omega⟩
    · rw [(hother key hkey).1, h.unique_iff, if_neg (Ne.symm hkey), Nat.add_zero]
      constructor
      · rintro ⟨⟨d', hd', hkey'⟩, hone⟩
        exact ⟨⟨d', Or.inl hd', hkey'⟩, hone⟩
      · rintro ⟨⟨d', hd' | ⟨-, rfl⟩, hkey'⟩, hone⟩
        · exact ⟨⟨d', hd', hkey'⟩, hone⟩
        · exact absurd hkey'.symm hkey
  · intro key
    rw [hcount]
    by_cases hkey : key = d.key
    · rw [hkey, hambiguous, if_pos rfl]
      omega
    · rw [(hother key hkey).2, h.ambiguous_iff, if_neg (Ne.symm hkey), Nat.add_zero]

/-- The type that alone has the key of a declaration of a new place stands in another module. -/
theorem Indexed.moduleOf?_ne {x : TypeIndex} {offers : List TypeDecl} {d : TypeDecl}
    (h : Indexed x offers) (hnew : x.find? d.module d.name = none) {other : Nat}
    (hother : x.unique? d.key = some other) :
    (x.append d).moduleOf? other ≠ some d.module := by
  obtain ⟨⟨d', hd', hkey⟩, -⟩ := (h.unique_iff d.key other).mp hother
  have hget : (x.append d).decls[other]? = some d' := getElem?_concat_iff.mpr (Or.inl hd')
  rw [moduleOf?, hget, Option.map_some, ne_eq, Option.some.injEq]
  intro hmodule
  apply h.place_notMem hnew
  rw [← place_eq_of_key_eq hmodule hkey]
  exact List.mem_map_of_mem (List.mem_of_getElem? hd')

/-- A key that fewer than two types have is not ambiguous. -/
theorem Indexed.notMem_ambiguous {x : TypeIndex} {offers : List TypeDecl} (h : Indexed x offers)
    {key : String} (hcount : x.keyCount key < 2) : key ∉ x.ambiguous := by
  rw [h.ambiguous_iff]
  omega

/-- Registering a declaration of a new place keeps the indexes of keys right. -/
theorem Indexed.register_keys {x : TypeIndex} {offers : List TypeDecl} {d : TypeDecl}
    (h : Indexed x offers) (hnew : x.find? d.module d.name = none) :
    (∀ key id, (x.register d).unique? key = some id ↔
      (∃ d', (x.register d).decls[id]? = some d' ∧ d'.key = key) ∧
        (x.register d).keyCount key = 1) ∧
    (∀ key, key ∈ (x.register d).ambiguous ↔ 2 ≤ (x.register d).keyCount key) := by
  have hdecls : (x.register d).decls = x.decls ++ [d] := by
    rw [register_decls, if_neg (by simp [hnew])]
  have hunique := h.unique_iff d.key
  have hcount : 2 ≤ x.keyCount d.key ∨ x.keyCount d.key = 1 ∨ x.keyCount d.key = 0 := by omega
  rcases hcount with htwo | hone | hzero
  -- the key was dropped before and stays so
  · have hmem : d.key ∈ (x.append d).ambiguous := (h.ambiguous_iff d.key).mpr htwo
    have hregister : x.register d = x.append d := by
      rw [register_of_find?_eq_none hnew, addKey_of_mem hmem]
    rw [hregister] at hdecls ⊢
    refine h.keys_of_concat hdecls (fun key _ => ⟨rfl, Iff.rfl⟩) (fun id => ?_) ?_
    · exact ⟨fun hid => absurd ((hunique id).mp hid).2 (by omega), fun hid => by omega⟩
    · exact ⟨fun _ => by omega, fun _ => hmem⟩
  -- one type has the key, which stands in another module, and the key is dropped
  · have hmem : d.key ∉ (x.append d).ambiguous := h.notMem_ambiguous (by omega)
    obtain ⟨other, d', hd', hkey⟩ := keyCount_pos_iff.mp (by omega : 0 < x.keyCount d.key)
    have hother : x.unique? d.key = some other := (hunique other).mpr ⟨⟨d', hd', hkey⟩, hone⟩
    have hregister := register_of_find?_eq_none hnew
    rw [addKey_of_unique hmem hother (h.moduleOf?_ne hnew hother)] at hregister
    rw [hregister] at hdecls ⊢
    refine h.keys_of_concat hdecls (fun key hkey => ⟨?_, ?_⟩) (fun id => ?_) ?_
    · rw [unique?, lookup_filter_bne, if_neg hkey]
      rfl
    · rw [List.mem_append, List.mem_singleton, or_iff_left hkey]
      rfl
    · rw [unique?, lookup_filter_bne, if_pos rfl]
      exact ⟨fun hid => absurd hid (by simp), fun hid => by omega⟩
    · exact ⟨fun _ => by omega, fun _ => List.mem_append_right _ (List.mem_singleton.mpr rfl)⟩
  -- no type has the key, and the declaration is found by it
  · have hmem : d.key ∉ (x.append d).ambiguous := h.notMem_ambiguous (by omega)
    have hnone : x.unique? d.key = none := by
      rw [Option.eq_none_iff_forall_ne_some]
      intro id hid
      have := ((hunique id).mp hid).2
      omega
    have hregister := register_of_find?_eq_none hnew
    rw [addKey_of_none hmem hnone] at hregister
    rw [hregister] at hdecls ⊢
    refine h.keys_of_concat hdecls (fun key hkey => ⟨?_, Iff.rfl⟩) (fun id => ?_) ?_
    · rw [unique?, lookup_concat, if_neg (by simpa using hkey), Option.or_none]
      rfl
    · rw [unique?, lookup_concat, if_pos (by simp)]
      have hlookup : (x.append d).byKey.lookup d.key = none := hnone
      rw [hlookup, Option.none_or, Option.some.injEq]
      exact ⟨fun hid => ⟨hid.symm, hzero⟩, fun hid => hid.1.symm⟩
    · exact ⟨fun hamb => absurd hamb hmem, fun hpos => by omega⟩

/-- **Registering.** A declaration that is registered keeps the indexes right. -/
theorem register_indexed {x : TypeIndex} {offers : List TypeDecl} (h : Indexed x offers)
    (d : TypeDecl) : Indexed (x.register d) (offers ++ [d]) := by
  by_cases hfound : (x.find? d.module d.name).isSome
  · rw [register_of_find?_isSome hfound]
    obtain ⟨id, hid⟩ := Option.isSome_iff_exists.mp hfound
    obtain ⟨d', hd', hplace⟩ := (h.find_iff d.module d.name id).mp hid
    refine ⟨h.distinct, ?_, ?_, h.find_iff, h.unique_iff, h.ambiguous_iff⟩
    · intro d'' hd''
      rw [List.find?_append, h.first d'' hd'']
      rfl
    · intro o ho
      rcases List.mem_append.mp ho with hold | hlast
      · exact h.known o hold
      · rw [List.mem_singleton.mp hlast]
        exact List.mem_map.mpr ⟨d', List.mem_of_getElem? hd', hplace⟩
  · have hnew : x.find? d.module d.name = none := by simpa using hfound
    obtain ⟨hdistinct, hfirst, hknown⟩ := h.register_list hnew
    obtain ⟨hunique, hambiguous⟩ := h.register_keys hnew
    have hfind := h.append_find_iff hnew
    obtain ⟨byKey, ambiguous, heq⟩ := addKey_eq (x.append d) d.key d.module x.decls.length
    rw [← register_of_find?_eq_none hnew] at heq
    rw [heq] at hunique hambiguous ⊢
    exact ⟨hdistinct, hfirst, hknown, hfind, hunique, hambiguous⟩

/-- Registering declarations one after the other keeps the indexes right. -/
theorem foldl_register_indexed {x : TypeIndex} {offers : List TypeDecl} (h : Indexed x offers)
    (ds : List TypeDecl) : Indexed (ds.foldl register x) (offers ++ ds) := by
  induction ds generalizing x offers with
  | nil => simpa using h
  | cons d ds ih =>
    rw [List.foldl_cons, List.append_cons]
    exact ih (register_indexed h d)

/-! ## The order of registration -/

/-- The path of the type that alone has a short key. -/
def keyPath? (x : TypeIndex) (key : String) : Option ModulePath :=
  (x.unique? key).bind fun id => x.decls[id]?.map TypeDecl.path

/-- The places that have a type are those that a declaration was offered for. -/
theorem Indexed.mem_places {x : TypeIndex} {offers : List TypeDecl} (h : Indexed x offers)
    (place : ModulePath × String) :
    place ∈ x.decls.map TypeDecl.place ↔ place ∈ offers.map TypeDecl.place := by
  constructor
  · intro hmem
    obtain ⟨d, hd, rfl⟩ := List.mem_map.mp hmem
    exact List.mem_map_of_mem (List.mem_of_find?_eq_some (h.first d hd))
  · intro hmem
    obtain ⟨o, ho, rfl⟩ := List.mem_map.mp hmem
    exact h.known o ho

/-- A short key is found if exactly one type has it. -/
theorem Indexed.unique?_isSome_iff {x : TypeIndex} {offers : List TypeDecl} (h : Indexed x offers)
    (key : String) : (x.unique? key).isSome ↔ x.keyCount key = 1 := by
  constructor
  · intro hsome
    obtain ⟨id, hid⟩ := Option.isSome_iff_exists.mp hsome
    exact ((h.unique_iff key id).mp hid).2
  · intro hone
    obtain ⟨id, d, hd, hkey⟩ := keyCount_pos_iff.mp (by omega : 0 < x.keyCount key)
    rw [(h.unique_iff key id).mpr ⟨⟨d, hd, hkey⟩, hone⟩]
    rfl

/-- A short key is found for a type if no other type has it. -/
theorem Indexed.unique_iff_forall {x : TypeIndex} {offers : List TypeDecl} (h : Indexed x offers)
    (key : String) (id : Nat) :
    x.unique? key = some id ↔ (∃ d, x.decls[id]? = some d ∧ d.key = key) ∧
      ∀ (other : Nat) (d : TypeDecl), x.decls[other]? = some d → d.key = key → other = id := by
  rw [h.unique_iff]
  refine and_congr_right ?_
  rintro ⟨d, hd, hkey⟩
  have hpos := keyCount_pos_iff.mpr ⟨id, d, hd, hkey⟩
  constructor
  · intro hone other d' hd' hkey'
    exact countP_le_one_iff.mp (by omega : x.keyCount key ≤ 1) other id d' d hd' hd
      (by simpa using hkey') (by simpa using hkey)
  · intro honly
    have hle : x.keyCount key ≤ 1 := countP_le_one_iff.mpr fun i j a b hi hj ha hb => by
      rw [honly i a hi (by simpa using ha), honly j b hj (by simpa using hb)]
    omega

/-- A short key that is found denotes the path of the one place that has it. -/
theorem Indexed.keyPath?_eq_some_iff {x : TypeIndex} {offers : List TypeDecl}
    (h : Indexed x offers) (key : String) (path : ModulePath) :
    x.keyPath? key = some path ↔ x.keyCount key = 1 ∧
      ∃ place ∈ x.decls.map TypeDecl.place,
        shortKey (ModulePath.lastSegment place.1) place.2 = key ∧
          place.1 ++ "::" ++ place.2 = path := by
  simp only [keyPath?, Option.bind_eq_some_iff, Option.map_eq_some_iff, List.mem_map]
  constructor
  · rintro ⟨id, hid, d, hd, rfl⟩
    obtain ⟨⟨d', hd', hkey⟩, hone⟩ := (h.unique_iff key id).mp hid
    rw [hd, Option.some.injEq] at hd'
    exact ⟨hone, d.place, ⟨d, List.mem_of_getElem? hd, rfl⟩, hd' ▸ hkey, rfl⟩
  · rintro ⟨hone, place, ⟨d, hd, rfl⟩, hkey, rfl⟩
    obtain ⟨id, hid⟩ := List.mem_iff_getElem?.mp hd
    exact ⟨id, (h.unique_iff key id).mpr ⟨⟨d, hid, hkey⟩, hone⟩, d, hid, rfl⟩

/-- **Order of registration.** Which short keys are found, which are ambiguous and which paths they
denote depends on the places alone that declarations were offered for. -/
theorem Indexed.keys_eq {x x' : TypeIndex} {offers offers' : List TypeDecl} (h : Indexed x offers)
    (h' : Indexed x' offers')
    (hsame : ∀ place, place ∈ offers.map TypeDecl.place ↔ place ∈ offers'.map TypeDecl.place)
    (key : String) :
    ((x.unique? key).isSome ↔ (x'.unique? key).isSome) ∧ x.keyPath? key = x'.keyPath? key ∧
      (key ∈ x.ambiguous ↔ key ∈ x'.ambiguous) := by
  have hperm : (x.decls.map TypeDecl.place).Perm (x'.decls.map TypeDecl.place) :=
    (List.perm_ext_iff_of_nodup h.distinct h'.distinct).mpr fun place => by
      rw [h.mem_places, h'.mem_places, hsame]
  have hcount : x.keyCount key = x'.keyCount key := by
    have := hperm.countP_eq fun place => shortKey (ModulePath.lastSegment place.1) place.2 == key
    rw [List.countP_map, List.countP_map] at this
    exact this
  refine ⟨?_, ?_, ?_⟩
  · rw [h.unique?_isSome_iff, h'.unique?_isSome_iff, hcount]
  · apply Option.ext
    intro path
    rw [h.keyPath?_eq_some_iff, h'.keyPath?_eq_some_iff, hcount]
    simp only [hperm.mem_iff]
  · rw [h.ambiguous_iff, h'.ambiguous_iff, hcount]

end TypeIndex

namespace Catalog

/-! ## Adding units -/

/-- All declarations of units, in the order in which they are registered. -/
def offered (us : List SourceUnit) : List TypeDecl :=
  us.zipIdx.flatMap fun (u, n) => declsOf u n

theorem offered_concat (us : List SourceUnit) (u : SourceUnit) :
    offered (us ++ [u]) = offered us ++ declsOf u us.length := by
  rw [offered, List.zipIdx_append, List.flatMap_append]
  simp [offered]

/-- The declarations of units name the unit that has them. -/
theorem mem_offered {us : List SourceUnit} {o : TypeDecl} :
    o ∈ offered us ↔
      ∃ u, us[o.unit]? = some u ∧ u.module = o.module ∧ ⟨o.name, o.body⟩ ∈ u.types := by
  rw [offered, List.mem_flatMap]
  constructor
  · rintro ⟨⟨u, n⟩, hu, ho⟩
    obtain ⟨⟨name, body⟩, htype, rfl⟩ := List.mem_map.mp ho
    exact ⟨u, List.mem_zipIdx_iff_getElem?.mp hu, rfl, htype⟩
  · rintro ⟨u, hu, hmodule, htype⟩
    refine ⟨(u, o.unit), List.mem_zipIdx_iff_getElem?.mpr hu, List.mem_map.mpr ⟨_, htype, ?_⟩⟩
    rw [hmodule]

/-- The places that units offer declarations for do not depend on the order of the units. -/
theorem mem_places_offered_of_perm {us us' : List SourceUnit} (h : us.Perm us')
    {place : ModulePath × String} (hmem : place ∈ (offered us).map TypeDecl.place) :
    place ∈ (offered us').map TypeDecl.place := by
  obtain ⟨o, ho, rfl⟩ := List.mem_map.mp hmem
  obtain ⟨u, hu, hmodule, htype⟩ := mem_offered.mp ho
  obtain ⟨n, hn⟩ := List.mem_iff_getElem?.mp (h.mem_iff.mp (List.mem_of_getElem? hu))
  exact List.mem_map.mpr ⟨⟨o.name, o.module, o.body, n⟩,
    mem_offered.mpr ⟨u, hn, hmodule, htype⟩, rfl⟩

/-- The index of a catalog is that of the declarations of its units. -/
def IsIndexed (c : Catalog) : Prop :=
  c.toTypeIndex.Indexed (offered c.units)

/-- The files that were read have no part in the index. -/
theorem IsIndexed.withFiles {c : Catalog} (h : c.IsIndexed) (files : List FilePath) :
    { c with files }.IsIndexed := h

/-- Adding a unit keeps the index right. -/
theorem addUnit_isIndexed {c : Catalog} (h : c.IsIndexed) (u : SourceUnit) :
    (c.addUnit u).IsIndexed := by
  show TypeIndex.Indexed _ (offered (c.units ++ [u]))
  rw [offered_concat]
  exact TypeIndex.foldl_register_indexed h (declsOf u c.units.length)

/-- **Adding units.** Units that are added keep the index right. -/
theorem addUnits_isIndexed {c : Catalog} (h : c.IsIndexed) (us : List SourceUnit) :
    (c.addUnits us).IsIndexed := by
  induction us generalizing c with
  | nil => exact h
  | cons u us ih => exact ih (addUnit_isIndexed h u)

/-- The index of a catalog without units is right. -/
theorem empty_isIndexed : ({} : Catalog).IsIndexed := by
  constructor <;> simp [offered, TypeIndex.find?, TypeIndex.unique?, TypeIndex.keyCount]

end Catalog

end ApiDocs
