import ApiDocs.Proofs.Assembly.SourceOrder
import ApiDocs.Proofs.ModulePath
import Mathlib.Data.List.Basic

/-!
# Putting the modules of a file together

The declarations of a file are read from the unit of the file itself, and where a module is marked,
from the first unit of the file that has the path of the module. This finds the module that is
written there if its name is its own, and the first module of that name otherwise (`Block.child`).
Hence documentation is read in the order of the source, each piece once, exactly if the outline of
the file is unambiguous (`Block.visits_eq_readsAll_iff`).
-/

namespace ApiDocs.Assembly

open Source ModulePath

/-! ## Units of an outline in a catalog -/

/-- Whether units with some contents are in a catalog, numbered from `n` on. -/
def Stands (c : Catalog) (n : Nat) (us : List Contents) : Prop :=
  ∀ i u, us[i]? = some u → c.units[n + i]?.map contents = some u

variable {c : Catalog} {start count n : Nat} {module : ModulePath} {parts before after : List Part}

/-- What stands in a catalog from a number on, its first part stands there, too. -/
theorem Stands.left {us others : List Contents} (h : Stands c n (us ++ others)) :
    Stands c n us := by
  intro i u hi
  apply h
  rw [List.getElem?_append_left (List.getElem?_eq_some_iff.mp hi).1, hi]

/-- The second part stands behind the first one. -/
theorem Stands.right {us others : List Contents} (h : Stands c n (us ++ others)) :
    Stands c (n + us.length) others := by
  intro i u hi
  have hboth : (us ++ others)[us.length + i]? = some u := by
    rw [List.getElem?_append_right (Nat.le_add_right _ _), Nat.add_sub_cancel_left, hi]
  rw [Nat.add_assoc]
  exact h (us.length + i) u hboth

/-- The units of the parts of a module follow its own. -/
theorem Stands.tail (h : Stands c n (blockUnits module parts)) :
    Stands c (n + 1) (partUnits module parts) := by
  rw [blockUnits, ← List.singleton_append] at h
  exact h.right

/-- The first unit of a block is that of its module. -/
theorem Stands.exists_unit (h : Stands c n (blockUnits module parts)) :
    ∃ u, c.units[n]? = some u ∧ u.module = module ∧ u.decls = parts.map (Part.decl module) := by
  obtain ⟨u, hu, heq⟩ := Option.map_eq_some_iff.mp (h 0 _ rfl)
  exact ⟨u, hu, congrArg Prod.fst heq, congrArg Prod.snd heq⟩

mutual

/-- The units of a part are those of a module that is written there, and of the ones inside. -/
theorem below_of_mem_units {module : ModulePath} {u : Contents} : ∀ {part : Part},
    u ∈ part.units module → ∃ word inner, part = .module word inner ∧
      Below (join module word.text) u.1
  | .doc _ _, h => nomatch h
  | .module word inner, h => by
    refine ⟨word, inner, rfl, ?_⟩
    rw [Part.units] at h
    rcases List.mem_cons.mp h with rfl | hinner
    · exact Below.refl _
    · obtain ⟨word', _, _, hbelow⟩ := below_of_mem_partUnits hinner
      exact (below_join _ word'.text).trans hbelow

/-- The path of a unit of a module lies below the path of the module's part that it comes from. -/
theorem below_of_mem_partUnits {module : ModulePath} {u : Contents} : ∀ {parts : List Part},
    u ∈ partUnits module parts → ∃ word inner, .module word inner ∈ parts ∧
      Below (join module word.text) u.1
  | [], h => nomatch h
  | part :: rest, h => by
    rw [partUnits, List.mem_append] at h
    rcases h with hpart | hrest
    · obtain ⟨word, inner, rfl, hbelow⟩ := below_of_mem_units hpart
      exact ⟨word, inner, List.mem_cons_self, hbelow⟩
    · obtain ⟨word, inner, hmem, hbelow⟩ := below_of_mem_partUnits hrest
      exact ⟨word, inner, List.mem_cons_of_mem part hmem, hbelow⟩

end

/-! ## Finding modules -/

/-- A module with what is written in it, among the `count` units of a file from `start` on. The
module has the number `n`, and no unit of the file before it has its path or one below. -/
structure Block (c : Catalog) (start count n : Nat) (module : ModulePath) (parts : List Part) :
    Prop where
  /-- Its units. -/
  stands : Stands c n (blockUnits module parts)
  /-- The units before it. -/
  fresh : ∀ id u, start ≤ id → id < n → c.units[id]? = some u → ¬ Below module u.module
  /-- The file starts before it. -/
  start_le : start ≤ n
  /-- The file ends after it. -/
  le_end : n + (partsSize parts + 1) ≤ start + count

namespace Block

/-- A module is found by its path. -/
theorem find_eq (h : Block c start count n module parts) :
    unitOfModule? c (List.range' start count) module = some n := by
  obtain ⟨u, hu, hmodule, -⟩ := h.stands.exists_unit
  have hend := h.le_end
  refine List.find?_range'_eq_some.mpr ⟨?_, ?_, ?_⟩
  · rw [hu, Option.map_some, hmodule, beq_self_eq_true]
  · exact List.mem_range'_1.mpr ⟨h.start_le, by omega⟩
  · intro id hstart hlt
    rw [Bool.not_eq_true', beq_eq_false_iff_ne]
    intro heq
    obtain ⟨u', hu', hmodule'⟩ := Option.map_eq_some_iff.mp heq
    exact h.fresh id u' hstart hlt hu' (hmodule' ▸ Below.refl _)

/-- **Inner modules.** The first module of a name among those written in a module is found by its
path. -/
theorem child {word : Word} {inner : List Part}
    (h : Block c start count n module (before ++ .module word inner :: after))
    (hfirst : ∀ part ∈ before, ¬ isNamed word.text part) :
    Block c start count (n + 1 + partsSize before) (join module word.text) inner := by
  have hparts := h.stands.tail
  rw [partUnits_append] at hparts
  have hbefore : Stands c (n + 1) (partUnits module before) := hparts.left
  have hafter := hparts.right
  rw [length_partUnits, partUnits] at hafter
  refine ⟨hafter.left, ?_, ?_, ?_⟩
  · intro id u hstart hlt hu hbelow
    rcases Nat.lt_trichotomy id n with hless | rfl | hgreater
    -- the units before the outer module are not below it, let alone below this one
    · exact h.fresh id u hstart hless hu ((below_join module word.text).trans hbelow)
    · obtain ⟨u', hu', hmodule, -⟩ := h.stands.exists_unit
      obtain rfl : u = u' := Option.some.inj (hu.symm.trans hu')
      rw [hmodule] at hbelow
      exact not_below_join module word.valid hbelow
    -- all others are in modules that are written before this one and have other names
    · have hindex : id - (n + 1) < (partUnits module before).length := by
        rw [length_partUnits]
        omega
      have hunit := hbefore _ _ (List.getElem?_eq_getElem hindex)
      rw [show n + 1 + (id - (n + 1)) = id by omega, hu, Option.map_some,
        Option.some.injEq] at hunit
      have hmem := List.getElem_mem hindex
      rw [← hunit] at hmem
      obtain ⟨word', inner', hother, hbelow'⟩ := below_of_mem_partUnits hmem
      have hname : word'.text = word.text := Below.name_eq word'.valid word.valid hbelow' hbelow
      exact hfirst _ hother (beq_iff_eq.mpr hname)
  · have hle := h.start_le
    omega
  · have hend := h.le_end
    rw [partsSize_append, partsSize, partSize] at hend
    omega

end Block

/-! ## What is read for a part -/

/-- What is read for a declaration of the unit with the number `n`. -/
def visited (c : Catalog) (units : List Nat) (depth n : Nat) : Decl → List Visit
  | .module path =>
    match unitOfModule? c units path with
    | some inner => visits c units depth inner
    | none => []
  | decl => [⟨n, decl⟩]

theorem visits_succ (c : Catalog) (units : List Nat) (depth n : Nat) :
    visits c units (depth + 1) n =
      ((c.units[n]?.map SourceUnit.decls).getD []).flatMap (visited c units depth n) := rfl

/-- Whether a declaration is documentation. -/
def isDoc : Decl → Bool
  | .module _ => false
  | _ => true

/-- Documentation is read in its own unit. -/
theorem visited_of_isDoc (c : Catalog) (units : List Nat) (depth n : Nat) {decl : Decl}
    (h : isDoc decl) : visited c units depth n decl = [⟨n, decl⟩] := by
  cases decl with
  | general lines => rfl
  | operation name lines => rfl
  | module path => exact absurd h Bool.false_ne_true

/-- For a declaration, itself is read, or another one of the units. -/
theorem mem_visited {units : List Nat} {depth : Nat} {decl : Decl} {v : Visit}
    (h : v ∈ visited c units depth n decl) :
    (isDoc decl ∧ v = ⟨n, decl⟩) ∨
      ∃ inner ∈ units, visited c units depth n decl = visits c units depth inner := by
  by_cases hdoc : isDoc decl
  · rw [visited_of_isDoc _ _ _ _ hdoc, List.mem_singleton] at h
    exact Or.inl ⟨hdoc, h⟩
  · cases decl with
    | general lines => exact absurd rfl hdoc
    | operation name lines => exact absurd rfl hdoc
    | module path =>
      rw [visited] at h ⊢
      cases hfind : unitOfModule? c units path with
      | none =>
        rw [hfind] at h
        exact nomatch h
      | some inner => exact Or.inr ⟨inner, List.mem_of_find?_eq_some hfind, rfl⟩

theorem isDoc_docDecl (operation : Option String) (lines : List String) :
    isDoc (docDecl operation lines) := by
  cases operation <;> rfl

theorem Block.visits_succ (h : Block c start count n module parts) (units : List Nat)
    (depth : Nat) : visits c units (depth + 1) n =
      parts.flatMap fun part => visited c units depth n (part.decl module) := by
  obtain ⟨u, hu, -, hdecls⟩ := h.stands.exists_unit
  rw [Assembly.visits_succ, hu, Option.map_some, Option.getD_some, hdecls, List.flatMap_map]

/-- For a part, itself is read, or the first module of its name. -/
theorem Block.visited_cases (h : Block c start count n module parts) {part : Part}
    (hpart : part ∈ parts) (depth : Nat) :
    (∃ operation lines, part = .doc operation lines) ∨
    ∃ before word inner after, parts = before ++ .module word inner :: after ∧
      isNamed word.text part ∧ (∀ part ∈ before, ¬ isNamed word.text part) ∧
      visited c (List.range' start count) depth n (part.decl module) =
        visits c (List.range' start count) depth (n + 1 + partsSize before) := by
  cases part with
  | doc operation lines => exact Or.inl ⟨operation, lines, rfl⟩
  | module word' inner' =>
    have hself : isNamed word'.text (.module word' inner') := beq_self_eq_true _
    obtain ⟨before, word, inner, after, rfl, hname, hfirst⟩ :=
      exists_first_named ⟨_, hpart, hself⟩
    refine Or.inr ⟨before, word, inner, after, rfl, hname ▸ hself, hname ▸ hfirst, ?_⟩
    rw [Part.decl, visited, ← hname, (h.child (hname ▸ hfirst)).find_eq]

/-- What is read from a module belongs to its units. -/
theorem Block.unit_of_mem_visits (h : Block c start count n module parts) {depth : Nat} {v : Visit}
    (hv : v ∈ visits c (List.range' start count) depth n) :
    n ≤ v.unit ∧ v.unit < n + (partsSize parts + 1) := by
  induction depth generalizing n module parts with
  | zero => exact nomatch hv
  | succ depth ih =>
    rw [h.visits_succ] at hv
    obtain ⟨part, hpart, hvisited⟩ := List.mem_flatMap.mp hv
    rcases h.visited_cases hpart depth with ⟨operation, lines, rfl⟩ |
      ⟨before, word, inner, after, rfl, -, hfirst, heq⟩
    · rw [Part.decl, visited_of_isDoc _ _ _ _ (isDoc_docDecl operation lines),
        List.mem_singleton] at hvisited
      rw [hvisited]
      simp only
      omega
    · rw [heq] at hvisited
      have hinner := ih (h.child hfirst) hvisited
      rw [partsSize_append, partsSize, partSize]
      omega

/-! ## Unambiguous outlines -/

theorem exists_named_of_not_first {name : String}
    (h : ¬ ∀ part ∈ before, ¬ isNamed name part) : ∃ part ∈ before, isNamed name part := by
  simpa using h

/-- A module that is not the first of its name is not the only one. -/
theorem one_lt_countP_of_not_first {word : Word} (inner after : List Part)
    (h : ¬ ∀ part ∈ before, ¬ isNamed word.text part) :
    1 < (before ++ .module word inner :: after).countP (isNamed word.text) := by
  have hself : isNamed word.text (.module word inner) := beq_self_eq_true _
  have hbefore := List.countP_pos_iff.mpr (exists_named_of_not_first h)
  rw [List.countP_append, List.countP_cons_of_pos hself]
  omega

/-- In an unambiguous outline, what is read for a part is what is written there. -/
theorem Block.visited_eq_reads {depth : Nat} {part : Part}
    (ih : ∀ {n module parts}, Block c start count n module parts → partsSize parts < depth →
      isUnambiguous parts → visits c (List.range' start count) depth n = readsAll n (n + 1) parts)
    (h : Block c start count n module (before ++ part :: after))
    (hdepth : partsSize (before ++ part :: after) < depth + 1)
    (hclear : isUnambiguous (before ++ part :: after)) :
    visited c (List.range' start count) depth n (part.decl module) =
      reads n (n + 1 + partsSize before) part := by
  rw [isUnambiguous_iff] at hclear
  cases part with
  | doc operation lines => exact visited_of_isDoc c _ depth n (isDoc_docDecl operation lines)
  | module word inner =>
    obtain ⟨hone, hinner⟩ := hclear word inner (by simp)
    rw [partsSize_append, partsSize, partSize] at hdepth
    rw [reads, Part.decl, visited]
    by_cases hfirst : ∀ part ∈ before, ¬ isNamed word.text part
    · rw [(h.child hfirst).find_eq]
      exact ih (h.child hfirst) (by omega) hinner
    -- the first module of that name is read instead, and both are silent
    · obtain ⟨before₁, word₁, inner₁, after₁, rfl, hname, hfirst₁⟩ :=
        exists_first_named (exists_named_of_not_first hfirst)
      have hlt := one_lt_countP_of_not_first inner after hfirst
      have hsilent : allSilent inner := hone.resolve_left (by omega)
      obtain ⟨hone₁, hinner₁⟩ := hclear word₁ inner₁ (by simp)
      have hsilent₁ : allSilent inner₁ := hone₁.resolve_left (by rw [hname]; omega)
      rw [List.append_assoc, List.cons_append] at h
      have hchild := h.child (hname ▸ hfirst₁)
      rw [partsSize_append, partsSize, partSize] at hdepth
      rw [← hname, hchild.find_eq, (readsAll_eq_nil_iff _ _ inner).mpr hsilent]
      simp only
      rw [ih hchild (by omega) hinner₁, (readsAll_eq_nil_iff _ _ inner₁).mpr hsilent₁]

/-- An unambiguous outline is read in the order of the source. -/
theorem Block.visits_eq_readsAll {depth : Nat} (h : Block c start count n module parts)
    (hdepth : partsSize parts < depth) (hclear : isUnambiguous parts) :
    visits c (List.range' start count) depth n = readsAll n (n + 1) parts := by
  induction depth generalizing n module parts with
  | zero => exact absurd hdepth (Nat.not_lt_zero _)
  | succ depth ih =>
    -- part by part, keeping in mind which parts come before
    have hrest : ∀ before rest, parts = before ++ rest →
        (rest.flatMap fun part =>
          visited c (List.range' start count) depth n (part.decl module)) =
            readsAll n (n + 1 + partsSize before) rest := by
      intro before rest
      induction rest generalizing before with
      | nil => exact fun _ => rfl
      | cons part rest ihrest =>
        intro heq
        have hpart := Block.visited_eq_reads ih (heq ▸ h) (heq ▸ hdepth) (heq ▸ hclear)
        have hothers := ihrest (before ++ [part]) (by rw [heq, List.append_cons])
        have hsize : partsSize (before ++ [part]) = partsSize before + partSize part :=
          partsSize_append before [part]
        rw [hsize, ← Nat.add_assoc] at hothers
        rw [List.flatMap_cons, hpart, hothers, readsAll]
    rw [h.visits_succ]
    exact hrest [] parts rfl

/-! ## Reading once -/

/-- What documentation some declarations of a unit have. -/
def docReads (unit : Nat) (decls : List Decl) : List Visit :=
  (decls.filter isDoc).map fun decl => ⟨unit, decl⟩

/-- What documentation a unit has of its own. -/
def ownReads (c : Catalog) (unit : Nat) : List Visit :=
  docReads unit ((c.units[unit]?.map SourceUnit.decls).getD [])

theorem docReads_append (unit : Nat) (decls others : List Decl) :
    docReads unit (decls ++ others) = docReads unit decls ++ docReads unit others := by
  rw [docReads, List.filter_append, List.map_append]
  rfl

/-- Whether something is read from a unit. -/
def isOf (unit : Nat) (v : Visit) : Bool :=
  v.unit == unit

/-- What a unit reads itself is the documentation of its parts. -/
theorem Stands.ownReads_eq (h : Stands c n (blockUnits module parts)) :
    ownReads c n = docReads n (parts.map (Part.decl module)) := by
  obtain ⟨u, hu, -, hdecls⟩ := h.exists_unit
  rw [ownReads, hu, Option.map_some, Option.getD_some, hdecls]

mutual

/-- What is read in a part and belongs to a unit is what this unit reads itself. -/
theorem filter_reads {module : ModulePath} {unit next : Nat} (id : Nat) (hnext : unit < next) :
    ∀ {part : Part}, Stands c next (part.units module) →
      (reads unit next part).filter (isOf id) =
        if id = unit then docReads unit [part.decl module]
        else if next ≤ id ∧ id < next + partSize part then ownReads c id else []
  | .doc operation lines, _ => by
    have hdoc : isDoc ((Part.doc operation lines).decl module) := isDoc_docDecl operation lines
    have hreads : docReads unit [(Part.doc operation lines).decl module] =
        reads unit next (.doc operation lines) := by
      rw [docReads, List.filter_cons_of_pos hdoc]
      rfl
    rw [hreads, partSize]
    by_cases hid : id = unit
    · rw [if_pos hid, reads]
      simp [isOf, hid]
    · rw [if_neg hid, if_neg (by omega), reads]
      simp [isOf, Ne.symm hid]
  | .module word parts, h => by
    have hown := Stands.ownReads_eq h
    have hinner := filter_readsAll id (Nat.lt_succ_self next) (Stands.tail h)
    rw [reads, hinner, partSize]
    by_cases hunit : id = unit
    · rw [if_pos hunit, if_neg (by omega), if_neg (by omega)]
      rfl
    · rw [if_neg hunit]
      by_cases hid : id = next
      · rw [if_pos hid, if_pos (by omega), hid, hown]
      · rw [if_neg hid]
        exact if_congr (by omega) rfl rfl

/-- In the order of the source, each unit has its own documentation. -/
theorem filter_readsAll {module : ModulePath} {unit next : Nat} (id : Nat) (hnext : unit < next) :
    ∀ {parts : List Part}, Stands c next (partUnits module parts) →
      (readsAll unit next parts).filter (isOf id) =
        if id = unit then docReads unit (parts.map (Part.decl module))
        else if next ≤ id ∧ id < next + partsSize parts then ownReads c id else []
  | [], _ => by
    rw [readsAll, partsSize]
    split_ifs
    · rfl
    · omega
    · rfl
  | part :: rest, h => by
    rw [partUnits] at h
    have hrest := h.right
    rw [length_units] at hrest
    rw [readsAll, List.filter_append, filter_reads id hnext h.left,
      filter_readsAll id (by omega) hrest, partsSize]
    by_cases hid : id = unit
    · rw [if_pos hid, if_pos hid, if_pos hid, ← docReads_append, List.singleton_append,
        List.map_cons]
    · rw [if_neg hid, if_neg hid, if_neg hid]
      by_cases hpart : next ≤ id ∧ id < next + partSize part
      · rw [if_pos hpart, if_neg (by omega), if_pos (by omega), List.append_nil]
      · rw [if_neg hpart, List.nil_append]
        exact if_congr (by omega) rfl rfl

end

/-- Each unit of a module has its own documentation there, and no other unit has any. -/
theorem Stands.filter_readsAll_eq (h : Stands c n (blockUnits module parts)) (id : Nat) :
    (readsAll n (n + 1) parts).filter (isOf id) =
      if n ≤ id ∧ id < n + (partsSize parts + 1) then ownReads c id else [] := by
  rw [filter_readsAll id (Nat.lt_succ_self n) h.tail, ← h.ownReads_eq]
  by_cases hid : id = n
  · rw [if_pos hid, if_pos (by omega), hid]
  · rw [if_neg hid]
    exact if_congr (by omega) rfl rfl

/-- Nothing of a unit is read more often in the order of the source than the unit has it. -/
theorem Stands.countP_readsAll_le (h : Stands c n (blockUnits module parts)) (id : Nat) :
    (readsAll n (n + 1) parts).countP (isOf id) ≤ (ownReads c id).length := by
  rw [List.countP_eq_length_filter, h.filter_readsAll_eq]
  split_ifs
  · exact Nat.le_refl _
  · exact Nat.zero_le _

theorem countP_le_countP_flatMap {α β : Type} {p : α → Bool} {q : β → Bool} {f : α → List β}
    {l : List α} (h : ∀ a ∈ l, p a → 0 < (f a).countP q) : l.countP p ≤ (l.flatMap f).countP q := by
  induction l with
  | nil => exact Nat.le_refl _
  | cons a l ih =>
    have hrest := ih fun b hb => h b (List.mem_cons_of_mem a hb)
    rw [List.flatMap_cons, List.countP_append, List.countP_cons]
    split
    · rename_i ha
      have hfirst := h a List.mem_cons_self ha
      omega
    · omega

/-- If one piece of documentation of a unit is read, all of them are. -/
theorem length_ownReads_le {units : List Nat} {depth n : Nat} {v : Visit}
    (hv : v ∈ visits c units depth n) :
    (ownReads c v.unit).length ≤ (visits c units depth n).countP (isOf v.unit) := by
  induction depth generalizing n with
  | zero => exact nomatch hv
  | succ depth ih =>
    rw [visits_succ] at hv ⊢
    obtain ⟨decl, hdecl, hread⟩ := List.mem_flatMap.mp hv
    rcases mem_visited hread with ⟨-, rfl⟩ | ⟨inner, -, heq⟩
    · rw [ownReads, docReads, List.length_map, ← List.countP_eq_length_filter]
      apply countP_le_countP_flatMap
      intro other _ hother
      rw [visited_of_isDoc _ _ _ _ hother]
      simp [isOf]
    · have hsub := List.sublist_flatten_of_mem
        (List.mem_map_of_mem (f := visited c units depth n) hdecl)
      rw [heq] at hread hsub
      exact Nat.le_trans (ih hread) hsub.countP_le

/-- What is read from a module several times over is nothing if it is what the module has. -/
theorem Stands.readsAll_eq_nil {units : List Nat} {depth times : Nat}
    (h : Stands c n (blockUnits module parts)) (htimes : 2 ≤ times)
    (heq : readsAll n (n + 1) parts = (List.replicate times (visits c units depth n)).flatten) :
    readsAll n (n + 1) parts = [] := by
  rw [List.eq_nil_iff_forall_not_mem]
  intro v hv
  have hpos : 0 < (readsAll n (n + 1) parts).countP (isOf v.unit) :=
    List.countP_pos_iff.mpr ⟨v, hv, beq_self_eq_true _⟩
  have hle := h.countP_readsAll_le v.unit
  -- each time, all that the unit has is read, but it has it once only
  rw [heq] at hv
  obtain ⟨_, hcopy, hvisit⟩ := List.mem_flatten.mp hv
  rw [List.eq_of_mem_replicate hcopy] at hvisit
  have hall := length_ownReads_le hvisit
  have htotal : (readsAll n (n + 1) parts).countP (isOf v.unit) =
      times * (visits c units depth n).countP (isOf v.unit) := by
    rw [heq, List.countP_flatten, List.map_replicate, List.sum_replicate_nat]
  have htwice := Nat.mul_le_mul htimes hall
  omega

/-! ## What is read from the units of one module -/

/-- Whether something is read from one of `size` units from `n` on. -/
def isWithin (n size : Nat) (v : Visit) : Bool :=
  n ≤ v.unit && v.unit < n + size

/-- A visit is within a block if its unit has one of the numbers of the block. -/
theorem isWithin_iff {n size : Nat} {v : Visit} :
    isWithin n size v ↔ n ≤ v.unit ∧ v.unit < n + size := by
  rw [isWithin, Bool.and_eq_true, decide_eq_true_iff, decide_eq_true_iff]

theorem filter_readsAll_eq_nil {unit next n size : Nat} (hunit : unit < n)
    (hapart : next + partsSize parts ≤ n ∨ n + size ≤ next) :
    (readsAll unit next parts).filter (isWithin n size) = [] := by
  refine List.filter_eq_nil_iff.mpr fun v hv => ?_
  have hrange := unit_of_mem_readsAll hv
  rw [isWithin_iff]
  omega

/-- In the order of the source, the units of a module that is written in another one have what the
module has. -/
theorem filter_readsAll_module {unit next : Nat} (hnext : unit < next) (before after : List Part)
    (word : Word) (inner : List Part) :
    (readsAll unit next (before ++ .module word inner :: after)).filter
        (isWithin (next + partsSize before) (partsSize inner + 1)) =
      readsAll (next + partsSize before) (next + partsSize before + 1) inner := by
  have hbefore : (readsAll unit next before).filter
      (isWithin (next + partsSize before) (partsSize inner + 1)) = [] :=
    filter_readsAll_eq_nil (by omega) (by omega)
  have hafter : (readsAll unit (next + partsSize before + (partsSize inner + 1)) after).filter
      (isWithin (next + partsSize before) (partsSize inner + 1)) = [] :=
    filter_readsAll_eq_nil (by omega) (by omega)
  rw [readsAll_append, readsAll, reads, partSize, List.filter_append, List.filter_append, hbefore,
    hafter, List.nil_append, List.append_nil, List.filter_eq_self]
  intro v hv
  have hrange := unit_of_mem_readsAll hv
  rw [isWithin_iff]
  omega

/-- Of two places in the same module, one comes before the other unless they are the same. -/
theorem same_or_apart {before after before' after' : List Part} {part part' : Part}
    (h : before ++ part :: after = before' ++ part' :: after') :
    (before = before' ∧ part = part') ∨
      (part ∈ before' ∧ partsSize before + partSize part ≤ partsSize before') ∨
      (part' ∈ before ∧ partsSize before' + partSize part' ≤ partsSize before) := by
  rcases List.append_eq_append_iff.mp h with ⟨between, rfl, hrest⟩ | ⟨between, rfl, hrest⟩
  · cases between with
    | nil => exact Or.inl ⟨(List.append_nil _).symm, (List.cons.inj hrest).1⟩
    | cons first others =>
      obtain rfl : part = first := (List.cons.inj hrest).1
      refine Or.inr (Or.inl ⟨by simp, ?_⟩)
      rw [partsSize_append, partsSize]
      omega
  · cases between with
    | nil => exact Or.inl ⟨List.append_nil _, (List.cons.inj hrest).1.symm⟩
    | cons first others =>
      obtain rfl : part' = first := (List.cons.inj hrest).1
      refine Or.inr (Or.inr ⟨by simp, ?_⟩)
      rw [partsSize_append, partsSize]
      omega

/-- For a part, something is read from the units of a module only if the part has the name of the
module and no other module of that name comes before it. -/
theorem Block.filter_visited {word : Word} {inner : List Part}
    (h : Block c start count n module (before ++ .module word inner :: after)) (depth : Nat)
    {part : Part} (hpart : part ∈ before ++ .module word inner :: after) :
    (visited c (List.range' start count) depth n (part.decl module)).filter
        (isWithin (n + 1 + partsSize before) (partsSize inner + 1)) =
      if isNamed word.text part ∧ ∀ part ∈ before, ¬ isNamed word.text part then
        visits c (List.range' start count) depth (n + 1 + partsSize before)
      else [] := by
  rcases h.visited_cases hpart depth with ⟨operation, lines, rfl⟩ |
    ⟨before', word', inner', after', heq, hnamed, hfirst, hvisited⟩
  · rw [Part.decl, visited_of_isDoc _ _ _ _ (isDoc_docDecl operation lines),
      if_neg (by simp [isNamed]), List.filter_eq_nil_iff]
    intro v hv
    rw [List.mem_singleton.mp hv, isWithin_iff]
    simp only
    omega
  · have hrange : ∀ v ∈ visits c (List.range' start count) depth (n + 1 + partsSize before'),
        n + 1 + partsSize before' ≤ v.unit ∧
          v.unit < n + 1 + partsSize before' + (partsSize inner' + 1) := by
      intro v hv
      exact (Block.child (heq ▸ h) hfirst).unit_of_mem_visits hv
    -- modules at different places have different units
    have hnil (hapart : partsSize before + (partsSize inner + 1) ≤ partsSize before' ∨
        partsSize before' + (partsSize inner' + 1) ≤ partsSize before) :
        (visits c (List.range' start count) depth (n + 1 + partsSize before')).filter
          (isWithin (n + 1 + partsSize before) (partsSize inner + 1)) = [] := by
      refine List.filter_eq_nil_iff.mpr fun v hv => ?_
      have hunit := hrange v hv
      rw [isWithin_iff]
      omega
    rw [hvisited]
    rcases same_or_apart heq with ⟨rfl, hsame⟩ | ⟨hmem, hle⟩ | ⟨hmem, hle⟩
    · obtain ⟨rfl, rfl⟩ := Part.module.inj hsame
      rw [if_pos ⟨hnamed, hfirst⟩, List.filter_eq_self]
      intro v hv
      exact isWithin_iff.mpr (hrange v hv)
    · rw [if_neg, hnil (Or.inl hle)]
      rintro ⟨hname, -⟩
      exact hfirst _ hmem (beq_iff_eq.mpr (isNamed_unique hname hnamed))
    · rw [if_neg, hnil (Or.inr hle)]
      rintro ⟨hname, hfirst'⟩
      exact hfirst' _ hmem (beq_iff_eq.mpr (isNamed_unique hnamed hname))

theorem flatMap_ite_const {α β : Type} (p : α → Bool) (copy : List β) (l : List α) :
    (l.flatMap fun a => if p a then copy else []) = (List.replicate (l.countP p) copy).flatten := by
  induction l with
  | nil => rfl
  | cons a l ih =>
    rw [List.flatMap_cons, ih, List.countP_cons]
    split
    · rw [List.replicate_succ, List.flatten_cons]
    · rfl

/-- From the units of the first module of a name, everything is read once for each module of that
name. -/
theorem Block.filter_visits_first {word : Word} {inner : List Part}
    (h : Block c start count n module (before ++ .module word inner :: after)) (depth : Nat)
    (hfirst : ∀ part ∈ before, ¬ isNamed word.text part) :
    (visits c (List.range' start count) (depth + 1) n).filter
        (isWithin (n + 1 + partsSize before) (partsSize inner + 1)) =
      (List.replicate ((before ++ .module word inner :: after).countP (isNamed word.text))
        (visits c (List.range' start count) depth (n + 1 + partsSize before))).flatten := by
  rw [h.visits_succ, List.filter_flatMap, ← flatMap_ite_const]
  refine List.flatMap_congr fun part hpart => ?_
  rw [h.filter_visited depth hpart]
  simp only [and_iff_left hfirst]

/-- From the units of another module, nothing is read. -/
theorem Block.filter_visits_later {word : Word} {inner : List Part}
    (h : Block c start count n module (before ++ .module word inner :: after)) (depth : Nat)
    (hlater : ¬ ∀ part ∈ before, ¬ isNamed word.text part) :
    (visits c (List.range' start count) (depth + 1) n).filter
        (isWithin (n + 1 + partsSize before) (partsSize inner + 1)) = [] := by
  rw [h.visits_succ, List.filter_flatMap, List.flatMap_eq_nil_iff]
  intro part hpart
  rw [h.filter_visited depth hpart, if_neg fun hnamed => hlater hnamed.2]

/-! ## Exactly the unambiguous outlines -/

/-- An outline that is read in the order of the source is unambiguous. -/
theorem Block.isUnambiguous_of_visits {depth : Nat} (h : Block c start count n module parts)
    (hdepth : partsSize parts < depth)
    (heq : visits c (List.range' start count) depth n = readsAll n (n + 1) parts) :
    isUnambiguous parts := by
  induction depth generalizing n module parts with
  | zero => exact absurd hdepth (Nat.not_lt_zero _)
  | succ depth ih =>
    rw [isUnambiguous_iff]
    intro word inner hmem
    obtain ⟨before, after, rfl⟩ := List.append_of_mem hmem
    rw [partsSize_append, partsSize, partSize] at hdepth
    have hinner := filter_readsAll_module (Nat.lt_succ_self n) before after word inner
    rw [← heq] at hinner
    -- a first module is read once for each module of its name, a later one not at all
    by_cases hfirst : ∀ part ∈ before, ¬ isNamed word.text part
    · have hchild := h.child hfirst
      rw [h.filter_visits_first depth hfirst] at hinner
      by_cases hone : (before ++ .module word inner :: after).countP (isNamed word.text) = 1
      · rw [hone, List.replicate_one, List.flatten_singleton] at hinner
        exact ⟨Or.inl hone, ih hchild (by omega) hinner⟩
      · have hself : isNamed word.text (.module word inner) := beq_self_eq_true _
        have hpos := List.countP_pos_iff.mpr ⟨_, hmem, hself⟩
        have hnil := hchild.stands.readsAll_eq_nil (by omega) hinner.symm
        have hsilent := (readsAll_eq_nil_iff _ _ inner).mp hnil
        exact ⟨Or.inr hsilent, isUnambiguous_of_allSilent hsilent⟩
    · rw [h.filter_visits_later depth hfirst] at hinner
      have hsilent := (readsAll_eq_nil_iff _ _ inner).mp hinner.symm
      exact ⟨Or.inr hsilent, isUnambiguous_of_allSilent hsilent⟩

/-- **Stitching.** A module is read in the order of the source, each piece of documentation once,
exactly if its outline is unambiguous. -/
theorem Block.visits_eq_readsAll_iff {depth : Nat} (h : Block c start count n module parts)
    (hdepth : partsSize parts < depth) :
    visits c (List.range' start count) depth n = readsAll n (n + 1) parts ↔ isUnambiguous parts :=
  ⟨h.isUnambiguous_of_visits hdepth, h.visits_eq_readsAll hdepth⟩

end ApiDocs.Assembly
