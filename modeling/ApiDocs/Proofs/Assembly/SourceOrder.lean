import ApiDocs.Proofs.Assembly.Outline

/-!
# Documentation in the order of the source

`readsAll` lists the documentation of an outline in the order in which it is written, a module at
the place where it stands, each together with the number of its unit. Units are numbered in the
order in which their modules start.

A module without documentation in it is silent. An outline is unambiguous if modules that are
written in the same one and have the same name are silent.
-/

namespace ApiDocs.Assembly

open Source

/-! ## Numbers of units -/

mutual

/-- How many units a part of a module is. -/
def partSize : Part → Nat
  | .doc _ _ => 0
  | .module _ parts => partsSize parts + 1

/-- How many units parts of a module are. -/
def partsSize : List Part → Nat
  | [] => 0
  | part :: rest => partSize part + partsSize rest

end

theorem partsSize_append (parts others : List Part) :
    partsSize (parts ++ others) = partsSize parts + partsSize others := by
  induction parts with
  | nil => exact (Nat.zero_add _).symm
  | cons part rest ih => rw [List.cons_append, partsSize, partsSize, ih, Nat.add_assoc]

mutual

/-- A part has as many units as its size says. -/
theorem length_units (module : ModulePath) : ∀ part : Part,
    (part.units module).length = partSize part
  | .doc _ _ => rfl
  | .module name parts => by
    rw [Part.units, partSize, List.length_cons, length_partUnits _ parts]

/-- Parts have as many units as their size says. -/
theorem length_partUnits (module : ModulePath) : ∀ parts : List Part,
    (partUnits module parts).length = partsSize parts
  | [] => rfl
  | part :: rest => by
    rw [partUnits, partsSize, List.length_append, length_units module part,
      length_partUnits module rest]

end

/-! ## The order of the source -/

mutual

/-- The documentation of a part of the module with the number `unit`, in the order of the source, if
the next unit has the number `next`. -/
def reads (unit next : Nat) : Part → List Visit
  | .doc operation lines => [⟨unit, docDecl operation lines⟩]
  | .module _ parts => readsAll next (next + 1) parts

/-- The documentation of parts of the module with the number `unit`, in the order of the source, if
the next unit has the number `next`. -/
def readsAll (unit next : Nat) : List Part → List Visit
  | [] => []
  | part :: rest => reads unit next part ++ readsAll unit (next + partSize part) rest

end

theorem readsAll_append (unit next : Nat) (parts others : List Part) :
    readsAll unit next (parts ++ others) =
      readsAll unit next parts ++ readsAll unit (next + partsSize parts) others := by
  induction parts generalizing next with
  | nil => rfl
  | cons part rest ih =>
    rw [List.cons_append, readsAll, readsAll, ih, partsSize, List.append_assoc, Nat.add_assoc]

mutual

/-- What is read in a part belongs to the module around it or to one of the units inside the
part. -/
theorem unit_of_mem_reads {unit next : Nat} {v : Visit} : ∀ {part : Part},
    v ∈ reads unit next part → v.unit = unit ∨ next ≤ v.unit ∧ v.unit < next + partSize part
  | .doc _ _, h => by
    rw [reads, List.mem_singleton] at h
    exact Or.inl (h ▸ rfl)
  | .module _ parts, h => by
    rw [reads] at h
    rw [partSize]
    have hinner := unit_of_mem_readsAll h
    omega

/-- Documentation of the parts of a module stands in the unit of the module or in one of those that
the parts are. -/
theorem unit_of_mem_readsAll {unit next : Nat} {v : Visit} : ∀ {parts : List Part},
    v ∈ readsAll unit next parts → v.unit = unit ∨ next ≤ v.unit ∧ v.unit < next + partsSize parts
  | [], h => nomatch h
  | part :: rest, h => by
    rw [readsAll, List.mem_append] at h
    rw [partsSize]
    rcases h with hpart | hrest
    · have hfirst := unit_of_mem_reads hpart
      omega
    · have hother := unit_of_mem_readsAll hrest
      omega

end

/-! ## Modules of the same name -/

/-- Whether a part is a module with a name. -/
def isNamed (name : String) : Part → Bool
  | .doc _ _ => false
  | .module word _ => word.text == name

theorem isNamed_unique {name other : String} {part : Part} (h : isNamed name part)
    (h' : isNamed other part) : name = other := by
  cases part with
  | doc operation lines => exact absurd h Bool.false_ne_true
  | module word parts => exact (beq_iff_eq.mp h).symm.trans (beq_iff_eq.mp h')

/-- Of the modules with a name, one comes first. -/
theorem exists_first_named {name : String} {parts : List Part}
    (h : ∃ part ∈ parts, isNamed name part) :
    ∃ before word inner after, parts = before ++ .module word inner :: after ∧ word.text = name ∧
      ∀ part ∈ before, ¬ isNamed name part := by
  obtain ⟨part, hpart⟩ := Option.isSome_iff_exists.mp (List.find?_isSome.mpr h)
  obtain ⟨hnamed, before, after, heq, hbefore⟩ := List.find?_eq_some_iff_append.mp hpart
  cases part with
  | doc operation lines => exact absurd hnamed Bool.false_ne_true
  | module word inner =>
    refine ⟨before, word, inner, after, heq, beq_iff_eq.mp hnamed, fun p hp => ?_⟩
    simpa using hbefore p hp

mutual

/-- Whether a part of a module has no documentation. -/
def isSilent : Part → Bool
  | .doc _ _ => false
  | .module _ parts => allSilent parts

/-- Whether parts of a module have no documentation. -/
def allSilent : List Part → Bool
  | [] => true
  | part :: rest => isSilent part && allSilent rest

end

mutual

/-- Nothing is read in a part just if it is silent. -/
theorem reads_eq_nil_iff (unit next : Nat) : ∀ part : Part,
    reads unit next part = [] ↔ isSilent part
  | .doc _ _ => by simp [reads, isSilent]
  | .module _ parts => by rw [reads, isSilent, readsAll_eq_nil_iff _ _ parts]

/-- Nothing is read in parts just if all of them are silent. -/
theorem readsAll_eq_nil_iff (unit next : Nat) : ∀ parts : List Part,
    readsAll unit next parts = [] ↔ allSilent parts
  | [] => by simp [readsAll, allSilent]
  | part :: rest => by
    rw [readsAll, allSilent, List.append_eq_nil_iff, reads_eq_nil_iff _ _ part,
      readsAll_eq_nil_iff _ _ rest, Bool.and_eq_true]

end

mutual

/-- Whether a part of a module that consists of `siblings` can be told from them: a module has a
name of its own or is silent. So can the parts of the part from each other. -/
def isClear (siblings : List Part) : Part → Bool
  | .doc _ _ => true
  | .module word parts =>
    (siblings.countP (isNamed word.text) == 1 || allSilent parts) && allClear parts parts

/-- Whether parts of a module that consists of `siblings` can be told from these. -/
def allClear (siblings : List Part) : List Part → Bool
  | [] => true
  | part :: rest => isClear siblings part && allClear siblings rest

end

/-- Whether modules that are written in the same one and have the same name are silent, in all of an
outline. -/
def isUnambiguous (parts : List Part) : Bool :=
  allClear parts parts

theorem allClear_iff (siblings parts : List Part) :
    allClear siblings parts ↔ ∀ part ∈ parts, isClear siblings part := by
  induction parts with
  | nil => simp [allClear]
  | cons part rest ih => rw [allClear, Bool.and_eq_true, ih, List.forall_mem_cons]

/-- Parts are unambiguous if each module among them has a name of its own or is silent, and has
unambiguous parts itself. -/
theorem isUnambiguous_iff (parts : List Part) : isUnambiguous parts ↔
    ∀ word inner, .module word inner ∈ parts →
      (parts.countP (isNamed word.text) = 1 ∨ allSilent inner) ∧ isUnambiguous inner := by
  have hmodule : ∀ word inner, isClear parts (.module word inner) ↔
      (parts.countP (isNamed word.text) = 1 ∨ allSilent inner) ∧ isUnambiguous inner := by
    intro word inner
    rw [isClear, Bool.and_eq_true, Bool.or_eq_true, beq_iff_eq, isUnambiguous]
  rw [isUnambiguous, allClear_iff]
  constructor
  · intro h word inner hmem
    exact (hmodule word inner).mp (h _ hmem)
  · intro h part hmem
    cases part with
    | doc operation lines => rfl
    | module word inner => exact (hmodule word inner).mpr (h word inner hmem)

mutual

/-- A silent part is clear among any siblings. -/
theorem isClear_of_isSilent (siblings : List Part) : ∀ part : Part,
    isSilent part → isClear siblings part
  | .doc _ _, _ => rfl
  | .module word parts, h => by
    rw [isSilent] at h
    rw [isClear, h, Bool.or_true, Bool.true_and]
    exact allClear_of_allSilent parts parts h

/-- Silent parts are clear among any siblings. -/
theorem allClear_of_allSilent (siblings : List Part) : ∀ parts : List Part,
    allSilent parts → allClear siblings parts
  | [], _ => rfl
  | part :: rest, h => by
    rw [allSilent, Bool.and_eq_true] at h
    rw [allClear, isClear_of_isSilent siblings part h.1, allClear_of_allSilent siblings rest h.2]
    rfl

end

/-- Parts in which nothing is documented are unambiguous. -/
theorem isUnambiguous_of_allSilent {parts : List Part} (h : allSilent parts) :
    isUnambiguous parts :=
  allClear_of_allSilent parts parts h

end ApiDocs.Assembly
