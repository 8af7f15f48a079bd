import ApiDocs.ModulePath
import ApiDocs.Source.Token
import Mathlib.Data.List.TakeWhile

/-!
# Joining module paths

Writing one path below another is associative, has the empty path as its unit and can be cancelled
on the left. A path says which module of a given one it lies in: modules whose names are different
identifiers have no path in common (`Below.name_eq`).
-/

namespace ApiDocs.ModulePath

/-! ## Laws of joining -/

/-- The empty path joins from the left without a trace. -/
@[simp] theorem join_empty_left (path : ModulePath) : join "" path = path := rfl

/-- The empty path joins from the right without a trace. -/
@[simp] theorem join_empty_right (path : ModulePath) : join path "" = path := by
  by_cases h : path = ""
  · rw [h, join_empty_left]
  · simp [join, h]

/-- Paths that are not empty are joined by `::`. -/
theorem join_of_ne_empty {base rest : ModulePath} (hbase : base ≠ "") (hrest : rest ≠ "") :
    join base rest = base ++ "::" ++ rest := by
  simp [join, hbase, hrest]

/-- Only empty paths join to the empty one. -/
theorem join_eq_empty_iff {base rest : ModulePath} :
    join base rest = "" ↔ base = "" ∧ rest = "" := by
  by_cases hbase : base = ""
  · simp [hbase]
  · by_cases hrest : rest = ""
    · simp [hrest]
    · simp [join_of_ne_empty hbase hrest, hbase]

theorem join_assoc (a b c : ModulePath) : join (join a b) c = join a (join b c) := by
  by_cases ha : a = ""
  · simp only [ha, join_empty_left]
  by_cases hb : b = ""
  · simp only [hb, join_empty_left, join_empty_right]
  by_cases hc : c = ""
  · simp only [hc, join_empty_right]
  have hab : join a b ≠ "" := fun h => ha (join_eq_empty_iff.mp h).1
  have hbc : join b c ≠ "" := fun h => hb (join_eq_empty_iff.mp h).1
  rw [join_of_ne_empty hab hc, join_of_ne_empty ha hbc, join_of_ne_empty ha hb,
    join_of_ne_empty hb hc]
  simp only [String.append_assoc]

/-- A path in a module is known by what follows the path of the module. -/
theorem join_left_cancel {a b c : ModulePath} (h : join a b = join a c) : b = c := by
  by_cases ha : a = ""
  · simpa only [ha, join_empty_left] using h
  -- a path below `a` is longer than `a`
  have hlonger : ∀ rest : ModulePath, rest ≠ "" → join a rest ≠ a := by
    intro rest hrest heq
    have hlength := congrArg String.length heq
    rw [join_of_ne_empty ha hrest] at hlength
    simp only [String.length_append] at hlength
    have hmark : "::".length = 2 := by decide
    omega
  by_cases hb : b = ""
  · by_cases hc : c = ""
    · rw [hb, hc]
    · rw [hb, join_empty_right] at h
      exact absurd h.symm (hlonger c hc)
  · by_cases hc : c = ""
    · rw [hc, join_empty_right] at h
      exact absurd h (hlonger b hb)
    · rw [join_of_ne_empty ha hb, join_of_ne_empty ha hc] at h
      exact (String.append_right_inj _).mp h

/-! ## Identifiers at the front of a path -/

/-- A character that neither starts an identifier nor goes on in one stands in none. -/
theorem not_mem_of_isIdentifier {name : String} (h : Text.isIdentifier name = true) {c : Char}
    (hstart : Text.isIdentifierStart c = false) (hpart : Text.isIdentifierPart c = false) :
    c ∉ name.toList := by
  intro hc
  unfold Text.isIdentifier at h
  split at h
  · exact absurd h Bool.false_ne_true
  · rename_i first rest heq
    rw [heq] at hc
    rw [Bool.and_eq_true, List.all_eq_true] at h
    rcases List.mem_cons.mp hc with rfl | hrest
    · exact absurd h.1 (Bool.eq_false_iff.mp hstart)
    · exact absurd (h.2 c hrest) (Bool.eq_false_iff.mp hpart)

/-- No colon stands in an identifier. -/
theorem not_colon_of_isIdentifier {name : String} (h : Text.isIdentifier name = true) {c : Char}
    (hc : c ∈ name.toList) : c ≠ ':' := by
  rintro rfl
  exact not_mem_of_isIdentifier h (by decide) (by decide) hc

theorem ne_empty_of_isIdentifier {name : String} (h : Text.isIdentifier name = true) :
    name ≠ "" := by
  rintro rfl
  exact absurd h (by decide)

/-- An identifier at the start of a path is what stands before the first colon. -/
theorem takeWhile_join_of_isIdentifier {name : String} (h : Text.isIdentifier name = true)
    (rest : ModulePath) : (join name rest).toList.takeWhile (· != ':') = name.toList := by
  have hname : ∀ c ∈ name.toList, (c != ':') = true :=
    fun c hc => bne_iff_ne.mpr (not_colon_of_isIdentifier h hc)
  by_cases hrest : rest = ""
  · rw [hrest, join_empty_right]
    exact List.takeWhile_eq_self_iff.mpr hname
  · rw [join_of_ne_empty (ne_empty_of_isIdentifier h) hrest]
    simp [List.takeWhile_append_of_pos hname]

/-! ## Paths below a module -/

/-- Whether a path is that of a module or of something in it. -/
def Below (module path : ModulePath) : Prop :=
  ∃ rest, path = join module rest

theorem Below.refl (module : ModulePath) : Below module module :=
  ⟨"", (join_empty_right module).symm⟩

/-- What is joined to a module is below it. -/
theorem below_join (module rest : ModulePath) : Below module (join module rest) :=
  ⟨rest, rfl⟩

theorem Below.trans {a b c : ModulePath} (h : Below a b) (h' : Below b c) : Below a c := by
  obtain ⟨r, rfl⟩ := h
  obtain ⟨r', rfl⟩ := h'
  exact ⟨join r r', join_assoc a r r'⟩

/-- A module does not lie in one that is written in it. -/
theorem not_below_join (module : ModulePath) {name : String}
    (hname : Text.isIdentifier name = true) : ¬ Below (join module name) module := by
  rintro ⟨rest, heq⟩
  rw [join_assoc] at heq
  have hempty : "" = join name rest :=
    join_left_cancel (a := module) (by rw [join_empty_right, ← heq])
  exact ne_empty_of_isIdentifier hname (join_eq_empty_iff.mp hempty.symm).1

/-- **Different modules.** Modules that are written in the same one and have a path in common have
the same name. -/
theorem Below.name_eq {module path : ModulePath} {a b : String}
    (ha : Text.isIdentifier a = true) (hb : Text.isIdentifier b = true)
    (h : Below (join module a) path) (h' : Below (join module b) path) : a = b := by
  obtain ⟨r, rfl⟩ := h
  obtain ⟨r', heq⟩ := h'
  rw [join_assoc, join_assoc] at heq
  have hfront := congrArg (fun p : String => p.toList.takeWhile (· != ':')) (join_left_cancel heq)
  simp only [takeWhile_join_of_isIdentifier ha, takeWhile_join_of_isIdentifier hb] at hfront
  exact String.toList_inj.mp hfront

end ApiDocs.ModulePath
