import ApiDocs.FilePath
import Mathlib.Tactic.Common

/-!
# The order of file paths

File paths are in a linear order, up to the ways to write a path: `notAfter` is transitive and
total, and paths neither of which comes after the other one are the same.
-/

namespace ApiDocs

namespace Component

/-- Components are compared by their kinds first, and by their texts where the kinds are the
same. -/
theorem compare_eq : compare = compareLex (compareOn rank) (compareOn text) := by
  funext a b
  cases a <;> cases b <;> rfl

instance : Std.TransCmp compare :=
  compare_eq ▸ inferInstance

/-- A component is known by its kind and its text. -/
theorem eq_of_rank_eq_of_text_eq {a b : Component} (hrank : a.rank = b.rank)
    (htext : a.text = b.text) : a = b := by
  cases a <;> cases b <;> simp_all [rank, text]

instance : Std.LawfulEqCmp compare where
  eq_of_compare {a b} h := by
    rw [compare_eq, compareLex_eq_eq] at h
    exact eq_of_rank_eq_of_text_eq (Std.LawfulEqOrd.eq_of_compare h.1)
      (Std.LawfulEqOrd.eq_of_compare h.2)

end Component

namespace FilePath

/-- Lists of components are compared like words in a dictionary. -/
theorem compareComponents_eq : compareComponents = List.compareLex Component.compare := by
  funext as bs
  fun_induction compareComponents as bs with
  | case1 => rfl
  | case2 => rfl
  | case3 => rfl
  | case4 a as b bs ih => rw [List.compareLex_cons_cons, ih]

instance : Std.TransCmp compareComponents :=
  compareComponents_eq ▸ inferInstance

instance : Std.LawfulEqCmp compareComponents :=
  compareComponents_eq ▸ inferInstance

instance : Std.TransCmp compare where
  eq_swap {p q} := by
    rw [compare, compare]
    exact Std.OrientedCmp.eq_swap
  isLE_trans {p q r} h h' := by
    rw [compare] at h h' ⊢
    exact Std.TransCmp.isLE_trans h h'

/-- Two paths compare as equal if they have the same components, however they are written. -/
theorem compare_eq_iff {p q : FilePath} : p.compare q = .eq ↔ p.same q := by
  rw [compare, same, beq_iff_eq]
  exact Std.LawfulEqCmp.compare_eq_iff_eq

/-- Whether a path does not come after another one. -/
def notAfter (p q : FilePath) : Bool :=
  p.compare q != .gt

/-- A path is not after another one if it compares as less or equal. -/
theorem notAfter_iff {p q : FilePath} : p.notAfter q ↔ (p.compare q).isLE := by
  rw [notAfter]
  cases p.compare q <;> decide

theorem notAfter_trans {p q r : FilePath} (h : p.notAfter q) (h' : q.notAfter r) :
    p.notAfter r := by
  rw [notAfter_iff] at *
  exact Std.TransCmp.isLE_trans h h'

/-- Of two paths, one is not after the other. -/
theorem notAfter_total (p q : FilePath) : p.notAfter q || q.notAfter p := by
  rw [Bool.or_eq_true, notAfter_iff, notAfter_iff, or_iff_not_imp_left]
  intro h
  have hlt : q.compare p = .lt := Std.OrientedCmp.lt_of_not_isLE h
  rw [hlt]
  rfl

/-- Paths that are not after each other are the same. -/
theorem same_of_notAfter {p q : FilePath} (h : p.notAfter q) (h' : q.notAfter p) : p.same q := by
  rw [notAfter_iff] at h h'
  exact compare_eq_iff.mp (Std.OrientedCmp.isLE_antisymm h h')

/-- A path is not after one that is the same. -/
theorem notAfter_of_same {p q : FilePath} (h : p.same q) : p.notAfter q := by
  rw [notAfter_iff, compare_eq_iff.mpr h]
  rfl

theorem same_comm {p q : FilePath} : p.same q ↔ q.same p := by
  rw [same, same, beq_iff_eq, beq_iff_eq, eq_comm]

theorem same_trans {p q r : FilePath} (h : p.same q) (h' : q.same r) : p.same r :=
  beq_iff_eq.mpr ((beq_iff_eq.mp h).trans (beq_iff_eq.mp h'))

end FilePath

end ApiDocs
