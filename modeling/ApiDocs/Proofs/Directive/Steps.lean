import ApiDocs.Directive.Apply
import ApiDocs.Proofs.Expansion.Balance

/-!
# What directive lines do to a session

A directive line may name a type, which is resolved and expanded. Nothing else touches the session,
so applying a line is a run of steps (`applyLine_steps`).
-/

namespace ApiDocs

namespace Session

/-- Expanding a declared type is a run of steps. -/
theorem expand_steps (loader : Loader) (id : Nat) (s : Session) :
    Steps loader s (s.expand loader id).2 := by
  unfold expand
  split
  · rename_i e w hexpand
    obtain ⟨n, hn⟩ := Walker.expand_eq_upTo hexpand
    exact ((Walk.upTo_balanced loader n).expand (fun _ _ => List.not_mem_nil) hn).steps
  · exact .refl

/-- Expanding the type that a name denotes is a run of steps. -/
theorem expandNamed_steps (loader : Loader) (name : String) (unit : Nat) (s : Session) :
    Steps loader s (s.expandNamed loader name unit).2 := by
  have hresolve : Steps loader s (s.resolve loader name unit).2 := .single (.resolve s name unit)
  unfold expandNamed
  split
  · rename_i id s' heq
    rw [heq] at hresolve
    exact hresolve.trans (expand_steps loader id s')
  · rename_i s' heq
    rw [heq] at hresolve
    exact hresolve

end Session

namespace Directive

open Session

variable (scope : TypeScope)

/-- Expanding a type for a directive is a run of steps. -/
theorem expand_steps (name : String) (s : Session) :
    Steps scope.loader s (expand (some scope) name s).2 := by
  have hnamed := expandNamed_steps scope.loader name scope.unit s
  unfold expand
  split
  · exact .refl
  · simp only
    split
    · rename_i e s' heq
      rw [heq] at hnamed
      exact hnamed
    · rename_i s' heq
      rw [heq] at hnamed
      exact hnamed.tail (.note s' [.noFields name] rfl)

/-- Describing parameters, be it by a type or by one row, is a run of steps. -/
theorem describe_steps {α : Type} (ofField : Field → α) (single? : String → Option α)
    (cause : DirectiveCause) (payload : String) (s : Session) :
    Steps scope.loader s (describe (some scope) ofField single? cause payload s).2 := by
  unfold describe
  split
  · rename_i name _
    have hexpand := expand_steps scope name s
    split
    · rename_i e s' heq
      rw [heq] at hexpand
      exact hexpand
    · rename_i s' heq
      rw [heq] at hexpand
      exact hexpand
  · split
    · exact .refl
    · exact .refl

/-- Whatever its keyword, a directive makes steps of the session only. -/
theorem applyKeyword_steps (keyword : Keyword) (payload : String) (doc : Document) (s : Session) :
    Steps scope.loader s (applyKeyword (some scope) keyword payload doc s).2 := by
  cases keyword with
  | query => exact describe_steps scope _ _ _ payload s
  | param => exact describe_steps scope _ _ _ payload s
  | response => exact describe_steps scope _ _ _ payload s
  | failure => exact describe_steps scope _ _ _ payload s
  | _ => exact .refl

/-- A documentation line makes steps of the session only, directive or not. -/
theorem applyLine_steps (operation line : String) (doc : Document) (s : Session) :
    Steps scope.loader s (applyLine (some scope) operation line doc s).2 := by
  unfold applyLine
  split
  · exact .refl
  · split
    · exact .refl
    · exact applyKeyword_steps scope _ _ doc s

end Directive

end ApiDocs
