import Mathlib.Logic.Function.Basic

/-!
# Names that are issued again

A name stands for at most one owner at a time, and may be issued to another one once it stands for
nobody. Holders keep a name for the owner that they got it for. While names are issued only when
nobody holds them, a held name never stands for somebody else.
-/

namespace Foundation

variable {Name Owner : Type} {current : Name → Option Owner}
  {holds holds' : Name → Owner → Prop}

/-- A held name stands for the owner that it is held for, or for nobody. -/
def Unambiguous (current : Name → Option Owner) (holds : Name → Owner → Prop) : Prop :=
  ∀ name owner, holds name owner → ∀ other, current name = some other → other = owner

theorem Unambiguous.fewer (clear : Unambiguous current holds)
    (fewer : ∀ name owner, holds' name owner → holds name owner) : Unambiguous current holds' :=
  fun name owner held => clear name owner (fewer name owner held)

variable [DecidableEq Name]

theorem Unambiguous.retire (clear : Unambiguous current holds) (name : Name) :
    Unambiguous (Function.update current name none) holds := by
  intro n owner held other found
  by_cases same : n = name
  · subst same
    rw [Function.update_self] at found
    cases found
  · rw [Function.update_of_ne same] at found
    exact clear n owner held other found

theorem Unambiguous.issue (clear : Unambiguous current holds) {name : Name} (owner : Owner)
    (unheld : ∀ o, ¬ holds name o)
    (added : ∀ n o, holds' n o → holds n o ∨ (n = name ∧ o = owner)) :
    Unambiguous (Function.update current name (some owner)) holds' := by
  intro n o held other found
  by_cases same : n = name
  · subst same
    rw [Function.update_self] at found
    cases found
    rcases added n o held with before | ⟨_, new⟩
    · exact absurd before (unheld o)
    · exact new.symm
  · rw [Function.update_of_ne same] at found
    rcases added n o held with before | ⟨here, _⟩
    · exact clear n o before other found
    · exact absurd here same

end Foundation
