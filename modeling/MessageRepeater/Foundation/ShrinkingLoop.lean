import Mathlib.Data.Nat.Notation

/-!
# Loops that shrink their state

A loop whose turns either leave a smaller state or end with a result. It is run on a counter, so that it
can be evaluated; `loop_eq` says that the counter never runs out, and `loop_induction` is the rule for
what holds of the result.
-/

namespace Foundation
variable {State Result : Type}

/-- At most `turns` turns. -/
def iterate [Inhabited Result] (turn : State → State ⊕ Result) : Nat → State → Result
  | 0, _ => default
  | turns + 1, s =>
    match turn s with
    | .inl s' => iterate turn turns s'
    | .inr result => result

/-- The loop, given the size of a state. -/
def loop [Inhabited Result] (size : State → Nat) (turn : State → State ⊕ Result) (s : State) : Result :=
  iterate turn (size s + 1) s

/-- Every turn that goes on leaves a smaller state. -/
def Shrinks (size : State → Nat) (turn : State → State ⊕ Result) : Prop :=
  ∀ s s', turn s = .inl s' → size s' < size s

variable [Inhabited Result] {size : State → Nat} {turn : State → State ⊕ Result}

theorem iterate_enough (shrinks : Shrinks size turn) {turns turns' : Nat} {s : State}
    (enough : size s < turns) (enough' : size s < turns') : iterate turn turns s = iterate turn turns' s := by
  induction turns generalizing turns' s with
  | zero => omega
  | succ turns ih =>
    obtain ⟨turns', rfl⟩ : ∃ n, turns' = n + 1 := ⟨turns' - 1, by omega⟩
    rw [iterate, iterate]
    cases goesOn : turn s with
    | inl s' =>
      have smaller := shrinks s s' goesOn
      apply ih <;> omega
    | inr result => rfl

/-- The loop is its turn, and then the loop. -/
theorem loop_eq (shrinks : Shrinks size turn) (s : State) :
    loop size turn s = (turn s).elim (loop size turn) id := by
  rw [loop, iterate]
  cases goesOn : turn s with
  | inl s' =>
    have smaller := shrinks s s' goesOn
    apply iterate_enough shrinks <;> omega
  | inr result => rfl

theorem loop_goesOn (shrinks : Shrinks size turn) {s t : State} (goesOn : turn s = .inl t) :
    loop size turn s = loop size turn t := by
  rw [loop_eq shrinks, goesOn]
  rfl

theorem loop_ends (shrinks : Shrinks size turn) {s : State} {r : Result} (ends : turn s = .inr r) :
    loop size turn s = r := by
  rw [loop_eq shrinks, ends]
  rfl

/-- A loop whose turns follow those of another one ends with the result that follows the other's. -/
theorem loop_map {State' Result' : Type} [Inhabited Result'] {size' : State' → Nat}
    {turn' : State' → State' ⊕ Result'} (shrinks : Shrinks size turn) (shrinks' : Shrinks size' turn')
    {f : State → State'} {g : Result → Result'} (follows : ∀ s, turn' (f s) = (turn s).map f g) (s : State) :
    loop size' turn' (f s) = g (loop size turn s) := by
  induction measure : size s using Nat.strongRecOn generalizing s with
  | ind n ih =>
    cases next : turn s with
    | inl s' =>
      rw [loop_goesOn shrinks next, loop_goesOn shrinks' (t := f s') (by rw [follows, next]; rfl)]
      exact ih (size s') (measure ▸ shrinks s s' next) s' rfl
    | inr result =>
      rw [loop_ends shrinks next, loop_ends shrinks' (r := g result) (by rw [follows, next]; rfl)]

/-- What holds where the loop ends, and of a state if it holds of the state after a turn, holds. -/
theorem loop_induction (shrinks : Shrinks size turn) {motive : State → Result → Prop}
    (ends : ∀ s result, turn s = .inr result → motive s result)
    (goesOn : ∀ s s' result, turn s = .inl s' → motive s' result → motive s result) (s : State) :
    motive s (loop size turn s) := by
  induction measure : size s using Nat.strongRecOn generalizing s with
  | ind n ih =>
    cases next : turn s with
    | inl s' =>
      rw [loop_goesOn shrinks next]
      apply goesOn s s' _ next
      exact ih (size s') (measure ▸ shrinks s s' next) s' rfl
    | inr result =>
      rw [loop_ends shrinks next]
      exact ends s result next

end Foundation
