import Mathlib.Order.WellFounded

/-!
# Runs of a partial step function

`step state action` is `none` where the action is not enabled. A `Run ok` is a run whose every
action meets `ok` in the state it is taken from, so that a guard on the environment and a
condition on the states before each step are both stated once.
-/

namespace Foundation

variable {State Action : Type}

/-- The runs of `step` from `start` whose actions all meet `ok` where they are taken. -/
inductive Run (step : State → Action → Option State) (ok : State → Action → Prop)
    (start : State) : State → Prop where
  | refl : Run step ok start start
  | tail {middle last : State} (before : Run step ok start middle) (action : Action)
      (guard : ok middle action) (taken : step middle action = some last) :
      Run step ok start last

/-- Any action may be taken wherever it is enabled. -/
def Free : State → Action → Prop := fun _ _ => True

instance (state : State) (action : Action) : Decidable (Free state action) := .isTrue trivial

/-- `step` behind a test of the guard. -/
def guarded (step : State → Action → Option State) (ok : State → Action → Prop)
    [∀ s a, Decidable (ok s a)] (state : State) (action : Action) : Option State :=
  if ok state action then step state action else none

/-- The state after a list of actions, if each is enabled in turn. -/
def replay (step : State → Action → Option State) : State → List Action → Option State
  | state, [] => some state
  | state, action :: rest =>
    match step state action with
    | none => none
    | some next => replay step next rest

variable {step : State → Action → Option State} {ok ok' : State → Action → Prop}
  {start middle last : State}

/-- An invariant that each guarded step keeps holds along every run. -/
theorem Run.keeps {Inv : State → Prop} (run : Run step ok start last) (initial : Inv start)
    (keep : ∀ s a s', Inv s → ok s a → step s a = some s' → Inv s') : Inv last := by
  induction run with
  | refl => exact initial
  | tail _ action guard taken ih => exact keep _ action _ ih guard taken

/-- The same where each step may also use an invariant that is already known. -/
theorem Run.keeps_under {Known Inv : State → Prop} (run : Run step ok start last)
    (known : ∀ s, Run step ok start s → Known s) (initial : Inv start)
    (keep : ∀ s a s', Known s → Inv s → ok s a → step s a = some s' → Inv s') : Inv last := by
  induction run with
  | refl => exact initial
  | tail before action guard taken ih => exact keep _ action _ (known _ before) ih guard taken

/-- A view of the states in which every guarded step is a guarded step of another system, or none at
all. -/
theorem Run.simulate_under {Seen Act : Type} {move : Seen → Act → Option Seen} {view : State → Seen}
    {allowed : Seen → Act → Prop} (run : Run step ok start last)
    (matched : ∀ s a s', Run step ok start s → ok s a → step s a = some s' →
      view s' = view s ∨ ∃ act, allowed (view s) act ∧ move (view s) act = some (view s')) :
    Run move allowed (view start) (view last) := by
  induction run with
  | refl => exact .refl
  | tail before action guard taken ih =>
    rcases matched _ action _ before guard taken with same | ⟨act, held, moved⟩
    · rw [same]
      exact ih
    · exact ih.tail act held moved

/-- A view of the states in which every step is a step of another system, or none at all. -/
theorem Run.simulate {Seen Act : Type} {move : Seen → Act → Option Seen} {view : State → Seen}
    (run : Run step ok start last)
    (matched : ∀ s a s', Run step ok start s → ok s a → step s a = some s' →
      view s' = view s ∨ ∃ act, move (view s) act = some (view s')) :
    Run move Free (view start) (view last) :=
  run.simulate_under fun s a s' before guard taken =>
    (matched s a s' before guard taken).imp_right fun ⟨act, moved⟩ => ⟨act, trivial, moved⟩

theorem Run.trans (first : Run step ok start middle) (second : Run step ok middle last) :
    Run step ok start last := by
  induction second with
  | refl => exact first
  | tail _ action guard taken ih => exact .tail ih action guard taken

theorem Run.weaken (run : Run step ok start last) (weaker : ∀ s a, ok s a → ok' s a) :
    Run step ok' start last := by
  induction run with
  | refl => exact .refl
  | tail _ action guard taken ih => exact .tail ih action (weaker _ _ guard) taken

theorem Run.cons (action : Action) (guard : ok start action) (taken : step start action = some middle)
    (run : Run step ok middle last) : Run step ok start last :=
  (Run.refl.tail action guard taken).trans run

/-- A replay of the guarded step function is a guarded run. -/
theorem Run.of_replay [∀ s a, Decidable (ok s a)] {actions : List Action}
    (replayed : replay (guarded step ok) start actions = some last) : Run step ok start last := by
  induction actions generalizing start with
  | nil =>
    simp only [replay, Option.some.injEq] at replayed
    exact replayed ▸ .refl
  | cons action rest ih =>
    simp only [replay] at replayed
    split at replayed
    · cases replayed
    · rename_i next taken
      simp only [guarded] at taken
      split at taken
      · rename_i guard
        exact .cons action guard taken (ih replayed)
      · cases taken

/-- A replay that ends in a state that passes a test gives a run to such a state. -/
theorem Run.exists_of_replay (step : State → Action → Option State) (ok : State → Action → Prop)
    [∀ s a, Decidable (ok s a)] (start : State) (actions : List Action) (test : State → Bool)
    (reached : (replay (guarded step ok) start actions).any test = true) :
    ∃ last, Run step ok start last ∧ test last = true := by
  cases replayed : replay (guarded step ok) start actions with
  | none =>
    rw [replayed] at reached
    cases reached
  | some last =>
    rw [replayed] at reached
    exact ⟨last, .of_replay replayed, reached⟩

/-- A replay with one step singled out. -/
theorem Run.exists_around (step : State → Action → Option State) (ok ok' : State → Action → Prop)
    [∀ s a, Decidable (ok s a)] [∀ s a, Decidable (ok' s a)] (start : State) (actions : List Action)
    (action : Action) (actions' : List Action) (test : State → State → State → Bool)
    (reached : ((replay (guarded step ok) start actions).any fun before =>
      (step before action).any fun after =>
        (replay (guarded step ok') after actions').any (test before after)) = true) :
    ∃ before after last, Run step ok start before ∧ step before action = some after ∧
      Run step ok' after last ∧ test before after last = true := by
  obtain ⟨before, lead, tested⟩ := Run.exists_of_replay step ok start actions _ reached
  obtain ⟨after, taken, tested⟩ := (Option.any_eq_true _ _).mp tested
  obtain ⟨last, interval, tested⟩ := Run.exists_of_replay step ok' after actions' _ tested
  exact ⟨before, after, last, lead, taken, interval, tested⟩

theorem replay_keeps {Goal : State → Prop} {actions : List Action}
    (stay : ∀ s a s', Goal s → step s a = some s' → Goal s') (goal : Goal middle)
    (replayed : replay step middle actions = some last) : Goal last := by
  induction actions generalizing middle with
  | nil =>
    cases replayed
    exact goal
  | cons action rest ih =>
    simp only [replay] at replayed
    split at replayed
    · cases replayed
    · exact ih (stay _ _ _ goal ‹_›) replayed

/-- Threads that are due get nearer to their goal with each of their own steps, whatever the others do. -/
theorem replay_rank {Due Goal : State → Prop} {rank : State → Nat} {counts : Action → Bool}
    {actions : List Action}
    (stay : ∀ s a s', Goal s → step s a = some s' → Goal s')
    (nearer : ∀ s a s', Due s → step s a = some s' →
      Goal s' ∨ (Due s' ∧ rank s' + (if counts a then 1 else 0) ≤ rank s))
    (due : Due middle) (replayed : replay step middle actions = some last) :
    Goal last ∨ (Due last ∧ rank last + actions.countP counts ≤ rank middle) := by
  induction actions generalizing middle with
  | nil =>
    cases replayed
    exact .inr ⟨due, Nat.le_refl _⟩
  | cons action rest ih =>
    simp only [replay] at replayed
    split at replayed
    · cases replayed
    · rename_i next taken
      rcases nearer _ _ _ due taken with goal | ⟨due, paid⟩
      · exact .inl (replay_keeps stay goal replayed)
      · refine (ih due replayed).imp_right fun ⟨due, bound⟩ => ⟨due, ?_⟩
        rw [List.countP_cons]
        omega

/-- Where every action that counts is paid for from a rank that no other action raises, a run has no more of
them than the rank that it starts with. -/
theorem replay_budget [∀ s a, Decidable (ok s a)] {Inv : State → Prop} {rank : State → Nat}
    {counts : Action → Bool}
    {actions : List Action} (keep : ∀ s a s', Inv s → ok s a → step s a = some s' → Inv s')
    (pays : ∀ s a s', Inv s → ok s a → step s a = some s' → rank s' + (if counts a then 1 else 0) ≤ rank s)
    (inv : Inv middle) (replayed : replay (guarded step ok) middle actions = some last) :
    rank last + actions.countP counts ≤ rank middle := by
  induction actions generalizing middle with
  | nil =>
    cases replayed
    exact Nat.le_refl _
  | cons action rest ih =>
    simp only [replay, guarded] at replayed
    split at replayed
    · cases replayed
    · rename_i next taken
      split at taken
      · rename_i held
        have paid := pays _ _ _ inv held taken
        have later := ih (keep _ _ _ inv held taken) replayed
        rw [List.countP_cons]
        omega
      · cases taken

/-! ### Endless runs -/

/-- A run that goes on for ever. -/
structure Endless (step : State → Action → Option State) (ok : State → Action → Prop) (start : State)
    (states : Nat → State) (actions : Nat → Action) : Prop where
  start_eq : states 0 = start
  guard : ∀ n, ok (states n) (actions n)
  taken : ∀ n, step (states n) (actions n) = some (states (n + 1))

theorem Endless.run {states : Nat → State} {actions : Nat → Action}
    (endless : Endless step ok start states actions) (n : Nat) : Run step ok start (states n) := by
  induction n with
  | zero => exact endless.start_eq ▸ .refl
  | succ n ih => exact ih.tail (actions n) (endless.guard n) (endless.taken n)

/-- Where every busy step lowers a rank that the other steps keep, the busy steps come to an end. -/
theorem Endless.settles {Rank : Type} [PartialOrder Rank] [WellFoundedLT Rank] {rank : State → Rank}
    {Busy : State → Action → Prop} {states : Nat → State} {actions : Nat → Action}
    (endless : Endless step ok start states actions)
    (descend : ∀ s a s', Run step ok start s → ok s a → step s a = some s' →
      rank s' < rank s ∨ (¬ Busy s a ∧ rank s' = rank s)) :
    ∃ n, ∀ m, n ≤ m → ¬ Busy (states m) (actions m) := by
  have each := fun n => descend _ _ _ (endless.run n) (endless.guard n) (endless.taken n)
  have falling : Antitone fun n => rank (states n) :=
    antitone_nat_of_succ_le fun n => (each n).elim le_of_lt fun kept => le_of_eq kept.2
  -- From the least rank of the run on, the rank stays the same.
  obtain ⟨_, ⟨n, rfl⟩, least⟩ := wellFounded_lt.has_min (Set.range fun n => rank (states n)) ⟨_, 0, rfl⟩
  have stays : ∀ m, n ≤ m → rank (states m) = rank (states n) := fun m beyond =>
    (falling beyond).eq_or_lt.resolve_right (least _ ⟨m, rfl⟩)
  refine ⟨n, fun m beyond busy => ?_⟩
  rcases each m with lower | ⟨idle, _⟩
  · exact lower.ne ((stays (m + 1) (Nat.le_succ_of_le beyond)).trans (stays m beyond).symm)
  · exact idle busy

end Foundation
