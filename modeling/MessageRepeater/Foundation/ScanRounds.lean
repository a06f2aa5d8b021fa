import Mathlib.Data.List.Nodup
import MessageRepeater.Foundation.Runs

/-!
# Serving by scans

A server goes through its entries in a fixed order, over and over, and sends one item of an entry at
its turn. An item that is held up ends the scan: it is sent later, and the next scan starts from the
first entry again. The law of such scans: where no item is held up between the turn of `a` and the turn
of `b`, `a` is not sent twice before `b` has had its turn.
-/

namespace Foundation
variable {Entry : Type}

inductive ScanPhase (Entry : Type) where
  | outside
  /-- The entries that still have their turn. -/
  | scanning (todo : List Entry)
  | sending (entry : Entry) (todo : List Entry)
  /-- An item that was held up. -/
  | late (entry : Entry)
  | closed

/-- `order` is known once the server has its entries. `skipped` counts the turns that an entry has used
up without an item. -/
structure ScanState (Entry : Type) where
  phase : ScanPhase Entry
  order : Option (List Entry)
  sent : Entry → Nat
  skipped : Entry → Nat

inductive ScanMove (Entry : Type) where
  | learn (order : List Entry)
  | start
  | pass
  | skip
  | take
  | finish
  | block
  | flush
  | close

namespace ScanState

/-- The scan goes on, or is over. -/
def goOn (s : ScanState Entry) (todo : List Entry) : ScanState Entry :=
  { s with phase := if todo = [] then .outside else .scanning todo }

/-- The entries that still have their turn in the scan. -/
def rest (s : ScanState Entry) : List Entry :=
  match s.phase with
  | .scanning todo | .sending _ todo => todo
  | _ => []

/-- The entry whose item is under way. -/
def current (s : ScanState Entry) : Option Entry :=
  match s.phase with
  | .sending entry _ | .late entry => some entry
  | _ => none

theorem goOn_rest (s : ScanState Entry) (todo : List Entry) : (s.goOn todo).rest = todo := by
  unfold goOn rest
  by_cases ended : todo = [] <;> simp [ended]

theorem goOn_phase (s : ScanState Entry) (todo : List Entry) (entry : Entry) :
    (s.goOn todo).phase ≠ .late entry := by
  unfold goOn
  by_cases ended : todo = [] <;> simp [ended]

theorem goOn_current (s : ScanState Entry) (todo : List Entry) : (s.goOn todo).current = none := by
  unfold goOn current
  by_cases ended : todo = [] <;> simp [ended]

/-- `b` comes after `a`. -/
def After (a b : Entry) (order : List Entry) : Prop := ∃ todo, a :: todo <:+ order ∧ b ∈ todo

/-- No item is held up at a point of the scan at which `b` still has its turn and `a` has not. -/
def Unblocked (a b : Entry) (s : ScanState Entry) (move : ScanMove Entry) : Prop :=
  ∀ entry todo, move = .block → s.phase = .sending entry todo → b ∈ todo → a ∈ todo

/-- The turn of `b` is not passed. -/
def Attended (b : Entry) (s : ScanState Entry) (move : ScanMove Entry) : Prop :=
  ∀ todo, move = .pass → s.phase ≠ .scanning (b :: todo)

/-! ### Places in the order -/

/-- The entries of the scan from the current one on. -/
def span (s : ScanState Entry) : List Entry :=
  match s.phase with
  | .scanning todo => todo
  | .sending entry todo => entry :: todo
  | _ => []

structure Placed (s : ScanState Entry) : Prop where
  distinct : ∀ order, s.order = some order → order.Nodup
  suffix : s.span ≠ [] → ∃ order, s.order = some order ∧ s.span <:+ order
  known : s.current ≠ none → s.order ≠ none

theorem goOn_placed {s : ScanState Entry} {todo order : List Entry} (known : s.order = some order)
    (distinct : order.Nodup) (suffix : todo <:+ order) : Placed (s.goOn todo) := by
  refine ⟨fun other same => ?_, fun some_ => ⟨order, known, ?_⟩, fun some_ => ?_⟩
  · cases known.symm.trans same
    exact distinct
  · unfold goOn span at *
    by_cases ended : todo = []
    · simp [ended] at some_
    · simpa [ended] using suffix
  · exact absurd (goOn_current s todo) some_

/-- In an order without repetitions there is one turn of `a`. -/
theorem After.mem {a b : Entry} {todo order : List Entry} (after : After a b order)
    (distinct : order.Nodup) (within : a :: todo <:+ order) : b ∈ todo := by
  obtain ⟨back, ⟨front, same⟩, later⟩ := after
  obtain ⟨front', same'⟩ := within
  have once : (front ++ a :: back).Nodup := same ▸ distinct
  have out := (List.nodup_cons.mp (List.nodup_middle.mp once)).1
  have aligned := (List.append_cons_inj_of_notMem (fun member => out (List.mem_append_left _ member))
    (fun member => out (List.mem_append_right _ member))).mp (same.trans same'.symm)
  exact aligned.2.2 ▸ later

/-- Behind an item of the scan, what comes after an entry that still has its turn has its own as well. -/
theorem Placed.later {s : ScanState Entry} (placed : Placed s) {a b entry : Entry} {todo : List Entry}
    (after : ∀ order, s.order = some order → After b a order) (phase : s.phase = .sending entry todo)
    (member : b ∈ todo) : a ∈ todo := by
  obtain ⟨order, known, within⟩ := placed.suffix (by rw [span, phase]; nofun)
  rw [span, phase] at within
  obtain ⟨front, back, rfl⟩ := List.append_of_mem member
  have tail : b :: back <:+ order := (List.suffix_append (entry :: front) _).trans within
  have here := (after order known).mem (placed.distinct order known) tail
  exact List.mem_append_right _ (List.mem_cons_of_mem _ here)

/-- With `rest` to come, `b` has its next turn before `a`: in this scan, or in every scan. -/
def Turns (a b : Entry) (order : Option (List Entry)) (rest : List Entry) : Prop :=
  (b ∈ rest ∧ a ∉ rest) ∨
    (∃ known, order = some known ∧ b ∈ known ∧ ¬ After a b known) ∧ (a ∈ rest → b ∈ rest)

theorem Turns.tail {a b entry : Entry} {order : Option (List Entry)} {todo : List Entry}
    (turns : Turns a b order (entry :: todo)) (other : entry ≠ b) : Turns a b order todo := by
  have later : b ∈ entry :: todo → b ∈ todo := fun member =>
    (List.mem_cons.mp member).resolve_left (Ne.symm other)
  rcases turns with ⟨member, absent⟩ | ⟨leads, keeps⟩
  · exact .inl ⟨later member, fun again => absent (List.mem_cons_of_mem _ again)⟩
  · exact .inr ⟨leads, fun again => later (keeps (List.mem_cons_of_mem _ again))⟩

/-- `b` has its next turn before `a`, or its item is under way, or the server has closed. -/
def Owed (a b : Entry) (s : ScanState Entry) : Prop :=
  s.phase = .closed ∨ s.current = some b ∨ s.current ≠ some a ∧ Turns a b s.order s.rest

theorem goOn_owed {a b : Entry} {s : ScanState Entry} {todo : List Entry}
    (turns : Turns a b s.order todo) : Owed a b (s.goOn todo) := by
  refine .inr (.inr ⟨by rw [goOn_current]; nofun, ?_⟩)
  rw [goOn_rest]
  exact turns

theorem Owed.outside {a b : Entry} {s : ScanState Entry} (owed : Owed a b s) (at_ : s.phase = .outside) :
    Turns a b s.order [] := by
  simpa [Owed, ScanState.rest, ScanState.current, at_] using owed

theorem Owed.scanning {a b : Entry} {s : ScanState Entry} {todo : List Entry} (owed : Owed a b s)
    (at_ : s.phase = .scanning todo) : Turns a b s.order todo := by
  simpa [Owed, ScanState.rest, ScanState.current, at_] using owed

theorem Owed.sending {a b entry : Entry} {s : ScanState Entry} {todo : List Entry} (owed : Owed a b s)
    (at_ : s.phase = .sending entry todo) : entry = b ∨ entry ≠ a ∧ Turns a b s.order todo := by
  simpa [Owed, ScanState.rest, ScanState.current, at_] using owed

theorem Owed.late {a b entry : Entry} {s : ScanState Entry} (owed : Owed a b s)
    (at_ : s.phase = .late entry) : entry = b ∨ entry ≠ a ∧ Turns a b s.order [] := by
  simpa [Owed, ScanState.rest, ScanState.current, at_] using owed

variable [DecidableEq Entry]

/-- One more for the entry. -/
def bump (count : Entry → Nat) (entry : Entry) : Entry → Nat :=
  fun e => count e + if entry = e then 1 else 0

def step (s : ScanState Entry) (move : ScanMove Entry) : Option (ScanState Entry) :=
  match move, s.phase with
  | .learn order, _ => if s.order = none ∧ order.Nodup then some { s with order := some order } else none
  | .start, .outside => s.order.map s.goOn
  | .pass, .scanning (_ :: todo) => some (s.goOn todo)
  | .skip, .scanning (entry :: todo) => some ({ s with skipped := bump s.skipped entry }.goOn todo)
  | .take, .scanning (entry :: todo) => some { s with phase := .sending entry todo }
  | .finish, .sending entry todo => some ({ s with sent := bump s.sent entry }.goOn todo)
  | .block, .sending entry _ => some { s with phase := .late entry }
  | .flush, .late entry => some { s with phase := .outside, sent := bump s.sent entry }
  | .close, _ => some { s with phase := .closed }
  | _, _ => none

/-! ### One step -/

/-- Everything that a step can do. -/
inductive Moved (s s' : ScanState Entry) : ScanMove Entry → Prop where
  | learn {order} (unknown : s.order = none) (distinct : order.Nodup)
      (same : s' = { s with order := some order }) : Moved s s' (.learn order)
  | start {order} (at_ : s.phase = .outside) (known : s.order = some order) (same : s' = s.goOn order) :
      Moved s s' .start
  | pass {entry todo} (at_ : s.phase = .scanning (entry :: todo)) (same : s' = s.goOn todo) :
      Moved s s' .pass
  | skip {entry todo} (at_ : s.phase = .scanning (entry :: todo))
      (same : s' = { s with skipped := bump s.skipped entry }.goOn todo) : Moved s s' .skip
  | take {entry todo} (at_ : s.phase = .scanning (entry :: todo))
      (same : s' = { s with phase := .sending entry todo }) : Moved s s' .take
  | finish {entry todo} (at_ : s.phase = .sending entry todo)
      (same : s' = { s with sent := bump s.sent entry }.goOn todo) : Moved s s' .finish
  | block {entry todo} (at_ : s.phase = .sending entry todo) (same : s' = { s with phase := .late entry }) :
      Moved s s' .block
  | flush {entry} (at_ : s.phase = .late entry)
      (same : s' = { s with phase := .outside, sent := bump s.sent entry }) : Moved s s' .flush
  | close (same : s' = { s with phase := .closed }) : Moved s s' .close

theorem step_moved {s s' : ScanState Entry} {move : ScanMove Entry} (taken : s.step move = some s') :
    Moved s s' move := by
  unfold step at taken
  split at taken
  · split at taken <;> cases taken
    rename_i fresh
    exact .learn fresh.1 fresh.2 rfl
  · rename_i at_
    obtain ⟨order, known, rfl⟩ := Option.map_eq_some_iff.mp taken
    exact .start at_ known rfl
  · cases taken
    exact .pass ‹_› rfl
  · cases taken
    exact .skip ‹_› rfl
  · cases taken
    exact .take ‹_› rfl
  · cases taken
    exact .finish ‹_› rfl
  · cases taken
    exact .block ‹_› rfl
  · cases taken
    exact .flush ‹_› rfl
  · cases taken
    exact .close rfl
  · cases taken

theorem Moved.placed {s s' : ScanState Entry} {move : ScanMove Entry} (moved : Moved s s' move)
    (placed : Placed s) : Placed s' := by
  obtain ⟨distinct, suffix, known⟩ := placed
  have spanned : ∀ {entry todo}, s.span = entry :: todo →
      ∃ order, s.order = some order ∧ order.Nodup ∧ entry :: todo <:+ order := by
    intro entry todo span_eq
    obtain ⟨order, known, within⟩ := suffix (by rw [span_eq]; nofun)
    exact ⟨order, known, distinct order known, span_eq ▸ within⟩
  cases moved with
  | learn unknown fresh same =>
    subst same
    refine ⟨fun order same => ?_, fun some_ => ?_, nofun⟩
    · cases same
      exact fresh
    · obtain ⟨order, known, _⟩ := suffix some_
      cases unknown.symm.trans known
  | start at_ known same =>
    subst same
    exact goOn_placed known (distinct _ known) List.suffix_rfl
  | pass at_ same =>
    subst same
    obtain ⟨order, known, distinct, within⟩ := spanned (by rw [span, at_])
    exact goOn_placed known distinct ((List.suffix_cons _ _).trans within)
  | skip at_ same =>
    subst same
    obtain ⟨order, known, distinct, within⟩ := spanned (by rw [span, at_])
    exact goOn_placed (s := { s with skipped := _ }) known distinct ((List.suffix_cons _ _).trans within)
  | take at_ same =>
    subst same
    obtain ⟨order, known, _, within⟩ := spanned (by rw [span, at_])
    exact ⟨distinct, fun _ => ⟨order, known, within⟩, fun _ => by rw [known]; nofun⟩
  | finish at_ same =>
    subst same
    obtain ⟨order, known, distinct, within⟩ := spanned (by rw [span, at_])
    exact goOn_placed (s := { s with sent := _ }) known distinct ((List.suffix_cons _ _).trans within)
  | block at_ same =>
    subst same
    obtain ⟨order, known, _⟩ := spanned (by rw [span, at_])
    exact ⟨distinct, fun some_ => absurd rfl some_, fun _ => by rw [known]; nofun⟩
  | flush at_ same =>
    subst same
    exact ⟨distinct, fun some_ => absurd rfl some_, fun some_ => absurd rfl some_⟩
  | close same =>
    subst same
    exact ⟨distinct, fun some_ => absurd rfl some_, fun some_ => absurd rfl some_⟩

/-! ### Between two items of one entry -/

section
variable {a b : Entry}

/-- An item of `a` that was held up has not kept `b` from its turn. -/
def Harmless (a b : Entry) (s : ScanState Entry) : Prop :=
  s.phase = .late a → ∃ order, s.order = some order ∧ ¬ After a b order

theorem Moved.harmless {s s' : ScanState Entry} {move : ScanMove Entry} (moved : Moved s s' move)
    (placed : Placed s) (unblocked : Unblocked a b s move) (harmless : Harmless a b s) :
    Harmless a b s' := by
  intro late
  cases moved with
  | learn unknown _ same =>
    subst same
    obtain ⟨order, known, _⟩ := harmless late
    cases unknown.symm.trans known
  | start _ _ same | pass _ same | skip _ same | finish _ same =>
    subst same
    exact absurd late (goOn_phase _ _ a)
  | take at_ same =>
    subst same
    cases late
  | @block entry todo at_ same =>
    subst same
    cases late
    obtain ⟨order, known, within⟩ := placed.suffix (by rw [span, at_]; nofun)
    rw [span, at_] at within
    have distinct := placed.distinct order known
    have single := (List.nodup_cons.mp (distinct.sublist within.sublist)).1
    exact ⟨order, known, fun after => single (unblocked _ _ rfl at_ (after.mem distinct within))⟩
  | flush at_ same =>
    subst same
    cases late
  | close same =>
    subst same
    cases late

/-- The first item of `a` leaves `b` with the next turn. -/
theorem Moved.owed_first {s s' : ScanState Entry} {move : ScanMove Entry} (moved : Moved s s' move)
    (placed : Placed s) (harmless : Harmless a b s) (sent : s.sent a < s'.sent a)
    (served : ∃ order, s'.order = some order ∧ b ∈ order) : Owed a b s' := by
  obtain ⟨order, known', member⟩ := served
  cases moved with
  | @finish entry todo at_ same =>
    subst same
    by_cases mine : entry = a
    · subst mine
      obtain ⟨order', known, within⟩ := placed.suffix (by rw [span, at_]; nofun)
      rw [span, at_] at within
      have distinct := placed.distinct order' known
      have single := (List.nodup_cons.mp (distinct.sublist within.sublist)).1
      cases known.symm.trans known'
      refine goOn_owed ?_
      by_cases later : b ∈ todo
      · exact .inl ⟨later, single⟩
      · exact .inr ⟨⟨_, known, member, fun after => later (after.mem distinct within)⟩,
          fun again => absurd again single⟩
    · simp [goOn, bump, mine] at sent
  | @flush entry at_ same =>
    subst same
    by_cases mine : entry = a
    · subst mine
      obtain ⟨order', known, leads⟩ := harmless at_
      cases known.symm.trans known'
      exact .inr (.inr ⟨nofun, .inr ⟨⟨_, known, member, leads⟩, nofun⟩⟩)
    · simp [bump, mine] at sent
  | learn _ _ same | start _ _ same | pass _ same | skip _ same | take _ same | block _ same | close same =>
    subst same
    exact absurd sent (Nat.lt_irrefl _)

/-- While `b` is owed its turn, no item of `a` is sent, and `b` stays owed until it has had its turn. -/
theorem Moved.owed {s s' : ScanState Entry} {move : ScanMove Entry} (moved : Moved s s' move)
    (placed : Placed s) (unblocked : Unblocked a b s move) (attended : Attended b s move) (other : a ≠ b)
    (owed : Owed a b s) : s'.sent a = s.sent a ∧
      (Owed a b s' ∨ s.sent b + s.skipped b < s'.sent b + s'.skipped b) := by
  cases moved with
  | learn unknown fresh same =>
    subst same
    refine ⟨rfl, .inl (owed.imp_right (Or.imp_right (And.imp_right (Or.imp_right ?_))))⟩
    rintro ⟨⟨known, same, _⟩, _⟩
    cases unknown.symm.trans same
  | @start order at_ known same =>
    subst same
    refine ⟨rfl, .inl (goOn_owed ?_)⟩
    obtain ⟨leads, _⟩ := (owed.outside at_).resolve_left fun both => nomatch both.1
    obtain ⟨known', same, member, before⟩ := leads
    cases known.symm.trans same
    exact .inr ⟨⟨_, known, member, before⟩, fun _ => member⟩
  | @pass entry todo at_ same =>
    subst same
    refine ⟨rfl, .inl (goOn_owed ((owed.scanning at_).tail ?_))⟩
    rintro rfl
    exact attended todo rfl at_
  | @skip entry todo at_ same =>
    subst same
    refine ⟨rfl, ?_⟩
    by_cases mine : entry = b
    · exact .inr (by simp [goOn, bump, mine])
    · exact .inl (goOn_owed ((owed.scanning at_).tail mine))
  | @take entry todo at_ same =>
    subst same
    refine ⟨rfl, .inl ?_⟩
    by_cases mine : entry = b
    · exact .inr (.inl (congrArg some mine))
    · have turns := owed.scanning at_
      refine .inr (.inr ⟨fun taken => ?_, turns.tail mine⟩)
      cases taken
      -- `a` has no turn before `b` in the order
      rcases turns with ⟨_, absent⟩ | ⟨⟨order, known, _, before⟩, keeps⟩
      · exact absent List.mem_cons_self
      · obtain ⟨order', known', within⟩ := placed.suffix (by rw [span, at_]; nofun)
        rw [span, at_] at within
        cases known.symm.trans known'
        have later := (List.mem_cons.mp (keeps List.mem_cons_self)).resolve_left (Ne.symm mine)
        exact before ⟨todo, within, later⟩
  | @finish entry todo at_ same =>
    subst same
    rcases owed.sending at_ with rfl | ⟨apart, turns⟩
    · exact ⟨by simp [goOn, bump, Ne.symm other], .inr (by simp [goOn, bump])⟩
    · exact ⟨by simp [goOn, bump, apart], .inl (goOn_owed turns)⟩
  | @block entry todo at_ same =>
    subst same
    refine ⟨rfl, .inl ?_⟩
    rcases owed.sending at_ with rfl | ⟨apart, turns⟩
    · exact .inr (.inl rfl)
    · refine .inr (.inr ⟨fun taken => apart (Option.some.inj taken), ?_⟩)
      rcases turns with ⟨member, absent⟩ | ⟨leads, _⟩
      · exact absurd (unblocked _ _ rfl at_ member) absent
      · exact .inr ⟨leads, nofun⟩
  | @flush entry at_ same =>
    subst same
    rcases owed.late at_ with rfl | ⟨apart, turns⟩
    · exact ⟨by simp [bump, Ne.symm other], .inr (by simp [bump])⟩
    · exact ⟨by simp [bump, apart], .inl (.inr (.inr ⟨nofun, turns⟩))⟩
  | close same =>
    subst same
    exact ⟨rfl, .inl (.inl rfl)⟩

theorem Moved.grows {s s' : ScanState Entry} {move : ScanMove Entry} (moved : Moved s s' move)
    (e : Entry) : s.sent e ≤ s'.sent e ∧ s.skipped e ≤ s'.skipped e := by
  cases moved with
  | skip _ same | finish _ same | flush _ same =>
    subst same
    constructor <;> simp [goOn, bump]
  | learn _ _ same | start _ _ same | pass _ same | take _ same | block _ same | close same =>
    subst same
    exact ⟨Nat.le_refl _, Nat.le_refl _⟩

/-! ### Runs -/

theorem run_placed {s s' : ScanState Entry} {ok : ScanState Entry → ScanMove Entry → Prop}
    (placed : Placed s) (run : Run step ok s s') : Placed s' :=
  run.keeps placed fun _ _ _ placed _ taken => (step_moved taken).placed placed

theorem run_grows {s s' : ScanState Entry} {ok : ScanState Entry → ScanMove Entry → Prop}
    (run : Run step ok s s') (e : Entry) : s.sent e ≤ s'.sent e ∧ s.skipped e ≤ s'.skipped e := by
  induction run with
  | refl => exact ⟨Nat.le_refl _, Nat.le_refl _⟩
  | tail _ move _ taken ih =>
    have more := (step_moved taken).grows e
    exact ⟨Nat.le_trans ih.1 more.1, Nat.le_trans ih.2 more.2⟩

/-- As long as `b` has not had its turn, it is owed one, and no item of `a` is sent. -/
theorem run_owed {s s' : ScanState Entry} (other : a ≠ b) (placed : Placed s) (owed : Owed a b s)
    (run : Run step (fun s move => Unblocked a b s move ∧ Attended b s move) s s') :
    (s'.sent a = s.sent a ∧ Owed a b s') ∨ s.sent b + s.skipped b < s'.sent b + s'.skipped b := by
  induction run with
  | refl => exact .inl ⟨rfl, owed⟩
  | tail prior move guard taken ih =>
    have moved := step_moved taken
    have before := run_grows prior b
    have more := moved.grows b
    rcases ih with ⟨same, owed⟩ | served
    · obtain ⟨still, owed' | served⟩ := moved.owed (run_placed placed prior) guard.1 guard.2 other owed
      · exact .inl ⟨still.trans same, owed'⟩
      · exact .inr (by omega)
    · exact .inr (by omega)

/-- Between two items of `a`, `b` has had a turn, if no item has been held up between the turn of the
first one and the turn of `b`, and no turn of `b` is passed. -/
theorem served_between {s before after last : ScanState Entry} {move : ScanMove Entry} (placed : Placed s)
    (prompt : s.phase ≠ .late a) (lead : Run step (Unblocked a b) s before)
    (taken : before.step move = some after) (first : before.sent a < after.sent a)
    (served : ∃ order, after.order = some order ∧ b ∈ order)
    (interval : Run step (fun s move => Unblocked a b s move ∧ Attended b s move) after last)
    (second : after.sent a < last.sent a) :
    after.sent b + after.skipped b < last.sent b + last.skipped b := by
  have placedBefore := run_placed placed lead
  have harmless : Harmless a b before :=
    lead.keeps_under (fun _ => run_placed placed) (fun late => absurd late prompt)
      fun _ _ _ placed harmless unblocked taken => (step_moved taken).harmless placed unblocked harmless
  have owed := (step_moved taken).owed_first placedBefore harmless first served
  have placedAfter := (step_moved taken).placed placedBefore
  by_cases other : a = b
  · subst other
    have more := (run_grows interval a).2
    omega
  · rcases run_owed other placedAfter owed interval with ⟨same, _⟩ | turn
    · exact absurd second (by omega)
    · exact turn

end

end ScanState

end Foundation
