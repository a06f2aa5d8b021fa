import MessageRepeater.Foundation.Runs
import Mathlib.Data.List.Induction
import Mathlib.Data.List.Sort

/-!
# Broadcast in one order

Topics are logs to which authors publish. A subscriber is handed entries of a log one after the other, each
behind the ones that it has got, and may miss some. Whatever is handed to anybody is then one order of the
topic, with each author's entries in the order in which he published them.
-/

namespace Foundation.Broadcast
variable {Author Topic Body Subscriber : Type}

/-- `handed` are positions in the log of the topic. -/
structure State (Author Topic Body Subscriber : Type) where
  log : Topic → List (Author × Body) := fun _ => []
  handed : Subscriber → Topic → List Nat := fun _ _ => []

inductive Action (Author Topic Body Subscriber : Type) where
  | publish (author : Author) (topic : Topic) (body : Body)
  | hand (subscriber : Subscriber) (topic : Topic) (position : Nat)

def initial : State Author Topic Body Subscriber := {}

def step [DecidableEq Topic] [DecidableEq Subscriber] (s : State Author Topic Body Subscriber) :
    Action Author Topic Body Subscriber → Option (State Author Topic Body Subscriber)
  | .publish author topic body =>
    some { s with log := fun t => if t = topic then s.log t ++ [(author, body)] else s.log t }
  | .hand subscriber topic position =>
    if position < (s.log topic).length ∧ ∀ earlier ∈ s.handed subscriber topic, earlier < position then
      some
        { s with
          handed := fun k t => if k = subscriber ∧ t = topic then s.handed k t ++ [position] else s.handed k t }
    else none

/-- The entries that a subscriber has been handed. -/
def State.entries (s : State Author Topic Body Subscriber) (k : Subscriber) (t : Topic) : List (Author × Body) :=
  (s.handed k t).filterMap fun position => (s.log t)[position]?

/-! ### One order -/

/-- Positions in order, inside a log of this length. -/
structure Within (positions : List Nat) (length : Nat) : Prop where
  ordered : positions.Pairwise (· < ·)
  lt : ∀ position ∈ positions, position < length

theorem Within.mono {positions : List Nat} {length length' : Nat} (within : Within positions length)
    (le : length ≤ length') : Within positions length' :=
  ⟨within.ordered, fun position member => Nat.lt_of_lt_of_le (within.lt position member) le⟩

theorem Within.append {positions : List Nat} {length position : Nat} (within : Within positions length)
    (behind : ∀ earlier ∈ positions, earlier < position) (lt : position < length) :
    Within (positions ++ [position]) length := by
  constructor
  · rw [List.pairwise_append]
    refine ⟨within.ordered, List.pairwise_singleton _ _, fun earlier member later last => ?_⟩
    rw [List.mem_singleton.mp last]
    exact behind earlier member
  · intro other member
    rcases List.mem_append.mp member with old | new
    · exact within.lt other old
    · rw [List.mem_singleton.mp new]
      exact lt

/-- What stands at positions in order is a subsequence. -/
theorem Within.sublist {α : Type} {positions : List Nat} {log : List α} {length : Nat}
    (within : Within positions length) :
    (positions.filterMap fun position => log[position]?).Sublist (log.take length) := by
  induction positions using List.reverseRecOn generalizing length with
  | nil => exact List.nil_sublist _
  | append_singleton positions position ih =>
    obtain ⟨ordered, lt⟩ := within
    have last : position < length := lt position (by simp)
    rw [List.pairwise_append] at ordered
    have before : Within positions position :=
      ⟨ordered.1, fun earlier member => ordered.2.2 earlier member position (by simp)⟩
    rw [List.filterMap_append]
    have first := ih before
    have onward : (log.take position ++ (log[position]?).toList).Sublist (log.take length) := by
      rw [← List.take_add_one]
      exact (List.take_prefix_take_left (by omega)).sublist
    have entry : [position].filterMap (fun position => log[position]?) = (log[position]?).toList := by
      cases found : log[position]? <;> simp only [List.filterMap_cons, found, List.filterMap_nil] <;> rfl
    rw [entry]
    exact (first.append (List.Sublist.refl _)).trans onward

/-- Two lists in one order have what they share in the same order. -/
theorem shared_of_pairwise {α : Type} [BEq α] [LawfulBEq α] {before : α → α → Prop}
    (asymm : ∀ a b, before a b → ¬ before b a) {list list' : List α} (first : list.Pairwise before)
    (second : list'.Pairwise before) : list.filter (· ∈ list') = list'.filter (· ∈ list) := by
  have apart : ∀ {a b}, before a b → a ≠ b := fun {a b} lt same => asymm a b lt (same ▸ same ▸ lt)
  apply List.Perm.eq_of_pairwise (fun a b _ _ lt gt => absurd gt (asymm a b lt)) (first.filter _) (second.filter _)
  apply (List.perm_ext_iff_of_nodup _ _).mpr
  · intro item
    simp only [List.mem_filter, decide_eq_true_eq]
    exact And.comm
  · exact (first.imp apart).filter _
  · exact (second.imp apart).filter _

/-! ### Along every run -/

section Runs
variable [DecidableEq Topic] [DecidableEq Subscriber] {s s' : State Author Topic Body Subscriber}

/-- Every subscriber has been handed positions of the log, in order. -/
def Ordered (s : State Author Topic Body Subscriber) : Prop :=
  ∀ k t, Within (s.handed k t) (s.log t).length

theorem step_ordered {action : Action Author Topic Body Subscriber} (ordered : Ordered s)
    (taken : step s action = some s') : Ordered s' := by
  intro k t
  cases action with
  | publish author topic body =>
    cases taken
    apply (ordered k t).mono
    dsimp only
    split
    · simp
    · exact Nat.le_refl _
  | hand subscriber topic position =>
    simp only [step] at taken
    split at taken
    · rename_i next
      cases taken
      dsimp only
      split
      · rename_i here
        obtain ⟨rfl, rfl⟩ := here
        exact (ordered k t).append next.2 next.1
      · exact ordered k t
    · cases taken

theorem run_ordered (run : Run step Free initial s) : Ordered s :=
  run.keeps (fun _ _ => ⟨List.Pairwise.nil, fun _ member => absurd member List.not_mem_nil⟩)
    fun _ _ _ ordered _ taken => step_ordered ordered taken

/-- What a subscriber has been handed is a subsequence of the log. -/
theorem entries_sublist (run : Run step Free initial s) (k : Subscriber) (t : Topic) :
    (s.entries k t).Sublist (s.log t) := by
  have sublist : (s.entries k t).Sublist ((s.log t).take (s.log t).length) := (run_ordered run k t).sublist
  rwa [List.take_length] at sublist

/-- Each author's entries reach a subscriber in the order in which he published them, and none twice. -/
theorem entries_author [DecidableEq Author] (run : Run step Free initial s) (k : Subscriber) (t : Topic)
    (author : Author) :
    ((s.entries k t).filter fun entry => entry.1 = author).Sublist
      ((s.log t).filter fun entry => entry.1 = author) :=
  (entries_sublist run k t).filter _

end Runs

end Foundation.Broadcast
