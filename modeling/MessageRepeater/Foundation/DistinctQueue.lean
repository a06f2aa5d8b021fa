/-!
# Queues without repetitions

The order of the waiting entries of a queue that takes its entries in arrival order and holds each at
most once.
-/

namespace Foundation
variable {Entry : Type} [DecidableEq Entry]

/-- How often `a` is in the queue ahead of a waiting `b`. -/
def ahead (a b : Entry) (queue : List Entry) : Nat :=
  if b ∈ queue then (queue.takeWhile (· ≠ b)).count a else 0

/-- What one operation does to a queue. -/
inductive QueueMove (queue queue' : List Entry) : Prop where
  | same (same : queue' = queue)
  | append (entry : Entry) (same : queue' = queue ++ [entry])
  | pop (entry : Entry) (same : queue = entry :: queue')
  | clear (same : queue' = [])

@[simp] theorem ahead_absent {a b : Entry} {queue : List Entry} (absent : b ∉ queue) :
    ahead a b queue = 0 := if_neg absent

theorem ahead_append (a : Entry) {b : Entry} {queue : List Entry} (waiting : b ∈ queue)
    (later : List Entry) : ahead a b (queue ++ later) = ahead a b queue := by
  unfold ahead
  rw [if_pos waiting, if_pos (List.mem_append_left _ waiting)]
  induction queue with
  | nil => cases waiting
  | cons first rest ih =>
    rw [List.cons_append]
    by_cases here : first = b
    · rw [List.takeWhile_cons_of_neg (by simpa using here), List.takeWhile_cons_of_neg (by simpa using here)]
    · have further : b ∈ rest := (List.mem_cons.mp waiting).resolve_left fun same => here same.symm
      rw [List.takeWhile_cons_of_pos (by simpa using here), List.takeWhile_cons_of_pos (by simpa using here),
        List.count_cons, List.count_cons, ih further]

theorem ahead_head (a b : Entry) (rest : List Entry) : ahead a b (b :: rest) = 0 := by
  simp [ahead]

theorem ahead_cons (a : Entry) {b head : Entry} {rest : List Entry} (waiting : b ∈ rest)
    (other : head ≠ b) : ahead a b (head :: rest) = ahead a b rest + if head = a then 1 else 0 := by
  unfold ahead
  rw [if_pos waiting, if_pos (List.mem_cons_of_mem _ waiting)]
  rw [List.takeWhile_cons_of_pos (by simpa using other), List.count_cons]
  simp only [beq_iff_eq]

/-- In a queue without repetitions an entry is ahead at most once. -/
theorem ahead_le_one (a b : Entry) {queue : List Entry} (distinct : queue.Nodup) :
    ahead a b queue ≤ 1 := by
  unfold ahead
  split
  · have front := distinct.sublist (List.takeWhile_sublist (· ≠ b))
    exact List.nodup_iff_count.mp front a
  · exact Nat.zero_le 1

theorem ahead_pop (a b head : Entry) {rest : List Entry} (distinct : (head :: rest).Nodup)
    (waiting : b ∈ head :: rest) :
    ahead a b rest + (if head = a ∧ a ≠ b then 1 else 0) = ahead a b (head :: rest) := by
  by_cases mine : head = b
  · subst mine
    rw [ahead_absent (List.nodup_cons.mp distinct).1, ahead_head]
    split
    · rename_i both
      exact absurd both.1.symm both.2
    · rfl
  · have further : b ∈ rest := (List.mem_cons.mp waiting).resolve_left fun same => mine same.symm
    rw [ahead_cons a further mine]
    by_cases taken : head = a
    · subst taken
      simp [mine]
    · simp [taken]

/-- No operation puts an entry ahead of one that waits. -/
theorem QueueMove.ahead_le {queue queue' : List Entry} (move : QueueMove queue queue') (a : Entry)
    {b : Entry} (distinct : queue.Nodup) (waiting : b ∈ queue) :
    ahead a b queue' ≤ ahead a b queue := by
  cases move with
  | same same => exact same ▸ Nat.le_refl _
  | append entry same => exact same ▸ Nat.le_of_eq (ahead_append a waiting [entry])
  | pop entry same =>
    subst same
    rw [← ahead_pop a b entry distinct waiting]
    exact Nat.le_add_right _ _
  | clear same =>
    subst same
    rw [ahead_absent List.not_mem_nil]
    exact Nat.zero_le _

end Foundation
