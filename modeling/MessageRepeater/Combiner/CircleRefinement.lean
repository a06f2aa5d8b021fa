import MessageRepeater.Foundation.TaggedRing
import MessageRepeater.Combiner.MessageContainer

/-!
# A ring refines an unbounded log

`logRead` says what a reader of an unbounded log with a retention of `n` entries gets.
`read_refines` shows that a ring answers every read with it, for every capacity and every
number of wraps.
-/

namespace MessageRepeater.Combiner
open Foundation

/-- A ring that holds the end of `log`. -/
structure Holds (ring : MessageCircle) (log : List Bytes) : Prop where
  next : ring.nextSequence = log.length
  bound : log.length ≤ maxSequence
  window : Window ring.circle (fun q body => ({ sequence := q, body } : StoredMessage)) log

theorem new_holds {topic : Topic} {n : Int} {ring : MessageCircle}
    (made : MessageCircle.new topic n = .ok ring) :
    Holds ring [] ∧ ring.circle.length = n.toNat ∧ 0 < n := by
  unfold MessageCircle.new at made
  split at made
  · cases made
  · cases made
    exact ⟨⟨rfl, by simp [maxSequence], .replicate _ _⟩, by simp, by omega⟩

theorem new_of_pos (topic : Topic) {n : Int} (pos : 0 < n) :
    ∃ ring, MessageCircle.new topic n = .ok ring := by
  refine ⟨_, dif_neg ?_⟩
  omega

theorem append_holds {ring : MessageCircle} {log : List Bytes} (holds : Holds ring log)
    (room : log.length < maxSequence) (message : Bytes) :
    ∃ ring', ring.append message = (.appended, ring') ∧ Holds ring' (log ++ [message]) ∧
      ring'.circle.length = ring.circle.length := by
  have free : ring.nextSequence ≠ maxSequence := by rw [holds.next]; omega
  refine ⟨_, if_neg free, ⟨?_, ?_, ?_⟩, by simp⟩
  · have lt := room
    simp only [maxSequence] at lt
    simp only [holds.next, List.length_append, List.length_cons, List.length_nil]
    exact add64_of_lt (by omega)
  · simp only [List.length_append, List.length_cons, List.length_nil]
    omega
  · simp only [holds.next]
    exact holds.window.append message ring.circle_pos

/-- The last sequence is never given out: an append there throws and leaves the ring as it is. -/
theorem append_exhausted {ring : MessageCircle} (last : ring.nextSequence = maxSequence)
    (message : Bytes) :
    ring.append message =
      (.overflowError (ascii "message sequence exhausted for topic " ++ ring.topic), ring) :=
  if_pos last

theorem append_appended {ring ring' : MessageCircle} {log : List Bytes} {message : Bytes}
    (holds : Holds ring log) (done : ring.append message = (.appended, ring')) :
    Holds ring' (log ++ [message]) ∧ ring'.circle.length = ring.circle.length := by
  by_cases room : log.length < maxSequence
  · obtain ⟨same, eq, held, len⟩ := append_holds holds room message
    rw [eq] at done
    cases done
    exact ⟨held, len⟩
  · have last : ring.nextSequence = maxSequence := by
      have := holds.bound
      rw [holds.next]
      omega
    rw [append_exhausted last] at done
    cases done

theorem oldestAvailable_eq {ring : MessageCircle} {log : List Bytes} (holds : Holds ring log) :
    ring.oldestAvailableSequence = log.length - ring.circle.length := by
  have bound := holds.bound
  simp only [maxSequence] at bound
  unfold MessageCircle.oldestAvailableSequence
  rw [holds.next]
  split
  · exact sub64_of_le (by omega) (by omega)
  · omega

/-! ### What a reader of the log gets -/

/-- Message `q` of the log, read by a consumer at `c`. -/
def logMessage (log : List Bytes) (n c q : Nat) (overrun : Bool) : MessageReadResult :=
  { status := .message
    message := log[q]?
    messageSequence := q
    nextSequence := q + 1
    producerSequence := log.length
    oldestAvailableSequence := log.length - n
    skippedMessages := q - c
    overrun }

/-- A read at `c` from an unbounded log of which the last `n` entries may be delivered. -/
def logRead (log : List Bytes) (n c : Nat) (sendLatest : Bool)
    (overrunPolicy : SubscriberOverrunPolicy) : MessageReadResult :=
  let oldest := log.length - n
  if log.length ≤ c then
    { nextSequence := c, producerSequence := log.length, oldestAvailableSequence := oldest }
  else if sendLatest then logMessage log n c (log.length - 1) (decide (c < oldest))
  else if c < oldest then
    match overrunPolicy with
    | .disconnect =>
      { status := .disconnect
        nextSequence := c
        producerSequence := log.length
        oldestAvailableSequence := oldest
        skippedMessages := oldest - c
        overrun := true }
    | .latest => logMessage log n c (log.length - 1) true
    | .oldest => logMessage log n c oldest true
  else logMessage log n c c false

/-- What `logRead` can return: nothing new, a retained message, or the overrun disconnect. -/
inductive ReadOutcome (log : List Bytes) (n c : Nat) (sendLatest : Bool)
    (policy : SubscriberOverrunPolicy) : MessageReadResult → Prop where
  | idle (beyond : log.length ≤ c) :
      ReadOutcome log n c sendLatest policy
        { nextSequence := c
          producerSequence := log.length
          oldestAvailableSequence := log.length - n }
  | message (q : Nat) (overrun : Bool) (le : c ≤ q) (lt : q < log.length)
      (retained : log.length ≤ q + n) (lost : overrun = decide (c < log.length - n))
      (skips : q ≠ c → sendLatest = true ∨ overrun = true ∧ policy ≠ .disconnect)
      (newest : sendLatest = true → q + 1 = log.length) :
      ReadOutcome log n c sendLatest policy (logMessage log n c q overrun)
  | disconnect (inside : c < log.length) (sequential : sendLatest = false)
      (policy_eq : policy = .disconnect) (lost : c < log.length - n) :
      ReadOutcome log n c sendLatest policy
        { status := .disconnect
          nextSequence := c
          producerSequence := log.length
          oldestAvailableSequence := log.length - n
          skippedMessages := log.length - n - c
          overrun := true }

theorem logRead_outcome (log : List Bytes) {n : Nat} (pos : 0 < n) (c : Nat) (sendLatest : Bool)
    (policy : SubscriberOverrunPolicy) :
    ReadOutcome log n c sendLatest policy (logRead log n c sendLatest policy) := by
  unfold logRead
  by_cases beyond : log.length ≤ c
  · simp only [beyond, if_true]
    exact .idle beyond
  simp only [beyond, if_false]
  cases sendLatest with
  | true =>
    simp only [if_true]
    exact .message (log.length - 1) _ (by omega) (by omega) (by omega) rfl (fun _ => .inl rfl)
      (fun _ => by omega)
  | false =>
    simp only [Bool.false_eq_true, if_false]
    by_cases lost : c < log.length - n
    · simp only [lost, if_true]
      cases policy with
      | disconnect => exact .disconnect (by omega) rfl rfl lost
      | latest =>
        exact .message (log.length - 1) true (by omega) (by omega) (by omega) (by simp [lost])
          (fun _ => .inr ⟨rfl, by simp⟩) (by simp)
      | oldest =>
        exact .message (log.length - n) true (by omega) (by omega) (by omega) (by simp [lost])
          (fun _ => .inr ⟨rfl, by simp⟩) (by simp)
    · simp only [lost, if_false]
      exact .message c false (by omega) (by omega) (by omega) (by simp [lost])
        (fun ne => absurd rfl ne) (by simp)

/-- Every sequence in the window is found in its slot, so the fallback of `read` is not taken. -/
theorem readSlot_held {ring : MessageCircle} {log : List Bytes} (holds : Holds ring log)
    {q : Nat} (lt : q < log.length) (near : log.length ≤ q + ring.circle.length)
    (sendLatest : Bool) (policy : SubscriberOverrunPolicy) (result : MessageReadResult) :
    ring.readSlot sendLatest policy q result =
      { result with
        status := .message
        message := some log[q]
        messageSequence := q
        nextSequence :=
          if sendLatest || (result.overrun && policy == .latest) then log.length else q + 1 } := by
  have bound := holds.bound
  simp only [maxSequence] at bound
  unfold MessageCircle.readSlot
  rw [holds.window.held q lt near]
  simp only [Option.join_some, ne_eq, not_true_eq_false, if_false, holds.next,
    add64_of_lt (show q + 1 < 2 ^ 64 by omega)]

theorem read_refines {ring : MessageCircle} {log : List Bytes} (holds : Holds ring log) (c : Nat)
    (sendLatest : Bool) (policy : SubscriberOverrunPolicy) :
    ring.read c sendLatest policy = logRead log ring.circle.length c sendLatest policy := by
  have bound := holds.bound
  have pos := ring.circle_pos
  simp only [maxSequence] at bound
  unfold MessageCircle.read logRead
  simp only [holds.next, oldestAvailable_eq holds, ge_iff_le]
  by_cases beyond : log.length ≤ c
  · simp [beyond]
  have last : log.length - 1 < log.length := by omega
  have last_succ : log.length - 1 + 1 = log.length := by omega
  have lastWord : sub64 log.length 1 = log.length - 1 := sub64_of_le (by omega) (by omega)
  have skipLast : sub64 (log.length - 1) c = log.length - 1 - c := sub64_of_le (by omega) (by omega)
  simp only [beyond, if_false, lastWord, skipLast]
  cases sendLatest with
  | true =>
    simp only [if_true, readSlot_held holds last (by omega), logMessage, Bool.true_or,
      List.getElem?_eq_getElem last, last_succ]
  | false =>
    simp only [Bool.false_eq_true, if_false]
    by_cases lost : c < log.length - ring.circle.length
    · have skipOldest : sub64 (log.length - ring.circle.length) c =
          log.length - ring.circle.length - c := sub64_of_le (by omega) (by omega)
      have oldest : log.length - ring.circle.length < log.length := by omega
      simp only [lost, if_true]
      cases policy with
      | disconnect => simp [skipOldest]
      | latest =>
        simp only [readSlot_held holds last (by omega), logMessage, List.getElem?_eq_getElem last,
          last_succ, Bool.false_or, Bool.true_and, beq_self_eq_true, if_true]
      | oldest =>
        have distinct : (SubscriberOverrunPolicy.oldest == .latest) = false := rfl
        simp only [readSlot_held holds oldest (by omega), logMessage, skipOldest, distinct,
          List.getElem?_eq_getElem oldest, Bool.false_or, Bool.and_false, Bool.false_eq_true, if_false]
    · simp only [lost, if_false, readSlot_held holds (show c < log.length by omega) (by omega),
        logMessage, List.getElem?_eq_getElem (show c < log.length by omega), Bool.false_or,
        Bool.false_and, Bool.false_eq_true, if_false, Nat.sub_self]

/-! ### The ring after a sequence of appends -/

/-- Append every message in turn. -/
def MessageCircle.appendAll (ring : MessageCircle) : List Bytes → Except Bytes MessageCircle
  | [] => .ok ring
  | message :: rest =>
    match ring.append message with
    | (.overflowError what, _) => .error what
    | (.appended, ring') => ring'.appendAll rest

theorem appendAll_holds {ring : MessageCircle} {log : List Bytes} (holds : Holds ring log)
    (xs : List Bytes) (short : log.length + xs.length ≤ maxSequence) :
    ∃ ring', ring.appendAll xs = .ok ring' ∧ Holds ring' (log ++ xs) ∧
      ring'.circle.length = ring.circle.length := by
  induction xs generalizing ring log with
  | nil => exact ⟨ring, rfl, by simpa using holds, rfl⟩
  | cons x rest ih =>
    simp only [List.length_cons] at short
    obtain ⟨next, done, held, len⟩ := append_holds holds (by omega) x
    obtain ⟨last, all, heldAll, lenAll⟩ := ih held (by simp; omega)
    exact ⟨last, by simp only [MessageCircle.appendAll, done, all], by simpa using heldAll,
      lenAll.trans len⟩

/-- How a ring of capacity `n` that has received `xs` answers, in terms of `xs` alone. -/
structure RefinesLog (ring : MessageCircle) (n : Nat) (xs : List Bytes) : Prop where
  /-- `NoMessage` exactly at or beyond the end of the log. -/
  noMessage : ∀ c sendLatest policy,
    (ring.read c sendLatest policy).status = .noMessage ↔ xs.length ≤ c
  /-- Send-latest mode: the last element. -/
  latest : ∀ c policy, c < xs.length →
    let result := ring.read c true policy
    result.status = .message ∧ result.message = xs.getLast? ∧ result.nextSequence = xs.length
  /-- Sequential mode inside the window: element `c`. -/
  sequential : ∀ c policy, xs.length - n ≤ c → (lt : c < xs.length) →
    let result := ring.read c false policy
    result.status = .message ∧ result.message = some xs[c] ∧ result.nextSequence = c + 1 ∧
      result.overrun = false
  /-- Sequential mode before the window, by policy. -/
  overrunLatest : ∀ c, c < xs.length - n →
    let result := ring.read c false .latest
    result.status = .message ∧ result.message = xs.getLast? ∧ result.nextSequence = xs.length ∧
      result.overrun = true
  overrunOldest : ∀ c, c < xs.length - n →
    let result := ring.read c false .oldest
    result.status = .message ∧ result.message = xs[xs.length - n]? ∧
      result.nextSequence = xs.length - n + 1 ∧ result.overrun = true
  overrunDisconnect : ∀ c, c < xs.length - n →
    let result := ring.read c false .disconnect
    result.status = .disconnect ∧ result.message = none ∧ result.nextSequence = c ∧
      result.overrun = true
  /-- The slot of every retained sequence holds that sequence, and a read ends in `Disconnect` by
  the overrun policy only: the fallback branch is not reachable. -/
  slots : ∀ q, xs.length - n ≤ q → (lt : q < xs.length) →
    ring.circle[q % ring.circle.length]? = some (some { sequence := q, body := xs[q] })
  noFallback : ∀ c sendLatest policy, (ring.read c sendLatest policy).status = .disconnect →
    sendLatest = false ∧ policy = .disconnect ∧ c < xs.length - n
  oldest : ∀ c sendLatest policy, (ring.read c sendLatest policy).oldestAvailableSequence =
    ring.getMeta.oldestAvailableSequence
  turns : ring.getMeta.overlappingTurns * n + ring.getMeta.indexOffset = ring.getMeta.nextSequence
  next : ring.getMeta.nextSequence = xs.length

theorem read_outcome {ring : MessageCircle} {log : List Bytes} (holds : Holds ring log) (c : Nat)
    (sendLatest : Bool) (policy : SubscriberOverrunPolicy) :
    ReadOutcome log ring.circle.length c sendLatest policy (ring.read c sendLatest policy) := by
  rw [read_refines holds]
  exact logRead_outcome log ring.circle_pos c sendLatest policy

theorem holds_refinesLog {ring : MessageCircle} {xs : List Bytes} (holds : Holds ring xs) :
    RefinesLog ring ring.circle.length xs := by
  have lastMessage : xs.getLast? = xs[xs.length - 1]? := List.getLast?_eq_getElem?
  have shape : ∀ c sendLatest policy, ReadOutcome xs ring.circle.length c sendLatest policy
      (ring.read c sendLatest policy) := read_outcome holds
  refine ⟨?_, ?_, ?_, ?_, ?_, ?_, ?_, ?_, ?_, ?_, holds.next⟩
  · intro c sendLatest policy
    have outcome := shape c sendLatest policy
    generalize ring.read c sendLatest policy = result at outcome
    cases outcome with
    | idle beyond => exact ⟨fun _ => beyond, fun _ => rfl⟩
    | message q _ le lt => exact ⟨nofun, fun beyond => by omega⟩
    | disconnect inside => exact ⟨nofun, fun beyond => by omega⟩
  · intro c policy lt
    have inside : ¬ xs.length ≤ c := by omega
    have succ : xs.length - 1 + 1 = xs.length := by omega
    simp [read_refines holds, logRead, logMessage, inside, lastMessage, succ]
  · intro c policy le lt
    have inside : ¬ xs.length ≤ c := by omega
    have kept : ¬ c < xs.length - ring.circle.length := by omega
    simp [read_refines holds, logRead, logMessage, inside, kept, lt]
  · intro c lost
    have inside : ¬ xs.length ≤ c := by omega
    have succ : xs.length - 1 + 1 = xs.length := by omega
    simp [read_refines holds, logRead, logMessage, inside, lost, lastMessage, succ]
  · intro c lost
    have inside : ¬ xs.length ≤ c := by omega
    simp [read_refines holds, logRead, logMessage, inside, lost]
  · intro c lost
    have inside : ¬ xs.length ≤ c := by omega
    simp [read_refines holds, logRead, inside, lost]
  · intro q le lt
    exact holds.window.held q lt (by omega)
  · intro c sendLatest policy stopped
    have outcome := shape c sendLatest policy
    generalize ring.read c sendLatest policy = result at outcome stopped
    cases outcome with
    | idle => cases stopped
    | message => cases stopped
    | disconnect _ sequential policy_eq lost => exact ⟨sequential, policy_eq, lost⟩
  · intro c sendLatest policy
    simp only [MessageCircle.getMeta, oldestAvailable_eq holds]
    have outcome := shape c sendLatest policy
    generalize ring.read c sendLatest policy = result at outcome
    cases outcome <;> rfl
  · simp only [MessageCircle.getMeta]
    rw [Nat.mul_comm]
    exact Nat.div_add_mod _ _

/-- A ring of any positive capacity answers as the unbounded log of all the messages it has
received; at the last sequence an append throws and leaves the ring as it is. -/
theorem circle_refines_log (topic : Topic) (n : Int) (pos : 0 < n) (xs : List Bytes)
    (short : xs.length < maxSequence) :
    (∃ fresh ring, MessageCircle.new topic n = .ok fresh ∧ fresh.appendAll xs = .ok ring ∧
      RefinesLog ring n.toNat xs) ∧
    ∀ (ring : MessageCircle) (message : Bytes), ring.nextSequence = maxSequence →
      ring.append message =
        (.overflowError (ascii "message sequence exhausted for topic " ++ ring.topic), ring) := by
  refine ⟨?_, fun ring message last => append_exhausted last message⟩
  obtain ⟨fresh, made⟩ := new_of_pos topic pos
  obtain ⟨empty, size, _⟩ := new_holds made
  obtain ⟨ring, filled, holds, len⟩ := appendAll_holds empty xs (by simp; omega)
  refine ⟨fresh, ring, made, filled, ?_⟩
  rw [← size, ← len]
  exact holds_refinesLog holds

/-- The ring of the overrun tests: capacity three and four messages. -/
theorem circle_refines_log_overrun :
    (∃ fresh ring, MessageCircle.new (ascii "T") 3 = .ok fresh ∧
      fresh.appendAll [ascii "zero", ascii "one", ascii "two", ascii "three"] = .ok ring ∧
      RefinesLog ring 3 [ascii "zero", ascii "one", ascii "two", ascii "three"]) :=
  (circle_refines_log (ascii "T") 3 (by decide) _ (by decide)).1

end MessageRepeater.Combiner
