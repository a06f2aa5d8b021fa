import Mathlib.Algebra.GroupWithZero.Nat
import MessageRepeater.Foundation.Runs
import MessageRepeater.Combiner.CircleRefinement

/-!
# Read accounting

A reader that moves its cursor to `next_sequence` of each message it gets, against a ring that goes on
receiving messages between its reads. Every sequence that the cursor passes is a message returned or a
message counted as skipped.
-/

namespace MessageRepeater.Combiner
open Foundation

/-! ### Subtractions -/

/-- `a - b`, `none` where the unsigned difference wraps. -/
def checkedSub (a b : Nat) : Option Nat := if b ≤ a then some (a - b) else none

theorem checkedSub_eq {a b : Nat} (le : b ≤ a) (lt : a < 2 ^ 64) : checkedSub a b = some (sub64 a b) := by
  rw [checkedSub, if_pos le, sub64_of_le le lt]

def MessageCircle.checkedOldest (ring : MessageCircle) : Option Nat :=
  if ring.nextSequence > ring.circle.length then checkedSub ring.nextSequence ring.circle.length
  else some 0

/-- `read` with every subtraction checked. -/
def MessageCircle.checkedRead (ring : MessageCircle) (consumerSequence : Nat) (sendLatest : Bool)
    (overrunPolicy : SubscriberOverrunPolicy) : Option MessageReadResult := do
  let oldest ← ring.checkedOldest
  let result : MessageReadResult :=
    { nextSequence := consumerSequence
      producerSequence := ring.nextSequence
      oldestAvailableSequence := oldest }
  if consumerSequence ≥ ring.nextSequence then some result
  else if sendLatest then do
    let target ← checkedSub ring.nextSequence 1
    let skipped ← checkedSub target consumerSequence
    some (ring.readSlot sendLatest overrunPolicy target
      { result with overrun := decide (consumerSequence < oldest), skippedMessages := skipped })
  else if consumerSequence < oldest then
    match overrunPolicy with
    | .disconnect => do
      let skipped ← checkedSub oldest consumerSequence
      some { result with overrun := true, status := .disconnect, skippedMessages := skipped }
    | .latest => do
      let target ← checkedSub ring.nextSequence 1
      let skipped ← checkedSub target consumerSequence
      some (ring.readSlot sendLatest overrunPolicy target
        { result with overrun := true, skippedMessages := skipped })
    | .oldest => do
      let skipped ← checkedSub oldest consumerSequence
      some (ring.readSlot sendLatest overrunPolicy oldest
        { result with overrun := true, skippedMessages := skipped })
  else some (ring.readSlot sendLatest overrunPolicy consumerSequence result)

/-- No subtraction of `read` wraps. -/
theorem checkedRead_eq {ring : MessageCircle} {log : List Bytes} (holds : Holds ring log) (c : Nat)
    (sendLatest : Bool) (policy : SubscriberOverrunPolicy) :
    ring.checkedRead c sendLatest policy = some (ring.read c sendLatest policy) := by
  have bound := holds.bound
  simp only [maxSequence] at bound
  have next_lt : ring.nextSequence < 2 ^ 64 := by rw [holds.next]; omega
  have oldest_eq := oldestAvailable_eq holds
  rw [← holds.next] at oldest_eq
  have oldest : ring.checkedOldest = some ring.oldestAvailableSequence := by
    unfold MessageCircle.checkedOldest MessageCircle.oldestAvailableSequence
    split
    · rename_i more
      exact checkedSub_eq (Nat.le_of_lt more) next_lt
    · rfl
  unfold MessageCircle.checkedRead MessageCircle.read
  rw [oldest]
  simp only [Option.bind_eq_bind, Option.bind_some]
  by_cases beyond : c ≥ ring.nextSequence
  · rw [if_pos beyond, if_pos beyond]
  · rw [if_neg beyond, if_neg beyond]
    have last : checkedSub ring.nextSequence 1 = some (sub64 ring.nextSequence 1) :=
      checkedSub_eq (by omega) next_lt
    have lastWord : sub64 ring.nextSequence 1 = ring.nextSequence - 1 := sub64_of_le (by omega) next_lt
    have skipLast : checkedSub (sub64 ring.nextSequence 1) c =
        some (sub64 (sub64 ring.nextSequence 1) c) :=
      checkedSub_eq (by omega) (by omega)
    cases sendLatest with
    | true => simp only [if_true, last, skipLast, Option.bind_some]
    | false =>
      simp only [Bool.false_eq_true, if_false]
      by_cases lost : c < ring.oldestAvailableSequence
      · have skipOldest : checkedSub ring.oldestAvailableSequence c =
            some (sub64 ring.oldestAvailableSequence c) := checkedSub_eq (by omega) (by omega)
        rw [if_pos lost, if_pos lost]
        cases policy with
        | disconnect => simp only [skipOldest, Option.bind_some]
        | latest => simp only [last, skipLast, Option.bind_some]
        | oldest => simp only [skipOldest, Option.bind_some]
      · rw [if_neg lost, if_neg lost]

/-! ### A reader that follows a ring -/

/-- A ring and one of its readers. `reads` lists the cursor and the result of each read. -/
structure Reader where
  ring : MessageCircle
  cursor : Nat
  reads : List (Nat × MessageReadResult) := []

/-- What happens next: a publisher appends, or the reader reads. -/
inductive ReaderAction where
  | append (message : Bytes)
  | read
  deriving DecidableEq, Repr

/-- One read. A message moves the cursor to its `next_sequence`. -/
def Reader.poll (sendLatest : Bool) (policy : SubscriberOverrunPolicy) (reader : Reader) : Reader :=
  let result := reader.ring.read reader.cursor sendLatest policy
  { reader with
    cursor := if result.status = .message then result.nextSequence else reader.cursor
    reads := reader.reads ++ [(reader.cursor, result)] }

def Reader.step (sendLatest : Bool) (policy : SubscriberOverrunPolicy) (reader : Reader) :
    ReaderAction → Option Reader
  | .append message => some { reader with ring := (reader.ring.append message).2 }
  | .read => some (reader.poll sendLatest policy)

/-- The results that carried a message. -/
def Reader.received (reader : Reader) : List MessageReadResult :=
  (reader.reads.map Prod.snd).filter (·.status = .message)

/-- What a read at cursor `c` reports, next to the cursor. -/
structure ReadReport (c : Nat) (result : MessageReadResult) : Prop where
  overrun : result.overrun = true ↔ c < result.oldestAvailableSequence
  advance : result.status = .message → result.nextSequence = c + 1 + result.skippedMessages
  position : result.status = .message → result.messageSequence + 1 = result.nextSequence
  within : result.status = .message → result.nextSequence ≤ result.producerSequence
  lost : result.status = .disconnect →
    c + result.skippedMessages = result.oldestAvailableSequence ∧ result.overrun = true

/-- The books of a reader that began at `c`. -/
structure Accounted (c : Nat) (reader : Reader) : Prop where
  bounded : reader.cursor ≤ reader.ring.nextSequence
  reports : ∀ entry ∈ reader.reads, ReadReport entry.1 entry.2
  increasing : (reader.received.map MessageReadResult.messageSequence).Pairwise (· < ·)
  passed : ∀ result ∈ reader.received, result.messageSequence < reader.cursor
  total : reader.cursor =
    c + reader.received.length + (reader.received.map MessageReadResult.skippedMessages).sum

theorem read_report {ring : MessageCircle} {log : List Bytes} (holds : Holds ring log) (c : Nat)
    (sendLatest : Bool) (policy : SubscriberOverrunPolicy) :
    ReadReport c (ring.read c sendLatest policy) := by
  have outcome := read_outcome holds c sendLatest policy
  generalize ring.read c sendLatest policy = result at outcome
  cases outcome with
  | idle beyond =>
    refine ⟨?_, nofun, nofun, nofun, nofun⟩
    show false = true ↔ c < log.length - ring.circle.length
    exact ⟨nofun, fun below => by omega⟩
  | message q overrun le lt _ lost =>
    refine ⟨?_, fun _ => ?_, fun _ => rfl, fun _ => lt, nofun⟩
    · show overrun = true ↔ c < log.length - ring.circle.length
      rw [lost]
      exact decide_eq_true_iff
    · show q + 1 = c + 1 + (q - c)
      omega
  | disconnect inside _ _ lost =>
    refine ⟨iff_of_true rfl lost, nofun, nofun, nofun, fun _ => ⟨?_, rfl⟩⟩
    show c + (log.length - ring.circle.length - c) = log.length - ring.circle.length
    omega

theorem read_producer (ring : MessageCircle) {log : List Bytes} (holds : Holds ring log) (c : Nat)
    (sendLatest : Bool) (policy : SubscriberOverrunPolicy) :
    (ring.read c sendLatest policy).producerSequence = ring.nextSequence := by
  have outcome := read_outcome holds c sendLatest policy
  rw [holds.next]
  generalize ring.read c sendLatest policy = result at outcome
  cases outcome <;> rfl

/-! ### Along a run -/

theorem appendAll_ok {ring ring' : MessageCircle} {log xs : List Bytes} (holds : Holds ring log)
    (filled : ring.appendAll xs = .ok ring') :
    ∃ log', Holds ring' log' ∧ ring'.circle.length = ring.circle.length := by
  induction xs generalizing ring log with
  | nil =>
    cases filled
    exact ⟨log, holds, rfl⟩
  | cons x rest ih =>
    unfold MessageCircle.appendAll at filled
    split at filled
    · cases filled
    · rename_i next done
      obtain ⟨held, len⟩ := append_appended holds done
      obtain ⟨log', last, same⟩ := ih held filled
      exact ⟨log', last, same.trans len⟩

theorem append_next_le {ring : MessageCircle} {log : List Bytes} (holds : Holds ring log)
    (message : Bytes) :
    ∃ log', Holds (ring.append message).2 log' ∧
      (ring.append message).2.circle.length = ring.circle.length ∧
      ring.nextSequence ≤ (ring.append message).2.nextSequence := by
  by_cases last : ring.nextSequence = maxSequence
  · rw [append_exhausted last]
    exact ⟨log, holds, rfl, Nat.le_refl _⟩
  · have room : log.length < maxSequence := by
      have := holds.bound
      have := holds.next
      omega
    obtain ⟨ring', eq, held, len⟩ := append_holds holds room message
    rw [eq]
    refine ⟨_, held, len, ?_⟩
    rw [holds.next, held.next, List.length_append]
    omega

theorem received_poll (sendLatest : Bool) (policy : SubscriberOverrunPolicy) (reader : Reader) :
    (reader.poll sendLatest policy).received = reader.received ++
      if (reader.ring.read reader.cursor sendLatest policy).status = .message then
        [reader.ring.read reader.cursor sendLatest policy] else [] := by
  simp only [Reader.received, Reader.poll, List.map_append, List.filter_append, List.map_cons,
    List.map_nil, List.filter_cons, List.filter_nil, decide_eq_true_eq]

/-- A read keeps the books: a message's cursor step is the message and what it skipped. -/
theorem poll_accounted {sendLatest : Bool} {policy : SubscriberOverrunPolicy} {c : Nat}
    {reader : Reader} {log : List Bytes} (holds : Holds reader.ring log)
    (books : Accounted c reader) : Accounted c (reader.poll sendLatest policy) := by
  have report := read_report holds reader.cursor sendLatest policy
  have producer := read_producer reader.ring holds reader.cursor sendLatest policy
  have received := received_poll sendLatest policy reader
  have reports : ∀ entry ∈ (reader.poll sendLatest policy).reads, ReadReport entry.1 entry.2 := by
    intro entry member
    rcases List.mem_append.mp member with old | new
    · exact books.reports entry old
    · obtain rfl := List.mem_singleton.mp new
      exact report
  by_cases message : (reader.ring.read reader.cursor sendLatest policy).status = .message
  · rw [if_pos message] at received
    have cursor : (reader.poll sendLatest policy).cursor =
        (reader.ring.read reader.cursor sendLatest policy).nextSequence := if_pos message
    have advance := report.advance message
    have position := report.position message
    have within := report.within message
    refine ⟨?_, reports, ?_, ?_, ?_⟩
    · rw [cursor]
      exact within.trans_eq producer
    · rw [received, List.map_append]
      refine List.pairwise_append.mpr ⟨books.increasing, List.pairwise_singleton _ _, ?_⟩
      intro earlier member last new
      obtain ⟨result, old, rfl⟩ := List.mem_map.mp member
      obtain rfl := List.mem_singleton.mp new
      have := books.passed result old
      omega
    · intro result member
      rw [received] at member
      rw [cursor]
      rcases List.mem_append.mp member with old | new
      · have := books.passed result old
        omega
      · obtain rfl := List.mem_singleton.mp new
        omega
    · have total := books.total
      rw [received, cursor, advance]
      simp only [List.length_append, List.map_append, List.sum_append, List.length_singleton,
        List.map_cons, List.map_nil, List.sum_cons, List.sum_nil]
      omega
  · rw [if_neg message, List.append_nil] at received
    have cursor : (reader.poll sendLatest policy).cursor = reader.cursor := if_neg message
    refine ⟨?_, reports, ?_, ?_, ?_⟩
    · rw [cursor]
      exact books.bounded
    · rw [received]
      exact books.increasing
    · rw [received, cursor]
      exact books.passed
    · rw [received, cursor]
      exact books.total

/-- A ring of the first capacity that holds some log, and books that balance. -/
structure ReaderInv (capacity c : Nat) (reader : Reader) : Prop where
  held : ∃ log, Holds reader.ring log
  size : reader.ring.circle.length = capacity
  books : Accounted c reader

theorem step_accounted {sendLatest : Bool} {policy : SubscriberOverrunPolicy} {capacity c : Nat}
    {reader reader' : Reader} {action : ReaderAction} (inv : ReaderInv capacity c reader)
    (taken : reader.step sendLatest policy action = some reader') : ReaderInv capacity c reader' := by
  obtain ⟨log, holds⟩ := inv.held
  cases action with
  | append message =>
    obtain rfl := Option.some.inj taken
    obtain ⟨log', held, len, grown⟩ := append_next_le holds message
    have books := inv.books
    exact ⟨⟨log', held⟩, len.trans inv.size,
      ⟨Nat.le_trans books.bounded grown, books.reports, books.increasing, books.passed, books.total⟩⟩
  | read =>
    obtain rfl := Option.some.inj taken
    exact ⟨⟨log, holds⟩, inv.size, poll_accounted holds inv.books⟩

/-! ### A reader alone -/

/-- The next read of the reader brings a message. -/
def Reader.Fed (sendLatest : Bool) (policy : SubscriberOverrunPolicy) (reader : Reader) : Prop :=
  (reader.ring.read reader.cursor sendLatest policy).status = .message

/-- After a message the cursor is inside the window, with fewer than a capacity still to read. -/
theorem poll_backlog {sendLatest : Bool} {policy : SubscriberOverrunPolicy} {reader : Reader}
    {log : List Bytes} (holds : Holds reader.ring log) (fed : reader.Fed sendLatest policy) :
    reader.cursor < (reader.poll sendLatest policy).cursor ∧
      log.length < (reader.poll sendLatest policy).cursor + reader.ring.circle.length ∧
      (reader.poll sendLatest policy).cursor ≤ log.length := by
  have cursor : (reader.poll sendLatest policy).cursor =
      (reader.ring.read reader.cursor sendLatest policy).nextSequence := if_pos fed
  have outcome := read_outcome holds reader.cursor sendLatest policy
  unfold Reader.Fed at fed
  rw [cursor]
  generalize reader.ring.read reader.cursor sendLatest policy = result at outcome fed
  cases outcome with
  | idle => cases fed
  | message q overrun le lt retained =>
    show reader.cursor < q + 1 ∧ log.length < q + 1 + reader.ring.circle.length ∧ q + 1 ≤ log.length
    omega
  | disconnect => cases fed

/-- A poll that finds a message, and then the polls of what is left. -/
theorem Reader.Fed.drains {sendLatest : Bool} {policy : SubscriberOverrunPolicy} {reader : Reader} {n : Nat}
    (fed : reader.Fed sendLatest policy)
    (rest : ∃ k ≤ n,
      (∀ i < k, ((Reader.poll sendLatest policy)^[i] (reader.poll sendLatest policy)).Fed sendLatest policy) ∧
        ¬ ((Reader.poll sendLatest policy)^[k] (reader.poll sendLatest policy)).Fed sendLatest policy) :
    ∃ k ≤ n + 1, (∀ i < k, ((Reader.poll sendLatest policy)^[i] reader).Fed sendLatest policy) ∧
      ¬ ((Reader.poll sendLatest policy)^[k] reader).Fed sendLatest policy := by
  obtain ⟨k, le, all, done⟩ := rest
  refine ⟨k + 1, by omega, fun i lt => ?_, done⟩
  cases i with
  | zero => exact fed
  | succ i => exact all i (by omega)

/-- Without appends, at most `backlog` further reads bring a message. -/
theorem drains_backlog (sendLatest : Bool) (policy : SubscriberOverrunPolicy) {log : List Bytes}
    (backlog : Nat) (reader : Reader) (holds : Holds reader.ring log)
    (near : log.length ≤ reader.cursor + backlog) :
    ∃ k ≤ backlog, (∀ i < k, ((Reader.poll sendLatest policy)^[i] reader).Fed sendLatest policy) ∧
      ¬ ((Reader.poll sendLatest policy)^[k] reader).Fed sendLatest policy := by
  induction backlog generalizing reader with
  | zero =>
    refine ⟨0, Nat.le_refl _, nofun, fun fed => ?_⟩
    have := poll_backlog holds fed
    omega
  | succ backlog ih =>
    by_cases fed : reader.Fed sendLatest policy
    · have nearer := poll_backlog holds fed
      exact fed.drains (ih (reader.poll sendLatest policy) holds (by omega))
    · exact ⟨0, Nat.zero_le _, nofun, fed⟩

theorem drains {sendLatest : Bool} {policy : SubscriberOverrunPolicy} {reader : Reader}
    {log : List Bytes} (holds : Holds reader.ring log) :
    ∃ k ≤ reader.ring.circle.length,
      (∀ i < k, ((Reader.poll sendLatest policy)^[i] reader).Fed sendLatest policy) ∧
      ¬ ((Reader.poll sendLatest policy)^[k] reader).Fed sendLatest policy := by
  have pos := reader.ring.circle_pos
  by_cases fed : reader.Fed sendLatest policy
  · have nearer := poll_backlog holds fed
    have rest := fed.drains (drains_backlog sendLatest policy (reader.ring.circle.length - 1)
      (reader.poll sendLatest policy) holds (by omega))
    rwa [Nat.sub_add_cancel pos] at rest
  · exact ⟨0, Nat.zero_le _, nofun, fed⟩

/-- Over every interleaving of appends with one reader: the books balance at every point, no
subtraction of the next read wraps, and without further appends the reader gets at most a capacity of
messages before `NoMessage` or `Disconnect`. -/
theorem read_accounting {topic : Topic} {n : Int} {fresh ring : MessageCircle} {xs : List Bytes}
    (made : MessageCircle.new topic n = .ok fresh) (filled : fresh.appendAll xs = .ok ring)
    {c : Nat} (start : c ≤ ring.nextSequence) (sendLatest : Bool) (policy : SubscriberOverrunPolicy)
    {reader : Reader} (run : Run (Reader.step sendLatest policy) Free { ring, cursor := c } reader) :
    Accounted c reader ∧
    reader.ring.checkedRead reader.cursor sendLatest policy =
      some (reader.ring.read reader.cursor sendLatest policy) ∧
    ReadReport reader.cursor (reader.ring.read reader.cursor sendLatest policy) ∧
    (reader.ring.read reader.cursor sendLatest policy).oldestAvailableSequence =
      reader.ring.getMeta.oldestAvailableSequence ∧
    ∃ k ≤ n.toNat,
      (∀ i < k, ((Reader.poll sendLatest policy)^[i] reader).Fed sendLatest policy) ∧
      ¬ ((Reader.poll sendLatest policy)^[k] reader).Fed sendLatest policy := by
  obtain ⟨empty, size, _⟩ := new_holds made
  obtain ⟨log, holds, len⟩ := appendAll_ok empty filled
  have initial : ReaderInv n.toNat c { ring, cursor := c } :=
    ⟨⟨log, holds⟩, len.trans size, start, nofun, .nil, nofun, rfl⟩
  have inv := run.keeps initial fun _ _ _ inv _ taken => step_accounted inv taken
  obtain ⟨log', held⟩ := inv.held
  refine ⟨inv.books, checkedRead_eq held _ _ _, read_report held _ _ _,
    (holds_refinesLog held).oldest _ _ _, ?_⟩
  rw [← inv.size]
  exact drains held

/-- The oldest policy on the ring of the overrun tests, with an append between the two reads: one
message is skipped at each read. -/
theorem read_accounting_oldest :
    ∃ (fresh ring : MessageCircle) (reader : Reader),
      MessageCircle.new (ascii "T") 3 = .ok fresh ∧
      fresh.appendAll [ascii "zero", ascii "one", ascii "two", ascii "three"] = .ok ring ∧
      replay (Reader.step false .oldest) { ring, cursor := 0 }
        [.read, .append (ascii "four"), .append (ascii "five"), .read] = some reader ∧
      reader.received.map MessageReadResult.skippedMessages = [1, 1] ∧ Accounted 0 reader := by
  refine ⟨_, _, _, rfl, rfl, rfl, by decide, ?_⟩
  exact (@read_accounting (ascii "T") 3 _ _ [ascii "zero", ascii "one", ascii "two", ascii "three"] rfl rfl 0
    (Nat.zero_le _) false .oldest _
    (((Run.refl.tail .read trivial rfl).tail (.append (ascii "four")) trivial rfl).tail
      (.append (ascii "five")) trivial rfl |>.tail .read trivial rfl)).1

end MessageRepeater.Combiner
