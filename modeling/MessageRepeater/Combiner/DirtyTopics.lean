import MessageRepeater.Combiner.MessageEvent
import MessageRepeater.Foundation.OrderedSet

/-!
# The dirty topics

With duplicate suppression on, the work queue and its status map together are one ordered set of topics.
-/

namespace MessageRepeater.Combiner
open Foundation

/-- The locked operations of the work queue. -/
inductive WorkCall where
  | submitWork (topic : Topic)
  | popWork
  | popWorks
  | hasWorks
  | stop
  deriving DecidableEq, Repr

/-- What an operation means for the set of dirty topics. -/
def WorkCall.onSet : WorkCall → SetCall Topic
  | .submitWork topic => .insert topic
  | .popWork => .takeFirst
  | .popWorks => .takeAll
  | .hasWorks => .nonempty
  | .stop => .clear

namespace EventLoopWorker

def setDisableDuplicateEntries (worker : EventLoopWorker) (disable : Bool) : EventLoopWorker :=
  { worker with disableDuplicateEntries := disable }

/-- Nothing has been submitted yet. -/
def unused (worker : EventLoopWorker) : EventLoopWorker :=
  { worker with workQueue := [], workQueueStatus := fun _ => none }

def perform (worker : EventLoopWorker) : WorkCall → SetAnswer Topic × EventLoopWorker
  | .submitWork topic => (.inserted (worker.submitWork topic).1, (worker.submitWork topic).2)
  | .popWork => (.first worker.popWork.1, worker.popWork.2)
  | .popWorks => (.all worker.popWorks.1, worker.popWorks.2)
  | .hasWorks => (.nonempty worker.hasWorks, worker)
  | .stop => (.cleared, worker.stop)

/-- The operations in the order in which they get the lock, each with its answer and the queue that it
found. -/
def performAll : EventLoopWorker → List WorkCall → List (SetEvent Topic) × EventLoopWorker
  | worker, [] => ([], worker)
  | worker, call :: calls =>
    let rest := (worker.perform call).2.performAll calls
    ({ call := call.onSet, answer := (worker.perform call).1, found := worker.workQueue } :: rest.1,
      rest.2)

theorem unused_coherent (worker : EventLoopWorker) :
    Coherent (worker.unused.setDisableDuplicateEntries true) where
  suppress := rfl
  status topic := by simp [unused, setDisableDuplicateEntries]
  nodup := List.nodup_nil

theorem Coherent.submitWork_new {worker : EventLoopWorker} (coherent : Coherent worker) (topic : Topic) :
    (worker.submitWork topic).1 = true ↔ topic ∉ worker.workQueue := by
  rw [coherent.submitted]
  by_cases present : topic ∈ worker.workQueue <;> simp [present]

/-! ### The worker refines the set -/

/-- The set that a worker stands for. -/
def Coherent.dirty {worker : EventLoopWorker} (coherent : Coherent worker) : OrderedSet Topic :=
  { entries := worker.workQueue, distinct := coherent.nodup }

theorem Coherent.perform {worker : EventLoopWorker} (coherent : Coherent worker) (call : WorkCall) :
    Coherent (worker.perform call).2 := by
  cases call with
  | submitWork topic => exact coherent.submitWork topic
  | popWork => exact coherent.popWork
  | popWorks => exact coherent.popWorks.1
  | hasWorks => exact coherent
  | stop => exact coherent.stop

theorem popWork_head (worker : EventLoopWorker) :
    worker.popWork.1 = worker.workQueue.head? ∧ worker.popWork.2.workQueue = worker.workQueue.tail := by
  unfold popWork
  split
  · rename_i empty
    simp [empty]
  · rename_i queue
    dsimp only
    split <;> simp [queue, setStatus]

/-- Each operation answers as the set does, and leaves the queue as the set. -/
theorem perform_refines {worker : EventLoopWorker} (coherent : Coherent worker) (call : WorkCall) :
    (worker.perform call).1 = (coherent.dirty.perform call.onSet).1 ∧
      (coherent.perform call).dirty = (coherent.dirty.perform call.onSet).2 := by
  rw [OrderedSet.ext_iff]
  cases call with
  | submitWork topic =>
    have submitted := coherent.submitted topic
    simp only [perform, WorkCall.onSet, OrderedSet.perform, OrderedSet.insert, Coherent.dirty, submitted]
    by_cases present : topic ∈ worker.workQueue <;> simp [present, setStatus]
  | popWork =>
    obtain ⟨head, tail⟩ := popWork_head worker
    exact ⟨congrArg SetAnswer.first head, tail⟩
  | popWorks =>
    obtain ⟨_, all, empty, _⟩ := coherent.popWorks
    exact ⟨congrArg SetAnswer.all all, empty⟩
  | hasWorks => exact ⟨rfl, rfl⟩
  | stop => exact ⟨rfl, rfl⟩

/-- So do all of them together: the events are those of the set. -/
theorem performAll_refines {worker : EventLoopWorker} (coherent : Coherent worker)
    (calls : List WorkCall) :
    ∃ after : Coherent (worker.performAll calls).2,
      (worker.performAll calls).1 = (coherent.dirty.performAll (calls.map WorkCall.onSet)).1 ∧
        after.dirty = (coherent.dirty.performAll (calls.map WorkCall.onSet)).2 := by
  induction calls generalizing worker with
  | nil => exact ⟨coherent, rfl, rfl⟩
  | cons call calls ih =>
    obtain ⟨answer, next⟩ := perform_refines coherent call
    obtain ⟨after, events, last⟩ := ih (coherent.perform call)
    rw [next] at events last
    refine ⟨after, ?_, last⟩
    simp only [performAll, List.map_cons, OrderedSet.performAll, events, answer]
    rfl

end EventLoopWorker

/-- What holds of a worker after operations on its queue, `offered` being the topics that were submitted:
the queue and the status map are one set, a submission is let in if and only if it is new, a pop takes the
first topic, and every submission let in is returned by one pop or cleared, first come first out, or still
waits in its place. -/
structure DirtySet (events : List (SetEvent Topic)) (offered : List Topic) (worker : EventLoopWorker) :
    Prop where
  nodup : worker.workQueue.Nodup
  status : ∀ topic, worker.workQueueStatus topic = some true ↔ topic ∈ worker.workQueue
  new : ∀ topic, (worker.submitWork topic).1 = true ↔ topic ∉ worker.workQueue
  submitted : ∀ topic, (worker.submitWork topic).2.workQueue =
    if topic ∈ worker.workQueue then worker.workQueue else worker.workQueue ++ [topic]
  popped : worker.popWork.1 = worker.workQueue.head? ∧ worker.popWork.2.workQueue = worker.workQueue.tail
  poppedAll : worker.popWorks.1 = worker.workQueue ∧ worker.popWorks.2.workQueue = []
  stopped : worker.stop.workQueue = [] ∧ ∀ topic, worker.stop.workQueueStatus topic ≠ some true
  account : events.flatMap SetEvent.accepted =
    (events.flatMap SetEvent.settled).map Prod.fst ++ worker.workQueue
  again : ∀ topic, worker.popWork.1 = some topic → (worker.popWork.2.submitWork topic).1 = true
  drained : ∀ topic, (worker.popWorks.2.submitWork topic).1 = true
  hasWorks : worker.hasWorks = true ↔ worker.workQueue ≠ []
  length_le : worker.workQueue.length ≤ offered.dedup.length

/-- The dirty-topic queue is an ordered set: on a worker that nothing was submitted to, suppression on, after
every sequence of its locked operations. -/
theorem dirty_topics_ordered_set (worker : EventLoopWorker) (calls : List WorkCall) :
    let run := (worker.unused.setDisableDuplicateEntries true).performAll calls
    DirtySet run.1 (calls.flatMap fun call => call.onSet.offered) run.2 := by
  have fresh := worker.unused_coherent
  obtain ⟨after, events, last⟩ := EventLoopWorker.performAll_refines fresh calls
  have start : fresh.dirty = {} := rfl
  rw [start] at events last
  have queue := congrArg OrderedSet.entries last
  have account := OrderedSet.performAll_account {} (calls.map WorkCall.onSet)
  have bound := OrderedSet.performAll_length_le (calls.map WorkCall.onSet)
  rw [← events, ← queue] at account
  rw [← queue, List.flatMap_map] at bound
  intro run
  refine ⟨after.nodup, after.status, after.submitWork_new, fun topic => ?_, ?_, ?_, ?_, account, ?_, ?_, ?_,
    bound⟩
  · rw [after.submitted]
    split <;> rfl
  · exact EventLoopWorker.popWork_head _
  · obtain ⟨_, all, empty, _⟩ := after.popWorks
    exact ⟨all, empty⟩
  · refine ⟨rfl, fun topic => ?_⟩
    rw [Ne, after.stop.status]
    exact List.not_mem_nil
  · intro topic popped
    rw [after.popWork.submitWork_new]
    have distinct := after.nodup
    rw [EventLoopWorker.popWork_some popped, List.nodup_cons] at distinct
    exact distinct.1
  · intro topic
    obtain ⟨drained, _, empty, _⟩ := after.popWorks
    rw [drained.submitWork_new, empty]
    exact List.not_mem_nil
  · simp [EventLoopWorker.hasWorks, run]

/-- A topic that was popped is let in again, behind the one that waits. -/
theorem dirty_topics_ordered_set_again :
    let calls := [.submitWork [65], .submitWork [65], .submitWork [66], .popWork, .hasWorks, .submitWork [65]]
    let run := (({} : EventLoopWorker).unused.setDisableDuplicateEntries true).performAll calls
    run.1.map SetEvent.answer =
        [.inserted true, .inserted false, .inserted true, .first (some [65]), .nonempty true, .inserted true] ∧
      run.2.workQueue = [[66], [65]] ∧ run.2.popWork.1 = some [66] ∧
      DirtySet run.1 (calls.flatMap fun call => call.onSet.offered) run.2 := by
  refine ⟨by decide, by decide, by decide, ?_⟩
  exact dirty_topics_ordered_set {} _

end MessageRepeater.Combiner
