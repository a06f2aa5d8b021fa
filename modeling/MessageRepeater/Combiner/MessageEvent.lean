import MessageRepeater.Combiner.MessageContainer

/-!
# Event loop worker

The dirty-topic queue, the notify pipe and the write event of `src/combiner/message_event.*`.
The pipe is the list of its unread bytes; libevent itself is the caller that starts a callback
when the pipe is readable or the armed socket is writable.
-/

namespace MessageRepeater.Combiner
open Foundation

/-- `stopped` is set by `event_base_loopbreak`. `workQueueStatus` has no entry for a topic that was
never queued or since the last `stop`. -/
structure EventLoopWorker where
  workQueue : List Topic := []
  disableDuplicateEntries : Bool := false
  workQueueStatus : Topic → Option Bool := fun _ => none
  notifyPipe : List UInt8 := []
  writeEvent : Bool := false
  writeEventEnabled : Bool := false
  stopped : Bool := false

namespace EventLoopWorker

def setStatus (worker : EventLoopWorker) (topic : Topic) (queued : Bool) : EventLoopWorker :=
  { worker with workQueueStatus := fun t => if t = topic then some queued else worker.workQueueStatus t }

def submitWork (worker : EventLoopWorker) (topic : Topic) : Bool × EventLoopWorker :=
  if worker.disableDuplicateEntries = true ∧ worker.workQueueStatus topic = some true then
    (false, worker)
  else if worker.disableDuplicateEntries = false ∧ worker.workQueue.length ≥ 150 then
    (false, worker)
  else
    let pushed := { worker with workQueue := worker.workQueue ++ [topic] }
    (true, if worker.disableDuplicateEntries then pushed.setStatus topic true else pushed)

def popWork (worker : EventLoopWorker) : Option Topic × EventLoopWorker :=
  match worker.workQueue with
  | [] => (none, worker)
  | topic :: rest =>
    let popped := { worker with workQueue := rest }
    (some topic, if worker.disableDuplicateEntries then popped.setStatus topic false else popped)

/-- The loop of `popWorks`, all of it under the worker's lock. -/
def popWorks (worker : EventLoopWorker) : List Topic × EventLoopWorker :=
  (worker.workQueue,
    if worker.disableDuplicateEntries then
      worker.workQueue.foldl (fun w topic => w.setStatus topic false) { worker with workQueue := [] }
    else { worker with workQueue := [] })

def hasWorks (worker : EventLoopWorker) : Bool := !worker.workQueue.isEmpty

/-- `added` is what `event_add` reports. -/
def enableWriteEvent (worker : EventLoopWorker) (added : Bool) : Bool × EventLoopWorker :=
  if worker.writeEvent = false then (false, worker)
  else if worker.writeEventEnabled then (true, worker)
  else if added then (true, { worker with writeEventEnabled := true })
  else (false, worker)

def disableWriteEvent (worker : EventLoopWorker) : EventLoopWorker :=
  if worker.writeEvent && worker.writeEventEnabled then { worker with writeEventEnabled := false }
  else worker

def stop (worker : EventLoopWorker) : EventLoopWorker :=
  { worker.disableWriteEvent with stopped := true, workQueueStatus := fun _ => none, workQueue := [] }

/-- A start byte is written unless the pipe is full, which counts as success. -/
def notifyStartWork (worker : EventLoopWorker) (capacity : Nat) : EventLoopWorker :=
  if worker.notifyPipe.length < capacity then { worker with notifyPipe := worker.notifyPipe ++ [1] }
  else worker

/-- The stop byte is lost on a full pipe. -/
def notifyStopWork (worker : EventLoopWorker) (capacity : Nat) : Bool × EventLoopWorker :=
  if worker.notifyPipe.length < capacity then
    (true, { worker with notifyPipe := worker.notifyPipe ++ [5] })
  else (false, worker)

/-! ### The queue as the set of its topics -/

/-- With duplicate suppression on, the status map is the membership test of the queue. -/
structure Coherent (worker : EventLoopWorker) : Prop where
  suppress : worker.disableDuplicateEntries = true
  status : ∀ topic, worker.workQueueStatus topic = some true ↔ topic ∈ worker.workQueue
  nodup : worker.workQueue.Nodup

theorem Coherent.submitted {worker : EventLoopWorker} (coherent : Coherent worker) (topic : Topic) :
    worker.submitWork topic =
      if topic ∈ worker.workQueue then (false, worker)
      else (true, { worker with workQueue := worker.workQueue ++ [topic] }.setStatus topic true) := by
  unfold submitWork
  simp only [coherent.suppress, coherent.status, true_and, Bool.true_eq_false, false_and, if_false,
    if_true]

theorem submitWork_queued {worker : EventLoopWorker} (coherent : Coherent worker)
    {topic : Topic} (old : (worker.submitWork topic).1 = false) :
    (worker.submitWork topic).2 = worker := by
  rw [coherent.submitted] at old ⊢
  split at old
  · rename_i present
    rw [if_pos present]
  · cases old

theorem Coherent.submitWork {worker : EventLoopWorker} (coherent : Coherent worker) (topic : Topic) :
    Coherent (worker.submitWork topic).2 := by
  rw [coherent.submitted]
  split
  · exact coherent
  · rename_i absent
    refine ⟨coherent.suppress, ?_, ?_⟩
    · intro t
      by_cases same : t = topic
      · simp [setStatus, same]
      · simp [setStatus, same, coherent.status t]
    · simp only [setStatus]
      exact List.nodup_append.mpr ⟨coherent.nodup, List.nodup_singleton _, by
        rintro a present b single rfl
        exact absent (List.mem_singleton.mp single ▸ present)⟩

theorem Coherent.mem_submitWork {worker : EventLoopWorker} (coherent : Coherent worker)
    (topic t : Topic) :
    t ∈ (worker.submitWork topic).2.workQueue ↔ t = topic ∨ t ∈ worker.workQueue := by
  rw [coherent.submitted]
  split
  · rename_i present
    constructor
    · exact Or.inr
    · rintro (rfl | queued)
      · exact present
      · exact queued
  · simp [setStatus, or_comm]

theorem Coherent.popWork {worker : EventLoopWorker} (coherent : Coherent worker) :
    Coherent worker.popWork.2 := by
  unfold EventLoopWorker.popWork
  have nodup := coherent.nodup
  cases queue : worker.workQueue with
  | nil => exact coherent
  | cons topic rest =>
    rw [queue] at nodup
    obtain ⟨absent, distinct⟩ := List.nodup_cons.mp nodup
    simp only [if_pos coherent.suppress]
    refine ⟨coherent.suppress, ?_, distinct⟩
    intro t
    have status := coherent.status t
    rw [queue, List.mem_cons] at status
    by_cases same : t = topic
    · simp [setStatus, same, absent]
    · simp [setStatus, same, status]

theorem Coherent.popWorks {worker : EventLoopWorker} (coherent : Coherent worker) :
    Coherent worker.popWorks.2 ∧ worker.popWorks.1 = worker.workQueue ∧
      worker.popWorks.2.workQueue = [] ∧ worker.popWorks.2.notifyPipe = worker.notifyPipe := by
  have folded : ∀ (topics : List Topic) (w : EventLoopWorker),
      let last := topics.foldl (fun w topic => w.setStatus topic false) w
      last.workQueue = w.workQueue ∧ last.notifyPipe = w.notifyPipe ∧
      last.disableDuplicateEntries = w.disableDuplicateEntries ∧
      ∀ t, last.workQueueStatus t = if t ∈ topics then some false else w.workQueueStatus t := by
    intro topics
    induction topics with
    | nil => intro w; simp
    | cons topic rest ih =>
      intro w
      obtain ⟨queue, pipe, suppress, status⟩ := ih (w.setStatus topic false)
      refine ⟨queue, pipe, suppress, fun t => ?_⟩
      rw [List.foldl_cons, status t]
      by_cases later : t ∈ rest
      · simp [later]
      · by_cases same : t = topic <;> simp [later, same, setStatus]
  unfold EventLoopWorker.popWorks
  rw [if_pos coherent.suppress]
  obtain ⟨queue, pipe, suppress, status⟩ := folded worker.workQueue { worker with workQueue := [] }
  refine ⟨⟨suppress.trans coherent.suppress, fun t => ?_, ?_⟩, rfl, queue, pipe⟩
  · rw [status t, queue]
    by_cases queued : t ∈ worker.workQueue
    · simp [queued]
    · simp [queued, coherent.status t]
  · rw [queue]
    exact List.nodup_nil

theorem notifyStartWork_ne_nil (worker : EventLoopWorker) {capacity : Nat} (pos : 0 < capacity) :
    (worker.notifyStartWork capacity).notifyPipe ≠ [] := by
  unfold notifyStartWork
  split
  · simp
  · rename_i full
    intro nil
    simp [nil] at full
    omega

/-- The queue and the pipe are the same; the write event may differ. -/
structure Quiet (worker worker' : EventLoopWorker) : Prop where
  queue : worker'.workQueue = worker.workQueue
  status : worker'.workQueueStatus = worker.workQueueStatus
  suppress : worker'.disableDuplicateEntries = worker.disableDuplicateEntries
  pipe : worker'.notifyPipe = worker.notifyPipe

theorem Quiet.refl (worker : EventLoopWorker) : Quiet worker worker := ⟨rfl, rfl, rfl, rfl⟩

theorem disableWriteEvent_quiet (worker : EventLoopWorker) : Quiet worker worker.disableWriteEvent := by
  unfold disableWriteEvent
  split <;> exact ⟨rfl, rfl, rfl, rfl⟩

theorem enableWriteEvent_quiet (worker : EventLoopWorker) (added : Bool) :
    Quiet worker (worker.enableWriteEvent added).2 := by
  unfold enableWriteEvent
  split
  · exact .refl worker
  · split
    · exact .refl worker
    · split <;> exact ⟨rfl, rfl, rfl, rfl⟩

theorem enableWriteEvent_armed {worker worker' : EventLoopWorker} {added : Bool}
    (enabled : worker.enableWriteEvent added = (true, worker')) : worker'.writeEventEnabled = true := by
  unfold enableWriteEvent at enabled
  split at enabled
  · cases enabled
  · split at enabled
    · rename_i armed
      cases enabled
      exact armed
    · split at enabled <;> cases enabled
      rfl

theorem Coherent.congr {worker worker' : EventLoopWorker} (coherent : Coherent worker)
    (queue : worker'.workQueue = worker.workQueue)
    (status : worker'.workQueueStatus = worker.workQueueStatus)
    (suppress : worker'.disableDuplicateEntries = worker.disableDuplicateEntries) :
    Coherent worker' := by
  refine ⟨suppress.trans coherent.suppress, fun topic => ?_, ?_⟩
  · rw [status, queue]
    exact coherent.status topic
  · rw [queue]
    exact coherent.nodup

theorem Coherent.quiet {worker worker' : EventLoopWorker} (coherent : Coherent worker)
    (quiet : Quiet worker worker') : Coherent worker' :=
  coherent.congr quiet.queue quiet.status quiet.suppress

theorem Coherent.stop {worker : EventLoopWorker} (coherent : Coherent worker) :
    Coherent worker.stop := by
  have quiet := disableWriteEvent_quiet worker
  refine ⟨quiet.suppress.trans coherent.suppress, fun topic => ?_, ?_⟩
  · simp [EventLoopWorker.stop]
  · exact List.nodup_nil

theorem notifyStartWork_queue (worker : EventLoopWorker) (capacity : Nat) :
    (worker.notifyStartWork capacity).workQueue = worker.workQueue := by
  unfold notifyStartWork
  split <;> rfl

theorem Coherent.notifyStartWork {worker : EventLoopWorker} (coherent : Coherent worker)
    (capacity : Nat) : Coherent (worker.notifyStartWork capacity) := by
  unfold EventLoopWorker.notifyStartWork
  split
  · exact coherent.congr rfl rfl rfl
  · exact coherent

theorem mem_notifyStartWork {worker : EventLoopWorker} {capacity : Nat} {byte : UInt8}
    (member : byte ∈ (worker.notifyStartWork capacity).notifyPipe) :
    byte ∈ worker.notifyPipe ∨ byte = 1 := by
  unfold notifyStartWork at member
  split at member
  · exact (List.mem_append.mp member).imp_right List.mem_singleton.mp
  · exact .inl member

theorem submitWork_pipe (worker : EventLoopWorker) (topic : Topic) :
    (worker.submitWork topic).2.notifyPipe = worker.notifyPipe := by
  unfold submitWork
  split
  · rfl
  · split
    · rfl
    · dsimp only
      split <;> rfl

theorem submitWork_armed (worker : EventLoopWorker) (topic : Topic) :
    (worker.submitWork topic).2.writeEventEnabled = worker.writeEventEnabled := by
  unfold submitWork
  split
  · rfl
  · split
    · rfl
    · dsimp only
      split <;> rfl

theorem notifyStartWork_armed (worker : EventLoopWorker) (capacity : Nat) :
    (worker.notifyStartWork capacity).writeEventEnabled = worker.writeEventEnabled := by
  unfold notifyStartWork
  split <;> rfl

theorem popWork_pipe (worker : EventLoopWorker) :
    worker.popWork.2.notifyPipe = worker.notifyPipe := by
  unfold popWork
  split
  · rfl
  · dsimp only
    split <;> rfl

theorem popWork_none {worker : EventLoopWorker} (empty : worker.popWork.1 = none) :
    worker.workQueue = [] := by
  unfold popWork at empty
  split at empty
  · assumption
  · cases empty

theorem popWork_some {worker : EventLoopWorker} {topic : Topic} (popped : worker.popWork.1 = some topic) :
    worker.workQueue = topic :: worker.popWork.2.workQueue := by
  unfold popWork at *
  split at popped
  · cases popped
  · rename_i head rest queue
    cases popped
    rw [queue]
    dsimp only
    split <;> rfl

end EventLoopWorker

end MessageRepeater.Combiner
