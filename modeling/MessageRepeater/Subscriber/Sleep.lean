import MessageRepeater.Subscriber.Wakeup

/-!
# The event loop does not sleep on a filled queue

Whoever queues a topic notifies the loop unless the topic was queued before, and the loop goes to
sleep only with the queue empty, a byte in the pipe, or the write event armed.
-/

namespace MessageRepeater.Subscriber
open Foundation Combiner Config Connection

/-- A byte for the loop is in the pipe, or about to be written. -/
def Notified (s : State) : Prop :=
  s.worker.notifyPipe ≠ [] ∨ (∃ todo, s.reader = .notify todo) ∨
    ∃ topic count todo, s.dispatcher = .notify topic count todo

/-- The callback has not yet come to the record. -/
def LoopPc.early : LoopPc → Bool
  | .drain _ | .aliveTest _ | .entry | .cacheTest | .cacheGet => true
  | _ => false

/-- The loop will look at its queue before it sleeps without a wakeup. -/
def Serving (s : State) : Prop :=
  ∃ pc, s.writer = .loop pc ∧
    ((pc = .waiting ∧ s.worker.writeEventEnabled = true) ∨ pc.early = true ∨
      pc ≠ .waiting ∧ s.record ≠ none)

def Awake (s : State) : Prop := s.worker.workQueue ≠ [] → Notified s ∨ Serving s

/-- The loop is in its callback and has its record. -/
def Working (s : State) : Prop := (∃ pc, s.writer = .loop pc ∧ pc ≠ .waiting) ∧ s.record ≠ none

theorem Working.serving {s : State} (working : Working s) : Serving s := by
  obtain ⟨⟨pc, at_, busy⟩, cached⟩ := working
  exact ⟨pc, at_, .inr (.inr ⟨busy, cached⟩)⟩

theorem working_of {s s' : State} {pc : LoopPc} (cached : s.record ≠ none) (record : s'.record = s.record)
    (at_ : s'.writer = .loop pc) (busy : pc ≠ .waiting) : Working s' :=
  ⟨⟨pc, at_, busy⟩, by rwa [record]⟩

theorem goLoop_serving {s : State} {pc : LoopPc} (cached : s.record ≠ none) (busy : pc ≠ .waiting) :
    Serving (s.goLoop pc) :=
  ⟨pc, rfl, .inr (.inr ⟨busy, cached⟩)⟩

theorem nextFrame_working {s : State} (frames : Nat) (cached : s.record ≠ none) :
    Working (s.nextFrame frames) := by
  unfold State.nextFrame
  split
  · exact working_of cached rfl rfl nofun
  · exact ⟨⟨_, rfl, nofun⟩, cached⟩

theorem requeue_working {s : State} (frames : Nat) (topic : Topic) (cached : s.record ≠ none) :
    Working (s.requeue frames topic) := by
  unfold State.requeue
  split
  · exact nextFrame_working frames cached
  · exact working_of cached rfl rfl nofun

theorem afterFlush_working {s : State} (frames : Nat)
    (control : Control FlushPc (PendingWriteStatus × Topic)) (cached : s.record ≠ none) :
    Working (s.afterFlush frames control) := by
  rcases control with pc | ⟨status, topic⟩
  · exact working_of cached rfl rfl nofun
  · cases status with
    | complete => exact requeue_working (frames + 1) topic cached
    | idle | wouldBlock | error => exact working_of cached rfl rfl nofun

theorem afterDeliver_working {s : State} (frames : Nat) (topic : Topic)
    (control : Control DeliverPc TopicDeliveryStatus) (cached : s.record ≠ none) :
    Working (s.afterDeliver frames topic control) := by
  rcases control with pc | status
  · exact working_of cached rfl rfl nofun
  · cases status with
    | delivered => exact requeue_working (frames + 1) topic cached
    | noMessage => exact nextFrame_working frames cached
    | disconnect | wouldBlock => exact working_of cached rfl rfl nofun

/-- A step of the loop while its queue stays filled: it keeps serving, or a byte is in the pipe. -/
theorem loopStep_serving {d : Deployment} {s s' : State} {outcome : CallOutcome} {pc : LoopPc}
    (held : Held d s) (answered : Answered d s) (live : Live s') (sub : Subscribed s)
    (at_ : s.writer = .loop pc) (filled : s.worker.workQueue ≠ []) (filled' : s'.worker.workQueue ≠ [])
    (serving : pc = .waiting ∨ pc.early = true ∨ s.record ≠ none)
    (taken : loopStep d s outcome pc = some s') : s'.worker.notifyPipe ≠ [] ∨ Serving s' := by
  have subscribed := sub.queue filled
  have busy : pc ≠ .waiting → pc.early = false → s.record ≠ none := fun awake late =>
    (serving.resolve_left awake).resolve_left (by rw [late]; simp)
  cases pc <;> simp only [loopStep] at taken
  case waiting =>
    split at taken <;> cases taken
    exact .inr ⟨_, rfl, .inr (.inl rfl)⟩
  case drain =>
    split at taken <;> cases taken <;> exact .inr ⟨_, rfl, .inr (.inl rfl)⟩
  case aliveTest stopRequested =>
    cases taken
    have going := live.going
    split at going
    · exact absurd rfl going
    · rename_i alive
      rw [if_neg alive]
      exact .inr ⟨_, rfl, .inr (.inl rfl)⟩
  case entry =>
    split at taken <;> cases taken
    · rename_i dead
      exact absurd (dead.symm.trans live.alived) Bool.false_ne_true
    · exact .inr ⟨_, rfl, .inr (.inl rfl)⟩
  case cacheTest =>
    split at taken <;> cases taken
    · exact .inr ⟨_, rfl, .inr (.inl rfl)⟩
    · rename_i cached
      exact .inr (nextFrame_working 0 fun none_ => cached ⟨none_, subscribed⟩).serving
  case cacheGet =>
    cases taken
    have some_record : s.composite.getRecord d.key ≠ none := by
      obtain ⟨answer, member⟩ := List.exists_mem_of_ne_nil _ (answered.subscribed subscribed)
      have lt := (answered.answers answer member).record
      exact held fun none_ => by rw [none_] at lt; exact absurd lt (by simp)
    exact .inr (nextFrame_working 0 some_record).serving
  case flush frames pc =>
    split at taken
    · cases taken
    · cases taken
      refine .inr (Working.serving (afterFlush_working frames _ ?_))
      exact busy (by simp) rfl
  case subscribedTest frames =>
    rw [if_neg (by rw [subscribed]; simp), if_neg (busy (by simp) rfl)] at taken
    cases taken
    exact .inr (goLoop_serving (busy (by simp) rfl) (by simp))
  case popWork frames =>
    split at taken <;> cases taken
    · rename_i empty
      exact absurd (EventLoopWorker.popWork_none (by rw [empty])) filled
    · exact .inr (goLoop_serving (busy (by simp) rfl) (by simp))
  case getCircle frames topic =>
    split at taken <;> cases taken
    · exact .inr (nextFrame_working frames (busy (by simp) rfl)).serving
    · exact .inr (goLoop_serving (busy (by simp) rfl) (by simp))
  case deliver frames topic pc =>
    split at taken
    · cases taken
    · split at taken
      · cases taken
      · cases taken
        refine .inr (Working.serving (afterDeliver_working frames topic _ ?_))
        exact busy (by simp) rfl
  case enableWrite =>
    split at taken
    · rename_i worker enabled
      cases taken
      exact .inr ⟨_, rfl, .inl ⟨rfl, EventLoopWorker.enableWriteEvent_armed enabled⟩⟩
    · cases taken
      exact absurd rfl live.going
  case requeueCircle frames topic | requeueNext frames topic cursor =>
    split at taken <;> cases taken
    all_goals
      first
        | exact .inr (nextFrame_working frames (busy (by simp) rfl)).serving
        | exact .inr (goLoop_serving (busy (by simp) rfl) (by simp))
  case requeueMeta frames topic =>
    split at taken
    · cases taken
      exact .inr (nextFrame_working frames (busy (by simp) rfl)).serving
    · split at taken <;> cases taken
      · exact .inr (goLoop_serving (busy (by simp) rfl) (by simp))
      · exact .inr (nextFrame_working frames (busy (by simp) rfl)).serving
  case requeueSubmit frames topic =>
    cases taken
    refine .inr (Working.serving (nextFrame_working frames ?_))
    exact busy (by simp) rfl
  case hasControl =>
    cases taken
    split <;> exact .inr (goLoop_serving (busy (by simp) rfl) (by simp))
  case hasWorks =>
    cases taken
    split
    · exact .inr (goLoop_serving (busy (by simp) rfl) (by simp))
    · rename_i empty
      exact absurd (by simpa [EventLoopWorker.hasWorks] using empty) filled
  case notifySelf =>
    cases taken
    exact .inl (EventLoopWorker.notifyStartWork_ne_nil _ d.pipe_pos)
  case done => cases taken
  all_goals
    cases taken
    exact absurd rfl live.going

theorem writerStep_awake {d : Deployment} {s s' : State} {outcome : CallOutcome}
    (running : Running s) (kept : Held d s) (answered : Answered d s) (live : Live s')
    (sub : Subscribed s) (facts : Facts s) (awake : Awake s)
    (taken : writerStep d s outcome = some s') : Awake s' := by
  obtain ⟨pc, at_, _⟩ := running.loop
  have held := facts pc at_
  have frame := writerStep_frame taken
  simp only [writerStep, at_] at taken
  have rest := loopStep_frame taken
  have moved := loopStep_worker at_ taken
  intro filled'
  by_cases filled : s.worker.workQueue = []
  · -- Only a requeue fills an empty queue, and it has the record.
    cases moved with
    | quiet same => exact absurd (same.queue.trans filled) filled'
    | drain _ _ worker_eq => exact absurd (worker_eq ▸ filled) filled'
    | pop worker_eq =>
      rw [worker_eq] at filled'
      exact absurd (by simp [EventLoopWorker.popWork, filled]) filled'
    | @submit frames topic at_submit =>
      cases at_.symm.trans at_submit
      cases taken
      refine .inr (Working.serving (nextFrame_working frames ?_))
      exact held.2
    | notify worker_eq =>
      rw [worker_eq, EventLoopWorker.notifyStartWork_queue] at filled'
      exact absurd filled filled'
    | stop worker_eq =>
      rw [worker_eq] at filled'
      exact absurd rfl filled'
  · by_cases serving : pc = .waiting ∨ pc.early = true ∨ s.record ≠ none
    · rcases loopStep_serving kept answered live sub at_ filled filled' serving taken with pipe | serves
      · exact .inl (.inl pipe)
      · exact .inr serves
    · rcases awake filled with (pipe | ⟨todo, reading⟩ | dispatching) | ⟨pc', at', serves⟩
      · refine .inl (.inl ?_)
        cases moved with
        | quiet same => rwa [same.pipe]
        | drain at_drain =>
          cases at_.symm.trans at_drain
          exact absurd (.inr (.inl rfl)) serving
        | pop worker_eq => rwa [worker_eq, EventLoopWorker.popWork_pipe]
        | submit _ same => rwa [same.pipe, EventLoopWorker.submitWork_pipe]
        | notify worker_eq =>
          rw [worker_eq]
          exact EventLoopWorker.notifyStartWork_ne_nil _ d.pipe_pos
        | stop worker_eq =>
          rw [worker_eq] at filled'
          exact absurd rfl filled'
      · exact .inl (.inr (.inl ⟨todo, frame.reader.trans reading⟩))
      · exact .inl (.inr (.inr (by rw [rest.dispatcher]; exact dispatching)))
      · cases at_.symm.trans at'
        rcases serves with ⟨waiting, _⟩ | early | ⟨_, cached⟩
        · exact absurd (.inl waiting) serving
        · exact absurd (.inr (.inl early)) serving
        · exact absurd (.inr (.inr cached)) serving

/-- A submission is followed by a notify, unless the topic was queued before. -/
theorem Awake.other {s s' : State} (awake : Awake s)
    (queue : s'.worker.workQueue = s.worker.workQueue)
    (pipe : s'.worker.notifyPipe = s.worker.notifyPipe)
    (armed : s'.worker.writeEventEnabled = s.worker.writeEventEnabled)
    (writer : s'.writer = s.writer) (record : s'.record = s.record)
    (reader : ∀ todo, s.reader = .notify todo → s'.reader = .notify todo)
    (dispatcher : ∀ topic count todo, s.dispatcher = .notify topic count todo →
      s'.dispatcher = .notify topic count todo) : Awake s' := by
  intro filled
  rw [queue] at filled
  rcases awake filled with (bytes | ⟨todo, reading⟩ | ⟨topic, count, todo, at_⟩) | ⟨pc, at_, serves⟩
  · exact .inl (.inl (by rwa [pipe]))
  · exact .inl (.inr (.inl ⟨todo, reader todo reading⟩))
  · exact .inl (.inr (.inr ⟨topic, count, todo, dispatcher topic count todo at_⟩))
  · exact .inr ⟨pc, writer.trans at_, by rwa [armed, record]⟩

theorem Awake.notified {s : State} {worker : EventLoopWorker} {capacity : Nat} (pos : 0 < capacity)
    (eq : s.worker = worker.notifyStartWork capacity) : Awake s :=
  fun _ => .inl (.inl (by rw [eq]; exact EventLoopWorker.notifyStartWork_ne_nil _ pos))

theorem dispatcherStep_awakeLoop {d : Deployment} {s s' : State} (running : Running s)
    (awake : Awake s) (taken : dispatcherStep d s = some s') : Awake s' := by
  unfold dispatcherStep at taken
  split at taken
  case h_7 topic count todo at_ =>
    rw [if_pos running.registered] at taken
    cases taken
    cases queued : (s.worker.submitWork topic).1 with
    | true => exact fun _ => .inl (.inr (.inr ⟨topic, count, todo, rfl⟩))
    | false =>
      have same := EventLoopWorker.submitWork_queued running.worker queued
      refine awake.other ?_ ?_ ?_ rfl rfl (fun _ => id) (by rw [at_]; nofun)
      all_goals simp only [same]
  case h_8 =>
    cases taken
    exact .notified d.pipe_pos rfl
  case h_1 at_ | h_2 at_ =>
    split at taken <;> cases taken <;>
      exact awake.other rfl rfl rfl rfl rfl (fun _ => id) (by rw [at_]; nofun)
  all_goals
    rename_i at_
    cases taken
    exact awake.other rfl rfl rfl rfl rfl (fun _ => id) (by rw [at_]; nofun)

theorem readerStep_awake {d : Deployment} {s s' : State} {input : ReaderInput}
    (running : Running s) (awake : Awake s) (taken : readerStep d s input = some s') : Awake s' := by
  unfold readerStep at taken
  split at taken
  case h_8 | h_21 =>
    cases taken
    exact .notified d.pipe_pos rfl
  case h_20 topic todo at_ =>
    cases taken
    cases queued : (s.worker.submitWork topic).1 with
    | true => exact fun _ => .inl (.inr (.inl ⟨todo, rfl⟩))
    | false =>
      have same := EventLoopWorker.submitWork_queued running.worker queued
      refine awake.other ?_ ?_ ?_ rfl rfl (by rw [at_]; nofun) (fun _ _ _ => id)
      all_goals simp only [same]
  case h_26 => cases taken
  case h_7 at_ | h_9 at_ | h_11 at_ | h_13 at_ | h_25 at_ =>
    split at taken <;> cases taken <;>
      exact awake.other rfl rfl rfl rfl rfl (by rw [at_]; nofun) (fun _ _ _ => id)
  case h_10 at_ =>
    split at taken
    · split at taken <;> cases taken <;>
        exact awake.other rfl rfl rfl rfl rfl (by rw [at_]; nofun) (fun _ _ _ => id)
    · cases taken
  all_goals
    rename_i at_
    cases taken
    exact awake.other rfl rfl rfl rfl rfl (by rw [at_]; nofun) (fun _ _ _ => id)

theorem step_awake {d : Deployment} {s s' : State} {action : Action} (running : Running s)
    (held : Held d s) (answered : Answered d s) (live : Live s') (inside : Inside s action) (facts : Facts s)
    (sub : Subscribed s) (awake : Awake s) (taken : step d s action = some s') : Awake s' := by
  cases action with
  | writer outcome => exact writerStep_awake running held answered live sub facts awake taken
  | reader input => exact readerStep_awake running awake taken
  | dispatcher => exact dispatcherStep_awakeLoop running awake taken
  | publisher id input =>
    obtain ⟨worker, writer, dispatcher, _⟩ := publisherStep_worker taken
    have frame := publisherStep_frame taken
    exact awake.other (by rw [worker]) (by rw [worker]) (by rw [worker]) writer frame.record
      (fun _ at_ => frame.reader.trans at_) (fun _ _ _ at_ => dispatcher.trans at_)
  | writable =>
    simp only [step, writableStep] at taken
    split at taken <;> cases taken
    exact fun _ => .inr ⟨_, rfl, .inr (.inl rfl)⟩
  | detector | reclaimer => cases inside
  | other key record =>
    rw [otherStep_same taken]
    exact awake

end MessageRepeater.Subscriber
