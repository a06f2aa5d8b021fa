import MessageRepeater.Foundation.DistinctQueue
import MessageRepeater.Subscriber.StopProtocol
import MessageRepeater.Subscriber.Delivery

/-!
# How often a waiting topic is passed

In event-loop mode a topic in the connection's work queue waits for the topics ahead of it and for the
frame that is already on its way. The potential is the number of completed frames of another topic,
plus one if a frame of it is under way, plus one if it is ahead in the queue: no step raises it while
the topic waits.
-/

namespace MessageRepeater.Subscriber
open Foundation Combiner Config Connection

/-! ### Topics on their way -/

/-- The topic that the event loop has popped and is delivering. -/
def State.serving (s : State) : Option Topic :=
  match s.writer with
  | .loop (.getCircle _ topic) | .loop (.deliver _ topic _) => some topic
  | _ => none

def WireFrame.topic? : WireFrame → Option Topic
  | .control _ => none
  | .business topic _ _ => some topic

/-- The topic of the business frame in the pending slot. -/
def Link.pendingTopic (link : Link) : Option Topic := link.history.parked.bind WireFrame.topic?

/-- A frame of the topic is pending, or the topic is popped and may get one. -/
def State.UnderWay (s : State) (topic : Topic) : Prop :=
  s.serving = some topic ∨ s.link.pendingTopic = some topic

instance (s : State) (topic : Topic) : Decidable (s.UnderWay topic) :=
  inferInstanceAs (Decidable (_ ∨ _))

/-- The business frames of the topic that are completed. -/
def State.completed (s : State) (topic : Topic) : Nat := (s.link.sent topic).length

/-- Completed frames, with the one that is under way. -/
def State.begun (s : State) (topic : Topic) : Nat :=
  s.completed topic + if s.UnderWay topic then 1 else 0

/-! ### The queue -/

/-- What a step does to the worker's queue and its map. The pipe and the write event may differ. -/
inductive WorkerMove (worker worker' : EventLoopWorker) : Prop where
  | same (queue : worker'.workQueue = worker.workQueue)
      (status : worker'.workQueueStatus = worker.workQueueStatus)
      (suppress : worker'.disableDuplicateEntries = worker.disableDuplicateEntries)
  | submit (topic : Topic) (queue : worker'.workQueue = (worker.submitWork topic).2.workQueue)
      (status : worker'.workQueueStatus = (worker.submitWork topic).2.workQueueStatus)
      (suppress : worker'.disableDuplicateEntries =
        (worker.submitWork topic).2.disableDuplicateEntries)
  | pop (worker_eq : worker' = worker.popWork.2)
  | stop (worker_eq : worker' = worker.stop)

theorem WorkerMove.coherent {worker worker' : EventLoopWorker} (move : WorkerMove worker worker')
    (coherent : EventLoopWorker.Coherent worker) : EventLoopWorker.Coherent worker' := by
  cases move with
  | same queue status suppress => exact coherent.congr queue status suppress
  | submit topic queue status suppress => exact (coherent.submitWork topic).congr queue status suppress
  | pop worker_eq => exact worker_eq ▸ coherent.popWork
  | stop worker_eq => exact worker_eq ▸ coherent.stop

theorem WorkerMove.queue {worker worker' : EventLoopWorker} (move : WorkerMove worker worker')
    (coherent : EventLoopWorker.Coherent worker) : QueueMove worker.workQueue worker'.workQueue := by
  cases move with
  | same queue status suppress => exact .same queue
  | submit topic queue status suppress =>
    rw [coherent.submitted] at queue
    split at queue
    · exact .same queue
    · exact .append topic queue
  | pop worker_eq =>
    cases popped : worker.popWork.1 with
    | none =>
      have empty := EventLoopWorker.popWork_none popped
      exact .same (by simp [worker_eq, EventLoopWorker.popWork, empty])
    | some topic => exact .pop topic (worker_eq ▸ EventLoopWorker.popWork_some popped)
  | stop worker_eq => exact .clear (by rw [worker_eq]; rfl)

theorem WorkerMove.refl (worker : EventLoopWorker) : WorkerMove worker worker := .same rfl rfl rfl

theorem submitWork_move (worker : EventLoopWorker) (topic : Topic) :
    WorkerMove worker (worker.submitWork topic).2 := .submit topic rfl rfl rfl

theorem notifyStartWork_move (worker : EventLoopWorker) (capacity : Nat) :
    WorkerMove worker (worker.notifyStartWork capacity) := by
  unfold EventLoopWorker.notifyStartWork
  split <;> exact .same rfl rfl rfl

theorem notifyStopWork_move (worker : EventLoopWorker) (capacity : Nat) :
    WorkerMove worker (worker.notifyStopWork capacity).2 := by
  unfold EventLoopWorker.notifyStopWork
  split <;> exact .same rfl rfl rfl

theorem LoopWorker.move {d : Deployment} {s s' : State} (moved : LoopWorker d s s') :
    WorkerMove s.worker s'.worker := by
  cases moved with
  | quiet same => exact .same same.queue same.status same.suppress
  | drain at_ pipe worker_eq => exact .same (by rw [worker_eq]) (by rw [worker_eq]) (by rw [worker_eq])
  | pop worker_eq => exact .pop worker_eq
  | submit at_ same => exact .submit _ same.queue same.status same.suppress
  | notify worker_eq => exact worker_eq ▸ notifyStartWork_move _ _
  | stop worker_eq => exact .stop worker_eq

theorem WorkerCall.move {capacity : Nat} {worker worker' : EventLoopWorker}
    (call : WorkerCall capacity worker worker') : WorkerMove worker worker' := by
  cases call with
  | none => exact .refl _
  | submitWork topic => exact submitWork_move _ _
  | notifyStartWork => exact notifyStartWork_move _ _
  | notifyStopWork => exact notifyStopWork_move _ _

theorem step_worker {d : Deployment} {s s' : State} {action : Action}
    (taken : step d s action = some s') : WorkerMove s.worker s'.worker := by
  cases action with
  | writer outcome =>
    simp only [step, writerStep] at taken
    split at taken
    · rw [normalStep_worker taken]
      exact .refl _
    · rename_i pc at_
      exact (loopStep_worker at_ taken).move
  | _ => exact (step_workerCall (by simp) taken).move

theorem worker_coherent {d : Deployment} {s : State} (run : Run (step d) Free (initial d) s) :
    EventLoopWorker.Coherent s.worker := by
  refine run.keeps ?_ fun s action s' coherent _ taken => (step_worker taken).coherent coherent
  exact ⟨rfl, fun topic => iff_of_false nofun List.not_mem_nil, .nil⟩

/-! ### The frames -/

/-- What a step does to the frames of the connection, apart from popping a topic. -/
inductive Carry (s s' : State) : Prop where
  | keep (frames : s'.link.history.frames = s.link.history.frames)
      (parked : s'.link.history.parked = s.link.history.parked ∨ s'.link.pendingTopic = none)
      (serving : s'.serving = none ∨ s'.serving = s.serving)
  | park {topic} (frames : s'.link.history.frames = s.link.history.frames)
      (at_ : s.serving = some topic) (parked : s'.link.pendingTopic = some topic)
      (serving : s'.serving = some topic)
  | complete (frames : s'.link.history.frames = s.link.history.frames ++ s.link.history.parked.toList)
      (parked : s'.link.history.parked = none) (serving : s'.serving = none)

/-- A step of `flushPendingFrame` completes the pending frame and returns, or leaves the business frames
as they are. -/
theorem FlushMove.completes {link link' : Link} {record : Option Nat} {pc : FlushPc}
    {control : Control FlushPc (PendingWriteStatus × Topic)}
    (moved : FlushMove link record pc link' control) :
    (link'.history.frames = link.history.frames ++ link.history.parked.toList ∧
      link'.history.parked = none ∧ ∃ topic, control = .ret (.complete, topic)) ∨
    (link'.history.frames = link.history.frames ∧
      (link'.history.parked = link.history.parked ∨ link'.pendingTopic = none)) := by
  cases moved with
  | business => exact .inl ⟨rfl, rfl, _, rfl⟩
  | control => exact .inl ⟨rfl, rfl, _, rfl⟩
  | next => exact .inr ⟨rfl, .inr rfl⟩
  | _ => exact .inr ⟨rfl, .inl rfl⟩

theorem nextFrame_serving (s : State) (frames : Nat) : (s.nextFrame frames).serving = none := by
  unfold State.nextFrame
  split <;> rfl

theorem requeue_serving (s : State) (frames : Nat) (topic : Topic) :
    (s.requeue frames topic).serving = none := by
  unfold State.requeue
  split
  · exact nextFrame_serving s frames
  · rfl

theorem afterFlush_serving (s : State) (frames : Nat)
    (control : Control FlushPc (PendingWriteStatus × Topic)) :
    (s.afterFlush frames control).serving = none := by
  rcases control with pc | ⟨status, topic⟩
  · rfl
  · cases status
    case complete => exact requeue_serving s (frames + 1) topic
    all_goals rfl

theorem afterDeliver_serving (s : State) (frames : Nat) (topic : Topic)
    (status : TopicDeliveryStatus) : (s.afterDeliver frames topic (.ret status)).serving = none := by
  cases status
  case delivered => exact requeue_serving s (frames + 1) topic
  case noMessage => exact nextFrame_serving s frames
  all_goals rfl

theorem Carry.idle {s s' : State} (link : s'.link = s.link) (serving : s'.serving = none) :
    Carry s s' := .keep (by rw [link]) (.inl (by rw [link])) (.inl serving)

theorem FlushMove.carry {s s' : State} {link : Link} {record : Option Nat} {pc : FlushPc}
    {control : Control FlushPc (PendingWriteStatus × Topic)}
    (moved : FlushMove s.link record pc link control) (link_eq : s'.link = link)
    (serving : s'.serving = none) : Carry s s' := by
  subst link_eq
  rcases moved.completes with ⟨frames, parked, _⟩ | ⟨frames, parked⟩
  · exact .complete frames parked serving
  · exact .keep frames parked (.inl serving)

theorem DeliverMove.carry {config : RepeaterConfig} {s s' : State} {link : Link} {record frames : Nat}
    {topic : Topic} {pc : DeliverPc} {control : Control DeliverPc TopicDeliveryStatus}
    (moved : DeliverMove config s.store s.link record topic pc link control) (link_eq : s'.link = link)
    (at_ : s.serving = some topic)
    (serving : s'.serving = (State.afterDeliver { s with link } frames topic control).serving) :
    Carry s s' := by
  have stays : s'.serving = none ∨ s'.serving = s.serving := by
    rw [serving, at_]
    cases control with
    | goto pc => exact .inr rfl
    | ret status => exact .inl (afterDeliver_serving _ frames topic status)
  cases moved with
  | park => exact .park (by rw [link_eq]; rfl) at_ (by rw [link_eq]; rfl) serving
  | flush moved =>
    rcases moved.completes with ⟨frames_eq, parked, _, rfl⟩ | ⟨frames_eq, parked⟩
    · exact .complete (link_eq ▸ frames_eq) (link_eq ▸ parked)
        (serving.trans (afterDeliver_serving _ frames topic .delivered))
    · exact .keep (link_eq ▸ frames_eq) (link_eq ▸ parked) stays
  | initializeTopic sequence =>
    have history := s.link.initializeTopic_history record topic sequence
    exact .keep (by rw [link_eq, history]) (.inl (by rw [link_eq, history])) stays
  | _ => exact .keep (by rw [link_eq] <;> rfl) (.inl (by rw [link_eq] <;> rfl)) stays

/-- A step of the event loop takes the head of the queue, or carries on. -/
theorem loopStep_carry {d : Deployment} {s s' : State} {outcome : CallOutcome} {pc : LoopPc}
    (at_ : s.writer = .loop pc) (taken : loopStep d s outcome pc = some s') :
    (∃ topic, s.serving = none ∧ s.worker.workQueue = topic :: s'.worker.workQueue ∧
      s'.link = s.link ∧ s'.serving = some topic) ∨ Carry s s' := by
  have returned : ∀ frames, Carry s (s.nextFrame frames) := fun frames =>
    .idle (by rw [(nextFrame_returns s frames).same]) (nextFrame_serving s frames)
  cases pc <;> simp only [loopStep] at taken
  case popWork frames =>
    split at taken
    · cases taken
      exact .inr (.idle rfl rfl)
    · rename_i topic worker popped
      cases taken
      have head : s.worker.popWork.1 = some topic := by rw [popped]
      refine .inl ⟨topic, by rw [State.serving, at_], ?_, rfl, rfl⟩
      rw [EventLoopWorker.popWork_some head, popped]
      rfl
  case flush frames pc =>
    split at taken
    · cases taken
    · rename_i link control flushed
      cases taken
      obtain ⟨same, _⟩ := afterFlush_loop { s with link } frames control
      exact .inr ((flushStep_move flushed).carry (by rw [same])
        (afterFlush_serving { s with link } frames control))
  case deliver frames topic pc =>
    have serving : s.serving = some topic := by rw [State.serving, at_]
    split at taken
    · cases taken
    · split at taken
      · cases taken
      · rename_i link control delivered
        cases taken
        obtain ⟨same, _⟩ := afterDeliver_loop { s with link } frames topic control
        exact .inr ((deliverStep_move delivered).carry (by rw [same]) serving rfl)
  case getCircle frames topic =>
    split at taken <;> cases taken
    · exact .inr (returned frames)
    · exact .inr (.keep rfl (.inl rfl) (.inr (by rw [State.serving, State.serving, at_]; rfl)))
  case requeueMeta frames topic =>
    split at taken
    · cases taken
      exact .inr (returned frames)
    · split at taken <;> cases taken
      · exact .inr (.idle rfl rfl)
      · exact .inr (returned frames)
  case cacheTest | requeueNext | requeueCircle =>
    split at taken <;> cases taken <;> first | exact .inr (returned _) | exact .inr (.idle rfl rfl)
  case cacheGet | requeueSubmit =>
    cases taken
    exact .inr (.idle (by rw [(nextFrame_returns _ _).same]) (nextFrame_serving _ _))
  case subscribedTest =>
    split at taken
    · cases taken
      exact .inr (.idle rfl rfl)
    · split at taken <;> cases taken <;> exact .inr (.idle rfl rfl)
  case waiting | drain | entry | enableWrite =>
    split at taken <;> cases taken <;> exact .inr (.idle rfl rfl)
  case aliveTest | hasControl | hasWorks =>
    cases taken
    refine .inr (.idle rfl ?_)
    split <;> rfl
  all_goals
    cases taken <;> exact .inr (.idle rfl rfl)

/-! ### Every step -/

/-- The connection's writer is its event loop. -/
def Looping (s : State) : Prop := ∃ pc, s.writer = .loop pc

theorem Going.looping {s : State} (going : Going s) : Looping s := going.imp fun _ => And.left

theorem loopStep_looping {d : Deployment} {s s' : State} {outcome : CallOutcome} {pc : LoopPc}
    (taken : loopStep d s outcome pc = some s') : Looping s' := by
  cases pc <;> simp only [loopStep] at taken
  case flush frames pc =>
    split at taken <;> cases taken
    exact (afterFlush_going _ _ _).looping
  case deliver frames topic pc =>
    split at taken
    · cases taken
    · split at taken <;> cases taken
      exact (afterDeliver_going _ _ _ _).looping
  case cacheGet | requeueSubmit =>
    cases taken
    exact (nextFrame_going _ _).looping
  case requeueMeta frames topic =>
    split at taken
    · cases taken
      exact (nextFrame_going _ _).looping
    · split at taken <;> cases taken
      · exact ⟨_, rfl⟩
      · exact (nextFrame_going _ _).looping
  case cacheTest | requeueNext | requeueCircle | getCircle =>
    split at taken <;> cases taken <;> first | exact (nextFrame_going _ _).looping | exact ⟨_, rfl⟩
  case subscribedTest =>
    split at taken
    · cases taken
      exact ⟨_, rfl⟩
    · split at taken <;> cases taken <;> exact ⟨_, rfl⟩
  case waiting | drain | entry | enableWrite | popWork =>
    split at taken <;> cases taken <;> exact ⟨_, rfl⟩
  all_goals
    cases taken <;> exact ⟨_, rfl⟩

theorem Carry.aside {s s' : State} (frames : s'.link.history.frames = s.link.history.frames)
    (parked : s'.link.history.parked = s.link.history.parked) (writer : s'.writer = s.writer) :
    Carry s s' := .keep frames (.inl parked) (.inr (by rw [State.serving, writer, State.serving]))

theorem ReaderMove.carry {s s' : State} (moved : ReaderMove s s') (writer : s'.writer = s.writer) :
    Carry s s' := by
  cases moved with
  | same link_eq => exact .aside (by rw [link_eq]) (by rw [link_eq]) writer
  | enqueue at_ pushed link_eq =>
    have link := Link.enqueueControlFrame_some pushed
    exact .aside (by rw [link_eq, link]; rfl) (by rw [link_eq, link]; rfl) writer
  | create at_ link_eq => exact .aside (by rw [link_eq]; rfl) (by rw [link_eq]; rfl) writer
  | initializeTopic at_ link_eq =>
    have history := s.link.initializeTopic_history
    exact .aside (by rw [link_eq, history]) (by rw [link_eq, history]) writer

/-- A step takes the head of the queue for delivery, or carries on. -/
theorem step_carry {d : Deployment} {s s' : State} {action : Action} (looping : Looping s)
    (taken : step d s action = some s') :
    Looping s' ∧ ((∃ topic, s.serving = none ∧ s.worker.workQueue = topic :: s'.worker.workQueue ∧
      s'.link = s.link ∧ s'.serving = some topic) ∨ Carry s s') := by
  cases action with
  | writer outcome =>
    obtain ⟨pc, at_⟩ := looping
    simp only [step, writerStep, at_] at taken
    exact ⟨loopStep_looping taken, loopStep_carry at_ taken⟩
  | reader input =>
    obtain ⟨moved, _, writer, _⟩ := readerStep_move taken
    refine ⟨?_, .inr (moved.carry writer)⟩
    rwa [Looping, writer]
  | writable =>
    obtain ⟨_, _, rfl⟩ := writableStep_same taken
    exact ⟨⟨_, rfl⟩, .inr (.idle rfl rfl)⟩
  | _ =>
    have writer := (step_writer (by simp) (by simp) taken).1
    have link := (step_frame (by simp) (by simp) taken).link
    refine ⟨?_, .inr (.aside (by rw [link]) (by rw [link]) writer)⟩
    rwa [Looping, writer]

/-! ### The potential -/

theorem completed_append {s s' : State} {frame : Option WireFrame}
    (frames : s'.link.history.frames = s.link.history.frames ++ frame.toList) (topic : Topic) :
    s'.completed topic =
      s.completed topic + if frame.bind WireFrame.topic? = some topic then 1 else 0 := by
  unfold State.completed Link.sent
  rw [frames, List.filterMap_append, List.length_append]
  cases frame with
  | none => rfl
  | some frame =>
    cases frame with
    | control data => rfl
    | business t sequence body =>
      by_cases same : t = topic <;> simp [WireFrame.entry?, WireFrame.topic?, same]

theorem begun_le {s s' : State} {topic : Topic} (completed : s'.completed topic = s.completed topic)
    (still : s'.UnderWay topic → s.UnderWay topic) : s'.begun topic ≤ s.begun topic := by
  unfold State.begun
  rw [completed]
  refine Nat.add_le_add_left ?_ _
  split
  · rename_i now
    rw [if_pos (still now)]
  · exact Nat.zero_le _

theorem Carry.begun {s s' : State} (carry : Carry s s') (topic : Topic) :
    s'.begun topic ≤ s.begun topic := by
  cases carry with
  | keep frames parked serving =>
    refine begun_le (by rw [State.completed, Link.sent, frames]; rfl) ?_
    rintro (now | now)
    · rcases serving with none_ | same
      · rw [none_] at now
        cases now
      · exact .inl (same ▸ now)
    · rcases parked with same | none_
      · rw [Link.pendingTopic, same] at now
        exact .inr now
      · rw [none_] at now
        cases now
  | @park t frames at_ parked serving =>
    refine begun_le (by rw [State.completed, Link.sent, frames]; rfl) ?_
    rintro (now | now)
    · exact .inl (at_.trans (serving.symm.trans now))
    · exact .inl (at_.trans (parked.symm.trans now))
  | complete frames parked serving =>
    have idle : ¬ s'.UnderWay topic := by
      rintro (now | now)
      · rw [serving] at now
        cases now
      · rw [Link.pendingTopic, parked] at now
        cases now
    unfold State.begun
    rw [completed_append frames, if_neg idle, Nat.add_zero]
    refine Nat.add_le_add_left ?_ _
    split
    · rename_i pending
      rw [if_pos (.inr pending)]
    · exact Nat.zero_le _

/-- A pop begins at most one frame, of the topic at the head. -/
theorem popped_begun {s s' : State} {head : Topic} (link : s'.link = s.link)
    (serving : s'.serving = some head) (topic : Topic) :
    s'.begun topic ≤ s.begun topic + if head = topic then 1 else 0 := by
  have completed : s'.completed topic = s.completed topic := by
    rw [State.completed, link]
    rfl
  by_cases mine : head = topic
  · unfold State.begun
    rw [completed, if_pos mine]
    split <;> omega
  · rw [if_neg mine, Nat.add_zero]
    refine begun_le completed ?_
    rintro (now | now)
    · exact absurd (Option.some.inj (serving.symm.trans now)) mine
    · exact .inr (link ▸ now)

/-! ### Runs -/

/-- The topic is in the work queue. -/
def Waits (b : Topic) (s : State) (_ : Action) : Prop := b ∈ s.worker.workQueue

/-- The topic is popped and its delivery is not over. -/
def Attempts (b : Topic) (s : State) (_ : Action) : Prop := s.serving = some b

instance (b : Topic) (s : State) (action : Action) : Decidable (Waits b s action) :=
  inferInstanceAs (Decidable (_ ∈ _))

instance (b : Topic) (s : State) (action : Action) : Decidable (Attempts b s action) :=
  inferInstanceAs (Decidable (_ = _))

/-- No step raises the potential while `b` waits. -/
theorem step_waits {d : Deployment} {s s' : State} {action : Action} {a b : Topic} (other : a ≠ b)
    (looping : Looping s) (coherent : EventLoopWorker.Coherent s.worker)
    (waiting : b ∈ s.worker.workQueue) (taken : step d s action = some s') :
    s'.begun a + ahead a b s'.worker.workQueue ≤ s.begun a + ahead a b s.worker.workQueue := by
  rcases (step_carry looping taken).2 with ⟨head, _, queue, link, serving⟩ | carry
  · have begun := popped_begun link serving a
    have distinct := coherent.nodup
    rw [queue] at distinct waiting
    have place := ahead_pop a b head distinct waiting
    simp only [other, ne_eq, not_false_eq_true, and_true] at place
    rw [queue]
    omega
  · have begun := carry.begun a
    have place := ((step_worker taken).queue coherent).ahead_le a coherent.nodup waiting
    omega

theorem step_attempts {d : Deployment} {s s' : State} {action : Action} {b : Topic} (a : Topic)
    (looping : Looping s) (attempting : s.serving = some b) (taken : step d s action = some s') :
    s'.begun a ≤ s.begun a := by
  rcases (step_carry looping taken).2 with ⟨_, idle, _⟩ | carry
  · rw [idle] at attempting
    cases attempting
  · exact carry.begun a

theorem run_looping {d : Deployment} {s : State} (loopMode : d.config.subscriberEnableEventLoop = true)
    (run : Run (step d) Free (initial d) s) : Looping s := by
  refine run.keeps ⟨.waiting, ?_⟩ fun s action s' looping _ taken => (step_carry looping taken).1
  rw [initial, if_pos loopMode]

theorem run_waits {d : Deployment} (loopMode : d.config.subscriberEnableEventLoop = true)
    {s s' : State} {a b : Topic} (reached : Run (step d) Free (initial d) s)
    (waiting : Run (step d) (Waits b) s s') (other : a ≠ b) :
    s'.begun a + ahead a b s'.worker.workQueue ≤ s.begun a + ahead a b s.worker.workQueue := by
  induction waiting with
  | refl => exact Nat.le_refl _
  | tail before action guard taken ih =>
    have there := reached.trans (before.weaken fun _ _ _ => trivial)
    exact (step_waits other (run_looping loopMode there) (worker_coherent there) guard taken).trans ih

theorem run_attempts {d : Deployment} (loopMode : d.config.subscriberEnableEventLoop = true)
    {s s' : State} {b : Topic} (reached : Run (step d) Free (initial d) s)
    (attempt : Run (step d) (Attempts b) s s') (a : Topic) : s'.begun a ≤ s.begun a := by
  induction attempt with
  | refl => exact Nat.le_refl _
  | tail before action guard taken ih =>
    have there := reached.trans (before.weaken fun _ _ _ => trivial)
    exact (step_attempts a (run_looping loopMode there) guard taken).trans ih

/-- From any moment at which `b` is in the work queue, until it is popped and its delivery is over, a frame
of each other topic `a` is completed for the one under way and for the place of `a` ahead of `b`, so at
most two. -/
theorem bounded_bypass {d : Deployment} (loopMode : d.config.subscriberEnableEventLoop = true)
    {s middle s' : State} {a b : Topic} (reached : Run (step d) Free (initial d) s)
    (waiting : Run (step d) (Waits b) s middle) (attempt : Run (step d) (Attempts b) middle s')
    (other : a ≠ b) :
    s'.completed a ≤ s.completed a + (if s.UnderWay a then 1 else 0) + ahead a b s.worker.workQueue ∧
    s'.completed a ≤ s.completed a + 2 := by
  have waited := run_waits loopMode reached waiting other
  have there := reached.trans (waiting.weaken fun _ _ _ => trivial)
  have attempted := run_attempts loopMode there attempt a
  have distinct := ahead_le_one a b (worker_coherent reached).nodup
  have ends : s'.completed a ≤ s'.begun a := Nat.le_add_right _ _
  have starts : s.begun a = s.completed a + if s.UnderWay a then 1 else 0 := rfl
  have once : (if s.UnderWay a then 1 else 0) ≤ 1 := by
    split <;> decide
  omega

/-- A client subscribes to "B" and "A"; the first message of "A" is at its `send` when a second one and
one of "B" come in, so that both topics are queued. -/
def passing : List Action :=
  [Action.reader .run, .reader (.request (.subscribe [ascii "B", ascii "A"])),
    .reader (.order [ascii "B", ascii "A"])] ++
    List.replicate 19 (Action.reader .run) ++
    [Action.publisher 0 (.create (ascii "A") (ascii "a")), .publisher 0 .run] ++
    List.replicate 10 (Action.writer .interrupted) ++ [Action.writer (.accepted 19)] ++
    List.replicate 18 (Action.writer .interrupted) ++
    [Action.publisher 0 .run, .publisher 0 .run, .publisher 1 (.create (ascii "A") (ascii "b")),
      .publisher 1 .run, .publisher 2 (.create (ascii "B") (ascii "c")), .publisher 2 .run,
      .publisher 2 .run, .publisher 2 .run] ++
    List.replicate 11 Action.dispatcher

/-- Both frames of "A" are sent and "B" is popped. -/
def passed : List Action :=
  [Action.writer (.accepted 10)] ++ List.replicate 13 (Action.writer .interrupted) ++
    [Action.writer (.accepted 10)] ++ List.replicate 8 (Action.writer .interrupted)

def served : List Action :=
  List.replicate 4 (Action.writer .interrupted) ++ [Action.writer (.accepted 10)] ++
    List.replicate 2 (Action.writer .interrupted)

def passedTwice (s s' : State) : Bool :=
  s.completed (ascii "A") == 0 && s'.completed (ascii "A") == 2 && s'.completed (ascii "B") == 1

/-- The bound is reached: both frames of "A" are completed before the one of "B". -/
theorem bounded_bypass_twice : ∃ s middle s', Run (step (sample true)) Free (initial (sample true)) s ∧
    Run (step (sample true)) (Waits (ascii "B")) s middle ∧
    Run (step (sample true)) (Attempts (ascii "B")) middle s' ∧ passedTwice s s' = true ∧
    s'.completed (ascii "A") ≤ s.completed (ascii "A") + 2 := by
  obtain ⟨s, reached, tested⟩ := Run.exists_of_replay (step (sample true)) Free (initial (sample true))
    passing
    (fun s => (replay (guarded (step (sample true)) (Waits (ascii "B"))) s passed).any fun middle =>
      (replay (guarded (step (sample true)) (Attempts (ascii "B"))) middle served).any (passedTwice s))
    (by decide +kernel)
  obtain ⟨middle, waiting, tested⟩ := Run.exists_of_replay _ _ _ _ _ tested
  obtain ⟨s', attempt, tested⟩ := Run.exists_of_replay _ _ _ _ _ tested
  exact ⟨s, middle, s', reached, waiting, attempt, tested,
    (bounded_bypass rfl reached waiting attempt (by decide)).2⟩

end MessageRepeater.Subscriber
