import MessageRepeater.Subscriber.Answers

/-!
# The threads of a connection that is left alone

Runs in which neither alive detection nor the connection-detecting thread touches the connection: the
publishers, the dispatch loop, the reading thread and the event loop, in any order. Here every byte in
the pipes asks for work, the queues stay coherent, and the event loop stops only after the connection
has been marked dead.
-/

namespace MessageRepeater.Subscriber
open Foundation Combiner Config Connection

/-- Not an action of alive detection or of the connection-detecting thread. -/
def Action.inside : Action → Bool
  | .detector | .reclaimer => false
  | _ => true

def Inside (_ : State) (action : Action) : Prop := action.inside = true

instance (s : State) (action : Action) : Decidable (Inside s action) :=
  inferInstanceAs (Decidable (_ = true))

/-- The topics of the request that the action gets accepted, if it does. -/
def State.accepts (d : Deployment) (s : State) : Action → Option (List Topic)
  | .reader (.order _) =>
    match s.reader with
    | .createRecord topics =>
      if (s.composite.createNewRecord d.key topics s.link.records.length).1 then some topics else none
    | _ => none
  | _ => none

theorem accepts_created {d : Deployment} {s : State} {topics order : List Topic}
    {composite : ConsumeRecordComposite} (at_ : s.reader = .createRecord topics)
    (created : s.composite.createNewRecord d.key topics s.link.records.length = (true, composite)) :
    topics ∈ s.accepts d (.reader (.order order)) := by
  simp only [State.accepts, at_, created, if_true]
  rfl

/-- The callback has read a stop byte. -/
def LoopPc.stopping : LoopPc → Bool
  | .drain stopRequested | .aliveTest stopRequested => stopRequested
  | _ => false

/-- The loop stops the worker, or has. -/
def LoopPc.stopped : LoopPc → Bool
  | .stop | .dropShutdown | .dropStop | .done => true
  | _ => false

def ReaderPc.exited : ReaderPc → Bool
  | .exitShutdown | .exitClose | .exitKill | .done => true
  | _ => false

structure Running (s : State) : Prop where
  worker : EventLoopWorker.Coherent s.worker
  dispatch : EventLoopWorker.Coherent s.dispatch
  starts : ∀ byte ∈ s.worker.notifyPipe, byte = 1
  loop : ∃ pc, s.writer = .loop pc ∧ pc.stopping = false ∧ (pc.stopped = true → s.alived = false)
  registered : s.loopRegistered = true
  exited : s.reader.exited = true → s.alived = false

/-! ### The event loop's worker -/

/-- What a step of the event loop does to its worker. -/
inductive LoopWorker (d : Deployment) (s s' : State) : Prop where
  | quiet (same : EventLoopWorker.Quiet s.worker s'.worker)
  | drain {stop byte rest} (at_ : s.writer = .loop (.drain stop))
      (pipe : s.worker.notifyPipe = byte :: rest)
      (worker_eq : s'.worker = { s.worker with notifyPipe := rest })
  | pop (worker_eq : s'.worker = s.worker.popWork.2)
  | submit {frames topic} (at_ : s.writer = .loop (.requeueSubmit frames topic))
      (same : EventLoopWorker.Quiet (s.worker.submitWork topic).2 s'.worker)
  | notify (worker_eq : s'.worker = s.worker.notifyStartWork d.pipeCapacity)
  | stop (worker_eq : s'.worker = s.worker.stop)

theorem nextFrame_quiet (s : State) (frames : Nat) :
    EventLoopWorker.Quiet s.worker (s.nextFrame frames).worker := by
  unfold State.nextFrame
  split
  · exact .refl _
  · exact EventLoopWorker.disableWriteEvent_quiet _

theorem requeue_quiet (s : State) (frames : Nat) (topic : Topic) :
    EventLoopWorker.Quiet s.worker (s.requeue frames topic).worker := by
  unfold State.requeue
  split
  · exact nextFrame_quiet s frames
  · exact .refl _

theorem afterFlush_quiet (s : State) (frames : Nat)
    (control : Control FlushPc (PendingWriteStatus × Topic)) :
    EventLoopWorker.Quiet s.worker (s.afterFlush frames control).worker := by
  rcases control with pc | ⟨status, topic⟩
  · exact .refl _
  · cases status
    case complete => exact requeue_quiet s (frames + 1) topic
    all_goals exact .refl _

theorem afterDeliver_quiet (s : State) (frames : Nat) (topic : Topic)
    (control : Control DeliverPc TopicDeliveryStatus) :
    EventLoopWorker.Quiet s.worker (s.afterDeliver frames topic control).worker := by
  rcases control with pc | status
  · exact .refl _
  · cases status
    case delivered => exact requeue_quiet s (frames + 1) topic
    case noMessage => exact nextFrame_quiet s frames
    all_goals exact .refl _

theorem loopStep_worker {d : Deployment} {s s' : State} {outcome : CallOutcome} {pc : LoopPc}
    (at_ : s.writer = .loop pc) (taken : loopStep d s outcome pc = some s') : LoopWorker d s s' := by
  cases pc <;> simp only [loopStep] at taken
  case drain stopRequested =>
    split at taken
    · cases taken
      exact .quiet (.refl _)
    · rename_i pipe
      cases taken
      exact .drain at_ pipe rfl
  case popWork frames =>
    split at taken
    · cases taken
      exact .quiet (EventLoopWorker.disableWriteEvent_quiet _)
    · rename_i topic worker popped
      cases taken
      refine .pop ?_
      rw [popped]
      rfl
  case requeueSubmit frames topic =>
    cases taken
    exact .submit at_ (nextFrame_quiet { s with worker := (s.worker.submitWork topic).2 } frames)
  case notifySelf =>
    cases taken
    exact .notify rfl
  case stop | dropStop =>
    cases taken
    exact .stop rfl
  case dropShutdown =>
    cases taken
    exact .quiet (EventLoopWorker.disableWriteEvent_quiet _)
  case enableWrite =>
    have quiet := EventLoopWorker.enableWriteEvent_quiet s.worker (outcome ≠ .failed)
    split at taken
    all_goals
      rename_i worker enabled
      cases taken
      rw [enabled] at quiet
      exact .quiet quiet
  case flush frames pc =>
    split at taken
    · cases taken
    · rename_i link control _
      cases taken
      exact .quiet (afterFlush_quiet { s with link } frames control)
  case deliver frames topic pc =>
    split at taken
    · cases taken
    · split at taken
      · cases taken
      · rename_i link control _
        cases taken
        exact .quiet (afterDeliver_quiet { s with link } frames topic control)
  case cacheGet =>
    cases taken
    exact .quiet (nextFrame_quiet { s with record := s.composite.getRecord d.key } 0)
  case cacheTest | requeueNext =>
    split at taken <;> cases taken
    · exact .quiet (.refl _)
    · exact .quiet (nextFrame_quiet s _)
  case getCircle | requeueCircle =>
    split at taken <;> cases taken
    · exact .quiet (nextFrame_quiet s _)
    · exact .quiet (.refl _)
  case requeueMeta =>
    split at taken
    · cases taken
      exact .quiet (nextFrame_quiet s _)
    · split at taken <;> cases taken
      · exact .quiet (.refl _)
      · exact .quiet (nextFrame_quiet s _)
  case entry =>
    split at taken <;> cases taken
    · exact .quiet (EventLoopWorker.disableWriteEvent_quiet _)
    · exact .quiet (.refl _)
  case subscribedTest =>
    split at taken
    · cases taken
      exact .quiet (EventLoopWorker.disableWriteEvent_quiet _)
    · split at taken <;> cases taken
      · exact .quiet (EventLoopWorker.disableWriteEvent_quiet _)
      · exact .quiet (.refl _)
  case waiting =>
    split at taken <;> cases taken
    exact .quiet (.refl _)
  all_goals
    cases taken <;> exact .quiet (.refl _)

theorem LoopWorker.coherent {d : Deployment} {s s' : State} (moved : LoopWorker d s s')
    (coherent : EventLoopWorker.Coherent s.worker) : EventLoopWorker.Coherent s'.worker := by
  cases moved with
  | quiet same => exact coherent.quiet same
  | drain _ _ worker_eq => exact worker_eq ▸ coherent.congr rfl rfl rfl
  | pop worker_eq => exact worker_eq ▸ coherent.popWork
  | submit _ same => exact (coherent.submitWork _).quiet same
  | notify worker_eq => exact worker_eq ▸ coherent.notifyStartWork d.pipeCapacity
  | stop worker_eq => exact worker_eq ▸ coherent.stop

theorem LoopWorker.starts {d : Deployment} {s s' : State} (moved : LoopWorker d s s')
    (starts : ∀ byte ∈ s.worker.notifyPipe, byte = 1) : ∀ byte ∈ s'.worker.notifyPipe, byte = 1 := by
  intro byte member
  cases moved with
  | quiet same =>
    rw [same.pipe] at member
    exact starts byte member
  | drain _ pipe worker_eq =>
    rw [worker_eq] at member
    exact starts byte (by rw [pipe]; exact List.mem_cons_of_mem _ member)
  | pop worker_eq =>
    rw [worker_eq, EventLoopWorker.popWork_pipe] at member
    exact starts byte member
  | submit _ same =>
    rw [same.pipe, EventLoopWorker.submitWork_pipe] at member
    exact starts byte member
  | notify worker_eq =>
    rw [worker_eq] at member
    exact (EventLoopWorker.mem_notifyStartWork member).elim (starts byte) id
  | stop worker_eq =>
    rw [worker_eq] at member
    have quiet := EventLoopWorker.disableWriteEvent_quiet s.worker
    exact starts byte (by rw [← quiet.pipe]; exact member)

/-! ### The event loop stops only when the connection is dead -/

/-- The loop neither stops nor has been asked to. -/
def LoopPc.Going (pc : LoopPc) : Prop := pc.stopping = false ∧ pc.stopped = false

def Going (s : State) : Prop := ∃ pc, s.writer = .loop pc ∧ pc.Going

theorem nextFrame_going (s : State) (frames : Nat) : Going (s.nextFrame frames) := by
  unfold State.nextFrame
  split <;> exact ⟨_, rfl, rfl, rfl⟩

theorem requeue_going (s : State) (frames : Nat) (topic : Topic) :
    Going (s.requeue frames topic) := by
  unfold State.requeue
  split
  · exact nextFrame_going s frames
  · exact ⟨_, rfl, rfl, rfl⟩

theorem afterFlush_going (s : State) (frames : Nat)
    (control : Control FlushPc (PendingWriteStatus × Topic)) : Going (s.afterFlush frames control) := by
  rcases control with pc | ⟨status, topic⟩
  · exact ⟨_, rfl, rfl, rfl⟩
  · cases status
    case complete => exact requeue_going s (frames + 1) topic
    all_goals exact ⟨_, rfl, rfl, rfl⟩

theorem afterDeliver_going (s : State) (frames : Nat) (topic : Topic)
    (control : Control DeliverPc TopicDeliveryStatus) :
    Going (s.afterDeliver frames topic control) := by
  rcases control with pc | status
  · exact ⟨_, rfl, rfl, rfl⟩
  · cases status
    case delivered => exact requeue_going s (frames + 1) topic
    case noMessage => exact nextFrame_going s frames
    all_goals exact ⟨_, rfl, rfl, rfl⟩

theorem loopStep_going {d : Deployment} {s s' : State} {outcome : CallOutcome} {pc : LoopPc}
    (unasked : pc.stopping = false) (dead : pc.stopped = true → s.alived = false)
    (starts : ∀ byte ∈ s.worker.notifyPipe, byte = 1)
    (taken : loopStep d s outcome pc = some s') :
    Going s' ∨ ∃ pc', s'.writer = .loop pc' ∧ pc'.stopping = false ∧ s'.alived = false := by
  cases pc <;> simp only [loopStep] at taken
  case drain stopRequested =>
    obtain rfl : stopRequested = false := unasked
    split at taken
    · cases taken
      exact .inl ⟨_, rfl, rfl, rfl⟩
    · rename_i byte rest pipe
      have start : byte = 1 := starts byte (by rw [pipe]; exact List.mem_cons_self)
      cases taken
      exact .inl ⟨_, rfl, by simp [LoopPc.stopping, start], rfl⟩
  case aliveTest stopRequested =>
    obtain rfl : stopRequested = false := unasked
    cases taken
    by_cases alive : s.alived = false
    · exact .inr ⟨.stop, by simp [alive, State.goLoop], rfl, alive⟩
    · exact .inl ⟨.entry, by simp [alive, State.goLoop], rfl, rfl⟩
  case stop | dropShutdown | dropStop =>
    cases taken
    exact .inr ⟨_, rfl, rfl, dead rfl⟩
  case dropAlive =>
    cases taken
    exact .inr ⟨_, rfl, rfl, rfl⟩
  case flush frames pc =>
    split at taken
    · cases taken
    · rename_i link control _
      cases taken
      exact .inl (afterFlush_going { s with link } frames control)
  case deliver frames topic pc =>
    split at taken
    · cases taken
    · split at taken
      · cases taken
      · rename_i link control _
        cases taken
        exact .inl (afterDeliver_going { s with link } frames topic control)
  case cacheGet | requeueSubmit =>
    cases taken
    exact .inl (nextFrame_going _ _)
  case cacheTest | requeueNext | getCircle | requeueCircle =>
    split at taken <;> cases taken <;>
      first | exact .inl (nextFrame_going s _) | exact .inl ⟨_, rfl, rfl, rfl⟩
  case requeueMeta =>
    split at taken
    · cases taken
      exact .inl (nextFrame_going s _)
    · split at taken <;> cases taken
      · exact .inl ⟨_, rfl, rfl, rfl⟩
      · exact .inl (nextFrame_going s _)
  case hasControl | hasWorks =>
    cases taken
    refine .inl ⟨_, rfl, ?_⟩
    split <;> exact ⟨rfl, rfl⟩
  case subscribedTest =>
    split at taken
    · cases taken
      exact .inl ⟨_, rfl, rfl, rfl⟩
    · split at taken <;> cases taken <;> exact .inl ⟨_, rfl, rfl, rfl⟩
  case waiting | entry | popWork | enableWrite =>
    split at taken <;> cases taken <;> exact .inl ⟨_, rfl, rfl, rfl⟩
  case done => cases taken
  all_goals
    cases taken
    exact .inl ⟨_, rfl, rfl, rfl⟩

/-! ### Every step -/

theorem publisherStep_running {d : Deployment} {s s' : State} {id : Nat} {input : PublisherInput}
    (running : Running s) (taken : publisherStep d s id input = some s') : Running s' := by
  obtain ⟨worker, dispatch, starts, loop, registered, exited⟩ := running
  unfold publisherStep at taken
  split at taken
  case h_5 topic _ =>
    cases taken
    exact ⟨worker, dispatch.submitWork topic, starts, loop, registered, exited⟩
  case h_6 =>
    cases taken
    exact ⟨worker, dispatch.notifyStartWork d.pipeCapacity, starts, loop, registered, exited⟩
  case h_3 =>
    cases taken
    exact ⟨worker, dispatch, starts, loop, registered, exited⟩
  case h_7 => cases taken
  all_goals
    split at taken <;> cases taken <;>
      exact ⟨worker, dispatch, starts, loop, registered, exited⟩

theorem notify_starts {worker : EventLoopWorker} (starts : ∀ byte ∈ worker.notifyPipe, byte = 1)
    (capacity : Nat) : ∀ byte ∈ (worker.notifyStartWork capacity).notifyPipe, byte = 1 :=
  fun byte member => (EventLoopWorker.mem_notifyStartWork member).elim (starts byte) id

theorem submit_starts {worker : EventLoopWorker} (starts : ∀ byte ∈ worker.notifyPipe, byte = 1)
    (topic : Topic) : ∀ byte ∈ (worker.submitWork topic).2.notifyPipe, byte = 1 := by
  rw [EventLoopWorker.submitWork_pipe]
  exact starts

theorem dispatcherStep_running {d : Deployment} {s s' : State} (running : Running s)
    (taken : dispatcherStep d s = some s') : Running s' := by
  obtain ⟨worker, dispatch, starts, loop, registered, exited⟩ := running
  unfold dispatcherStep at taken
  split at taken
  case h_1 =>
    split at taken <;> cases taken
    exact ⟨worker, dispatch, starts, loop, registered, exited⟩
  case h_2 =>
    split at taken <;> cases taken
    · exact ⟨worker, dispatch, starts, loop, registered, exited⟩
    · exact ⟨worker, dispatch.congr rfl rfl rfl, starts, loop, registered, exited⟩
  case h_3 =>
    cases taken
    exact ⟨worker, dispatch.popWorks.1, starts, loop, registered, exited⟩
  case h_7 topic count todo _ =>
    rw [if_pos registered] at taken
    cases taken
    exact ⟨worker.submitWork topic, dispatch, submit_starts starts topic, loop, registered, exited⟩
  case h_8 =>
    cases taken
    exact ⟨worker.notifyStartWork d.pipeCapacity, dispatch, notify_starts starts d.pipeCapacity, loop,
      registered, exited⟩
  all_goals
    cases taken
    exact ⟨worker, dispatch, starts, loop, registered, exited⟩

theorem readerStep_running {d : Deployment} {s s' : State} {input : ReaderInput}
    (running : Running s) (taken : readerStep d s input = some s') : Running s' := by
  obtain ⟨worker, dispatch, starts, loop, registered, exited⟩ := running
  unfold readerStep at taken
  split at taken
  case h_7 topic message after _ =>
    split at taken <;> cases taken
    · exact ⟨worker, dispatch, starts, loop, registered, nofun⟩
    · refine ⟨worker, dispatch, starts, loop, registered, ?_⟩
      dsimp only
      split
      · nofun
      · cases after <;> nofun
  case h_8 after _ =>
    cases taken
    refine ⟨worker.notifyStartWork d.pipeCapacity, dispatch, notify_starts starts d.pipeCapacity, loop,
      registered, ?_⟩
    cases after <;> nofun
  case h_10 topics order _ =>
    split at taken
    · split at taken <;> cases taken <;>
        exact ⟨worker, dispatch, starts, loop, registered, fun held => absurd held Bool.false_ne_true⟩
    · cases taken
  case h_20 topic todo _ =>
    cases taken
    refine ⟨worker.submitWork topic, dispatch, submit_starts starts topic, loop, registered, ?_⟩
    dsimp only
    split <;> nofun
  case h_21 =>
    cases taken
    exact ⟨worker.notifyStartWork d.pipeCapacity, dispatch, notify_starts starts d.pipeCapacity, loop,
      registered, nofun⟩
  case h_22 =>
    cases taken
    refine ⟨worker, dispatch, starts, ?_, registered, fun _ => rfl⟩
    obtain ⟨pc, at_, unasked, _⟩ := loop
    exact ⟨pc, at_, unasked, fun _ => rfl⟩
  case h_9 =>
    split at taken <;> cases taken
    exact ⟨worker, dispatch, starts, loop, registered, fun held => absurd held Bool.false_ne_true⟩
  case h_25 at_ =>
    split at taken <;> cases taken
    refine ⟨worker, dispatch, starts, loop, registered, fun _ => exited ?_⟩
    rw [at_]
    rfl
  case h_23 at_ | h_24 at_ =>
    cases taken
    refine ⟨worker, dispatch, starts, loop, registered, fun _ => exited ?_⟩
    rw [at_]
    rfl
  case h_26 => cases taken
  case h_11 | h_13 =>
    split at taken <;> cases taken <;>
      exact ⟨worker, dispatch, starts, loop, registered, fun held => absurd held Bool.false_ne_true⟩
  all_goals
    cases taken
    refine ⟨worker, dispatch, starts, loop, registered, ?_⟩
    dsimp only
    try split
    all_goals exact fun held => absurd held Bool.false_ne_true

theorem step_running {d : Deployment} {s s' : State} {action : Action}
    (inside : Inside s action) (running : Running s) (taken : step d s action = some s') :
    Running s' := by
  cases action with
  | publisher id input => exact publisherStep_running running taken
  | dispatcher => exact dispatcherStep_running running taken
  | reader input => exact readerStep_running running taken
  | writer outcome =>
    obtain ⟨pc, at_, unasked, dead⟩ := running.loop
    have frame := writerStep_frame taken
    simp only [step, writerStep, at_] at taken
    have moved := loopStep_worker at_ taken
    have rest := loopStep_frame taken
    refine ⟨moved.coherent running.worker, rest.dispatch ▸ running.dispatch, moved.starts running.starts,
      ?_, rest.registered.trans running.registered, ?_⟩
    · rcases loopStep_going unasked dead running.starts taken with ⟨pc', at', going⟩ | ⟨pc', at', un, off⟩
      · exact ⟨pc', at', going.1, fun stopped => by rw [going.2] at stopped; cases stopped⟩
      · exact ⟨pc', at', un, fun _ => off⟩
    · rw [frame.reader]
      intro exited
      have off := running.exited exited
      by_contra on
      rw [rest.alived (by simpa using on)] at off
      cases off
  | writable =>
    simp only [step, writableStep] at taken
    split at taken <;> cases taken
    exact ⟨running.worker, running.dispatch, running.starts, ⟨_, rfl, rfl, by rintro ⟨⟩⟩, running.registered,
      running.exited⟩
  | detector => cases inside
  | reclaimer => cases inside
  | other key record =>
    rw [otherStep_same taken]
    exact ⟨running.worker, running.dispatch, running.starts, running.loop, running.registered,
      running.exited⟩

theorem initial_running {d : Deployment} (loopMode : d.config.subscriberEnableEventLoop = true) :
    Running (initial d) := by
  have coherent : EventLoopWorker.Coherent { disableDuplicateEntries := true } :=
    ⟨rfl, by simp, List.nodup_nil⟩
  refine ⟨coherent.congr rfl rfl rfl, coherent, nofun, ⟨.waiting, ?_, rfl, nofun⟩, loopMode, nofun⟩
  simp [initial, loopMode]

/-! ### The record stays in the map -/

/-- The map has a record for the connection once its first request is accepted. -/
def Held (d : Deployment) (s : State) : Prop :=
  s.link.records ≠ [] → s.composite.getRecord d.key ≠ none

/-- The reading thread finds the record that it has just put into the map. -/
theorem Ready.found {d : Deployment} {s : State} (held : Held d s) {record : Nat}
    {topics todo : List Topic} (ready : Ready s record topics todo) :
    s.composite.getRecord d.key ≠ none :=
  held fun none_ => by
    have last := ready.last
    rw [none_] at last
    cases last

theorem step_records {d : Deployment} {s s' : State} {action : Action}
    (reader : ∀ input, action ≠ .reader input) (taken : step d s action = some s') :
    s'.link.records.length = s.link.records.length := by
  cases action with
  | reader input => exact absurd rfl (reader input)
  | writer outcome => exact (writerStep_move taken).records
  | _ => rw [(step_frame (by simp) (by simp) taken).link]

theorem readerStep_held {d : Deployment} {s s' : State} {input : ReaderInput} (held : Held d s)
    (taken : readerStep d s input = some s') : Held d s' := by
  have kept : ∀ {t : State}, t.composite = s.composite →
      t.link.records.length = s.link.records.length → Held d t := by
    intro t composite length some_
    rw [composite]
    refine held fun none_ => some_ ?_
    rw [none_] at length
    exact List.eq_nil_of_length_eq_zero length
  unfold readerStep at taken
  split at taken
  case h_7 =>
    split at taken <;> cases taken
    · exact held
    · rename_i pushed
      exact kept rfl (congrArg List.length (enqueueControlFrame_link pushed).1)
  case h_10 =>
    split at taken
    · split at taken <;> cases taken
      · exact held
      · rename_i composite created
        intro _
        unfold ConsumeRecordComposite.createNewRecord at created
        split at created
        · cases created
        · split at created <;> cases created
          simp [ConsumeRecordComposite.getRecord]
    · cases taken
  case h_15 =>
    cases taken
    exact kept rfl (by simp [Link.initializeTopic])
  case h_9 | h_11 | h_13 | h_25 => split at taken <;> cases taken <;> exact held
  case h_26 => cases taken
  all_goals
    cases taken
    exact held

theorem step_held {d : Deployment} {s s' : State} {action : Action}
    (reclaimer : action ≠ .reclaimer) (held : Held d s) (taken : step d s action = some s') :
    Held d s' := by
  by_cases reader : ∃ input, action = .reader input
  · obtain ⟨input, rfl⟩ := reader
    exact readerStep_held held taken
  · have others : ∀ input, action ≠ .reader input := fun input same => reader ⟨input, same⟩
    intro some_
    rw [step_getRecord others reclaimer taken]
    have length := step_records others taken
    refine held fun none_ => some_ ?_
    rw [none_] at length
    exact List.eq_nil_of_length_eq_zero length

theorem initial_held (d : Deployment) : Held d (initial d) := fun some_ => absurd rfl some_

end MessageRepeater.Subscriber
