import MessageRepeater.Subscriber.Scheduling

/-!
# Where the work of a topic is

A topic with an undelivered message sits somewhere between its publisher and the connection's cursor:
with the publisher, in the dispatch queue, with the dispatch loop, with the reading thread, in the
connection's queue, or in the hands of its event loop. Whoever puts it into a queue wakes the reader of
that queue, and nobody goes to sleep on a queue that is not empty.
-/

namespace MessageRepeater.Subscriber
open Foundation Combiner Config Connection

/-- A connection that is not going down, with at most one accepted request. -/
structure Live (s : State) : Prop where
  alived : s.alived = true
  going : s.writer.call ≠ .closing
  reading : s.reader ≠ .exitAlive
  sole : s.link.records.length ≤ 1

theorem step_records_le {d : Deployment} {s s' : State} {action : Action}
    (taken : step d s action = some s') : s.link.records.length ≤ s'.link.records.length := by
  by_cases reader : ∃ input, action = .reader input
  · obtain ⟨input, rfl⟩ := reader
    cases (readerStep_move taken).1 with
    | same link_eq => rw [link_eq]
    | enqueue _ pushed link_eq =>
      rw [link_eq]
      exact Nat.le_of_eq (congrArg List.length (enqueueControlFrame_link pushed).1.symm)
    | create _ link_eq =>
      rw [link_eq]
      simp [Link.createRecord]
    | initializeTopic _ link_eq =>
      rw [link_eq]
      simp [Link.initializeTopic]
  · exact Nat.le_of_eq (step_records (fun input same => reader ⟨input, same⟩) taken).symm

theorem Live.before {d : Deployment} {s s' : State} {action : Action} (live : Live s')
    (sound : Sound s) (inside : Inside s action)
    (taken : step d s action = some s') : Live s := by
  refine ⟨step_alived taken live.alived, ?_, ?_, (step_records_le taken).trans live.sole⟩
  · exact fun closing => live.going (step_closing sound closing taken).1
  · intro exiting
    cases action with
    | reader input =>
      simp only [step, readerStep, exiting] at taken
      cases input <;> cases taken
      exact absurd live.alived Bool.false_ne_true
    | writer outcome => exact live.reading ((writerStep_frame taken).reader.trans exiting)
    | publisher id input => exact live.reading ((publisherStep_frame taken).reader.trans exiting)
    | dispatcher => exact live.reading ((dispatcherStep_frame taken).reader.trans exiting)
    | writable => exact live.reading ((writableStep_frame taken).reader.trans exiting)
    | detector => cases inside
    | reclaimer => cases inside
    | other key record => exact live.reading ((otherStep_frame taken).reader.trans exiting)

/-! ### The dispatch queue -/

/-- Whoever finds the dispatch queue filled can count on somebody to look at it. -/
def DispatchAwake (s : State) : Prop :=
  s.dispatch.workQueue ≠ [] → s.dispatch.notifyPipe ≠ [] ∨ (∃ id, s.publishers id = .notify) ∨
    s.dispatcher = .drain ∨ s.dispatcher = .popWorks

theorem publisherStep_awake {d : Deployment} {s s' : State} {id : Nat} {input : PublisherInput}
    (running : Running s) (awake : DispatchAwake s)
    (taken : publisherStep d s id input = some s') : DispatchAwake s' := by
  -- A publisher other than `id` is where it was.
  have kept : ∀ {t : State} {pc : PublisherPc}, t.publishers = s.publishers →
      s.publishers id ≠ .notify → t.dispatch = s.dispatch → t.dispatcher = s.dispatcher →
      DispatchAwake (t.setPublisher id pc) := by
    intro t pc publishers quiet dispatch dispatcher some_
    rw [State.setPublisher, dispatch] at some_
    rw [State.setPublisher]
    simp only [dispatch, dispatcher, publishers]
    refine (awake some_).imp_right (Or.imp_left ?_)
    rintro ⟨other, at_⟩
    have apart : other ≠ id := by
      rintro rfl
      exact quiet at_
    exact ⟨other, by rw [if_neg apart]; exact at_⟩
  unfold publisherStep at taken
  split at taken
  case h_1 at_ =>
    split at taken <;> cases taken
    · exact awake
    · exact kept rfl (by rw [at_]; nofun) rfl rfl
  case h_2 =>
    split at taken <;> cases taken
    exact awake
  case h_3 at_ =>
    cases taken
    exact kept rfl (by rw [at_]; nofun) rfl rfl
  case h_4 at_ =>
    split at taken <;> cases taken
    · exact kept rfl (by rw [at_]; nofun) rfl rfl
    · exact kept rfl (by rw [at_]; nofun) rfl rfl
  case h_5 topic at_ =>
    cases taken
    cases queued : (s.dispatch.submitWork topic).1 with
    | true => exact fun _ => .inr (.inl ⟨id, by simp [State.setPublisher]⟩)
    | false =>
      exact kept rfl (by rw [at_]; nofun) (EventLoopWorker.submitWork_queued running.dispatch queued) rfl
  case h_6 =>
    cases taken
    exact fun _ => .inl (EventLoopWorker.notifyStartWork_ne_nil _ d.pipe_pos)
  case h_7 => cases taken

theorem dispatcherStep_awake {d : Deployment} {s s' : State} (running : Running s)
    (awake : DispatchAwake s) (taken : dispatcherStep d s = some s') : DispatchAwake s' := by
  have kept : ∀ {t : State}, t.publishers = s.publishers → s.dispatcher ≠ .drain →
      s.dispatcher ≠ .popWorks → t.dispatch = s.dispatch → DispatchAwake t := by
    intro t publishers drain pop dispatch some_
    rw [dispatch] at some_ ⊢
    rw [publishers]
    rcases awake some_ with pipe | publisher | at_ | at_
    · exact .inl pipe
    · exact .inr (.inl publisher)
    · exact absurd at_ drain
    · exact absurd at_ pop
  unfold dispatcherStep at taken
  split at taken
  case h_1 =>
    split at taken <;> cases taken
    exact fun _ => .inr (.inr (.inl rfl))
  case h_2 at_ =>
    split at taken <;> cases taken
    · exact fun _ => .inr (.inr (.inr rfl))
    · exact fun _ => .inr (.inr (.inl at_))
  case h_3 =>
    cases taken
    exact fun some_ => absurd running.dispatch.popWorks.2.2.1 some_
  case h_7 at_ =>
    rw [if_pos running.registered] at taken
    cases taken
    exact kept rfl (by rw [at_]; nofun) (by rw [at_]; nofun) rfl
  all_goals
    rename_i at_
    cases taken
    exact kept rfl (by rw [at_]; nofun) (by rw [at_]; nofun) rfl

theorem readerStep_dispatch {d : Deployment} {s s' : State} {input : ReaderInput}
    (taken : readerStep d s input = some s') :
    s'.dispatch = s.dispatch ∧ s'.dispatcher = s.dispatcher ∧ s'.publishers = s.publishers := by
  rw [readerStep_same taken]
  exact ⟨rfl, rfl, rfl⟩

theorem step_dispatchAwake {d : Deployment} {s s' : State} {action : Action}
    (running : Running s) (inside : Inside s action) (awake : DispatchAwake s)
    (taken : step d s action = some s') : DispatchAwake s' := by
  have kept : s'.dispatch = s.dispatch → s'.dispatcher = s.dispatcher →
      s'.publishers = s.publishers → DispatchAwake s' := by
    intro dispatch dispatcher publishers
    unfold DispatchAwake at *
    rw [dispatch, dispatcher, publishers]
    exact awake
  cases action with
  | publisher id input => exact publisherStep_awake running awake taken
  | dispatcher => exact dispatcherStep_awake running awake taken
  | reader input =>
    obtain ⟨dispatch, dispatcher, publishers⟩ := readerStep_dispatch taken
    exact kept dispatch dispatcher publishers
  | writer outcome =>
    obtain ⟨pc, at_, _⟩ := running.loop
    simp only [step, writerStep, at_] at taken
    have frame := loopStep_frame taken
    exact kept frame.dispatch frame.dispatcher frame.publishers
  | writable =>
    simp only [step, writableStep] at taken
    split at taken <;> cases taken
    exact awake
  | detector | reclaimer => cases inside
  | other key record =>
    rw [otherStep_same taken]
    exact awake

/-! ### The event loop's own data -/

/-- What the loop knows at each of its program counters: the pending slot is empty once the flush has
passed it, a frame left in the slot has the write event armed, no cursor is left for the loop to set,
and the cursor of a topic to requeue is the one just read. -/
def LoopFacts (s : State) : LoopPc → Prop
  | .flush _ _ | .enableWrite => True
  | .stop | .dropSubscribed | .dropAlive | .dropShutdown | .dropStop | .done => True
  | .subscribedTest _ | .popWork _ | .getCircle _ _ | .hasControl | .hasWorks | .notifySelf =>
    s.link.output.pendingFrame = none
  | .deliver _ topic (.flush _) => ∃ frame, s.link.output.pendingFrame = some frame ∧
    frame.advancesSequence = true ∧ frame.topic = topic
  | .deliver _ _ .circleMeta | .deliver _ _ (.initializeTopic _) => False
  | .deliver _ _ _ => s.link.output.pendingFrame = none
  | .requeueCircle _ _ | .requeueMeta _ _ | .requeueSubmit _ _ =>
    s.link.output.pendingFrame = none ∧ s.record ≠ none
  | .requeueNext _ topic cursor => s.link.output.pendingFrame = none ∧ ∃ record entry,
    s.record = some record ∧ s.link.getMeta record topic = some entry ∧
      entry.initialized = true ∧ entry.nextSequence = cursor
  | _ => s.link.output.pendingFrame ≠ none → s.worker.writeEventEnabled = true

def Facts (s : State) : Prop := ∀ pc, s.writer = .loop pc → LoopFacts s pc

theorem goLoop_facts {s : State} {pc : LoopPc} (held : LoopFacts s pc) : Facts (s.goLoop pc) := by
  rintro pc' ⟨⟩
  unfold LoopFacts at *
  exact held

theorem nextFrame_facts {s : State} {frames : Nat}
    (clear : s.link.output.pendingFrame = none ∨ frames < maxFramesPerCallback) :
    Facts (s.nextFrame frames) := by
  unfold State.nextFrame
  split
  · exact goLoop_facts trivial
  · rename_i beyond
    rintro pc ⟨⟩
    exact clear.resolve_right beyond

theorem requeue_facts {s : State} {frames : Nat} {topic : Topic}
    (clear : s.link.output.pendingFrame = none) : Facts (s.requeue frames topic) := by
  unfold State.requeue
  split
  · exact nextFrame_facts (.inl clear)
  · rename_i known
    exact goLoop_facts ⟨clear, fun none_ => known (.inr none_)⟩

theorem leave_facts {s : State} (clear : s.link.output.pendingFrame = none) : Facts s.leave := by
  rintro pc ⟨⟩
  exact fun pending => absurd clear pending

theorem FlushMove.clears {link link' : Link} {record : Option Nat} {pc : FlushPc}
    {status : PendingWriteStatus} {topic : Topic}
    (moved : FlushMove link record pc link' (.ret (status, topic)))
    (done : status = .complete ∨ status = .idle) : link'.output.pendingFrame = none := by
  cases moved with
  | idle pending => exact pending
  | business | control => rfl
  | blocked | failed | orphan => rcases done with done | done <;> cases done

theorem FlushMove.keeps {link link' : Link} {record : Option Nat} {pc pc' : FlushPc}
    {frame : PendingSubscriberFrame} (moved : FlushMove link record pc link' (.goto pc'))
    (pending : link.output.pendingFrame = some frame) :
    ∃ frame', link'.output.pendingFrame = some frame' ∧
      frame'.advancesSequence = frame.advancesSequence ∧ frame'.topic = frame.topic := by
  cases moved with
  | resume | sent | again => exact ⟨frame, pending, rfl, rfl⟩
  | next empty =>
    rw [pending] at empty
    cases empty
  | accept held =>
    rw [pending] at held
    cases held
    exact ⟨_, rfl, rfl, rfl⟩

theorem afterFlush_facts {s : State} {frames : Nat} {pc : FlushPc} {link : Link}
    {control : Control FlushPc (PendingWriteStatus × Topic)}
    (moved : FlushMove s.link s.record pc link control) :
    Facts ({ s with link }.afterFlush frames control) := by
  rcases control with pc' | ⟨status, topic⟩
  · exact goLoop_facts trivial
  · cases status with
    | idle => exact goLoop_facts (moved.clears (.inr rfl))
    | complete => exact requeue_facts (moved.clears (.inl rfl))
    | wouldBlock => exact goLoop_facts trivial
    | error => exact goLoop_facts trivial

/-- Every cursor of the writer's record is set. -/
def Settled (s : State) : Prop :=
  ∀ r t entry, s.record = some r → s.link.getMeta r t = some entry → entry.initialized = true

/-- Once the only accepted request is answered, every cursor of its record is set. -/
theorem Live.initialized {d : Deployment} {s : State} (live : Live s)
    (delivering : Delivering d.config s) (answered : Answered d s)
    (accepted : s.link.history.answers ≠ []) {r : Nat} {t : Topic} {entry : ConsumeMeta}
    (found : s.link.getMeta r t = some entry) : entry.initialized = true := by
  obtain ⟨answer, member⟩ := List.exists_mem_of_ne_nil _ accepted
  have kept := answered.answers answer member
  have lt : r < s.link.records.length := by
    by_contra beyond
    unfold Link.getMeta at found
    rw [List.getElem?_eq_none (Nat.not_lt.mp beyond)] at found
    cases found
  obtain rfl : answer.record = r := by have := live.sole; have := kept.record; omega
  obtain ⟨start, started, _⟩ := kept.starts t ((kept.topics t).mp (by rw [found]; rfl))
  obtain ⟨entry', found', initialized⟩ := (delivering.started _ t).mp ⟨start, started⟩
  rw [found] at found'
  cases found'
  exact initialized

/-- The only accepted request was answered before its record could be cached. -/
theorem Live.settled {d : Deployment} {s : State} (live : Live s) (delivering : Delivering d.config s)
    (answered : Answered d s) : Settled s := by
  intro r t entry cached found
  obtain ⟨_, answer, member, _⟩ := answered.record r cached
  exact live.initialized delivering answered (List.ne_nil_of_mem member) found

theorem afterDeliver_facts {d : Deployment} {s : State} {frames record : Nat} {topic : Topic}
    {pc : DeliverPc} {link : Link} {control : Control DeliverPc TopicDeliveryStatus}
    (settled : Settled s) (cached : s.record = some record)
    (moved : DeliverMove d.config s.store s.link record topic pc link control)
    (facts : LoopFacts s (.deliver frames topic pc)) :
    Facts ({ s with link }.afterDeliver frames topic control) := by
  cases moved with
  | busy => exact goLoop_facts trivial
  | absent => exact nextFrame_facts (.inl facts)
  | entry => exact goLoop_facts facts
  | fresh _ found fresh => exact absurd ((settled _ _ _ cached found).symm.trans fresh) nofun
  | circleMeta | initializeTopic => exact absurd facts id
  | disconnect => exact goLoop_facts trivial
  | nothing => exact nextFrame_facts (.inl facts)
  | empty => exact goLoop_facts facts
  | park => exact goLoop_facts ⟨_, rfl, rfl, rfl⟩
  | updateEmpty => exact requeue_facts facts
  | @flush pc link' flushed moved =>
    rcases flushed with pc' | ⟨status, completed⟩
    · obtain ⟨frame, pending, advances, same⟩ := facts
      obtain ⟨frame', pending', advances', same'⟩ := moved.keeps pending
      exact goLoop_facts ⟨frame', pending', advances'.trans advances, same'.trans same⟩
    · cases status with
      | idle => exact nextFrame_facts (.inl (moved.clears (.inr rfl)))
      | complete => exact requeue_facts (moved.clears (.inl rfl))
      | wouldBlock => exact goLoop_facts trivial
      | error => exact goLoop_facts trivial

theorem loopStep_facts {d : Deployment} {s s' : State} {outcome : CallOutcome} {pc : LoopPc}
    (live : Live s) (settled : Settled s) (facts : LoopFacts s pc)
    (taken : loopStep d s outcome pc = some s') : Facts s' := by
  cases pc <;> simp only [loopStep] at taken
  case waiting =>
    split at taken <;> cases taken
    exact goLoop_facts facts
  case drain =>
    split at taken <;> cases taken <;> exact goLoop_facts facts
  case aliveTest stopRequested =>
    cases taken
    split
    · exact goLoop_facts trivial
    · exact goLoop_facts facts
  case entry =>
    rw [live.alived] at taken
    cases taken
    exact goLoop_facts facts
  case cacheTest =>
    split at taken <;> cases taken
    · exact goLoop_facts facts
    · exact nextFrame_facts (.inr (by decide))
  case cacheGet =>
    cases taken
    exact nextFrame_facts (.inr (by decide))
  case flush frames pc =>
    split at taken
    · cases taken
    · rename_i flushed
      cases taken
      exact afterFlush_facts (flushStep_move flushed)
  case subscribedTest frames =>
    split at taken
    · cases taken
      exact leave_facts facts
    · split at taken <;> cases taken
      · exact leave_facts facts
      · exact goLoop_facts facts
  case popWork frames =>
    split at taken <;> cases taken
    · exact leave_facts facts
    · exact goLoop_facts facts
  case getCircle frames topic =>
    split at taken <;> cases taken
    · exact nextFrame_facts (.inl facts)
    · exact goLoop_facts facts
  case deliver frames topic pc =>
    split at taken
    · cases taken
    · rename_i cached
      split at taken
      · cases taken
      · rename_i delivered
        cases taken
        exact afterDeliver_facts settled cached (deliverStep_move delivered) facts
  case enableWrite =>
    split at taken
    · rename_i worker enabled
      cases taken
      exact goLoop_facts fun _ => EventLoopWorker.enableWriteEvent_armed enabled
    · cases taken
      exact goLoop_facts trivial
  case requeueCircle frames topic =>
    split at taken <;> cases taken
    · exact nextFrame_facts (.inl facts.1)
    · exact goLoop_facts facts
  case requeueMeta frames topic =>
    split at taken
    · cases taken
      exact nextFrame_facts (.inl facts.1)
    · rename_i entry found
      obtain ⟨record, cached, held⟩ := Option.bind_eq_some_iff.mp found
      split at taken <;> cases taken
      · rename_i initialized
        exact goLoop_facts ⟨facts.1, record, entry, cached, held, initialized, rfl⟩
      · exact nextFrame_facts (.inl facts.1)
  case requeueNext frames topic cursor =>
    obtain ⟨clear, record, _, cached, _⟩ := facts
    split at taken <;> cases taken
    · exact goLoop_facts ⟨clear, by rw [cached]; simp⟩
    · exact nextFrame_facts (.inl clear)
  case requeueSubmit frames topic =>
    cases taken
    exact nextFrame_facts (.inl facts.1)
  case hasControl =>
    cases taken
    split <;> exact goLoop_facts facts
  case hasWorks =>
    cases taken
    split
    · exact goLoop_facts facts
    · exact goLoop_facts fun pending => absurd facts pending
  case notifySelf =>
    cases taken
    exact goLoop_facts fun pending => absurd facts pending
  case done => cases taken
  all_goals
    cases taken
    exact goLoop_facts trivial

/-- The other threads leave the slot, the write event and the writer's record alone. -/
structure LoopSafe (s s' : State) : Prop where
  pending : s'.link.output.pendingFrame = s.link.output.pendingFrame
  armed : s'.worker.writeEventEnabled = s.worker.writeEventEnabled
  record : s'.record = s.record
  cursor : ∀ r t entry, s.link.getMeta r t = some entry → entry.initialized = true →
    s'.link.getMeta r t = some entry

theorem LoopSafe.facts {s s' : State} (safe : LoopSafe s s') {pc : LoopPc} (facts : LoopFacts s pc) :
    LoopFacts s' pc := by
  cases pc
  case requeueNext frames topic cursor =>
    obtain ⟨clear, record, entry, cached, found, initialized, same⟩ := facts
    exact ⟨safe.pending.trans clear, record, entry, safe.record.trans cached,
      safe.cursor record topic entry found initialized, initialized, same⟩
  case deliver frames topic pc =>
    cases pc
    all_goals
      simp only [LoopFacts, safe.pending] at facts ⊢
      try exact facts
  all_goals
    simp only [LoopFacts, safe.pending, safe.armed, safe.record] at facts ⊢
    try exact facts

theorem ReaderMove.cursor {s s' : State} (moved : ReaderMove s s') {r : Nat} {t : Topic}
    {entry : ConsumeMeta} (found : s.link.getMeta r t = some entry)
    (initialized : entry.initialized = true) : s'.link.getMeta r t = some entry := by
  cases moved with
  | same link_eq => rwa [link_eq]
  | enqueue _ pushed link_eq =>
    rw [link_eq]
    exact (getMeta_congr (enqueueControlFrame_link pushed).1 r t).trans found
  | create _ link_eq =>
    rw [link_eq, Link.createRecord_getMeta, if_neg, found]
    rintro rfl
    rw [Link.getMeta_fresh] at found
    cases found
  | initializeTopic _ link_eq =>
    rw [link_eq, Link.initializeTopic_getMeta, if_neg, found]
    rintro ⟨rfl, rfl, fresh⟩
    rw [found, Option.map_some, initialized] at fresh
    cases fresh

theorem readerStep_armed {d : Deployment} {s s' : State} {input : ReaderInput}
    (taken : readerStep d s input = some s') :
    s'.worker.writeEventEnabled = s.worker.writeEventEnabled := by
  unfold readerStep at taken
  split at taken
  case h_26 => cases taken
  case h_7 | h_9 | h_11 | h_13 | h_25 => split at taken <;> cases taken <;> rfl
  case h_8 | h_21 =>
    cases taken
    exact EventLoopWorker.notifyStartWork_armed _ _
  case h_10 =>
    split at taken
    · split at taken <;> cases taken <;> rfl
    · cases taken
  case h_20 =>
    cases taken
    exact EventLoopWorker.submitWork_armed _ _
  all_goals
    cases taken
    rfl

theorem dispatcherStep_armed {d : Deployment} {s s' : State}
    (taken : dispatcherStep d s = some s') :
    s'.worker.writeEventEnabled = s.worker.writeEventEnabled := by
  unfold dispatcherStep at taken
  split at taken
  case h_7 =>
    split at taken <;> cases taken
    · exact EventLoopWorker.submitWork_armed _ _
    · rfl
  case h_8 =>
    cases taken
    exact EventLoopWorker.notifyStartWork_armed _ _
  case h_1 | h_2 => split at taken <;> cases taken <;> rfl
  all_goals
    cases taken
    rfl

theorem publisherStep_worker {d : Deployment} {s s' : State} {id : Nat} {input : PublisherInput}
    (taken : publisherStep d s id input = some s') : s'.worker = s.worker ∧ s'.writer = s.writer ∧
      s'.dispatcher = s.dispatcher ∧ s'.topicConnections = s.topicConnections ∧
      s'.subscribed = s.subscribed := by
  rw [publisherStep_same taken]
  exact ⟨rfl, rfl, rfl, rfl, rfl⟩

theorem dispatcherStep_writer {d : Deployment} {s s' : State}
    (taken : dispatcherStep d s = some s') : s'.writer = s.writer ∧
      s'.topicConnections = s.topicConnections ∧ s'.subscribed = s.subscribed ∧
      s'.publishers = s.publishers := by
  rw [dispatcherStep_same taken]
  exact ⟨rfl, rfl, rfl, rfl⟩

theorem step_facts {d : Deployment} {s s' : State} {action : Action} (running : Running s)
    (sound : Sound s) (live : Live s) (settled : Settled s) (inside : Inside s action) (facts : Facts s)
    (taken : step d s action = some s') : Facts s' := by
  have safe : LoopSafe s s' → s'.writer = s.writer → Facts s' := fun safe writer pc at_ =>
    safe.facts (facts pc (writer ▸ at_))
  have framed : OutputFrame s s' → s'.worker.writeEventEnabled = s.worker.writeEventEnabled →
      LoopSafe s s' := fun frame armed =>
    ⟨by rw [frame.link], armed, frame.record, fun r t entry found _ => by rw [frame.link]; exact found⟩
  cases action with
  | writer outcome =>
    obtain ⟨pc, at_, _⟩ := running.loop
    have held := facts pc at_
    simp only [step, writerStep, at_] at taken
    exact loopStep_facts live settled held taken
  | reader input =>
    obtain ⟨move, record, writer, _⟩ := readerStep_move taken
    refine safe ⟨(move.framed sound.framed).2.1, readerStep_armed taken, record, ?_⟩ writer
    exact fun r t entry found initialized => move.cursor found initialized
  | publisher id input =>
    obtain ⟨worker, writer, _⟩ := publisherStep_worker taken
    exact safe (framed (publisherStep_frame taken) (by rw [worker])) writer
  | dispatcher =>
    exact safe (framed (dispatcherStep_frame taken) (dispatcherStep_armed taken))
      (dispatcherStep_writer taken).1
  | writable =>
    simp only [step, writableStep] at taken
    split at taken
    · rename_i armed
      cases taken
      exact goLoop_facts fun _ => armed.2
    · cases taken
  | detector | reclaimer => cases inside
  | other key record =>
    rw [otherStep_same taken]
    exact facts

/-! ### Only a subscribed connection has work -/

def ReaderPc.connecting : ReaderPc → Bool
  | .putTopic _ | .lookupLoop _ _ | .submit _ _ | .notify _ => true
  | _ => false

/-- The dispatch loop is still to submit to the connection, or has just done so. -/
def DispatcherPc.visiting : DispatcherPc → Bool
  | .submit _ (_ + 1) _ | .notify _ _ _ => true
  | _ => false

structure Subscribed (s : State) : Prop where
  record : s.record ≠ none → s.subscribed = true
  caching : s.writer.call = .cache → s.subscribed = true
  reader : s.reader.connecting = true → s.subscribed = true
  connections : ∀ t, 0 < s.topicConnections t → s.subscribed = true
  dispatcher : s.dispatcher.visiting = true → s.subscribed = true
  queue : s.worker.workQueue ≠ [] → s.subscribed = true

theorem loopStep_subscribed {d : Deployment} {s s' : State} {outcome : CallOutcome} {pc : LoopPc}
    (live : Live s) (at_ : s.writer = .loop pc) (taken : loopStep d s outcome pc = some s') :
    s'.subscribed = s.subscribed := by
  have kept : ∀ frames, (s.nextFrame frames).subscribed = s.subscribed := fun frames => by
    rw [(nextFrame_returns s frames).same]
  cases pc <;> simp only [loopStep] at taken
  case dropSubscribed => exact absurd (by rw [at_]; rfl) live.going
  case flush frames pc =>
    split at taken
    · cases taken
    · rename_i link control _
      cases taken
      rw [(afterFlush_loop { s with link } frames control).1]
  case deliver frames topic pc =>
    split at taken
    · cases taken
    · split at taken
      · cases taken
      · rename_i link control _
        cases taken
        rw [(afterDeliver_loop { s with link } frames topic control).1]
  case cacheGet | requeueSubmit =>
    cases taken
    rw [(nextFrame_returns _ _).same]
  case cacheTest | requeueNext | getCircle | requeueCircle =>
    split at taken <;> cases taken <;> first | exact kept _ | rfl
  case requeueMeta =>
    split at taken
    · cases taken
      exact kept _
    · split at taken <;> cases taken
      · rfl
      · exact kept _
  case subscribedTest =>
    split at taken
    · cases taken
      rfl
    · split at taken <;> cases taken <;> rfl
  case waiting | drain | entry | popWork | enableWrite => split at taken <;> cases taken <;> rfl
  all_goals cases taken <;> rfl

theorem WriterMove.record {d : Deployment} {s s' : State} (moved : WriterMove d s s') :
    s'.record = s.record ∨ s.writer.call = .cache := by
  cases moved with
  | cache at_ => exact .inr at_
  | flush _ _ _ record_eq | deliver _ _ _ _ record_eq | test _ _ _ _ record_eq
  | other _ _ record_eq | close _ _ record_eq => exact .inl record_eq

theorem writerStep_subscribed {d : Deployment} {s s' : State} {outcome : CallOutcome}
    (running : Running s) (live : Live s) (facts : Facts s) (sub : Subscribed s)
    (taken : writerStep d s outcome = some s') : Subscribed s' := by
  obtain ⟨pc, at_, _⟩ := running.loop
  have held := facts pc at_
  have move := writerStep_move taken
  have frame := writerStep_frame taken
  simp only [writerStep, at_] at taken
  have rest := loopStep_frame taken
  have same := loopStep_subscribed live at_ taken
  refine ⟨?_, ?_, ?_, ?_, ?_, ?_⟩ <;> rw [same]
  · intro cached
    rcases move.record with record_eq | caching
    · exact sub.record (record_eq ▸ cached)
    · exact sub.caching caching
  · exact move.caching
  · rw [frame.reader]
    exact sub.reader
  · rw [rest.topicConnections]
    exact sub.connections
  · rw [rest.dispatcher]
    exact sub.dispatcher
  · intro some_
    cases loopStep_worker at_ taken with
    | quiet same =>
      rw [same.queue] at some_
      exact sub.queue some_
    | drain _ _ worker_eq =>
      rw [worker_eq] at some_
      exact sub.queue some_
    | pop worker_eq =>
      refine sub.queue fun empty => some_ ?_
      rw [worker_eq]
      simp [EventLoopWorker.popWork, empty]
    | submit at_submit =>
      cases at_.symm.trans at_submit
      exact sub.record held.2
    | notify worker_eq =>
      rw [worker_eq, EventLoopWorker.notifyStartWork_queue] at some_
      exact sub.queue some_
    | stop worker_eq =>
      rw [worker_eq] at some_
      exact absurd rfl some_

theorem dispatcherStep_subscribed {d : Deployment} {s s' : State} (sub : Subscribed s)
    (taken : dispatcherStep d s = some s') : Subscribed s' := by
  unfold dispatcherStep at taken
  split at taken
  case h_1 | h_2 =>
    split at taken <;> cases taken
    all_goals exact ⟨sub.record, sub.caching, sub.reader, sub.connections,
      by first | exact sub.dispatcher | nofun,
      sub.queue⟩
  case h_5 topic todo _ =>
    cases taken
    refine ⟨sub.record, sub.caching, sub.reader, sub.connections, ?_, sub.queue⟩
    intro visiting
    apply sub.connections topic
    cases count : s.topicConnections topic with
    | zero =>
      simp only [count] at visiting
      cases visiting
    | succ n => exact Nat.succ_pos n
  case h_7 at_ =>
    have subscribed := sub.dispatcher (by rw [at_]; rfl)
    split at taken <;> cases taken
    · exact ⟨sub.record, sub.caching, sub.reader, sub.connections, fun _ => subscribed,
        fun _ => subscribed⟩
    · exact ⟨sub.record, sub.caching, sub.reader, sub.connections, fun _ => subscribed, sub.queue⟩
  case h_8 at_ =>
    have subscribed := sub.dispatcher (by rw [at_]; rfl)
    cases taken
    exact ⟨sub.record, sub.caching, sub.reader, sub.connections, fun _ => subscribed,
      fun _ => subscribed⟩
  all_goals
    cases taken
    exact ⟨sub.record, sub.caching, sub.reader, sub.connections, nofun, sub.queue⟩

theorem readerStep_subscribed {d : Deployment} {s s' : State} {input : ReaderInput}
    (sub : Subscribed s) (taken : readerStep d s input = some s') : Subscribed s' := by
  unfold readerStep at taken
  split at taken
  case h_7 topic message after _ =>
    split at taken <;> cases taken
    · exact ⟨sub.record, sub.caching, nofun, sub.connections, sub.dispatcher, sub.queue⟩
    · refine ⟨sub.record, sub.caching, ?_, sub.connections, sub.dispatcher, sub.queue⟩
      dsimp only
      split
      · nofun
      · cases after <;> nofun
  case h_8 after _ =>
    cases taken
    refine ⟨sub.record, sub.caching, ?_, sub.connections, sub.dispatcher, ?_⟩
    · cases after <;> nofun
    · rw [EventLoopWorker.notifyStartWork_queue]
      exact sub.queue
  case h_10 =>
    split at taken
    · split at taken <;> cases taken <;>
        exact ⟨sub.record, sub.caching, fun held => absurd held Bool.false_ne_true, sub.connections,
          sub.dispatcher, sub.queue⟩
    · cases taken
  case h_9 | h_11 | h_13 | h_25 =>
    split at taken <;> cases taken <;>
      exact ⟨sub.record, sub.caching, fun held => absurd held Bool.false_ne_true, sub.connections,
        sub.dispatcher, sub.queue⟩
  case h_16 =>
    cases taken
    exact ⟨fun _ => rfl, fun _ => rfl, fun _ => rfl, fun _ _ => rfl, fun _ => rfl, fun _ => rfl⟩
  case h_17 | h_18 | h_19 | h_20 | h_21 =>
    have subscribed := sub.reader (by simp only [*]; rfl)
    cases taken
    exact ⟨fun _ => subscribed, fun _ => subscribed, fun _ => subscribed, fun _ _ => subscribed,
      fun _ => subscribed, fun _ => subscribed⟩
  case h_26 => cases taken
  all_goals
    cases taken
    refine ⟨sub.record, sub.caching, ?_, sub.connections, sub.dispatcher, sub.queue⟩
    dsimp only
    try split
    all_goals exact fun held => absurd held Bool.false_ne_true

theorem step_subscribed {d : Deployment} {s s' : State} {action : Action} (running : Running s)
    (live : Live s) (inside : Inside s action) (facts : Facts s) (sub : Subscribed s)
    (taken : step d s action = some s') : Subscribed s' := by
  cases action with
  | writer outcome => exact writerStep_subscribed running live facts sub taken
  | reader input => exact readerStep_subscribed sub taken
  | dispatcher => exact dispatcherStep_subscribed sub taken
  | publisher id input =>
    obtain ⟨worker, writer, dispatcher, connections, subscribed⟩ := publisherStep_worker taken
    have frame := publisherStep_frame taken
    refine ⟨?_, ?_, ?_, ?_, ?_, ?_⟩ <;> rw [subscribed]
    · rw [frame.record]
      exact sub.record
    · rw [writer]
      exact sub.caching
    · rw [frame.reader]
      exact sub.reader
    · rw [connections]
      exact sub.connections
    · rw [dispatcher]
      exact sub.dispatcher
    · rw [worker]
      exact sub.queue
  | writable =>
    simp only [step, writableStep] at taken
    split at taken <;> cases taken
    exact ⟨sub.record, by rintro ⟨⟩, sub.reader, sub.connections, sub.dispatcher, sub.queue⟩
  | detector | reclaimer => cases inside
  | other key record =>
    rw [otherStep_same taken]
    exact ⟨sub.record, sub.caching, sub.reader, sub.connections, sub.dispatcher, sub.queue⟩

end MessageRepeater.Subscriber
