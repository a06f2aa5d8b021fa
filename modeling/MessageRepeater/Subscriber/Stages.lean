import MessageRepeater.Subscriber.Sleep

/-!
# Where an undelivered message is

The stages between the publisher that appends a message and the cursor that passes it, and the proof
that a topic whose cursor is behind is at one of them. The empty topic is left out: the event loop
takes it for the mark of a control frame and does not requeue it.
-/

namespace MessageRepeater.Subscriber
open Foundation Combiner Config Connection

/-- The topics of the accepted request that the reading thread has not yet connected. -/
def ReaderPc.toConnect : ReaderPc → List Topic
  | .getRecord topics | .getCircle _ topics _ | .circleMeta _ topics _ _
  | .initializeTopic _ topics _ _ _ | .enqueue _ _ (.answered _ topics)
  | .enqueueNotify (.answered _ topics) | .putSubscribed topics => topics
  | .putTopic todo | .lookupLoop _ todo | .submit _ todo | .notify todo => todo
  | _ => []

/-- The topics that the reading thread will still submit. -/
def ReaderPc.toSubmit : ReaderPc → List Topic
  | .lookupLoop topic todo | .submit topic todo => topic :: todo
  | pc => pc.toConnect

def DispatcherPc.carries (t : Topic) : DispatcherPc → Prop
  | .lookup todo => t ∈ todo
  | .submit topic count todo => (topic = t ∧ 0 < count) ∨ t ∈ todo
  | .notify _ _ todo => t ∈ todo
  | _ => False

/-- The loop has taken the topic from its queue and not yet let go of it. -/
def LoopPc.holds (t : Topic) : LoopPc → Prop
  | .getCircle _ topic | .deliver _ topic .getMeta | .deliver _ topic (.read _)
  | .deliver _ topic (.updateEmpty _) | .requeueCircle _ topic | .requeueMeta _ topic
  | .requeueNext _ topic _ | .requeueSubmit _ topic => topic = t
  | _ => False

/-- The topic is in the connection's queue, in the pending frame, or in the loop's hands. -/
def AtLoop (s : State) (t : Topic) : Prop :=
  t ∈ s.worker.workQueue ∨
    (∃ frame, s.link.output.pendingFrame = some frame ∧ frame.advancesSequence = true ∧
      frame.topic = t) ∨
    ∃ pc, s.writer = .loop pc ∧ pc.holds t

/-- The stages of a topic on its way from a publisher to the connection's cursor. -/
def InFlight (s : State) (t : Topic) : Prop :=
  (∃ id, s.publishers id = .submit t) ∨ t ∈ s.dispatch.workQueue ∨ s.dispatcher.carries t ∨
    t ∈ s.reader.toSubmit ∨ AtLoop s t

/-- The cursor of the connection's record has not reached the end of the topic's log. -/
def Behind (s : State) (t : Topic) : Prop :=
  ∃ entry, s.link.getMeta 0 t = some entry ∧ entry.initialized = true ∧
    entry.nextSequence < (s.logs t).length

def Connected (s : State) : Prop :=
  ∀ t, (s.link.getMeta 0 t).isSome = true → 0 < s.topicConnections t ∨ t ∈ s.reader.toConnect

def Tracked (s : State) : Prop := ∀ t, t ≠ [] → Behind s t → InFlight s t

theorem toConnect_subset (pc : ReaderPc) : pc.toConnect ⊆ pc.toSubmit := by
  intro t member
  cases pc with
  | lookupLoop | submit => exact List.mem_cons_of_mem _ member
  | _ => exact member

/-! ### The event loop -/

theorem nextFrame_link (s : State) (frames : Nat) : (s.nextFrame frames).link = s.link := by
  rw [(nextFrame_returns s frames).same]

theorem AtLoop.kept {s s' : State} {t : Topic} {pc : LoopPc} (held : AtLoop s t)
    (at_ : s.writer = .loop pc) (free : ¬ pc.holds t)
    (queue : s'.worker.workQueue = s.worker.workQueue)
    (pending : s'.link.output.pendingFrame = s.link.output.pendingFrame) : AtLoop s' t := by
  rcases held with queued | parked | ⟨pc', at', holds⟩
  · exact .inl (by rwa [queue])
  · exact .inr (.inl (by rwa [pending]))
  · cases at_.symm.trans at'
    exact absurd holds free

/-- The requeue after a completed frame takes the topic up again, unless its name is empty. -/
theorem requeue_holds {s : State} {frames : Nat} {topic : Topic} (named : topic ≠ [])
    (cached : s.record ≠ none) : AtLoop (s.requeue frames topic) topic := by
  unfold State.requeue
  rw [if_neg (fun either => either.elim named cached)]
  exact .inr (.inr ⟨_, rfl, rfl⟩)

theorem FlushMove.parked {link link' : Link} {record : Option Nat} {pc : FlushPc}
    {control : Control FlushPc (PendingWriteStatus × Topic)} {frame : PendingSubscriberFrame}
    (moved : FlushMove link record pc link' control)
    (pending : link.output.pendingFrame = some frame) (advances : frame.advancesSequence = true) :
    (∃ frame', link'.output.pendingFrame = some frame' ∧ frame'.advancesSequence = true ∧
      frame'.topic = frame.topic) ∨
    (∃ r, record = some r ∧ control = .ret (.complete, frame.topic)) := by
  cases moved with
  | resume | sent | again | blocked | orphan | failed => exact .inl ⟨frame, pending, advances, rfl⟩
  | idle empty | next empty =>
    rw [pending] at empty
    cases empty
  | accept held =>
    rw [pending] at held
    cases held
    exact .inl ⟨_, rfl, advances, rfl⟩
  | @business held r at_ _ cached =>
    rw [pending] at at_
    cases at_
    exact .inr ⟨r, cached, rfl⟩
  | control at_ stays =>
    rw [pending] at at_
    cases at_
    rw [advances] at stays
    cases stays

theorem FlushMove.meta {link link' : Link} {record : Option Nat} {pc : FlushPc}
    {control : Control FlushPc (PendingWriteStatus × Topic)}
    (moved : FlushMove link record pc link' control) :
    (∀ r t, link'.getMeta r t = link.getMeta r t) ∨
    ∃ frame, link.output.pendingFrame = some frame ∧ frame.advancesSequence = true ∧
      ∀ r t, t ≠ frame.topic → link'.getMeta r t = link.getMeta r t := by
  cases moved with
  | @business frame r pending advances =>
    refine .inr ⟨frame, pending, advances, fun r' t other => ?_⟩
    show (link.updateSequence r frame.topic frame.nextSequence).getMeta r' t = _
    rw [Link.updateSequence_getMeta, if_neg fun same => other same.2]
  | _ => exact .inl fun _ _ => rfl

theorem afterFlush_link (s : State) (frames : Nat)
    (control : Control FlushPc (PendingWriteStatus × Topic)) :
    (s.afterFlush frames control).link = s.link ∧ (s.afterFlush frames control).logs = s.logs := by
  have same := (afterFlush_loop s frames control).1
  exact ⟨by rw [same], by rw [same]⟩

theorem afterDeliver_link (s : State) (frames : Nat) (topic : Topic)
    (control : Control DeliverPc TopicDeliveryStatus) :
    (s.afterDeliver frames topic control).link = s.link ∧
      (s.afterDeliver frames topic control).logs = s.logs := by
  have same := (afterDeliver_loop s frames topic control).1
  exact ⟨by rw [same], by rw [same]⟩

/-- `flushPendingFrame` called by the loop: the topic of the pending frame stays pending or is
requeued. -/
theorem flush_atLoop {s : State} {frames : Nat} {pc : FlushPc} {link : Link}
    {control : Control FlushPc (PendingWriteStatus × Topic)} {t : Topic}
    (moved : FlushMove s.link s.record pc link control) (at_ : s.writer = .loop (.flush frames pc))
    (named : t ≠ []) (behind : Behind ({ s with link }.afterFlush frames control) t)
    (was : Behind s t → AtLoop s t) : AtLoop ({ s with link }.afterFlush frames control) t := by
  have queue := (afterFlush_quiet { s with link } frames control).queue
  obtain ⟨link_eq, logs_eq⟩ := afterFlush_link { s with link } frames control
  -- The pending frame's topic is taken care of, whether or not its cursor has moved.
  have pendingCase : (∃ frame, s.link.output.pendingFrame = some frame ∧
      frame.advancesSequence = true ∧ frame.topic = t) →
      AtLoop ({ s with link }.afterFlush frames control) t := by
    rintro ⟨frame, pending, advances, rfl⟩
    rcases moved.parked pending advances with parked | ⟨r, cached, rfl⟩
    · exact .inr (.inl (by rw [link_eq]; exact parked))
    · exact requeue_holds (s := { s with link }) named (by rw [cached]; nofun)
  have same : Behind s t ∨ ∃ frame, s.link.output.pendingFrame = some frame ∧
      frame.advancesSequence = true ∧ frame.topic = t := by
    obtain ⟨entry, found, initialized, lt⟩ := behind
    rw [link_eq] at found
    rw [logs_eq] at lt
    rcases moved.meta with all | ⟨frame, pending, advances, others⟩
    · exact .inl ⟨entry, (all 0 t).symm.trans found, initialized, lt⟩
    · by_cases mine : t = frame.topic
      · exact .inr ⟨frame, pending, advances, mine.symm⟩
      · exact .inl ⟨entry, (others 0 t mine).symm.trans found, initialized, lt⟩
  rcases same with behind | parked
  · rcases was behind with queued | parked | ⟨pc', at', holds⟩
    · exact .inl (by rw [queue]; exact queued)
    · exact pendingCase parked
    · cases at_.symm.trans at'
      exact absurd holds id
  · exact pendingCase parked

theorem DeliverMove.meta {config : RepeaterConfig} {s : State} {record frames : Nat} {topic : Topic}
    {pc : DeliverPc} {link : Link} {control : Control DeliverPc TopicDeliveryStatus}
    (moved : DeliverMove config s.store s.link record topic pc link control)
    (facts : LoopFacts s (.deliver frames topic pc)) {r : Nat} {t : Topic} (other : t ≠ topic) :
    link.getMeta r t = s.link.getMeta r t := by
  cases moved with
  | initializeTopic => exact absurd facts id
  | updateEmpty => rw [Link.updateSequence_getMeta, if_neg fun same => other same.2]
  | flush moved =>
    obtain ⟨frame, pending, _, same⟩ := facts
    rcases moved.meta with all | ⟨held, at_, _, others⟩
    · exact all r t
    · rw [pending] at at_
      cases at_
      exact others r t (by rw [same]; exact other)
  | _ => rfl

/-- `deliverTopic` called by the loop keeps hold of its topic until the cursor is at the end. -/
theorem deliver_atLoop {d : Deployment} {s : State} {frames record : Nat} {topic : Topic}
    {pc : DeliverPc} {link : Link} {control : Control DeliverPc TopicDeliveryStatus} {t : Topic}
    (delivering : Delivering d.config s) (settled : Settled s) (cached : s.record = some record)
    (first : record = 0)
    (moved : DeliverMove d.config s.store s.link record topic pc link control)
    (at_ : s.writer = .loop (.deliver frames topic pc)) (facts : LoopFacts s (.deliver frames topic pc))
    (named : t ≠ []) (live : Live ({ s with link }.afterDeliver frames topic control))
    (behind : Behind ({ s with link }.afterDeliver frames topic control) t)
    (was : Behind s t → AtLoop s t) : AtLoop ({ s with link }.afterDeliver frames topic control) t := by
  have queue := (afterDeliver_quiet { s with link } frames topic control).queue
  have some_record : s.record ≠ none := by rw [cached]; nofun
  obtain ⟨link_eq, logs_eq⟩ := afterDeliver_link { s with link } frames topic control
  obtain ⟨entry, found, initialized, lt⟩ := behind
  rw [link_eq] at found
  rw [logs_eq] at lt
  by_cases mine : t = topic
  · subst mine first
    have call := delivering.call
    rw [at_] at call
    cases moved with
    | busy pending =>
      have clear : s.link.output.pendingFrame = none := facts
      rw [pending] at clear
      cases clear
    | absent missing =>
      rw [missing] at found
      cases found
    | entry => exact .inr (.inr ⟨_, rfl, rfl⟩)
    | fresh _ held fresh => exact absurd ((settled _ _ _ cached held).symm.trans fresh) nofun
    | circleMeta | initializeTopic => exact absurd facts id
    | disconnect => exact absurd rfl live.going
    | @nothing held ring result made read status =>
      obtain ⟨r, mine, at_meta, _⟩ := call
      obtain rfl : 0 = r := Option.some.inj (cached.symm.trans mine)
      obtain rfl : entry = held := Option.some.inj (found.symm.trans at_meta)
      have outcome := read_outcome (delivering.rings.holds made) entry.nextSequence
        d.config.subscriberAlwaysSendLatest d.config.subscriberOverrunPolicy
      rw [read] at outcome
      cases outcome with
      | idle beyond => exact absurd lt (Nat.not_lt.mpr beyond)
      | message q _ _ inside =>
        rcases status with status | ⟨_, none_⟩
        · cases status
        · simp only [logMessage, List.getElem?_eq_getElem inside] at none_
          cases none_
      | disconnect => rcases status with status | ⟨status, _⟩ <;> cases status
    | empty => exact .inr (.inr ⟨_, rfl, rfl⟩)
    | park => exact .inr (.inl ⟨_, rfl, rfl, rfl⟩)
    | updateEmpty next =>
      exact requeue_holds (s := { s with link := s.link.updateSequence 0 t next }) named some_record
    | flush moved =>
      obtain ⟨frame, pending, advances, same⟩ := facts
      rcases moved.parked pending advances with ⟨frame', pending', advances', same'⟩ | ⟨r, _, rfl⟩
      · exact .inr (.inl ⟨frame', by rw [link_eq]; exact pending', advances', same'.trans same⟩)
      · exact requeue_holds (s := { s with link }) named some_record
  · have before : Behind s t := ⟨entry, (moved.meta facts mine).symm.trans found, initialized, lt⟩
    rcases was before with queued | ⟨frame, pending, _, same⟩ | ⟨pc', at', holds⟩
    · exact .inl (by rw [queue]; exact queued)
    · -- The slot holds this topic's frame or none.
      cases pc with
      | flush =>
        obtain ⟨held, pending', _, same'⟩ := facts
        rw [pending] at pending'
        cases pending'
        exact absurd (same.symm.trans same') mine
      | circleMeta | initializeTopic => exact absurd facts id
      | getMeta | read | updateEmpty =>
        have clear : s.link.output.pendingFrame = none := facts
        rw [pending] at clear
        cases clear
    · cases at_.symm.trans at'
      cases pc
      case getMeta | read | updateEmpty => exact absurd holds.symm mine
      all_goals exact absurd holds id

theorem Behind.some_log {s : State} {t : Topic} (behind : Behind s t) : s.logs t ≠ [] := by
  obtain ⟨entry, _, _, lt⟩ := behind
  intro empty
  rw [empty] at lt
  exact absurd lt (Nat.not_lt_zero _)

theorem Behind.congr {s s' : State} {t : Topic} (link : s'.link = s.link) (logs : s'.logs = s.logs)
    (behind : Behind s' t) : Behind s t := by
  unfold Behind at *
  rwa [link, logs] at behind

theorem nextFrame_logs (s : State) (frames : Nat) : (s.nextFrame frames).logs = s.logs := by
  rw [(nextFrame_returns s frames).same]

theorem Behind.of_nextFrame {s : State} {t : Topic} {frames : Nat} (behind : Behind (s.nextFrame frames) t) :
    Behind s t := behind.congr (nextFrame_link s frames) (nextFrame_logs s frames)

theorem atLoop_kept {s s' : State} {t : Topic} {pc : LoopPc} (at_ : s.writer = .loop pc)
    (free : ¬ pc.holds t) (queue : s'.worker.workQueue = s.worker.workQueue)
    (link : s'.link = s.link) (logs : s'.logs = s.logs) (behind : Behind s' t)
    (was : Behind s t → AtLoop s t) : AtLoop s' t :=
  (was (behind.congr link logs)).kept at_ free queue (by rw [link])

theorem nextFrame_atLoop {s : State} {t : Topic} {pc : LoopPc} {frames : Nat}
    (at_ : s.writer = .loop pc) (free : ¬ pc.holds t) (behind : Behind (s.nextFrame frames) t)
    (was : Behind s t → AtLoop s t) : AtLoop (s.nextFrame frames) t :=
  atLoop_kept at_ free (nextFrame_quiet s frames).queue (nextFrame_link s frames) (nextFrame_logs s frames)
    behind was

/-- The test for a topic's ring: a topic with something unread has one, so the loop goes on with it. -/
theorem circleTest_atLoop {s s' : State} {topic t : Topic} {pc next : LoopPc} {frames : Nat} (rings : Rings s)
    (at_ : s.writer = .loop pc) (held : pc.holds t → topic = t) (goesOn : topic = t → next.holds t)
    (taken : (match s.store.getCircle topic with
      | none => some (s.nextFrame frames)
      | some _ => some (s.goLoop next)) = some s')
    (behind : Behind s' t) (was : Behind s t → AtLoop s t) : AtLoop s' t := by
  by_cases mine : topic = t
  · split at taken <;> cases taken
    · rename_i unmade
      exact absurd (Holding.unmade rings (mine ▸ unmade)) behind.of_nextFrame.some_log
    · exact .inr (.inr ⟨next, rfl, goesOn mine⟩)
  · have free : ¬ pc.holds t := fun holds => mine (held holds)
    split at taken <;> cases taken
    · exact nextFrame_atLoop at_ free behind was
    · exact atLoop_kept at_ free rfl rfl rfl behind was

theorem loopStep_atLoop {d : Deployment} {s s' : State} {outcome : CallOutcome} {pc : LoopPc}
    {t : Topic} (running : Running s) (delivering : Delivering d.config s) (settled : Settled s)
    (first : ∀ r, s.record = some r → r = 0) (facts : LoopFacts s pc) (live : Live s')
    (at_ : s.writer = .loop pc) (named : t ≠ []) (taken : loopStep d s outcome pc = some s')
    (behind : Behind s' t) (was : Behind s t → AtLoop s t) : AtLoop s' t := by
  have rings := delivering.rings
  cases pc <;> simp only [loopStep] at taken
  case flush frames pc =>
    split at taken
    · cases taken
    · rename_i flushed
      cases taken
      exact flush_atLoop (flushStep_move flushed) at_ named behind was
  case deliver frames topic pc =>
    split at taken
    · cases taken
    · rename_i record cached
      split at taken
      · cases taken
      · rename_i delivered
        cases taken
        exact deliver_atLoop delivering settled cached (first record cached) (deliverStep_move delivered)
          at_ facts named live behind was
  case popWork frames =>
    split at taken <;> cases taken
    · exact atLoop_kept at_ id (EventLoopWorker.disableWriteEvent_quiet _).queue rfl rfl behind was
    · rename_i topic worker popped
      have queue := EventLoopWorker.popWork_some (congrArg Prod.fst popped)
      rw [popped] at queue
      rcases was (behind.congr rfl rfl) with queued | parked | ⟨pc', at', holds⟩
      · rw [queue] at queued
        rcases List.mem_cons.mp queued with rfl | later
        · exact .inr (.inr ⟨_, rfl, rfl⟩)
        · exact .inl later
      · exact .inr (.inl parked)
      · cases at_.symm.trans at'
        exact absurd holds id
  case getCircle frames topic => exact circleTest_atLoop rings at_ id id taken behind was
  case requeueCircle frames topic => exact circleTest_atLoop rings at_ id id taken behind was
  case requeueMeta frames topic =>
    by_cases mine : topic = t
    · subst mine
      split at taken
      · rename_i missing
        cases taken
        obtain ⟨entry, found, _⟩ := behind.of_nextFrame
        obtain ⟨record, cached⟩ := Option.ne_none_iff_exists'.mp facts.2
        rw [cached, first record cached, Option.bind_some, found] at missing
        cases missing
      · rename_i entry found
        obtain ⟨record, cached, held⟩ := Option.bind_eq_some_iff.mp found
        rw [settled record topic entry cached held] at taken
        cases taken
        exact .inr (.inr ⟨_, rfl, rfl⟩)
    · split at taken
      · cases taken
        exact nextFrame_atLoop at_ mine behind was
      · split at taken <;> cases taken
        · exact atLoop_kept at_ mine rfl rfl rfl behind was
        · exact nextFrame_atLoop at_ mine behind was
  case requeueNext frames topic cursor =>
    by_cases mine : topic = t
    · subst mine
      split at taken <;> cases taken
      · exact .inr (.inr ⟨_, rfl, rfl⟩)
      · rename_i reached
        obtain ⟨entry, found, _, lt⟩ := behind.of_nextFrame
        obtain ⟨_, record, held, cached, at_meta, _, same⟩ := facts
        rw [first record cached, found, Option.some.injEq] at at_meta
        rw [rings.nextSequence, ← same, ← at_meta] at reached
        exact absurd lt reached
    · split at taken <;> cases taken
      · exact atLoop_kept at_ mine rfl rfl rfl behind was
      · exact nextFrame_atLoop at_ mine behind was
  case requeueSubmit frames topic =>
    cases taken
    have quiet := nextFrame_quiet { s with worker := (s.worker.submitWork topic).2 } frames
    have link := nextFrame_link { s with worker := (s.worker.submitWork topic).2 } frames
    have logs := nextFrame_logs { s with worker := (s.worker.submitWork topic).2 } frames
    have queued : t = topic ∨ t ∈ s.worker.workQueue →
        AtLoop (State.nextFrame { s with worker := (s.worker.submitWork topic).2 } frames) t :=
      fun either => .inl (by rw [quiet.queue]; exact (running.worker.mem_submitWork topic t).mpr either)
    rcases was (behind.congr link logs) with queue | parked | ⟨pc', at', holds⟩
    · exact queued (.inr queue)
    · exact .inr (.inl (by rw [link]; exact parked))
    · cases at_.symm.trans at'
      exact queued (.inl (Eq.symm holds))
  case cacheTest =>
    split at taken <;> cases taken
    · exact atLoop_kept at_ id rfl rfl rfl behind was
    · exact nextFrame_atLoop at_ id behind was
  case cacheGet =>
    cases taken
    exact nextFrame_atLoop (s := { s with record := s.composite.getRecord d.key }) at_ id behind was
  case waiting | drain =>
    split at taken <;> cases taken <;> exact atLoop_kept at_ id rfl rfl rfl behind was
  case entry =>
    split at taken <;> cases taken
    · exact atLoop_kept at_ id (EventLoopWorker.disableWriteEvent_quiet _).queue rfl rfl behind was
    · exact atLoop_kept at_ id rfl rfl rfl behind was
  case subscribedTest =>
    split at taken
    · cases taken
      exact atLoop_kept at_ id (EventLoopWorker.disableWriteEvent_quiet _).queue rfl rfl behind was
    · split at taken <;> cases taken
      · exact atLoop_kept at_ id (EventLoopWorker.disableWriteEvent_quiet _).queue rfl rfl behind was
      · exact atLoop_kept at_ id rfl rfl rfl behind was
  case enableWrite =>
    have quiet := EventLoopWorker.enableWriteEvent_quiet s.worker (outcome ≠ .failed)
    split at taken
    all_goals
      rename_i enabled
      cases taken
      rw [enabled] at quiet
      exact atLoop_kept at_ id quiet.queue rfl rfl behind was
  case notifySelf =>
    cases taken
    exact atLoop_kept at_ id (EventLoopWorker.notifyStartWork_queue _ _) rfl rfl behind was
  case stop | dropSubscribed | dropAlive | dropShutdown | dropStop =>
    cases taken
    exact absurd rfl live.going
  case aliveTest | hasControl | hasWorks =>
    cases taken
    exact atLoop_kept at_ id rfl rfl rfl behind was
  case done => cases taken

end MessageRepeater.Subscriber
