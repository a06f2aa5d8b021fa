import MessageRepeater.Subscriber.Threads

/-!
# What one step of a writer does

Both writers reach the output only through `flushPendingFrame` and `deliverTopic`, and set their
record only where they cache it. `writerStep_move` says this once for the normal writing thread and
the event loop, so that the laws of the output are proved without their program counters.
-/

namespace MessageRepeater.Subscriber
open Foundation Combiner Config Connection

/-! ### flushPendingFrame and deliverTopic, step by step -/

inductive FlushMove (link : Link) (record : Option Nat) :
    FlushPc → Link → Control FlushPc (PendingWriteStatus × Topic) → Prop where
  | resume {frame} (pending : link.output.pendingFrame = some frame) :
      FlushMove link record .take link (.goto .send)
  | idle (pending : link.output.pendingFrame = none) (control : link.output.controlFrames = []) :
      FlushMove link record .take link (.ret (.idle, []))
  | next {frame rest} (pending : link.output.pendingFrame = none)
      (control : link.output.controlFrames = frame :: rest) :
      FlushMove link record .take (link.takeControl frame rest) (.goto .send)
  | sent {frame} (pending : link.output.pendingFrame = some frame)
      (whole : frame.data.length ≤ frame.offset) :
      FlushMove link record .send link (.goto .commit)
  | accept {frame count} (pending : link.output.pendingFrame = some frame)
      (within : frame.offset + count ≤ frame.data.length) :
      FlushMove link record .send (link.accept frame count) (.goto .send)
  | again : FlushMove link record .send link (.goto .send)
  | blocked {frame} (pending : link.output.pendingFrame = some frame) :
      FlushMove link record .send link (.ret (.wouldBlock, []))
  | failed : FlushMove link record .send link.fail (.ret (.error, []))
  | orphan {frame} (pending : link.output.pendingFrame = some frame)
      (advances : frame.advancesSequence = true) (uncached : record = none) :
      FlushMove link record .commit link (.ret (.error, []))
  | business {frame r} (pending : link.output.pendingFrame = some frame)
      (advances : frame.advancesSequence = true) (cached : record = some r) :
      FlushMove link record .commit (link.updateSequence r frame.topic frame.nextSequence).reset
        (.ret (.complete, frame.topic))
  | control {frame} (pending : link.output.pendingFrame = some frame)
      (stays : frame.advancesSequence = false) :
      FlushMove link record .commit link.reset (.ret (.complete, []))

theorem flushStep_move {link link' : Link} {record : Option Nat} {outcome : CallOutcome}
    {pc : FlushPc} {control : Control FlushPc (PendingWriteStatus × Topic)}
    (taken : flushStep link record outcome pc = some (link', control)) :
    FlushMove link record pc link' control := by
  cases pc with
  | take =>
    simp only [flushStep] at taken
    split at taken <;> cases taken
    · exact .resume ‹_›
    · exact .idle ‹_› ‹_›
    · exact .next ‹_› ‹_›
  | send =>
    simp only [flushStep] at taken
    split at taken
    · cases taken
    · rename_i frame pending
      split at taken
      · rename_i whole
        cases taken
        exact .sent pending whole
      · split at taken
        · split at taken
          · rename_i within
            cases taken
            exact .accept pending within.2
          · cases taken
        · cases taken
          exact .again
        · cases taken
          exact .blocked pending
        · cases taken
          exact .failed
  | commit =>
    simp only [flushStep] at taken
    split at taken
    · cases taken
    · rename_i frame pending
      split at taken
      · rename_i advances
        split at taken
        · cases taken
          exact .orphan pending advances rfl
        · cases taken
          exact .business pending advances rfl
      · rename_i stays
        cases taken
        exact .control pending (by simpa using stays)

inductive DeliverMove (config : RepeaterConfig) (store : MessageCircleComposite) (link : Link)
    (record : Nat) (topic : Topic) :
    DeliverPc → Link → Control DeliverPc TopicDeliveryStatus → Prop where
  | busy {frame} (pending : link.output.pendingFrame = some frame) :
      DeliverMove config store link record topic .getMeta link (.ret .wouldBlock)
  | absent (missing : link.getMeta record topic = none) :
      DeliverMove config store link record topic .getMeta link (.ret .noMessage)
  | entry {entry} (pending : link.output.pendingFrame = none)
      (found : link.getMeta record topic = some entry) (initialized : entry.initialized = true) :
      DeliverMove config store link record topic .getMeta link (.goto (.read entry))
  | fresh {entry} (pending : link.output.pendingFrame = none)
      (found : link.getMeta record topic = some entry) (fresh : entry.initialized = false) :
      DeliverMove config store link record topic .getMeta link (.goto .circleMeta)
  | circleMeta {ring} (made : store.getCircle topic = some ring) :
      DeliverMove config store link record topic .circleMeta link
        (.goto (.initializeTopic ring.getMeta.nextSequence))
  | initializeTopic (sequence : Nat) :
      DeliverMove config store link record topic (.initializeTopic sequence)
        (link.initializeTopic record topic sequence) (.ret .noMessage)
  | disconnect {entry ring result} (made : store.getCircle topic = some ring)
      (read : ring.read entry.nextSequence config.subscriberAlwaysSendLatest
        config.subscriberOverrunPolicy = result) (status : result.status = .disconnect) :
      DeliverMove config store link record topic (.read entry)
        (link.noteRead { topic, consumerSequence := entry.nextSequence, result }) (.ret .disconnect)
  | nothing {entry ring result} (made : store.getCircle topic = some ring)
      (read : ring.read entry.nextSequence config.subscriberAlwaysSendLatest
        config.subscriberOverrunPolicy = result)
      (status : result.status = .noMessage ∨ result.status = .message ∧ result.message = none) :
      DeliverMove config store link record topic (.read entry)
        (link.noteRead { topic, consumerSequence := entry.nextSequence, result }) (.ret .noMessage)
  | empty {entry ring result} (made : store.getCircle topic = some ring)
      (read : ring.read entry.nextSequence config.subscriberAlwaysSendLatest
        config.subscriberOverrunPolicy = result) (status : result.status = .message)
      (body : result.message = some []) :
      DeliverMove config store link record topic (.read entry)
        (link.noteRead { topic, consumerSequence := entry.nextSequence, result })
        (.goto (.updateEmpty result.nextSequence))
  | park {entry ring result body} (made : store.getCircle topic = some ring)
      (read : ring.read entry.nextSequence config.subscriberAlwaysSendLatest
        config.subscriberOverrunPolicy = result) (status : result.status = .message)
      (message : result.message = some body) (nonempty : body ≠ []) :
      DeliverMove config store link record topic (.read entry)
        ((link.noteRead { topic, consumerSequence := entry.nextSequence, result }).park topic body
          result)
        (.goto (.flush .take))
  | updateEmpty (nextSequence : Nat) :
      DeliverMove config store link record topic (.updateEmpty nextSequence)
        (link.updateSequence record topic nextSequence) (.ret .delivered)
  | flush {pc link' control} (moved : FlushMove link (some record) pc link' control) :
      DeliverMove config store link record topic (.flush pc) link' (DeliverPc.afterFlush control)

theorem deliverStep_move {config : RepeaterConfig} {store : MessageCircleComposite}
    {link link' : Link} {record : Nat} {topic : Topic} {outcome : CallOutcome} {pc : DeliverPc}
    {control : Control DeliverPc TopicDeliveryStatus}
    (taken : deliverStep config store link record topic outcome pc = some (link', control)) :
    DeliverMove config store link record topic pc link' control := by
  cases pc with
  | getMeta =>
    simp only [deliverStep] at taken
    split at taken
    · rename_i busy
      obtain ⟨frame, pending⟩ := Option.isSome_iff_exists.mp busy
      cases taken
      exact .busy pending
    · rename_i free
      have pending : link.output.pendingFrame = none := by simpa using free
      split at taken
      · cases taken
        exact .absent ‹_›
      · rename_i entry found
        split at taken
        · rename_i initialized
          cases taken
          exact .entry pending found initialized
        · rename_i fresh
          cases taken
          exact .fresh pending found (by simpa using fresh)
  | circleMeta =>
    simp only [deliverStep] at taken
    split at taken <;> cases taken
    exact .circleMeta ‹_›
  | initializeTopic sequence =>
    cases taken
    exact .initializeTopic sequence
  | read entry =>
    simp only [deliverStep] at taken
    split at taken
    · cases taken
    · rename_i ring made
      split at taken <;> cases taken
      · exact .disconnect made rfl ‹_›
      · exact .nothing made rfl (.inl ‹_›)
      · exact .nothing made rfl (.inr ⟨‹_›, ‹_›⟩)
      · exact .empty made rfl ‹_› ‹_›
      · rename_i body _ nonempty status message
        exact .park made rfl status message nonempty
  | updateEmpty nextSequence =>
    cases taken
    exact .updateEmpty nextSequence
  | flush pc =>
    simp only [deliverStep] at taken
    split at taken <;> cases taken
    exact .flush (flushStep_move ‹_›)

/-! ### Both writers -/

/-- The part of a writer's program counter that concerns its output and its record. -/
inductive Call where
  | outside
  | cache
  | flush (pc : FlushPc)
  | deliver (topic : Topic) (pc : DeliverPc)
  | closing
  deriving DecidableEq

def NormalPc.call : NormalPc → Call
  | .cacheGet => .cache
  | .flush pc => .flush pc
  | .deliver topic _ pc => .deliver topic pc
  | .dropSubscribed | .dropAlive | .exitShutdown | .exitKill | .exitAlive | .done => .closing
  | _ => .outside

def LoopPc.call : LoopPc → Call
  | .cacheGet => .cache
  | .flush _ pc => .flush pc
  | .deliver _ topic pc => .deliver topic pc
  | .stop | .dropSubscribed | .dropAlive | .dropShutdown | .dropStop | .done => .closing
  | _ => .outside

def WriterPc.call : WriterPc → Call
  | .normal pc => pc.call
  | .loop pc => pc.call

/-- No call is in progress beyond its first instruction. -/
inductive Call.Fresh : Call → Prop where
  | outside : Fresh .outside
  | flush : Fresh (.flush .take)
  | deliver (topic : Topic) : Fresh (.deliver topic .getMeta)
  | closing : Fresh .closing

/-- The call goes on, or it has returned and an error closes the connection. -/
def Call.AfterFlush : Control FlushPc (PendingWriteStatus × Topic) → Call → Prop
  | .goto pc, call => call = .flush pc
  | .ret (status, _), call => call.Fresh ∧ (status = .error → call = .closing)

def Call.AfterDeliver (topic : Topic) : Control DeliverPc TopicDeliveryStatus → Call → Prop
  | .goto pc, call => call = .deliver topic pc
  | .ret status, call => call.Fresh ∧ (status = .disconnect → call = .closing)

/-- What a step of either writer does to the connection's output and to the writer's record. -/
inductive WriterMove (d : Deployment) (s s' : State) : Prop where
  | flush {pc link control} (at_ : s.writer.call = .flush pc)
      (moved : FlushMove s.link s.record pc link control) (link_eq : s'.link = link)
      (record_eq : s'.record = s.record) (next : s'.writer.call.AfterFlush control)
  | deliver {topic pc record link control} (at_ : s.writer.call = .deliver topic pc)
      (cached : s.record = some record)
      (moved : DeliverMove d.config s.store s.link record topic pc link control)
      (link_eq : s'.link = link) (record_eq : s'.record = s.record)
      (next : s'.writer.call.AfterDeliver topic control)
  | test (at_ : s.writer.call = .outside) (link_eq : s'.link = s.link) (uncached : s.record = none)
      (subscribed : s.subscribed = true) (record_eq : s'.record = s.record)
      (next : s'.writer.call = .cache)
  | cache (at_ : s.writer.call = .cache) (link_eq : s'.link = s.link)
      (record_eq : s'.record = s.composite.getRecord d.key) (next : s'.writer.call.Fresh)
  | other (at_ : s.writer.call = .outside) (link_eq : s'.link = s.link)
      (record_eq : s'.record = s.record) (next : s'.writer.call.Fresh)
  | close (at_ : s.writer.call = .closing) (link_eq : s'.link = s.link)
      (record_eq : s'.record = s.record) (next : s'.writer.call = .closing)

@[simp] theorem goNormal_writer (s : State) (pc : NormalPc) :
    (s.goNormal pc).writer = .normal pc := rfl

@[simp] theorem goLoop_writer (s : State) (pc : LoopPc) : (s.goLoop pc).writer = .loop pc := rfl

theorem afterFlush_normal (control : Control FlushPc (PendingWriteStatus × Topic)) :
    (NormalPc.afterFlush control).call.AfterFlush control := by
  rcases control with pc | ⟨status, topic⟩
  · rfl
  · cases status
    case error => exact ⟨.closing, fun _ => rfl⟩
    case idle | complete | wouldBlock => exact ⟨by constructor, nofun⟩

theorem scan_fresh (todo : List Topic) : (NormalPc.scan todo).call = .outside := by
  cases todo <;> rfl

theorem afterDeliver_normal (topic : Topic) (todo : List Topic)
    (control : Control DeliverPc TopicDeliveryStatus) :
    (NormalPc.afterDeliver topic todo control).call.AfterDeliver topic control := by
  rcases control with pc | status
  · rfl
  · cases status
    case disconnect => exact ⟨.closing, fun _ => rfl⟩
    case wouldBlock => exact ⟨.outside, nofun⟩
    case noMessage | delivered =>
      simp only [NormalPc.afterDeliver, Call.AfterDeliver, scan_fresh]
      exact ⟨.outside, nofun⟩

/-- `s'` is `s` but for the worker and a fresh program counter of the loop. -/
structure LoopReturn (s s' : State) : Prop where
  same : s' = { s with worker := s'.worker, writer := s'.writer }
  fresh : s'.writer.call.Fresh

theorem nextFrame_returns (s : State) (frames : Nat) : LoopReturn s (s.nextFrame frames) := by
  unfold State.nextFrame
  split
  · exact ⟨rfl, .flush⟩
  · exact ⟨rfl, .outside⟩

theorem requeue_returns (s : State) (frames : Nat) (topic : Topic) :
    LoopReturn s (s.requeue frames topic) := by
  unfold State.requeue
  split
  · exact nextFrame_returns s frames
  · exact ⟨rfl, .outside⟩

theorem afterFlush_loop (s : State) (frames : Nat)
    (control : Control FlushPc (PendingWriteStatus × Topic)) :
    s.afterFlush frames control = { s with
      worker := (s.afterFlush frames control).worker
      writer := (s.afterFlush frames control).writer } ∧
    (s.afterFlush frames control).writer.call.AfterFlush control := by
  rcases control with pc | ⟨status, topic⟩
  · exact ⟨rfl, rfl⟩
  · cases status
    case error => exact ⟨rfl, .closing, fun _ => rfl⟩
    case idle | wouldBlock => exact ⟨rfl, .outside, nofun⟩
    case complete =>
      have returned := requeue_returns s (frames + 1) topic
      exact ⟨returned.same, returned.fresh, nofun⟩

theorem afterDeliver_loop (s : State) (frames : Nat) (topic : Topic)
    (control : Control DeliverPc TopicDeliveryStatus) :
    s.afterDeliver frames topic control = { s with
      worker := (s.afterDeliver frames topic control).worker
      writer := (s.afterDeliver frames topic control).writer } ∧
    (s.afterDeliver frames topic control).writer.call.AfterDeliver topic control := by
  rcases control with pc | status
  · exact ⟨rfl, rfl⟩
  · cases status
    case disconnect => exact ⟨rfl, .closing, fun _ => rfl⟩
    case wouldBlock => exact ⟨rfl, .outside, nofun⟩
    case delivered =>
      have returned := requeue_returns s (frames + 1) topic
      exact ⟨returned.same, returned.fresh, nofun⟩
    case noMessage =>
      have returned := nextFrame_returns s frames
      exact ⟨returned.same, returned.fresh, nofun⟩

theorem normalStep_move {d : Deployment} {s s' : State} {outcome : CallOutcome} {pc : NormalPc}
    (at_ : s.writer = .normal pc) (taken : normalStep d s outcome pc = some s') :
    WriterMove d s s' := by
  cases pc with
  | cacheTest =>
    simp only [normalStep, Option.some.injEq] at taken
    subst taken
    by_cases ready : s.record = none ∧ s.subscribed = true
    · exact .test (by rw [at_]; rfl) rfl ready.1 ready.2 rfl (by simp only [ready, and_self, if_true]; rfl)
    · exact .other (by rw [at_]; rfl) rfl rfl (by simp only [ready, if_false]; exact .flush)
  | cacheGet =>
    cases taken
    exact .cache (by rw [at_]; rfl) rfl rfl .flush
  | flush pc =>
    simp only [normalStep] at taken
    split at taken
    · cases taken
    · rename_i link control flushed
      cases taken
      exact .flush (by rw [at_]; rfl) (flushStep_move flushed) rfl rfl (afterFlush_normal control)
  | deliver topic todo pc =>
    simp only [normalStep] at taken
    split at taken
    · cases taken
    · rename_i record cached
      split at taken
      · cases taken
      · rename_i link control delivered
        cases taken
        exact .deliver (by rw [at_]; rfl) cached (deliverStep_move delivered) rfl rfl
          (afterDeliver_normal topic todo control)
  | existsTest =>
    simp only [normalStep] at taken
    split at taken <;> cases taken
    refine .other (by rw [at_]; rfl) rfl rfl ?_
    rw [goNormal_writer]
    split
    · exact .outside
    · exact .closing
  | top | subscribedTest =>
    simp only [normalStep, Option.some.injEq] at taken
    subst taken
    refine .other (by rw [at_]; rfl) rfl rfl ?_
    rw [goNormal_writer]
    repeat' split
    all_goals first | exact .outside | exact .closing
  | getTopics =>
    simp only [normalStep] at taken
    split at taken <;> cases taken
    refine .other (by rw [at_]; rfl) rfl rfl ?_
    rw [goNormal_writer, WriterPc.call, scan_fresh]
    exact .outside
  | getCircle topic todo =>
    simp only [normalStep] at taken
    split at taken <;> cases taken
    · refine .other (by rw [at_]; rfl) rfl rfl ?_
      rw [goNormal_writer, WriterPc.call, scan_fresh]
      exact .outside
    · exact .other (by rw [at_]; rfl) rfl rfl (.deliver topic)
  | exitKill =>
    simp only [normalStep] at taken
    split at taken <;> cases taken
    exact .close (by rw [at_]; rfl) rfl rfl rfl
  | dropSubscribed | dropAlive | exitShutdown | exitAlive =>
    cases taken
    exact .close (by rw [at_]; rfl) rfl rfl rfl
  | done => cases taken

theorem LoopReturn.move {d : Deployment} {s middle s' : State} (returned : LoopReturn middle s')
    (at_ : s.writer.call = .outside) (link_eq : middle.link = s.link)
    (record_eq : middle.record = s.record) : WriterMove d s s' :=
  .other at_ (by rw [returned.same]; exact link_eq) (by rw [returned.same]; exact record_eq)
    returned.fresh

theorem loopStep_move {d : Deployment} {s s' : State} {outcome : CallOutcome} {pc : LoopPc}
    (at_ : s.writer = .loop pc) (taken : loopStep d s outcome pc = some s') :
    WriterMove d s s' := by
  cases pc with
  | cacheTest =>
    simp only [loopStep, Option.some.injEq] at taken
    subst taken
    split
    · rename_i ready
      exact .test (by rw [at_]; rfl) rfl ready.1 ready.2 rfl rfl
    · exact (nextFrame_returns s 0).move (by rw [at_]; rfl) rfl rfl
  | cacheGet =>
    cases taken
    have returned := nextFrame_returns { s with record := s.composite.getRecord d.key } 0
    exact .cache (by rw [at_]; rfl) (by rw [returned.same]) (by rw [returned.same]) returned.fresh
  | flush frames pc =>
    simp only [loopStep] at taken
    split at taken
    · cases taken
    · rename_i link control flushed
      cases taken
      obtain ⟨same, next⟩ := afterFlush_loop { s with link } frames control
      exact .flush (by rw [at_]; rfl) (flushStep_move flushed) (by rw [same]) (by rw [same]) next
  | deliver frames topic pc =>
    simp only [loopStep] at taken
    split at taken
    · cases taken
    · rename_i record cached
      split at taken
      · cases taken
      · rename_i link control delivered
        cases taken
        obtain ⟨same, next⟩ := afterDeliver_loop { s with link } frames topic control
        exact .deliver (by rw [at_]; rfl) cached (deliverStep_move delivered) (by rw [same])
          (by rw [same]) next
  | waiting =>
    simp only [loopStep] at taken
    split at taken <;> cases taken
    exact .other (by rw [at_]; rfl) rfl rfl .outside
  | drain stopRequested =>
    simp only [loopStep] at taken
    split at taken <;> cases taken <;> exact .other (by rw [at_]; rfl) rfl rfl .outside
  | aliveTest stopRequested =>
    simp only [loopStep, Option.some.injEq] at taken
    subst taken
    refine .other (by rw [at_]; rfl) rfl rfl ?_
    rw [goLoop_writer]
    split
    · exact .closing
    · exact .outside
  | entry =>
    simp only [loopStep, Option.some.injEq] at taken
    subst taken
    split <;> exact .other (by rw [at_]; rfl) rfl rfl .outside
  | subscribedTest frames =>
    simp only [loopStep, Option.some.injEq] at taken
    subst taken
    split
    · exact .other (by rw [at_]; rfl) rfl rfl .outside
    · split <;> exact .other (by rw [at_]; rfl) rfl rfl .outside
  | popWork frames =>
    simp only [loopStep] at taken
    split at taken <;> cases taken <;> exact .other (by rw [at_]; rfl) rfl rfl .outside
  | getCircle frames topic =>
    simp only [loopStep] at taken
    split at taken <;> cases taken
    · exact (nextFrame_returns s frames).move (by rw [at_]; rfl) rfl rfl
    · exact .other (by rw [at_]; rfl) rfl rfl (.deliver topic)
  | enableWrite =>
    simp only [loopStep] at taken
    split at taken <;> cases taken
    · exact .other (by rw [at_]; rfl) rfl rfl .outside
    · exact .other (by rw [at_]; rfl) rfl rfl .closing
  | requeueCircle frames topic =>
    simp only [loopStep] at taken
    split at taken <;> cases taken
    · exact (nextFrame_returns s frames).move (by rw [at_]; rfl) rfl rfl
    · exact .other (by rw [at_]; rfl) rfl rfl .outside
  | requeueMeta frames topic =>
    simp only [loopStep] at taken
    split at taken
    · cases taken
      exact (nextFrame_returns s frames).move (by rw [at_]; rfl) rfl rfl
    · split at taken <;> cases taken
      · exact .other (by rw [at_]; rfl) rfl rfl .outside
      · exact (nextFrame_returns s frames).move (by rw [at_]; rfl) rfl rfl
  | requeueNext frames topic cursor =>
    simp only [loopStep] at taken
    split at taken <;> cases taken
    · exact .other (by rw [at_]; rfl) rfl rfl .outside
    · exact (nextFrame_returns s frames).move (by rw [at_]; rfl) rfl rfl
  | requeueSubmit frames topic =>
    cases taken
    exact (nextFrame_returns _ frames).move (by rw [at_]; rfl) rfl rfl
  | hasControl | hasWorks =>
    simp only [loopStep, Option.some.injEq] at taken
    subst taken
    refine .other (by rw [at_]; rfl) rfl rfl ?_
    rw [goLoop_writer]
    split <;> exact .outside
  | notifySelf =>
    cases taken
    exact .other (by rw [at_]; rfl) rfl rfl .outside
  | stop | dropSubscribed | dropAlive | dropShutdown | dropStop =>
    cases taken
    exact .close (by rw [at_]; rfl) rfl rfl rfl
  | done => cases taken

theorem writerStep_move {d : Deployment} {s s' : State} {outcome : CallOutcome}
    (taken : writerStep d s outcome = some s') : WriterMove d s s' := by
  unfold writerStep at taken
  split at taken
  · exact normalStep_move ‹_› taken
  · exact loopStep_move ‹_› taken

/-! ### What a writer leaves to the others -/

/-- A writer has its own program counter and record, the output and the worker; otherwise it can only
take the subscription and the connection's life away. -/
structure WriterFrame (s s' : State) : Prop where
  store : s'.store = s.store
  logs : s'.logs = s.logs
  composite : s'.composite = s.composite
  reader : s'.reader = s.reader
  present : s'.exists_ = s.exists_
  registered : s'.loopRegistered = s.loopRegistered
  topicConnections : s'.topicConnections = s.topicConnections
  dispatch : s'.dispatch = s.dispatch
  dispatcher : s'.dispatcher = s.dispatcher
  publishers : s'.publishers = s.publishers
  detector : s'.detector = s.detector
  reclaimer : s'.reclaimer = s.reclaimer
  subscribed : s'.subscribed = true → s.subscribed = true
  alived : s'.alived = true → s.alived = true

theorem WriterFrame.local (s : State) (worker : EventLoopWorker) (writer : WriterPc) (link : Link)
    (record : Option Nat) : WriterFrame s { s with worker, writer, link, record } :=
  ⟨rfl, rfl, rfl, rfl, rfl, rfl, rfl, rfl, rfl, rfl, rfl, rfl, id, id⟩

theorem LoopReturn.frame {s s' : State} {link : Link} {record : Option Nat} {worker : EventLoopWorker}
    (returned : LoopReturn { s with link, record, worker } s') : WriterFrame s s' := by
  rw [returned.same]
  exact .local s _ _ link record

theorem normalStep_frame {d : Deployment} {s s' : State} {outcome : CallOutcome} {pc : NormalPc}
    (taken : normalStep d s outcome pc = some s') : WriterFrame s s' := by
  cases pc <;> simp only [normalStep] at taken
  case existsTest | flush | getTopics | getCircle | exitKill =>
    split at taken <;> cases taken <;> exact .local s _ _ _ _
  case deliver =>
    split at taken
    · cases taken
    · split at taken <;> cases taken
      exact .local s _ _ _ _
  case dropSubscribed =>
    cases taken
    exact ⟨rfl, rfl, rfl, rfl, rfl, rfl, rfl, rfl, rfl, rfl, rfl, rfl, nofun, id⟩
  case dropAlive | exitAlive =>
    cases taken
    exact ⟨rfl, rfl, rfl, rfl, rfl, rfl, rfl, rfl, rfl, rfl, rfl, rfl, id, nofun⟩
  all_goals
    cases taken <;> exact .local s _ _ _ _

theorem loopStep_frame {d : Deployment} {s s' : State} {outcome : CallOutcome} {pc : LoopPc}
    (taken : loopStep d s outcome pc = some s') : WriterFrame s s' := by
  have next : ∀ frames, WriterFrame s (s.nextFrame frames) := fun frames =>
    LoopReturn.frame (nextFrame_returns s frames)
  cases pc <;> simp only [loopStep] at taken
  case flush frames pc =>
    split at taken
    · cases taken
    · rename_i link control _
      cases taken
      rw [(afterFlush_loop { s with link } frames control).1]
      exact .local s _ _ _ _
  case deliver frames topic pc =>
    split at taken
    · cases taken
    · split at taken
      · cases taken
      · rename_i link control _
        cases taken
        rw [(afterDeliver_loop { s with link } frames topic control).1]
        exact .local s _ _ _ _
  case dropSubscribed =>
    cases taken
    exact ⟨rfl, rfl, rfl, rfl, rfl, rfl, rfl, rfl, rfl, rfl, rfl, rfl, nofun, id⟩
  case dropAlive =>
    cases taken
    exact ⟨rfl, rfl, rfl, rfl, rfl, rfl, rfl, rfl, rfl, rfl, rfl, rfl, id, nofun⟩
  case cacheGet | requeueSubmit =>
    cases taken
    exact LoopReturn.frame (nextFrame_returns _ _)
  case requeueMeta =>
    split at taken
    · cases taken
      exact next _
    · split at taken <;> cases taken
      · exact .local s _ _ _ _
      · exact next _
  case cacheTest | getCircle | requeueCircle | requeueNext =>
    split at taken <;> cases taken <;> first | exact next _ | exact .local s _ _ _ _
  case waiting | drain | popWork | enableWrite | entry =>
    split at taken <;> cases taken <;> exact .local s _ _ _ _
  case subscribedTest =>
    split at taken
    · cases taken
      exact .local s _ _ _ _
    · split at taken <;> cases taken <;> exact .local s _ _ _ _
  all_goals
    cases taken <;> exact .local s _ _ _ _

theorem writerStep_frame {d : Deployment} {s s' : State} {outcome : CallOutcome}
    (taken : writerStep d s outcome = some s') : WriterFrame s s' := by
  unfold writerStep at taken
  split at taken
  · exact normalStep_frame taken
  · exact loopStep_frame taken

end MessageRepeater.Subscriber
