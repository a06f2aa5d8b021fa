import MessageRepeater.Subscriber.Store
import MessageRepeater.Subscriber.Wakeup

/-!
# One call of processEventLoopOutput

The event loop from the entry of `processEventLoopOutput` to its return, in any state of the connection
and between any steps of the other threads that leave its queues and its subscription alone. A call
keeps a log of what it has done, which no step reads.
-/

namespace MessageRepeater.Subscriber
open Foundation Combiner Config Connection

/-! ### The call -/

/-- The load at the entry has found the connection dead; a frame is complete, or an empty message
consumed; a topic is off the queue; a start notification is out. -/
inductive OutputEvent where
  | dead | completed | popped | notified
  deriving DecidableEq, Repr

structure OutputCall where
  state : State
  log : List OutputEvent := []
  /-- The record map has had the connection's record in every state of the call. -/
  registered : Bool

def OutputCall.completed (c : OutputCall) : Nat := c.log.count .completed

def OutputCall.popped (c : OutputCall) : Nat := c.log.count .popped

/-- The call is over: the loop waits for its next event, or has ended. -/
def WriterPc.returned : WriterPc → Bool
  | .loop .waiting | .loop .done => true
  | _ => false

def OutputCall.returned (c : OutputCall) : Bool := c.state.writer.returned

def State.registered (d : Deployment) (s : State) : Bool := (s.composite.getRecord d.key).isSome

/-- A call that starts in any state. -/
def OutputCall.enter (d : Deployment) (s : State) : OutputCall where
  state := s.goLoop .entry
  registered := s.registered d

def flushEvent : Control FlushPc (PendingWriteStatus × Topic) → Option OutputEvent
  | .ret (.complete, _) => some .completed
  | _ => none

def deliverEvent : Control DeliverPc TopicDeliveryStatus → Option OutputEvent
  | .ret .delivered => some .completed
  | _ => none

def State.outputEvent (d : Deployment) (s : State) (outcome : CallOutcome) : LoopPc → Option OutputEvent
  | .entry => if s.alived = false then some .dead else none
  | .flush _ pc => (flushStep s.link s.record outcome pc).bind fun result => flushEvent result.2
  | .popWork _ => s.worker.popWork.1.map fun _ => .popped
  | .deliver _ topic pc =>
    s.record.bind fun record =>
      (deliverStep d.config s.store s.link record topic outcome pc).bind fun result =>
        deliverEvent result.2
  | .notifySelf => if outcome = .failed then none else some .notified
  | _ => none

/-- The steps of the call: those of the event loop, and the write of the start notification may fail. -/
def outputStep (d : Deployment) (s : State) (outcome : CallOutcome) : LoopPc → Option State
  | .waiting => none
  | .notifySelf =>
    if outcome = .failed then some (s.goLoop .dropSubscribed) else loopStep d s outcome .notifySelf
  | pc => loopStep d s outcome pc

inductive OutputAction where
  | loop (outcome : CallOutcome)
  | other (action : Action)
  deriving DecidableEq, Repr

def OutputCall.advance (c : OutputCall) (d : Deployment) (s : State) (event : Option OutputEvent) :
    OutputCall where
  state := s
  log := c.log ++ event.toList
  registered := c.registered && s.registered d

def callStep (d : Deployment) (c : OutputCall) : OutputAction → Option OutputCall
  | .loop outcome =>
    match c.state.writer with
    | .normal _ => none
    | .loop pc =>
      (outputStep d c.state outcome pc).map fun s =>
        c.advance d s (c.state.outputEvent d outcome pc)
  | .other action =>
    if c.returned then none else (step d c.state action).map fun s => c.advance d s none

/-- Not an action of the connection's writer. -/
def Action.foreign : Action → Bool
  | .writer _ | .writable => false
  | _ => true

/-- No work or control frame has come or gone, and the subscription is the same. -/
def State.undisturbed (s s' : State) : Bool :=
  s'.worker.workQueue = s.worker.workQueue ∧ s'.link.output = s.link.output ∧
    s'.subscribed = s.subscribed

/-- The other threads submit no work and no control frame and do not change the subscription. -/
def Alone (d : Deployment) (c : OutputCall) : OutputAction → Prop
  | .loop _ => True
  | .other action =>
    action.foreign = true ∧ (step d c.state action).all c.state.undisturbed = true

instance (d : Deployment) (c : OutputCall) (action : OutputAction) : Decidable (Alone d c action) :=
  match action with
  | .loop _ => .isTrue trivial
  | .other action =>
    inferInstanceAs (Decidable (action.foreign = true ∧
      (step d c.state action).all c.state.undisturbed = true))

/-! ### Sends -/

def SubscriberOutputState.bytesLeft (output : SubscriberOutputState) : Nat :=
  match output.pendingFrame with
  | none => 0
  | some frame => frame.data.length - frame.offset

/-- The loop is in the loop of `sendSocketFrameNonBlocking`. -/
def LoopPc.sending : LoopPc → Bool
  | .flush _ .send | .deliver _ _ (.flush .send) => true
  | _ => false

/-- The step is a `send` that a signal interrupts. -/
def OutputCall.interrupted (c : OutputCall) : OutputAction → Bool
  | .loop .interrupted =>
    match c.state.writer with
    | .loop pc => pc.sending && decide (0 < c.state.link.output.bytesLeft)
    | .normal _ => false
  | _ => false

/-- A `send` accepts at least one byte, and no more than it is given. -/
def SubscriberOutputState.MayAnswer (output : SubscriberOutputState) : CallOutcome → Prop
  | .accepted count => 0 < output.bytesLeft → 0 < count ∧ count ≤ output.bytesLeft
  | _ => True

/-! ### The steps of a call -/

theorem callStep_loop {d : Deployment} {c c' : OutputCall} {outcome : CallOutcome}
    (taken : callStep d c (.loop outcome) = some c') :
    ∃ pc s', c.state.writer = .loop pc ∧ outputStep d c.state outcome pc = some s' ∧
      c' = c.advance d s' (c.state.outputEvent d outcome pc) := by
  cases at_ : c.state.writer with
  | normal pc =>
    simp only [callStep, at_] at taken
    cases taken
  | loop pc =>
    simp only [callStep, at_] at taken
    obtain ⟨s', stepped, rfl⟩ := Option.map_eq_some_iff.mp taken
    exact ⟨pc, s', rfl, stepped, rfl⟩

theorem callStep_other {d : Deployment} {c c' : OutputCall} {action : Action}
    (taken : callStep d c (.other action) = some c') :
    ∃ s', c.returned = false ∧ step d c.state action = some s' ∧ c' = c.advance d s' none := by
  simp only [callStep] at taken
  split at taken
  · cases taken
  · rename_i going
    obtain ⟨s', stepped, rfl⟩ := Option.map_eq_some_iff.mp taken
    exact ⟨s', Bool.eq_false_iff.mpr going, stepped, rfl⟩

/-- A step of the call is the event loop's, a failing start notification apart. -/
theorem outputStep_cases {d : Deployment} {s s' : State} {outcome : CallOutcome} {pc : LoopPc}
    (taken : outputStep d s outcome pc = some s') :
    (pc = .notifySelf ∧ outcome = .failed ∧ s' = s.goLoop .dropSubscribed) ∨
      loopStep d s outcome pc = some s' := by
  unfold outputStep at taken
  split at taken
  · cases taken
  · split at taken
    · cases taken
      exact .inl ⟨rfl, ‹_›, rfl⟩
    · exact .inr taken
  · exact .inr taken

/-- A call whose start notification does not fail is part of a run of the connection's threads. -/
theorem run_callSteps {d : Deployment} {c c' : OutputCall}
    (run : Run (callStep d)
      (fun c action => ¬ (c.state.writer = .loop .notifySelf ∧ action = .loop .failed)) c c') :
    Run (step d) Free c.state c'.state := by
  refine run.simulate fun c action c' _ notified taken => .inr ?_
  cases action with
  | loop outcome =>
    obtain ⟨pc, s', at_, stepped, rfl⟩ := callStep_loop taken
    refine ⟨.writer outcome, ?_⟩
    show writerStep d c.state outcome = some s'
    simp only [writerStep, at_]
    rcases outputStep_cases stepped with ⟨rfl, failed, _⟩ | moved
    · exact absurd ⟨at_, congrArg _ failed⟩ notified
    · exact moved
  | other action =>
    obtain ⟨s', _, stepped, rfl⟩ := callStep_other taken
    exact ⟨action, stepped⟩

/-! ### What one step of the call does -/

/-- The frame counter of a topic that is about to be requeued. -/
def LoopPc.requeuing : LoopPc → Option Nat
  | .requeueCircle frames _ | .requeueMeta frames _ | .requeueNext frames _ _
  | .requeueSubmit frames _ => some frames
  | _ => none

inductive OutputMove (d : Deployment) (s : State) (outcome : CallOutcome) :
    LoopPc → Option OutputEvent → State → Prop where
  | dead (dead : s.alived = false) : OutputMove d s outcome .entry (some .dead) s.leave
  | enter : OutputMove d s outcome .entry none (s.goLoop .cacheTest)
  | lookup : OutputMove d s outcome .cacheTest none (s.goLoop .cacheGet)
  | cached (cached : s.subscribed = true → s.record ≠ none) :
      OutputMove d s outcome .cacheTest none (s.nextFrame 0)
  | cache : OutputMove d s outcome .cacheGet none
      ({ s with record := s.composite.getRecord d.key }.nextFrame 0)
  | flush {frames pc link control}
      (taken : flushStep s.link s.record outcome pc = some (link, control)) :
      OutputMove d s outcome (.flush frames pc) (flushEvent control)
        ({ s with link }.afterFlush frames control)
  | unsubscribed {frames} (uncached : s.subscribed = true → s.record = none) :
      OutputMove d s outcome (.subscribedTest frames) none s.leave
  | subscribed {frames} (cached : s.record ≠ none) :
      OutputMove d s outcome (.subscribedTest frames) none (s.goLoop (.popWork frames))
  | drained {frames} (empty : s.worker.workQueue = []) :
      OutputMove d s outcome (.popWork frames) none s.leave
  | popped {frames topic worker} (queue : s.worker.workQueue = topic :: worker.workQueue) :
      OutputMove d s outcome (.popWork frames) (some .popped)
        ({ s with worker }.goLoop (.getCircle frames topic))
  | unmade {frames topic} :
      OutputMove d s outcome (.getCircle frames topic) none (s.nextFrame frames)
  | made {frames topic} (made : s.store.getCircle topic ≠ none) :
      OutputMove d s outcome (.getCircle frames topic) none
        (s.goLoop (.deliver frames topic .getMeta))
  | deliver {frames topic pc record link control} (cached : s.record = some record)
      (taken : deliverStep d.config s.store s.link record topic outcome pc = some (link, control)) :
      OutputMove d s outcome (.deliver frames topic pc) (deliverEvent control)
        ({ s with link }.afterDeliver frames topic control)
  | armed {worker} (queue : worker.workQueue = s.worker.workQueue)
      (armed : worker.writeEventEnabled = true) :
      OutputMove d s outcome .enableWrite none ({ s with worker }.goLoop .waiting)
  | unarmed {worker} (queue : worker.workQueue = s.worker.workQueue) :
      OutputMove d s outcome .enableWrite none ({ s with worker }.goLoop .dropSubscribed)
  | forget {pc frames} (at_ : pc.requeuing = some frames) :
      OutputMove d s outcome pc none (s.nextFrame frames)
  | requeueMeta {frames topic} :
      OutputMove d s outcome (.requeueCircle frames topic) none (s.goLoop (.requeueMeta frames topic))
  | requeueNext {frames topic cursor} :
      OutputMove d s outcome (.requeueMeta frames topic) none
        (s.goLoop (.requeueNext frames topic cursor))
  | requeueSubmit {frames topic cursor} :
      OutputMove d s outcome (.requeueNext frames topic cursor) none
        (s.goLoop (.requeueSubmit frames topic))
  | submit {frames topic} :
      OutputMove d s outcome (.requeueSubmit frames topic) none
        ({ s with worker := (s.worker.submitWork topic).2 }.nextFrame frames)
  | control : OutputMove d s outcome .hasControl none (s.goLoop .notifySelf)
  | clear (pending : s.link.output.pendingFrame = none) (control : s.link.output.controlFrames = []) :
      OutputMove d s outcome .hasControl none (s.goLoop .hasWorks)
  | works : OutputMove d s outcome .hasWorks none (s.goLoop .notifySelf)
  | rest (empty : s.worker.workQueue = []) :
      OutputMove d s outcome .hasWorks none (s.goLoop .waiting)
  | notify : OutputMove d s outcome .notifySelf (some .notified)
      ({ s with worker := s.worker.notifyStartWork d.pipeCapacity }.goLoop .waiting)
  | unnotified : OutputMove d s outcome .notifySelf none (s.goLoop .dropSubscribed)
  | dropSubscribed : OutputMove d s outcome .dropSubscribed none
      ({ s with subscribed := false }.goLoop .dropAlive)
  | dropAlive : OutputMove d s outcome .dropAlive none ({ s with alived := false }.goLoop .dropShutdown)
  | dropShutdown : OutputMove d s outcome .dropShutdown none
      ({ s with worker := s.worker.disableWriteEvent }.goLoop .dropStop)
  | dropStop : OutputMove d s outcome .dropStop none
      ({ s with worker := s.worker.stop }.goLoop .done)

/-- The program counters of the notification that starts the call. -/
def LoopPc.before : LoopPc → Bool
  | .drain _ | .aliveTest _ | .stop => true
  | _ => false

theorem outputStep_move {d : Deployment} {s s' : State} {outcome : CallOutcome} {pc : LoopPc}
    (inside : pc.before = false) (taken : outputStep d s outcome pc = some s') :
    OutputMove d s outcome pc (s.outputEvent d outcome pc) s' := by
  cases pc <;> simp only [outputStep, loopStep] at taken
  case waiting | done => cases taken
  case drain | aliveTest | stop => cases inside
  case entry =>
    split at taken <;> cases taken
    · rename_i dead
      rw [State.outputEvent, if_pos dead]
      exact .dead dead
    · rename_i alive
      rw [State.outputEvent, if_neg alive]
      exact .enter
  case cacheTest =>
    split at taken <;> cases taken
    · exact .lookup
    · rename_i ready
      exact .cached fun subscribed uncached => ready ⟨uncached, subscribed⟩
  case cacheGet =>
    cases taken
    exact .cache
  case flush frames pc =>
    split at taken
    · cases taken
    · rename_i link control flushed
      cases taken
      rw [State.outputEvent, flushed]
      exact .flush flushed
  case subscribedTest frames =>
    split at taken
    · rename_i unsubscribed
      cases taken
      exact .unsubscribed fun subscribed => by cases unsubscribed.symm.trans subscribed
    · split at taken <;> cases taken
      · rename_i uncached
        exact .unsubscribed fun _ => uncached
      · rename_i cached
        exact .subscribed cached
  case popWork frames =>
    split at taken
    · rename_i nothing
      cases taken
      rw [State.outputEvent, nothing]
      exact .drained (EventLoopWorker.popWork_none (congrArg Prod.fst nothing))
    · rename_i topic worker popped
      cases taken
      have queue := EventLoopWorker.popWork_some (congrArg Prod.fst popped)
      rw [popped] at queue
      rw [State.outputEvent, popped]
      exact .popped queue
  case getCircle frames topic =>
    split at taken <;> cases taken
    · exact .unmade
    · rename_i ring made
      exact .made (by rw [made]; simp)
  case deliver frames topic pc =>
    split at taken
    · cases taken
    · rename_i record cached
      split at taken
      · cases taken
      · rename_i link control delivered
        cases taken
        rw [State.outputEvent, cached, Option.bind_some, delivered, ← cached]
        exact .deliver cached delivered
  case enableWrite =>
    have quiet := EventLoopWorker.enableWriteEvent_quiet s.worker (outcome ≠ .failed)
    split at taken
    · rename_i worker enabled
      cases taken
      rw [enabled] at quiet
      exact .armed quiet.queue (EventLoopWorker.enableWriteEvent_armed enabled)
    · rename_i worker refused
      cases taken
      rw [refused] at quiet
      exact .unarmed quiet.queue
  case requeueCircle frames topic =>
    split at taken <;> cases taken
    · exact .forget rfl
    · exact .requeueMeta
  case requeueMeta frames topic =>
    split at taken
    · cases taken
      exact .forget rfl
    · split at taken <;> cases taken
      · exact .requeueNext
      · exact .forget rfl
  case requeueNext frames topic cursor =>
    split at taken <;> cases taken
    · exact .requeueSubmit
    · exact .forget rfl
  case requeueSubmit frames topic =>
    cases taken
    exact .submit
  case hasControl =>
    cases taken
    split
    · exact .control
    · rename_i idle
      simp only [not_or, Bool.not_eq_true, Option.isSome_eq_false_iff, Option.isNone_iff_eq_none,
        not_not] at idle
      exact .clear idle.1 idle.2
  case hasWorks =>
    cases taken
    split
    · exact .works
    · rename_i idle
      exact .rest (by simpa [EventLoopWorker.hasWorks] using idle)
  case notifySelf =>
    split at taken
    · rename_i failed
      cases taken
      rw [State.outputEvent, if_pos failed]
      exact .unnotified
    · rename_i answered
      cases taken
      rw [State.outputEvent, if_neg answered]
      exact .notify
  case dropSubscribed =>
    cases taken
    exact .dropSubscribed
  case dropAlive =>
    cases taken
    exact .dropAlive
  case dropShutdown =>
    cases taken
    exact .dropShutdown
  case dropStop =>
    cases taken
    exact .dropStop

/-! ### What the next step needs -/

def SubscriberOutputState.Clear (output : SubscriberOutputState) : Prop :=
  output.pendingFrame = none ∧ output.controlFrames = []

/-- `flushPendingFrame` has a pending frame in its hands. -/
def FlushPc.started : FlushPc → Bool
  | .take => false
  | .send | .commit => true

def DeliverPc.started : DeliverPc → Bool
  | .flush pc => pc.started
  | _ => false

def LoopPoised (s : State) : LoopPc → Prop
  | .drain _ | .aliveTest _ | .stop => False
  | .flush _ pc => pc.started = true → s.link.output.pendingFrame ≠ none
  | .enableWrite => s.link.output.pendingFrame ≠ none
  | .subscribedTest _ | .hasWorks => s.link.output.Clear
  | .popWork _ => s.link.output.Clear ∧ s.record ≠ none
  | .getCircle _ _ => s.record ≠ none
  | .deliver _ topic pc => s.record ≠ none ∧ s.store.getCircle topic ≠ none ∧
    (pc.started = true → s.link.output.pendingFrame ≠ none)
  | .dropAlive => s.subscribed = false
  | .dropShutdown | .dropStop => s.subscribed = false ∧ s.alived = false
  | _ => True

def Poised (s : State) : Prop := ∃ pc, s.writer = .loop pc ∧ LoopPoised s pc

theorem goLoop_poised {s : State} {pc : LoopPc} (poised : LoopPoised (s.goLoop pc) pc) :
    Poised (s.goLoop pc) := ⟨pc, rfl, poised⟩

theorem nextFrame_poised (s : State) (frames : Nat) : Poised (s.nextFrame frames) := by
  unfold State.nextFrame
  split
  · exact goLoop_poised nofun
  · exact ⟨.hasControl, rfl, trivial⟩

theorem requeue_poised (s : State) (frames : Nat) (topic : Topic) : Poised (s.requeue frames topic) := by
  unfold State.requeue
  split
  · exact nextFrame_poised s frames
  · exact goLoop_poised trivial

theorem leave_poised (s : State) : Poised s.leave := ⟨.waiting, rfl, trivial⟩

/-- What the caller of `flushPendingFrame` can rely on. -/
def FlushLeaves (output : SubscriberOutputState) :
    Control FlushPc (PendingWriteStatus × Topic) → Prop
  | .goto _ | .ret (.wouldBlock, _) => output.pendingFrame ≠ none
  | .ret (.idle, _) => output.Clear
  | .ret _ => True

theorem FlushMove.leaves {link link' : Link} {record : Option Nat} {pc : FlushPc}
    {control : Control FlushPc (PendingWriteStatus × Topic)}
    (moved : FlushMove link record pc link' control)
    (started : pc.started = true → link.output.pendingFrame ≠ none) :
    FlushLeaves link'.output control := by
  have held : ∀ {frame}, link.output.pendingFrame = some frame → link.output.pendingFrame ≠ none :=
    fun pending none_ => nomatch pending.symm.trans none_
  cases moved with
  | resume pending | sent pending | blocked pending => exact held pending
  | idle pending control => exact ⟨pending, control⟩
  | next | accept => exact Option.some_ne_none _
  | again => exact started rfl
  | failed | orphan | business | control => trivial

theorem OutputMove.poised {d : Deployment} {s s' : State} {outcome : CallOutcome} {pc : LoopPc}
    {event : Option OutputEvent} (move : OutputMove d s outcome pc event s') (poised : LoopPoised s pc) :
    Poised s' := by
  cases move with
  | dead | unsubscribed | drained => exact leave_poised s
  | cached | cache | unmade | forget | submit => exact nextFrame_poised _ _
  | flush taken =>
    have leaves := (flushStep_move taken).leaves poised
    rename_i control
    rcases control with pc' | ⟨status, topic⟩
    · exact goLoop_poised fun _ => leaves
    · cases status with
      | complete => exact requeue_poised _ _ _
      | idle => exact goLoop_poised leaves
      | wouldBlock => exact goLoop_poised leaves
      | error => exact goLoop_poised trivial
  | subscribed cached => exact goLoop_poised ⟨poised, cached⟩
  | popped => exact goLoop_poised poised.2
  | made made => exact goLoop_poised ⟨poised, made, nofun⟩
  | deliver cached taken =>
    obtain ⟨known, made, started⟩ := poised
    cases deliverStep_move taken with
    | busy pending => exact goLoop_poised fun none_ => nomatch pending.symm.trans none_
    | absent | nothing | initializeTopic => exact nextFrame_poised _ _
    | entry | fresh | circleMeta | empty | park => exact goLoop_poised ⟨known, made, nofun⟩
    | disconnect => exact goLoop_poised trivial
    | updateEmpty => exact requeue_poised _ _ _
    | @flush pc link control moved =>
      have leaves := moved.leaves started
      rcases control with pc' | ⟨status, completed⟩
      · exact goLoop_poised ⟨known, made, fun _ => leaves⟩
      · cases status with
        | complete => exact requeue_poised _ _ _
        | idle => exact nextFrame_poised _ _
        | wouldBlock => exact goLoop_poised leaves
        | error => exact goLoop_poised trivial
  | clear pending control => exact goLoop_poised ⟨pending, control⟩
  | dropSubscribed => exact goLoop_poised rfl
  | dropAlive => exact goLoop_poised ⟨poised, rfl⟩
  | dropShutdown => exact goLoop_poised poised
  | enter | lookup | armed | unarmed | requeueMeta | requeueNext | requeueSubmit | control | works
  | rest | notify | unnotified | dropStop => exact goLoop_poised trivial

theorem flushStep_enabled {link : Link} {record : Option Nat} {outcome : CallOutcome} {pc : FlushPc}
    (started : pc.started = true → link.output.pendingFrame ≠ none)
    (answer : link.output.MayAnswer outcome) :
    ∃ result, flushStep link record outcome pc = some result := by
  cases pc with
  | take =>
    simp only [flushStep]
    split <;> exact ⟨_, rfl⟩
  | send =>
    obtain ⟨frame, pending⟩ := Option.ne_none_iff_exists'.mp (started rfl)
    simp only [flushStep, pending]
    split
    · exact ⟨_, rfl⟩
    · rename_i short
      have left : link.output.bytesLeft = frame.data.length - frame.offset := by
        simp only [SubscriberOutputState.bytesLeft, pending]
      cases outcome with
      | accepted count =>
        have within := answer (by omega)
        exact ⟨_, if_pos ⟨within.1, by omega⟩⟩
      | interrupted | wouldBlock | failed => exact ⟨_, rfl⟩
  | commit =>
    obtain ⟨frame, pending⟩ := Option.ne_none_iff_exists'.mp (started rfl)
    simp only [flushStep, pending]
    split
    · cases record <;> exact ⟨_, rfl⟩
    · exact ⟨_, rfl⟩

theorem deliverStep_enabled {config : RepeaterConfig} {store : MessageCircleComposite} {link : Link}
    {record : Nat} {topic : Topic} {outcome : CallOutcome} {pc : DeliverPc}
    (made : store.getCircle topic ≠ none)
    (started : pc.started = true → link.output.pendingFrame ≠ none)
    (answer : link.output.MayAnswer outcome) :
    ∃ result, deliverStep config store link record topic outcome pc = some result := by
  obtain ⟨ring, held⟩ := Option.ne_none_iff_exists'.mp made
  cases pc <;> simp only [deliverStep, held]
  case getMeta =>
    split
    · exact ⟨_, rfl⟩
    · split
      · exact ⟨_, rfl⟩
      · split <;> exact ⟨_, rfl⟩
  case read entry => split <;> exact ⟨_, rfl⟩
  case flush pc =>
    obtain ⟨result, flushed⟩ : ∃ result, flushStep link (some record) outcome pc = some result :=
      flushStep_enabled started answer
    rw [flushed]
    exact ⟨_, rfl⟩
  all_goals exact ⟨_, rfl⟩

theorem outputStep_enabled {d : Deployment} {s : State} {outcome : CallOutcome} {pc : LoopPc}
    (poised : LoopPoised s pc) (inside : (WriterPc.loop pc).returned = false)
    (answer : s.link.output.MayAnswer outcome) : ∃ s', outputStep d s outcome pc = some s' := by
  cases pc <;> simp only [outputStep, loopStep]
  case waiting | done => cases inside
  case drain | aliveTest | stop => exact poised.elim
  case flush frames pc =>
    obtain ⟨result, flushed⟩ := flushStep_enabled poised answer
    rw [flushed]
    exact ⟨_, rfl⟩
  case deliver frames topic pc =>
    obtain ⟨known, made, started⟩ := poised
    obtain ⟨record, cached⟩ := Option.ne_none_iff_exists'.mp known
    obtain ⟨result, delivered⟩ := deliverStep_enabled made started answer
    simp only [cached]
    rw [delivered]
    exact ⟨_, rfl⟩
  case requeueMeta =>
    split
    · exact ⟨_, rfl⟩
    · split <;> exact ⟨_, rfl⟩
  case popWork | getCircle | enableWrite | requeueCircle | notifySelf => split <;> exact ⟨_, rfl⟩
  all_goals exact ⟨_, rfl⟩

end MessageRepeater.Subscriber
