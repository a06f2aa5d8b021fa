import MessageRepeater.Foundation.Runs
import MessageRepeater.Combiner.MessageEvent
import MessageRepeater.Subscriber.Output

/-!
# The threads around one subscriber connection

Every thread that touches a subscriber connection, as a program counter over the shared state, with
one step for each locked operation, atomic load or store, or system call of
`src/subscriber/subscriber_acceptor.cpp`: the publisher and layer threads, the dispatch loop, the
connection's reading thread, its writer (the normal writing thread or its event loop), the
connection-detecting thread and the alive-detection pass. Other connections appear through what they
do to the shared record map. Alive detection keeps the lock of `AbstractBootstrap` from before it erases
the connection to the end of its release, and who calls `isConnectionExists`, `refreshKeepAlive` or
`killAlive` waits for it. The lock of `SubscriberBootstrap`, which `dispatchMessage` and
`releaseConnectionEventData` keep over several steps, does not make the others wait here, so the model
has every run of the program and some more.
-/

namespace MessageRepeater.Subscriber
open Foundation Combiner Config Connection

/-- What is fixed over a run. The notify pipes hold `pipeCapacity` bytes. -/
structure Deployment where
  config : RepeaterConfig
  key : Key
  pipeCapacity : Nat
  pipe_pos : 0 < pipeCapacity

/-- A deployment with the default configuration, for runs on concrete inputs. -/
def sample (eventLoop : Bool) : Deployment where
  config := { subscriberEnableEventLoop := eventLoop }
  key := ascii "127.0.0.1:9000"
  pipeCapacity := 4
  pipe_pos := by decide

/-! ### Program counters -/

/-- A publisher handler or a layer thread, between the steps of storing one message. -/
inductive PublisherPc where
  | idle
  | append (topic : Topic) (message : Bytes)
  | submit (topic : Topic)
  | notify
  deriving DecidableEq, Repr

/-- What a publisher or layer thread does next: `create` and `relay` start to store a message, as the
publisher handler and as a layer thread do it, and `prepare` is `start_layer_replay` making a ring. -/
inductive PublisherInput where
  | create (topic : Topic) (message : Bytes)
  | relay (topic : Topic) (message : Bytes)
  | prepare (topic : Topic)
  | run
  deriving DecidableEq, Repr

/-- The dispatch loop: its pipe callback and, for each popped topic, `dispatchMessage`. `count` is how
often the connection is still to be visited in the topic's list. -/
inductive DispatcherPc where
  | waiting
  | drain
  | popWorks
  | lookup (todo : List Topic)
  | submit (topic : Topic) (count : Nat) (todo : List Topic)
  | notify (topic : Topic) (count : Nat) (todo : List Topic)
  deriving DecidableEq, Repr

/-- What a client frame asks for. The topics of a subscribe are those of `parseSubscribeTopics`. -/
inductive Request where
  | ping
  | pong
  | subscribe (topics : List Topic)
  | other
  deriving DecidableEq, Repr

/-- What the reading thread does once a control frame is on the queue. -/
inductive AfterEnqueue where
  | refresh
  | again
  | answered (record : Nat) (topics : List Topic)
  deriving DecidableEq, Repr

inductive ReaderPc where
  | top
  | receive
  | enqueue (topic message : Bytes) (after : AfterEnqueue)
  | enqueueNotify (after : AfterEnqueue)
  | refresh
  | createRecord (topics : List Topic)
  | getRecord (topics : List Topic)
  | getCircle (record : Nat) (topics todo : List Topic)
  | circleMeta (record : Nat) (topics : List Topic) (topic : Topic) (todo : List Topic)
  | initializeTopic (record : Nat) (topics : List Topic) (topic : Topic) (sequence : Nat)
      (todo : List Topic)
  | putSubscribed (topics : List Topic)
  | putTopic (todo : List Topic)
  | lookupLoop (topic : Topic) (todo : List Topic)
  | submit (topic : Topic) (todo : List Topic)
  | notify (todo : List Topic)
  | exitAlive
  | exitShutdown
  | exitClose
  | exitKill
  | done
  deriving DecidableEq, Repr

/-- What the reading thread gets from outside: a complete frame, a failed receive, or the iteration
order of a new record's map. -/
inductive ReaderInput where
  | run
  | request (request : Request)
  | broken
  | order (topics : List Topic)
  deriving DecidableEq, Repr

/-- The normal writing thread. -/
inductive NormalPc where
  | top
  | existsTest
  | cacheTest
  | cacheGet
  | flush (pc : FlushPc)
  | subscribedTest
  | getTopics
  | getCircle (topic : Topic) (todo : List Topic)
  | deliver (topic : Topic) (todo : List Topic) (pc : DeliverPc)
  | dropSubscribed
  | dropAlive
  | exitShutdown
  | exitKill
  | exitAlive
  | done
  deriving DecidableEq, Repr

/-- The connection's event loop. `frames` is `completed_frames`. -/
inductive LoopPc where
  | waiting
  | drain (stopRequested : Bool)
  | aliveTest (stopRequested : Bool)
  | stop
  | entry
  | cacheTest
  | cacheGet
  | flush (frames : Nat) (pc : FlushPc)
  | subscribedTest (frames : Nat)
  | popWork (frames : Nat)
  | getCircle (frames : Nat) (topic : Topic)
  | deliver (frames : Nat) (topic : Topic) (pc : DeliverPc)
  | enableWrite
  | requeueCircle (frames : Nat) (topic : Topic)
  | requeueMeta (frames : Nat) (topic : Topic)
  | requeueNext (frames : Nat) (topic : Topic) (cursor : Nat)
  | requeueSubmit (frames : Nat) (topic : Topic)
  | hasControl
  | hasWorks
  | notifySelf
  | dropSubscribed
  | dropAlive
  | dropShutdown
  | dropStop
  | done
  deriving DecidableEq, Repr

inductive WriterPc where
  | normal (pc : NormalPc)
  | loop (pc : LoopPc)
  deriving DecidableEq, Repr

/-- The connection-detecting thread on this connection's arguments. -/
inductive DetectorPc where
  | scan
  | existsTest
  | subscribedTest
  | shutdown
  | kill
  | notifyStop
  | dropAlive
  | finish
  | finished
  deriving DecidableEq, Repr

/-- The alive-detection pass that expires this connection. -/
inductive ReclaimerPc where
  | watch
  | erase
  | removeRecord
  | removeSubscribed
  | releaseAlive
  | releaseNotify
  | releaseMaps
  | done
  deriving DecidableEq, Repr

/-! ### State -/

structure State where
  store : MessageCircleComposite
  /-- The bodies of every message ever appended to a topic. -/
  logs : Topic → List Bytes := fun _ => []
  link : Link := {}
  /-- `consume_records_`, shared with the other connections. -/
  composite : ConsumeRecordComposite
  /-- `connection_subscribed_` at the connection's key. -/
  subscribed : Bool := false
  /-- `client_connections_` has the connection's key. -/
  exists_ : Bool := true
  alived : Bool := true
  worker : EventLoopWorker := {}
  /-- `connection_event_loop_map_` has the connection's key. -/
  loopRegistered : Bool := false
  /-- How often each topic's list in `topic_connection_map_` has the connection's key. -/
  topicConnections : Topic → Nat := fun _ => 0
  reader : ReaderPc := .top
  writer : WriterPc
  /-- The record the writer has cached. -/
  record : Option Nat := none
  dispatch : EventLoopWorker := { disableDuplicateEntries := true }
  dispatcher : DispatcherPc := .waiting
  publishers : Nat → PublisherPc := fun _ => .idle
  detector : DetectorPc := .scan
  reclaimer : ReclaimerPc := .watch

def State.setPublisher (s : State) (id : Nat) (pc : PublisherPc) : State :=
  { s with publishers := fun i => if i = id then pc else s.publishers i }

/-- Alive detection does not have the lock of `AbstractBootstrap` for this connection. -/
def State.baseFree (s : State) : Prop := s.reclaimer = .watch ∨ s.reclaimer = .done

instance (s : State) : Decidable s.baseFree :=
  inferInstanceAs (Decidable (_ ∨ _))

/-- The next sequence of a topic's ring, zero without a ring. -/
def State.nextSequence (s : State) (topic : Topic) : Nat :=
  match s.store.getCircle topic with
  | none => 0
  | some ring => ring.getMeta.nextSequence

/-- The state when the connection's threads start. -/
def initial (d : Deployment) : State where
  store := .init d.config.maxTopicNumber
  composite := { maxRecordsSize := d.config.subscriberMaxConnection * 5 }
  worker := { disableDuplicateEntries := true, writeEvent := true }
  loopRegistered := d.config.subscriberEnableEventLoop
  writer := if d.config.subscriberEnableEventLoop then .loop .waiting else .normal .top

/-! ### Publishers and the dispatch loop -/

/-- An exception here ends the process, so it has no step. -/
def publisherStep (d : Deployment) (s : State) (id : Nat) (input : PublisherInput) : Option State :=
  match s.publishers id, input with
  | .idle, .create topic message =>
    match s.store.createCircleIfAbsent topic d.config.maxTopicCircleSize with
    | .error _ => none
    | .ok (false, _) => some s
    | .ok (true, store) => some ({ s with store }.setPublisher id (.append topic message))
  | .idle, .prepare topic =>
    match s.store.createCircleIfAbsent topic d.config.maxTopicCircleSize with
    | .error _ => none
    | .ok (_, store) => some { s with store }
  | .idle, .relay topic message => some (s.setPublisher id (.append topic message))
  | .append topic message, .run =>
    match s.store.appendMessageToCircle topic message with
    | .error _ => none
    | .ok (false, _) => some (s.setPublisher id .idle)
    | .ok (true, store) =>
      let s :=
        { s with
          store
          logs := fun t => if t = topic then s.logs t ++ [message] else s.logs t }
      some (s.setPublisher id (if d.config.subscriberEnableEventLoop then .submit topic else .idle))
  | .submit topic, .run =>
    let submitted := s.dispatch.submitWork topic
    some
      ({ s with dispatch := submitted.2 }.setPublisher id (if submitted.1 then .notify else .idle))
  | .notify, .run =>
    some ({ s with dispatch := s.dispatch.notifyStartWork d.pipeCapacity }.setPublisher id .idle)
  | _, _ => none

def dispatcherStep (d : Deployment) (s : State) : Option State :=
  match s.dispatcher with
  | .waiting =>
    if d.config.subscriberEnableEventLoop = true ∧ s.dispatch.notifyPipe ≠ [] then
      some { s with dispatcher := .drain }
    else none
  | .drain =>
    match s.dispatch.notifyPipe with
    | [] => some { s with dispatcher := .popWorks }
    | _ :: rest => some { s with dispatch := { s.dispatch with notifyPipe := rest } }
  | .popWorks =>
    let popped := s.dispatch.popWorks
    some { s with dispatch := popped.2, dispatcher := .lookup popped.1 }
  | .lookup [] => some { s with dispatcher := .waiting }
  | .lookup (topic :: todo) =>
    some { s with dispatcher := .submit topic (s.topicConnections topic) todo }
  | .submit _ 0 todo => some { s with dispatcher := .lookup todo }
  | .submit topic (count + 1) todo =>
    if s.loopRegistered then
      let submitted := s.worker.submitWork topic
      some
        { s with
          worker := submitted.2
          dispatcher := if submitted.1 then .notify topic count todo else .submit topic count todo }
    else some { s with dispatcher := .submit topic count todo }
  | .notify topic count todo =>
    some
      { s with
        worker := s.worker.notifyStartWork d.pipeCapacity
        dispatcher := .submit topic count todo }

/-! ### The reading thread -/

def messageOpPong : Topic := ascii "pong"
def messageOpSubscribe : Topic := ascii "subscribe"

/-- The response to a subscribe request. -/
def ReaderPc.respond (text : String) (after : AfterEnqueue) : ReaderPc :=
  .enqueue messageOpSubscribe (ascii text) after

def ReaderPc.afterEnqueue : AfterEnqueue → ReaderPc
  | .refresh => .refresh
  | .again => .top
  | .answered _ topics => .putSubscribed topics

/-- The answer that an enqueued control frame stands for. -/
def State.answer (s : State) : AfterEnqueue → List Answer
  | .answered record topics => [{ record, topics, nextSequence := s.nextSequence }]
  | _ => []

def readerStep (d : Deployment) (s : State) (input : ReaderInput) : Option State :=
  match s.reader, input with
  | .top, .run => some { s with reader := if s.alived then .receive else .exitAlive }
  | .receive, .broken => some { s with reader := .exitAlive }
  | .receive, .request .ping => some { s with reader := .enqueue messageOpPong (ascii "ok") .refresh }
  | .receive, .request .pong => some { s with reader := .top }
  | .receive, .request .other => some { s with reader := .top }
  | .receive, .request (.subscribe topics) =>
    some
      { s with
        reader :=
          if topics.length = 0 then .respond "topic is empty or not support" .again
          else .createRecord topics }
  | .enqueue topic message after, .run =>
    match s.link.enqueueControlFrame topic message with
    | none => some { s with reader := .exitAlive }
    | some link =>
      some
        { s with
          link := link.noteAnswers (s.answer after)
          reader :=
            if d.config.subscriberEnableEventLoop then .enqueueNotify after
            else .afterEnqueue after }
  | .enqueueNotify after, .run =>
    some
      { s with
        worker := s.worker.notifyStartWork d.pipeCapacity
        reader := .afterEnqueue after }
  | .refresh, .run => if s.baseFree then some { s with reader := .top } else none
  | .createRecord topics, .order order =>
    if order.Perm topics.dedup then
      match s.composite.createNewRecord d.key topics s.link.records.length with
      | (false, _) => some { s with reader := .respond "fail subscribe" .again }
      | (true, composite) =>
        some
          { s with
            composite
            link := s.link.createRecord topics order
            reader := .getRecord topics }
    else none
  | .getRecord topics, .run =>
    match s.composite.getRecord d.key with
    | none => some { s with reader := .respond "fail subscribe" .again }
    | some record => some { s with reader := .getCircle record topics topics }
  | .getCircle record topics [], .run =>
    some { s with reader := .respond "ok" (.answered record topics) }
  | .getCircle record topics (topic :: todo), .run =>
    match s.store.getCircle topic with
    | none => some { s with reader := .initializeTopic record topics topic 0 todo }
    | some _ => some { s with reader := .circleMeta record topics topic todo }
  | .circleMeta record topics topic todo, .run =>
    some { s with reader := .initializeTopic record topics topic (s.nextSequence topic) todo }
  | .initializeTopic record topics topic sequence todo, .run =>
    some
      { s with
        link := s.link.initializeTopic record topic sequence
        reader := .getCircle record topics todo }
  | .putSubscribed topics, .run =>
    some
      { s with
        subscribed := true
        reader := if d.config.subscriberEnableEventLoop then .putTopic topics else .top }
  | .putTopic [], .run => some { s with reader := .top }
  | .putTopic (topic :: todo), .run =>
    some
      { s with
        topicConnections := fun t => if t = topic then s.topicConnections t + 1 else s.topicConnections t
        reader := .lookupLoop topic todo }
  | .lookupLoop topic todo, .run =>
    some { s with reader := if s.loopRegistered then .submit topic todo else .putTopic todo }
  | .submit topic todo, .run =>
    let submitted := s.worker.submitWork topic
    some
      { s with
        worker := submitted.2
        reader := if submitted.1 then .notify todo else .putTopic todo }
  | .notify todo, .run =>
    some
      { s with
        worker := s.worker.notifyStartWork d.pipeCapacity
        reader := .putTopic todo }
  | .exitAlive, .run => some { s with alived := false, reader := .exitShutdown }
  | .exitShutdown, .run => some { s with reader := .exitClose }
  | .exitClose, .run => some { s with reader := .exitKill }
  | .exitKill, .run => if s.baseFree then some { s with reader := .done } else none
  | _, _ => none

/-! ### The normal writing thread -/

def State.goNormal (s : State) (pc : NormalPc) : State := { s with writer := .normal pc }

/-- The next topic of the scan, or the next turn of the loop. -/
def NormalPc.scan : List Topic → NormalPc
  | [] => .top
  | topic :: todo => .getCircle topic todo

/-- Where the normal writing thread goes on from `flushPendingFrame`. -/
def NormalPc.afterFlush : Control FlushPc (PendingWriteStatus × Topic) → NormalPc
  | .goto pc => .flush pc
  | .ret (.error, _) => .exitShutdown
  | .ret (.wouldBlock, _) => .top
  | .ret (.complete, _) => .top
  | .ret (.idle, _) => .subscribedTest

/-- Where it goes on from `deliverTopic`. -/
def NormalPc.afterDeliver (topic : Topic) (todo : List Topic) :
    Control DeliverPc TopicDeliveryStatus → NormalPc
  | .goto pc => .deliver topic todo pc
  | .ret .disconnect => .dropSubscribed
  | .ret .wouldBlock => .top
  | .ret _ => .scan todo

def normalStep (d : Deployment) (s : State) (outcome : CallOutcome) : NormalPc → Option State
  | .top => some (s.goNormal (if s.alived then .existsTest else .exitShutdown))
  | .existsTest =>
    if s.baseFree then some (s.goNormal (if s.exists_ then .cacheTest else .exitShutdown)) else none
  | .cacheTest =>
    some (s.goNormal (if s.record = none ∧ s.subscribed = true then .cacheGet else .flush .take))
  | .cacheGet =>
    some ({ s with record := s.composite.getRecord d.key }.goNormal (.flush .take))
  | .flush pc =>
    match flushStep s.link s.record outcome pc with
    | none => none
    | some (link, control) => some ({ s with link }.goNormal (.afterFlush control))
  | .subscribedTest =>
    some
      (s.goNormal
        (if s.subscribed = false then .top
        else if s.record = none then .exitShutdown
        else .getTopics))
  | .getTopics =>
    match s.record.bind fun record => s.link.records[record]? with
    | none => none
    | some record => some (s.goNormal (.scan record.topics))
  | .getCircle topic todo =>
    match s.store.getCircle topic with
    | none => some (s.goNormal (.scan todo))
    | some _ => some (s.goNormal (.deliver topic todo .getMeta))
  | .deliver topic todo pc =>
    match s.record with
    | none => none
    | some record =>
      match deliverStep d.config s.store s.link record topic outcome pc with
      | none => none
      | some (link, control) => some ({ s with link }.goNormal (.afterDeliver topic todo control))
  | .dropSubscribed => some ({ s with subscribed := false }.goNormal .dropAlive)
  | .dropAlive => some ({ s with alived := false }.goNormal .exitShutdown)
  | .exitShutdown => some (s.goNormal .exitKill)
  | .exitKill => if s.baseFree then some (s.goNormal .exitAlive) else none
  | .exitAlive => some ({ s with alived := false }.goNormal .done)
  | .done => none

/-! ### The event loop of the connection -/

def maxFramesPerCallback : Nat := 16

def State.goLoop (s : State) (pc : LoopPc) : State := { s with writer := .loop pc }

/-- The return from `processEventLoopOutput` that disables the write event first. -/
def State.leave (s : State) : State :=
  { s with worker := s.worker.disableWriteEvent, writer := .loop .waiting }

/-- The test of the `while` loop of `processEventLoopOutput`. -/
def State.nextFrame (s : State) (frames : Nat) : State :=
  if frames < maxFramesPerCallback then s.goLoop (.flush frames .take)
  else { s with worker := s.worker.disableWriteEvent, writer := .loop .hasControl }

/-- The call of `requeueTopicIfPending` after a completed frame. -/
def State.requeue (s : State) (frames : Nat) (topic : Topic) : State :=
  if topic = [] ∨ s.record = none then s.nextFrame frames
  else s.goLoop (.requeueCircle frames topic)

/-- Where `processEventLoopOutput` goes on from `flushPendingFrame`. -/
def State.afterFlush (s : State) (frames : Nat) : Control FlushPc (PendingWriteStatus × Topic) → State
  | .goto pc => s.goLoop (.flush frames pc)
  | .ret (.error, _) => s.goLoop .dropSubscribed
  | .ret (.wouldBlock, _) => s.goLoop .enableWrite
  | .ret (.complete, topic) => s.requeue (frames + 1) topic
  | .ret (.idle, _) => s.goLoop (.subscribedTest frames)

/-- Where it goes on from `deliverTopic`. -/
def State.afterDeliver (s : State) (frames : Nat) (topic : Topic) :
    Control DeliverPc TopicDeliveryStatus → State
  | .goto pc => s.goLoop (.deliver frames topic pc)
  | .ret .disconnect => s.goLoop .dropSubscribed
  | .ret .wouldBlock => s.goLoop .enableWrite
  | .ret .delivered => s.requeue (frames + 1) topic
  | .ret .noMessage => s.nextFrame frames

def loopStep (d : Deployment) (s : State) (outcome : CallOutcome) : LoopPc → Option State
  | .waiting => if s.worker.notifyPipe ≠ [] then some (s.goLoop (.drain false)) else none
  | .drain stopRequested =>
    match s.worker.notifyPipe with
    | [] => some (s.goLoop (.aliveTest stopRequested))
    | byte :: rest =>
      some
        ({ s with worker := { s.worker with notifyPipe := rest } }.goLoop
          (.drain (stopRequested || byte == 5)))
  | .aliveTest stopRequested =>
    some (s.goLoop (if stopRequested = true ∨ s.alived = false then .stop else .entry))
  | .stop => some ({ s with worker := s.worker.stop }.goLoop .done)
  | .entry => some (if s.alived = false then s.leave else s.goLoop .cacheTest)
  | .cacheTest =>
    some
      (if s.record = none ∧ s.subscribed = true then s.goLoop .cacheGet
      else s.nextFrame 0)
  | .cacheGet => some ({ s with record := s.composite.getRecord d.key }.nextFrame 0)
  | .flush frames pc =>
    match flushStep s.link s.record outcome pc with
    | none => none
    | some (link, control) => some ({ s with link }.afterFlush frames control)
  | .subscribedTest frames =>
    some
      (if s.subscribed = false then s.leave
      else if s.record = none then s.leave
      else s.goLoop (.popWork frames))
  | .popWork frames =>
    match s.worker.popWork with
    | (none, _) => some s.leave
    | (some topic, worker) => some ({ s with worker }.goLoop (.getCircle frames topic))
  | .getCircle frames topic =>
    match s.store.getCircle topic with
    | none => some (s.nextFrame frames)
    | some _ => some (s.goLoop (.deliver frames topic .getMeta))
  | .deliver frames topic pc =>
    match s.record with
    | none => none
    | some record =>
      match deliverStep d.config s.store s.link record topic outcome pc with
      | none => none
      | some (link, control) => some ({ s with link }.afterDeliver frames topic control)
  | .enableWrite =>
    match s.worker.enableWriteEvent (outcome ≠ .failed) with
    | (true, worker) => some ({ s with worker }.goLoop .waiting)
    | (false, worker) => some ({ s with worker }.goLoop .dropSubscribed)
  | .requeueCircle frames topic =>
    match s.store.getCircle topic with
    | none => some (s.nextFrame frames)
    | some _ => some (s.goLoop (.requeueMeta frames topic))
  | .requeueMeta frames topic =>
    match s.record.bind fun record => s.link.getMeta record topic with
    | none => some (s.nextFrame frames)
    | some entry =>
      some
        (if entry.initialized then s.goLoop (.requeueNext frames topic entry.nextSequence)
        else s.nextFrame frames)
  | .requeueNext frames topic cursor =>
    some
      (if cursor < s.nextSequence topic then s.goLoop (.requeueSubmit frames topic)
      else s.nextFrame frames)
  | .requeueSubmit frames topic =>
    some ({ s with worker := (s.worker.submitWork topic).2 }.nextFrame frames)
  | .hasControl =>
    some
      (s.goLoop
        (if s.link.output.pendingFrame.isSome = true ∨ s.link.output.controlFrames ≠ [] then .notifySelf
        else .hasWorks))
  | .hasWorks => some (s.goLoop (if s.worker.hasWorks then .notifySelf else .waiting))
  | .notifySelf =>
    some ({ s with worker := s.worker.notifyStartWork d.pipeCapacity }.goLoop .waiting)
  | .dropSubscribed => some ({ s with subscribed := false }.goLoop .dropAlive)
  | .dropAlive => some ({ s with alived := false }.goLoop .dropShutdown)
  | .dropShutdown => some ({ s with worker := s.worker.disableWriteEvent }.goLoop .dropStop)
  | .dropStop => some ({ s with worker := s.worker.stop }.goLoop .done)
  | .done => none

def writerStep (d : Deployment) (s : State) (outcome : CallOutcome) : Option State :=
  match s.writer with
  | .normal pc => normalStep d s outcome pc
  | .loop pc => loopStep d s outcome pc

/-- libevent starts the write callback: the socket is writable and the event is armed. -/
def writableStep (s : State) : Option State :=
  if s.writer = .loop .waiting ∧ s.worker.writeEventEnabled = true then some (s.goLoop .entry)
  else none

/-! ### Teardown from outside -/

def detectorStep (d : Deployment) (s : State) : Option State :=
  match s.detector with
  | .scan =>
    if d.config.subscriberEnableEventLoop then
      some { s with detector := if s.alived then .existsTest else .shutdown }
    else none
  | .existsTest =>
    if s.baseFree then some { s with detector := if s.exists_ then .subscribedTest else .shutdown }
    else none
  | .subscribedTest => some { s with detector := .scan }
  | .shutdown => some { s with detector := .kill }
  | .kill => if s.baseFree then some { s with detector := .notifyStop } else none
  | .notifyStop =>
    some { s with worker := (s.worker.notifyStopWork d.pipeCapacity).2, detector := .dropAlive }
  | .dropAlive => some { s with alived := false, detector := .finish }
  | .finish => some { s with detector := .finished }
  | .finished => none

def reclaimerStep (d : Deployment) (s : State) : Option State :=
  match s.reclaimer with
  | .watch => some { s with reclaimer := .erase }
  | .erase => some { s with exists_ := false, reclaimer := .removeRecord }
  | .removeRecord =>
    some
      { s with
        composite := s.composite.removeRecord d.key
        reclaimer := .removeSubscribed }
  | .removeSubscribed =>
    some
      { s with
        subscribed := false
        reclaimer := if d.config.subscriberEnableEventLoop then .releaseAlive else .releaseMaps }
  | .releaseAlive => some { s with alived := false, reclaimer := .releaseNotify }
  | .releaseNotify =>
    some { s with worker := (s.worker.notifyStopWork d.pipeCapacity).2, reclaimer := .releaseMaps }
  | .releaseMaps =>
    some { s with loopRegistered := false, topicConnections := fun _ => 0, reclaimer := .done }
  | .done => none

/-! ### The system -/

inductive Action where
  | publisher (id : Nat) (input : PublisherInput)
  | dispatcher
  | reader (input : ReaderInput)
  | writer (outcome : CallOutcome)
  | writable
  | detector
  | reclaimer
  /-- Another connection's record is put into the map, or taken out. -/
  | other (key : Key) (record : Option Nat)
  deriving DecidableEq, Repr

def step (d : Deployment) (s : State) : Action → Option State
  | .publisher id input => publisherStep d s id input
  | .dispatcher => dispatcherStep d s
  | .reader input => readerStep d s input
  | .writer outcome => writerStep d s outcome
  | .writable => writableStep s
  | .detector => detectorStep d s
  | .reclaimer => reclaimerStep d s
  | .other key record =>
    if key = d.key then none
    else
      match record with
      | some record =>
        some
          { s with
            composite :=
              { s.composite with consumeRecords := s.composite.consumeRecords.insert key record } }
      | none => some { s with composite := s.composite.removeRecord key }

end MessageRepeater.Subscriber
