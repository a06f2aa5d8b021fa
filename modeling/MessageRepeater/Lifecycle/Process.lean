import Mathlib.Logic.Function.Basic
import MessageRepeater.Foundation.Runs
import MessageRepeater.Config.RepeaterConfig
import MessageRepeater.Connection.SocketFrame

/-!
# The life of connections

Every connection of the process, from `accept` to the end of its last thread: `startAccept`,
`startAliveDetection` and the locked operations of `src/connection/acceptor.cpp`, the handler of
`src/publisher/publisher_acceptor.cpp`, and the reading, writing and connection-detecting threads of
`src/subscriber/subscriber_acceptor.cpp`. A step is one locked operation, atomic load or store, or system
call. What `recv`, `send` and the queues of a connection answer is an input here. A lock that a thread keeps
over several of its steps makes the others wait.
-/

namespace MessageRepeater.Lifecycle
open Foundation Combiner Config Connection

/-- Accepted sockets, numbered as they come. -/
abbrev ConnId := Nat

inductive Role where
  | publisher | subscriber
  deriving DecidableEq, Repr

/-- The arguments of `acceptHandle`. -/
structure Socket where
  role : Role := .publisher
  key : Key := []
  clientFd : Nat := 0
  deriving DecidableEq, Repr

/-- `owner` is the socket that was accepted for the entry. -/
structure ConnectionEntity where
  clientFd : Nat
  latestHeartbeat : Nat
  owner : ConnId
  deriving DecidableEq, Repr

/-! ### Program counters -/

/-- What a subscriber's frame asks for. The topics of a subscribe are those of `parseSubscribeTopics`. -/
inductive Request where
  | ping
  | subscribe (topics : List Topic)
  | other
  deriving DecidableEq, Repr

inductive PublisherPc where
  | receive | pong | refresh | exitClose | exitKill | done
  deriving DecidableEq, Repr

inductive AfterEnqueue where
  | refresh
  | again
  | answered (topics : List Topic)
  deriving DecidableEq, Repr

/-- `SubscriberBootstrap::acceptHandle` and then the reading thread that it starts. -/
inductive ReaderPc where
  | start
  | putDetectingArgs
  | top
  | receive
  | enqueue (after : AfterEnqueue)
  | refresh
  | createRecord (topics : List Topic)
  | getRecord (topics : List Topic)
  | putSubscribed (topics : List Topic)
  | putTopic (todo : List Topic)
  | exitAlive
  | exitShutdown
  | exitClose
  | exitKill
  | done
  deriving DecidableEq, Repr

inductive HandlerPc where
  /-- No connection, or one that `startAccept` has turned away. -/
  | absent
  /-- `accept` has returned and `startAccept` has not yet stored the entry. -/
  | accepting
  | publisher (pc : PublisherPc)
  | subscriber (pc : ReaderPc)
  deriving DecidableEq, Repr

/-- The normal writing thread or the event loop. Where they do the same they share a name; `existsTest`
and the last three are the thread's, `entry` is the loop's. -/
inductive WriterPc where
  | notStarted
  | waiting
  | existsTest
  | entry
  | cacheTest
  | cacheGet
  | flush
  | subscribedTest
  | deliver
  /-- In `flushPendingFrame` on the frame that `deliverTopic` has just made. -/
  | sending
  | dropSubscribed
  | dropAlive
  | shutdown
  | exitKill
  | exitAlive
  | done
  deriving DecidableEq, Repr

/-- The threads of a connection and what they share. -/
structure Threads where
  handler : HandlerPc := .absent
  writer : WriterPc := .notStarted
  alived : Bool := true
  /-- The record that the writer has cached. -/
  record : Option Nat := none
  /-- The pending frame is a business frame. -/
  pendingBusiness : Bool := false
  /-- The event loop's pipe has a stop byte. -/
  stopRequested : Bool := false
  detectingFinished : Bool := false
  /-- A subscribe request of the connection has been answered with `ok`. -/
  answered : Bool := false
  deriving DecidableEq, Repr

inductive DetectStage where
  | existsTest | shutdown | kill | notifyStop | dropAlive | finish
  deriving DecidableEq, Repr

/-- The connection-detecting thread with the rest of its `argumentsList`. -/
inductive DetectorPc where
  | scan (todo : List ConnId)
  | visit (stage : DetectStage) (conn : ConnId) (todo : List ConnId)
  deriving DecidableEq, Repr

inductive ClearStage where
  | record | subscribed | alive | maps
  deriving DecidableEq, Repr

/-- A server's alive detection, which has the server's lock wherever it is not `idle`. The lists are
`idle_expired_keys`, each with the socket whose entry has expired. -/
inductive PassPc where
  | idle
  | closing (now : Nat) (expired : List (Key × ConnId))
  | erase (expired : List (Key × ConnId))
  | clear (stage : ClearStage) (key : Key) (owner : ConnId) (expired : List (Key × ConnId))
  deriving DecidableEq, Repr

/-! ### State -/

inductive DescriptorOp where
  | close
  | shutdown
  | send (business : Bool)
  | recv
  deriving DecidableEq, Repr

/-- A system call for the connection `issuer`, and the socket that its number stood for. -/
structure DescriptorUse where
  op : DescriptorOp
  issuer : ConnId
  hit : Option ConnId
  deriving DecidableEq, Repr

inductive KeyedOp where
  | killAlive | removeSubscribed | release
  deriving DecidableEq, Repr

/-- An operation by key for the connection `issuer`, and the connection whose entry it found. -/
structure KeyedUse where
  op : KeyedOp
  issuer : ConnId
  hit : ConnId
  deriving DecidableEq, Repr

structure State where
  now : Nat
  /-- The accepted sockets behind the open descriptor numbers. -/
  fds : Nat → Option ConnId := fun _ => none
  count : Nat := 0
  sockets : ConnId → Socket := fun _ => {}
  threads : ConnId → Threads := fun _ => {}
  /-- What `startAccept` has in hand. -/
  acceptors : Role → Option ConnId := fun _ => none
  clientConnections : Role → AList (fun _ : Key => ConnectionEntity) := fun _ => ∅
  passes : Role → PassPc := fun _ => .idle
  detector : DetectorPc := .scan []
  composite : ConsumeRecordComposite
  createdRecords : Nat := 0
  /-- `connection_subscribed_`, with the connection whose reading thread has set the flag. -/
  subscribed : AList (fun _ : Key => ConnId) := ∅
  /-- `connection_event_loop_map_`: the connection that a loop writes to. -/
  eventLoops : AList (fun _ : Key => ConnId) := ∅
  /-- `connection_detecting_args_map_`: the connection that the arguments are about. -/
  detectingArgs : AList (fun _ : Key => ConnId) := ∅
  topicConnections : Topic → List Key := fun _ => []
  /-- The system calls so far, newest first. -/
  descriptorUses : List DescriptorUse := []
  keyedUses : List KeyedUse := []

def initial (config : RepeaterConfig) (now : Nat) : State where
  now
  composite := { maxRecordsSize := config.subscriberMaxConnection * 5 }

/-- The connection's entry in `client_connections_`. -/
def State.entry (s : State) (c : ConnId) : Option ConnectionEntity :=
  (s.clientConnections (s.sockets c).role).lookup (s.sockets c).key

/-- Nobody has the lock of the role's `AbstractBootstrap`. -/
def State.baseFree (s : State) (role : Role) : Prop := s.passes role = .idle

/-- The lock of `SubscriberBootstrap` is kept only from one half of `releaseConnectionEventData` to the
other. -/
def State.mapsFree (s : State) : Prop :=
  match s.passes .subscriber with
  | .clear .maps _ _ _ => False
  | _ => True

instance (s : State) (role : Role) : Decidable (s.baseFree role) := by
  unfold State.baseFree
  infer_instance

instance (s : State) : Decidable s.mapsFree := by
  unfold State.mapsFree
  split <;> infer_instance

def State.isConnectionExists (s : State) (c : ConnId) : Bool := (s.entry c).isSome

def State.isSubscribed (s : State) (c : ConnId) : Bool :=
  (s.subscribed.lookup (s.sockets c).key).isSome

/-! ### Operations on what connections share -/

inductive Operation where
  | nothing
  | use (op : DescriptorOp)
  | refreshKeepAlive
  | killAlive
  | putEventLoop
  | putDetectingArgs
  | createNewRecord (topics : List Topic)
  | putSubscribed
  | putTopicConnection (topic : Topic)
  | removeSubscribed
  deriving DecidableEq, Repr

/-- A system call on a number, for a connection. -/
def State.use (s : State) (c : ConnId) (fd : Nat) (op : DescriptorOp) : State :=
  { s with
    fds := if op = .close then Function.update s.fds fd none else s.fds
    descriptorUses := { op, issuer := c, hit := s.fds fd } :: s.descriptorUses }

def State.setHeartbeat (s : State) (c : ConnId) (heartbeat : Nat) : State :=
  match s.entry c with
  | none => s
  | some entity =>
    let role := (s.sockets c).role
    { s with
      clientConnections :=
        Function.update s.clientConnections role
          ((s.clientConnections role).insert (s.sockets c).key
            { entity with latestHeartbeat := heartbeat }) }

/-- An operation by key for `c` that may find another connection's entry. -/
def State.noteKeyed (s : State) (op : KeyedOp) (c : ConnId) (hit : Option ConnId) : State :=
  match hit with
  | none => s
  | some hit => { s with keyedUses := { op, issuer := c, hit } :: s.keyedUses }

/-- An operation that a thread of connection `c` performs with the connection's own arguments. -/
def State.perform (s : State) (c : ConnId) : Operation → State
  | .nothing => s
  | .use op => s.use c (s.sockets c).clientFd op
  | .refreshKeepAlive => s.setHeartbeat c s.now
  | .killAlive =>
    (s.setHeartbeat c (sub64 s.now 86400)).noteKeyed .killAlive c ((s.entry c).map (·.owner))
  | .putEventLoop => { s with eventLoops := s.eventLoops.insert (s.sockets c).key c }
  | .putDetectingArgs => { s with detectingArgs := s.detectingArgs.insert (s.sockets c).key c }
  | .createNewRecord topics =>
    { s with
      composite := (s.composite.createNewRecord (s.sockets c).key topics s.createdRecords).2
      createdRecords := s.createdRecords + 1 }
  | .putSubscribed => { s with subscribed := s.subscribed.insert (s.sockets c).key c }
  | .putTopicConnection topic =>
    { s with
      topicConnections :=
        Function.update s.topicConnections topic (s.topicConnections topic ++ [(s.sockets c).key]) }
  | .removeSubscribed =>
    { s with subscribed := s.subscribed.erase (s.sockets c).key }.noteKeyed .removeSubscribed c
      (s.subscribed.lookup (s.sockets c).key)

/-! ### The connection's own threads -/

/-- What a thread gets from outside. `more` is a system call that leaves more to do. -/
inductive Input where
  | run
  | more
  | frame (request : Request)
  | broken
  | enqueued (succeeds : Bool)
  /-- Whether `initWriteEvent` has made the write event. -/
  | prepared (succeeds : Bool)
  /-- The end of a frame's send, and whether the write event can then be enabled. -/
  | sent (status : NonBlockingSendStatus) (armed : Bool)
  | pipe
  | writable
  | noFrame
  | noMessage
  | message
  | overrun
  /-- The scan is over, and whether the loop could notify itself. -/
  | leave (notified : Bool)
  deriving DecidableEq, Repr

/-- `PublisherBootstrap::acceptHandle`. Storing messages touches no connection. -/
def publisherStep (s : State) (t : Threads) (pc : PublisherPc) (input : Input) :
    Option (Operation × Threads) :=
  match pc, input with
  | .receive, .more => some (.use .recv, t)
  | .receive, .broken => some (.use .recv, { t with handler := .publisher .exitClose })
  | .receive, .frame .ping => some (.use .recv, { t with handler := .publisher .pong })
  | .receive, .frame _ => some (.use .recv, t)
  | .pong, .more => some (.use (.send false), t)
  | .pong, .sent .complete _ => some (.use (.send false), { t with handler := .publisher .refresh })
  | .pong, .sent _ _ => some (.use (.send false), { t with handler := .publisher .receive })
  | .refresh, .run =>
    if s.baseFree .publisher then some (.refreshKeepAlive, { t with handler := .publisher .receive })
    else none
  | .exitClose, .run => some (.use .close, { t with handler := .publisher .exitKill })
  | .exitKill, .run =>
    if s.baseFree .publisher then some (.killAlive, { t with handler := .publisher .done }) else none
  | _, _ => none

def Threads.read (t : Threads) (pc : ReaderPc) : Threads := { t with handler := .subscriber pc }

def Threads.afterEnqueue (t : Threads) : AfterEnqueue → Threads
  | .refresh => t.read .refresh
  | .again => t.read .top
  | .answered topics => { t.read (.putSubscribed topics) with answered := true }

def readerStep (config : RepeaterConfig) (s : State) (c : ConnId) (t : Threads) (pc : ReaderPc)
    (input : Input) : Option (Operation × Threads) :=
  match pc, input with
  | .start, .run =>
    if config.subscriberEnableEventLoop then none
    else some (.nothing, { t.read .top with writer := .waiting })
  | .start, .prepared succeeds =>
    if config.subscriberEnableEventLoop ∧ s.mapsFree then
      some (.putEventLoop, { t.read .putDetectingArgs with alived := t.alived && succeeds })
    else none
  | .putDetectingArgs, .run =>
    if s.mapsFree then some (.putDetectingArgs, { t.read .top with writer := .waiting }) else none
  | .top, .run => some (.nothing, t.read (if t.alived then .receive else .exitAlive))
  | .receive, .more => some (.use .recv, t.read .top)
  | .receive, .broken => some (.use .recv, t.read .exitAlive)
  | .receive, .frame .ping => some (.use .recv, t.read (.enqueue .refresh))
  | .receive, .frame .other => some (.use .recv, t.read .top)
  | .receive, .frame (.subscribe topics) =>
    some (.use .recv,
      t.read (if topics.length = 0 then .enqueue .again else .createRecord topics))
  | .enqueue after, .enqueued succeeds =>
    some (.nothing, if succeeds then t.afterEnqueue after else t.read .exitAlive)
  | .refresh, .run =>
    if s.baseFree .subscriber then some (.refreshKeepAlive, t.read .top) else none
  | .createRecord topics, .run =>
    match s.composite.createNewRecord (s.sockets c).key topics s.createdRecords with
    | (false, _) => some (.nothing, t.read (.enqueue .again))
    | (true, _) => some (.createNewRecord topics, t.read (.getRecord topics))
  | .getRecord topics, .run =>
    match s.composite.getRecord (s.sockets c).key with
    | none => some (.nothing, t.read (.enqueue .again))
    | some _ => some (.nothing, t.read (.enqueue (.answered topics)))
  | .putSubscribed topics, .run =>
    if s.mapsFree then
      some (.putSubscribed,
        t.read (if config.subscriberEnableEventLoop then .putTopic topics else .top))
    else none
  | .putTopic [], .run => some (.nothing, t.read .top)
  | .putTopic (topic :: todo), .run =>
    if s.mapsFree then some (.putTopicConnection topic, t.read (.putTopic todo)) else none
  | .exitAlive, .run => some (.nothing, { t.read .exitShutdown with alived := false })
  | .exitShutdown, .run => some (.use .shutdown, t.read .exitClose)
  | .exitClose, .run => some (.use .close, t.read .exitKill)
  | .exitKill, .run => if s.baseFree .subscriber then some (.killAlive, t.read .done) else none
  | _, _ => none

def Threads.write (t : Threads) (pc : WriterPc) : Threads := { t with writer := pc }

/-- The pending frame after a send of it. -/
def Threads.sent (t : Threads) (status : NonBlockingSendStatus) : Threads :=
  { t with pendingBusiness := t.pendingBusiness && status != .complete }

/-- `startAcceptHandleNormalWritingThread`. -/
def normalStep (s : State) (c : ConnId) (t : Threads) (input : Input) :
    Option (Operation × Threads) :=
  match t.writer, input with
  | .waiting, .run => some (.nothing, t.write (if t.alived then .existsTest else .shutdown))
  | .existsTest, .run =>
    if s.baseFree .subscriber then
      some (.nothing, t.write (if s.isConnectionExists c then .cacheTest else .shutdown))
    else none
  | .cacheTest, .run =>
    if s.mapsFree then
      some (.nothing, t.write (if t.record.isNone && s.isSubscribed c then .cacheGet else .flush))
    else none
  | .cacheGet, .run =>
    some (.nothing, { t.write .flush with record := s.composite.getRecord (s.sockets c).key })
  | .flush, .noFrame => if t.pendingBusiness then none else some (.nothing, t.write .subscribedTest)
  | .flush, .more => some (.use (.send t.pendingBusiness), t)
  | .flush, .sent status _ =>
    some (.use (.send t.pendingBusiness),
      (t.sent status).write (if status = .error then .shutdown else .waiting))
  | .subscribedTest, .run =>
    if s.mapsFree then
      some (.nothing,
        t.write
          (if s.isSubscribed c then if t.record.isSome then .deliver else .shutdown else .waiting))
    else none
  | .deliver, .noMessage => some (.nothing, t)
  | .deliver, .message => some (.nothing, { t.write .sending with pendingBusiness := true })
  | .deliver, .overrun => some (.nothing, t.write .dropSubscribed)
  | .deliver, .leave _ => some (.nothing, t.write .waiting)
  | .sending, .more => some (.use (.send true), t)
  | .sending, .sent status _ =>
    some (.use (.send true),
      (t.sent status).write
        (match status with
        | .complete => .deliver
        | .wouldBlock => .waiting
        | .error => .dropSubscribed))
  | .dropSubscribed, .run => if s.mapsFree then some (.removeSubscribed, t.write .dropAlive) else none
  | .dropAlive, .run => some (.nothing, { t.write .shutdown with alived := false })
  | .shutdown, .run => some (.use .shutdown, t.write .exitKill)
  | .exitKill, .run => if s.baseFree .subscriber then some (.killAlive, t.write .exitAlive) else none
  | .exitAlive, .run => some (.nothing, { t.write .done with alived := false })
  | _, _ => none

/-- Where `processEventLoopOutput` goes on after a frame's send. -/
def WriterPc.afterSent (armed : Bool) : NonBlockingSendStatus → WriterPc
  | .complete => .flush
  | .wouldBlock => if armed then .waiting else .dropSubscribed
  | .error => .dropSubscribed

/-- The connection's event loop: its pipe callback, `processEventLoopOutput` and
`disconnectEventLoopSubscriber`. -/
def loopStep (s : State) (c : ConnId) (t : Threads) (input : Input) :
    Option (Operation × Threads) :=
  match t.writer, input with
  | .waiting, .pipe =>
    some (.nothing,
      { t.write (if t.stopRequested || !t.alived then .done else .entry) with stopRequested := false })
  | .waiting, .writable => some (.nothing, t.write .entry)
  | .entry, .run => some (.nothing, t.write (if t.alived then .cacheTest else .waiting))
  | .cacheTest, .run =>
    if s.mapsFree then
      some (.nothing, t.write (if t.record.isNone && s.isSubscribed c then .cacheGet else .flush))
    else none
  | .cacheGet, .run =>
    some (.nothing, { t.write .flush with record := s.composite.getRecord (s.sockets c).key })
  | .flush, .noFrame => if t.pendingBusiness then none else some (.nothing, t.write .subscribedTest)
  | .flush, .more => some (.use (.send t.pendingBusiness), t)
  | .flush, .sent status armed =>
    some (.use (.send t.pendingBusiness), (t.sent status).write (.afterSent armed status))
  | .flush, .leave notified =>
    some (.nothing, t.write (if notified then .waiting else .dropSubscribed))
  | .subscribedTest, .run =>
    if s.mapsFree then
      some (.nothing, t.write (if s.isSubscribed c && t.record.isSome then .deliver else .waiting))
    else none
  | .deliver, .noMessage => some (.nothing, t.write .flush)
  | .deliver, .message => some (.nothing, { t.write .sending with pendingBusiness := true })
  | .deliver, .overrun => some (.nothing, t.write .dropSubscribed)
  | .deliver, .leave _ => some (.nothing, t.write .waiting)
  | .sending, .more => some (.use (.send true), t)
  | .sending, .sent status armed =>
    some (.use (.send true), (t.sent status).write (.afterSent armed status))
  | .dropSubscribed, .run => if s.mapsFree then some (.removeSubscribed, t.write .dropAlive) else none
  | .dropAlive, .run => some (.nothing, { t.write .shutdown with alived := false })
  | .shutdown, .run => some (.use .shutdown, t.write .done)
  | _, _ => none

def handlerStep (config : RepeaterConfig) (s : State) (c : ConnId) (input : Input) :
    Option (Operation × Threads) :=
  match (s.threads c).handler with
  | .publisher pc => publisherStep s (s.threads c) pc input
  | .subscriber pc => readerStep config s c (s.threads c) pc input
  | _ => none

def writerStep (config : RepeaterConfig) (s : State) (c : ConnId) (input : Input) :
    Option (Operation × Threads) :=
  if config.subscriberEnableEventLoop then loopStep s c (s.threads c) input
  else normalStep s c (s.threads c) input

/-! ### The connection-detecting thread -/

def State.goDetector (s : State) (pc : DetectorPc) : State := { s with detector := pc }

/-- The next program counter, the connection visited, and what is done for it. The test whether the
connection is subscribed decides nothing. -/
def detectorStep (s : State) : Option (DetectorPc × ConnId × Operation × Threads) :=
  match s.detector with
  | .scan [] => none
  | .scan (c :: todo) =>
    let t := s.threads c
    some
      (if t.detectingFinished then .scan todo
        else .visit (if t.alived then .existsTest else .shutdown) c todo, c, .nothing, t)
  | .visit .existsTest c todo =>
    if s.baseFree .subscriber then
      some (if s.isConnectionExists c then .scan todo else .visit .shutdown c todo, c, .nothing,
        s.threads c)
    else none
  | .visit .shutdown c todo => some (.visit .kill c todo, c, .use .shutdown, s.threads c)
  | .visit .kill c todo =>
    if s.baseFree .subscriber then some (.visit .notifyStop c todo, c, .killAlive, s.threads c) else none
  | .visit .notifyStop c todo =>
    some (.visit .dropAlive c todo, c, .nothing, { s.threads c with stopRequested := true })
  | .visit .dropAlive c todo =>
    some (.visit .finish c todo, c, .nothing, { s.threads c with alived := false })
  | .visit .finish c todo =>
    some (.scan todo, c, .nothing, { s.threads c with detectingFinished := true })

/-! ### Alive detection -/

inductive PassInput where
  | run
  | expire (key : Key)
  deriving DecidableEq, Repr

/-- The comparison is in 64-bit unsigned arithmetic. -/
def ConnectionEntity.idle (config : RepeaterConfig) (now : Nat) (entity : ConnectionEntity) : Bool :=
  add64 entity.latestHeartbeat (toUnsigned64 config.maxConnectionIdleSecond) < now

def State.goPass (s : State) (role : Role) (pc : PassPc) : State :=
  { s with passes := Function.update s.passes role pc }

/-- The first half of `releaseConnectionEventData`, up to the atomic store. -/
def State.releaseAlive (s : State) (key : Key) (owner : ConnId) : State :=
  match s.detectingArgs.lookup key with
  | none => s
  | some c =>
    { s with threads := Function.update s.threads c { s.threads c with alived := false } }.noteKeyed .release
      owner (some c)

def State.releaseShutdown (s : State) (key : Key) : State :=
  match s.detectingArgs.lookup key with
  | none => s
  | some c => s.use c (s.sockets c).clientFd .shutdown

def State.releaseLoop (s : State) (key : Key) (owner : ConnId) : State :=
  match s.eventLoops.lookup key with
  | none => s
  | some c =>
    { s with
      threads := Function.update s.threads c { s.threads c with stopRequested := true }
      eventLoops := s.eventLoops.erase key }.noteKeyed .release owner (some c)

/-- The second half. -/
def State.releaseMaps (s : State) (key : Key) (owner : ConnId) : State :=
  let s := (s.releaseShutdown key).releaseLoop key owner
  { s with
    detectingArgs := s.detectingArgs.erase key
    topicConnections := fun topic => (s.topicConnections topic).filter (· ≠ key) }

def passStep (config : RepeaterConfig) (s : State) (role : Role) (input : PassInput) : Option State :=
  match s.passes role, input with
  | .idle, .run => some (s.goPass role (.closing s.now []))
  | .closing now expired, .expire key =>
    match (s.clientConnections role).lookup key with
    | none => none
    | some entity =>
      if entity.idle config now ∧ key ∉ expired.map Prod.fst then
        some
          ((s.use entity.owner entity.clientFd .close).goPass role
            (.closing now (expired ++ [(key, entity.owner)])))
      else none
  | .closing now expired, .run =>
    if ∀ entry ∈ (s.clientConnections role).entries,
        entry.2.idle config now → entry.1 ∈ expired.map Prod.fst then
      some (s.goPass role (.erase expired))
    else none
  | .erase [], .run => some (s.goPass role .idle)
  | .erase ((key, owner) :: expired), .run =>
    let s :=
      { s with
        clientConnections :=
          Function.update s.clientConnections role ((s.clientConnections role).erase key) }
    match role with
    | .publisher => some (s.goPass role (.erase expired))
    | .subscriber => some (s.goPass role (.clear .record key owner expired))
  | .clear .record key owner expired, .run =>
    some
      ({ s with composite := s.composite.removeRecord key }.goPass role
        (.clear .subscribed key owner expired))
  | .clear .subscribed key owner expired, .run =>
    some
      (({ s with subscribed := s.subscribed.erase key }.noteKeyed .removeSubscribed owner
        (s.subscribed.lookup key)).goPass role (.clear .alive key owner expired))
  | .clear .alive key owner expired, .run =>
    some ((s.releaseAlive key owner).goPass role (.clear .maps key owner expired))
  | .clear .maps key owner expired, .run =>
    some ((s.releaseMaps key owner).goPass role (.erase expired))
  | _, _ => none

/-! ### The process -/

inductive Action where
  | tick (seconds : Nat)
  /-- `accept` returns a number that is not open. -/
  | accept (role : Role) (key : Key) (fd : Nat)
  /-- `startAccept` closes the socket: too many connections, or a socket option that cannot be set. -/
  | refuse (role : Role)
  | enroll (role : Role)
  | handler (conn : ConnId) (input : Input)
  | writer (conn : ConnId) (input : Input)
  | detectorCopy (order : List ConnId)
  | detector
  | pass (role : Role) (input : PassInput)
  deriving DecidableEq, Repr

def maxConnection (config : RepeaterConfig) : Role → Int
  | .publisher => config.publisherMaxConnection
  | .subscriber => config.subscriberMaxConnection

/-- A thread of connection `c` performs an operation and leaves the connection's threads as `t`. -/
def State.move (s : State) (c : ConnId) (operation : Operation) (t : Threads) : State :=
  { s.perform c operation with threads := Function.update s.threads c t }

def State.accept (s : State) (socket : Socket) : State :=
  { s with
    fds := Function.update s.fds socket.clientFd (some s.count)
    count := s.count + 1
    sockets := Function.update s.sockets s.count socket
    threads := Function.update s.threads s.count { handler := .accepting }
    acceptors := Function.update s.acceptors socket.role (some s.count) }

/-- `startAccept` lets go of the connection, whose handler goes on at `pc`. -/
def State.handOver (s : State) (role : Role) (c : ConnId) (pc : HandlerPc) : State :=
  { s with
    threads := Function.update s.threads c { s.threads c with handler := pc }
    acceptors := Function.update s.acceptors role none }

def HandlerPc.first : Role → HandlerPc
  | .publisher => .publisher .receive
  | .subscriber => .subscriber .start

/-- The new entry replaces the one that the key may have. -/
def State.enroll (s : State) (role : Role) (c : ConnId) : State :=
  { s with
    clientConnections :=
      Function.update s.clientConnections role
        ((s.clientConnections role).insert (s.sockets c).key
          { clientFd := (s.sockets c).clientFd, latestHeartbeat := s.now, owner := c }) }.handOver role c
    (.first role)

def step (config : RepeaterConfig) (s : State) : Action → Option State
  | .tick seconds => some { s with now := s.now + seconds }
  | .accept role key fd =>
    if s.acceptors role = none ∧ s.fds fd = none then some (s.accept { role, key, clientFd := fd })
    else none
  | .refuse role =>
    match s.acceptors role with
    | none => none
    | some c =>
      if s.baseFree role then
        some ((s.use c (s.sockets c).clientFd .close).handOver role c .absent)
      else none
  | .enroll role =>
    match s.acceptors role with
    | none => none
    | some c =>
      if s.baseFree role ∧
          ¬ (s.clientConnections role).keys.length ≥ toUnsigned64 (maxConnection config role) then
        some (s.enroll role c)
      else none
  | .handler c input => (handlerStep config s c input).map fun moved => s.move c moved.1 moved.2
  | .writer c input => (writerStep config s c input).map fun moved => s.move c moved.1 moved.2
  | .detectorCopy order =>
    if s.detector = .scan [] ∧ s.mapsFree ∧ order.Perm (s.detectingArgs.entries.map (·.2)) then
      some (s.goDetector (.scan order))
    else none
  | .detector =>
    (detectorStep s).map fun moved =>
      (s.move moved.2.1 moved.2.2.1 moved.2.2.2).goDetector moved.1
  | .pass role input => passStep config s role input

end MessageRepeater.Lifecycle
