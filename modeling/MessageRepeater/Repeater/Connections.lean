import MessageRepeater.Ingress.Inputs

/-!
# A repeater with all its subscriber connections

The circles, the record map, the dispatch queue and its loop are shared by all threads of the process.
The rest of what the threads of one connection touch is its own. That is so as long as no `ip:port` and no
descriptor number comes back: under a key that comes back the maps may still hold what the connection before
has left there, and a number that comes back may still be written to by the connection that had it. A host
takes this as a condition, and with it everything that is proved of hosts; `Lifecycle` is about keys and
numbers that do come back.
-/

namespace MessageRepeater.Repeater
open Foundation Combiner Config Connection Subscriber Ingress

/-- A repeater's site and the `ip:port` of each connection that it accepts. -/
structure Host where
  site : Site
  keys : Nat → Key
  /-- No `ip:port` comes back. -/
  fresh : Function.Injective keys

/-- The site with the connection's key. -/
def Host.siteOf (host : Host) (k : Nat) : Site :=
  { host.site with deployment := { host.site.deployment with key := host.keys k } }

/-- What belongs to one connection. -/
structure Client where
  link : Link := {}
  subscribed : Bool := false
  exists_ : Bool := true
  alived : Bool := true
  worker : EventLoopWorker := { disableDuplicateEntries := true, writeEvent := true }
  loopRegistered : Bool
  topicConnections : Topic → Nat := fun _ => 0
  reader : ReaderPc := .top
  writer : WriterPc
  record : Option Nat := none
  detector : DetectorPc := .scan
  reclaimer : ReclaimerPc := .watch
  /-- The texts of the subscribe requests that the client has sent. -/
  texts : List Bytes := []

/-- The dispatch loop. In `dispatchMessage` it visits the connections of a topic's list in some order,
`left` times each. -/
inductive DispatchPc where
  | waiting
  | drain
  | popWorks
  | lookup (todo : List Topic)
  | visit (topic : Topic) (left : Nat → Nat) (todo : List Topic)
  | notify (k : Nat) (topic : Topic) (left : Nat → Nat) (todo : List Topic)

structure State where
  store : MessageCircleComposite
  logs : Topic → List Bytes := fun _ => []
  composite : ConsumeRecordComposite
  dispatch : EventLoopWorker := { disableDuplicateEntries := true }
  dispatcher : DispatchPc := .waiting
  publishers : Nat → PublisherPc := fun _ => .idle
  clients : Nat → Client
  /-- How many connections have been opened. -/
  opened : Nat := 0

def newClient (host : Host) : Client where
  loopRegistered := host.site.deployment.config.subscriberEnableEventLoop
  writer :=
    if host.site.deployment.config.subscriberEnableEventLoop then .loop .waiting else .normal .top

def initial (host : Host) : State where
  store := .init host.site.deployment.config.maxTopicNumber
  composite := { maxRecordsSize := host.site.deployment.config.subscriberMaxConnection * 5 }
  clients _ := newClient host

/-! ### One connection's view -/

/-- The dispatch loop as connection `k` sees it: the visits to the others are no steps. -/
def DispatchPc.seen (k : Nat) : DispatchPc → DispatcherPc
  | .waiting => .waiting
  | .drain => .drain
  | .popWorks => .popWorks
  | .lookup todo => .lookup todo
  | .visit topic left todo => .submit topic (left k) todo
  | .notify j topic left todo => if j = k then .notify topic (left k) todo else .submit topic (left k) todo

def State.view (r : State) (k : Nat) : Ingress.State where
  system :=
    { store := r.store
      logs := r.logs
      link := (r.clients k).link
      composite := r.composite
      subscribed := (r.clients k).subscribed
      exists_ := (r.clients k).exists_
      alived := (r.clients k).alived
      worker := (r.clients k).worker
      loopRegistered := (r.clients k).loopRegistered
      topicConnections := (r.clients k).topicConnections
      reader := (r.clients k).reader
      writer := (r.clients k).writer
      record := (r.clients k).record
      dispatch := r.dispatch
      dispatcher := r.dispatcher.seen k
      publishers := r.publishers
      detector := (r.clients k).detector
      reclaimer := (r.clients k).reclaimer }
  texts := (r.clients k).texts

def clientOf (v : Ingress.State) : Client where
  link := v.system.link
  subscribed := v.system.subscribed
  exists_ := v.system.exists_
  alived := v.system.alived
  worker := v.system.worker
  loopRegistered := v.system.loopRegistered
  topicConnections := v.system.topicConnections
  reader := v.system.reader
  writer := v.system.writer
  record := v.system.record
  detector := v.system.detector
  reclaimer := v.system.reclaimer
  texts := v.texts

def State.setClient (r : State) (k : Nat) (client : Client) : State :=
  { r with clients := fun j => if j = k then client else r.clients j }

/-- What a step of connection `k`'s threads leaves. -/
def State.put (r : State) (k : Nat) (v : Ingress.State) : State :=
  { r.setClient k (clientOf v) with
    store := v.system.store
    logs := v.system.logs
    composite := v.system.composite
    dispatch := v.system.dispatch
    publishers := v.system.publishers }

/-! ### Steps -/

/-- A client connects, something reaches the threads of connection `k` or a publisher, or the dispatch
loop goes on, in `dispatchMessage` with connection `k`. -/
inductive Event where
  | accept
  | input (k : Nat) (input : Input)
  | dispatcher
  | visit (k : Nat)
  deriving DecidableEq, Repr

/-- The actions of a publisher, and of connection `k` once it is open. -/
def State.mayTake (r : State) (k : Nat) : Action → Bool
  | .publisher _ _ => true
  | .dispatcher | .other _ _ => false
  | _ => decide (k < r.opened)

def dispatcherStep (host : Host) (r : State) : Option State :=
  match r.dispatcher with
  | .waiting =>
    if host.site.deployment.config.subscriberEnableEventLoop = true ∧ r.dispatch.notifyPipe ≠ [] then
      some { r with dispatcher := .drain }
    else none
  | .drain =>
    match r.dispatch.notifyPipe with
    | [] => some { r with dispatcher := .popWorks }
    | _ :: rest => some { r with dispatch := { r.dispatch with notifyPipe := rest } }
  | .popWorks =>
    let popped := r.dispatch.popWorks
    some { r with dispatch := popped.2, dispatcher := .lookup popped.1 }
  | .lookup [] => some { r with dispatcher := .waiting }
  | .lookup (topic :: todo) =>
    some { r with dispatcher := .visit topic (fun k => (r.clients k).topicConnections topic) todo }
  | .visit _ left todo =>
    if ∀ k < r.opened, left k = 0 then some { r with dispatcher := .lookup todo } else none
  | .notify k topic left todo =>
    let client := r.clients k
    some
      { r.setClient k
          { client with
            worker := client.worker.notifyStartWork host.site.deployment.pipeCapacity } with
        dispatcher := .visit topic left todo }

def visitStep (r : State) (k : Nat) : Option State :=
  match r.dispatcher with
  | .visit topic left todo =>
    match left k with
    | 0 => none
    | count + 1 =>
      let client := r.clients k
      let later := fun j => if j = k then count else left j
      if client.loopRegistered then
        let submitted := client.worker.submitWork topic
        some
          { r.setClient k { client with worker := submitted.2 } with
            dispatcher := if submitted.1 then .notify k topic later todo else .visit topic later todo }
      else some { r with dispatcher := .visit topic later todo }
  | _ => none

def step (host : Host) (r : State) : Event → Option State
  | .accept => some { r with opened := r.opened + 1 }
  | .input k input =>
    match decode (host.siteOf k) input with
    | none => none
    | some action =>
      if r.mayTake k action then (Ingress.step (host.siteOf k) (r.view k) input).map (r.put k) else none
  | .dispatcher => dispatcherStep host r
  | .visit k => visitStep r k

end MessageRepeater.Repeater
