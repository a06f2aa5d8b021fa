import MessageRepeater.Repeater.Connections

/-!
# A layer thread between two repeaters

`layer_replay_work` of `src/layer/layer_connector.cpp` after it has read its address, with its ping
thread, against one upstream repeater. The two processes share nothing but the connections: what an end
reads is the next part of what the other end has written. Other clients and publishers of either
repeater do what they like.
-/

namespace MessageRepeater.Layer
open Foundation Combiner Config Connection Subscriber Publisher Repeater

/-- The two repeaters. `serializeTopics` is the text that the JSON library makes of the object with these
`topics`. -/
structure Chain where
  upstream : Host
  downstream : Host
  serializeTopics : List Topic → Bytes

/-- `k` is the connection's number at the upstream, `frame` counts the frames read from it. -/
inductive LayerPc where
  | sleep
  | connected (k : Nat)
  | response (k : Nat)
  | loopTest (k : Nat)
  | read (k : Nat)
  | append (k : Nat) (frame : Nat) (topic : Topic) (body : Bytes)
  | submit (k : Nat) (topic : Topic)
  | notify (k : Nat)
  | closing (k : Nat)
  deriving DecidableEq, Repr

/-- The connection that the thread has open. -/
def LayerPc.connection : LayerPc → Option Nat
  | .sleep => none
  | .connected k | .response k | .loopTest k | .read k | .append k _ _ _ | .submit k _ | .notify k
  | .closing k => some k

/-- The connection that the ping thread writes to. -/
def LayerPc.pinged : LayerPc → Option Nat
  | .sleep | .connected _ | .response _ => none
  | .loopTest k | .read k | .append k _ _ _ | .submit k _ | .notify k | .closing k => some k

/-- A message that the thread has appended, and the frame that it was. -/
structure Appended where
  topic : Topic
  body : Bytes
  connection : Nat
  frame : Nat
  deriving DecidableEq, Repr

structure State where
  upstream : Repeater.State
  downstream : Repeater.State
  layer : LayerPc := .sleep
  socketDisconnected : Bool := false
  /-- What the thread has written to each of its connections. -/
  outbox : Nat → Option Bytes := fun _ => none
  /-- How much of that the upstream has read. -/
  fetched : Nat → Nat := fun _ => 0
  /-- How many bytes and frames the thread has read from its connection. -/
  received : Nat := 0
  frames : Nat := 0
  appended : List Appended := []

def initial (chain : Chain) : State where
  upstream := Repeater.initial chain.upstream
  downstream := Repeater.initial chain.downstream

/-- What happens next: a step of either process but for the thread, or a call of the thread. `send` may
write a part of the frame and fail. -/
inductive Action where
  | upstream (event : Event)
  | downstream (event : Event)
  | connect
  | setTimeoutFailed
  | subscribe (written : Nat)
  | read (events : List RecvEvent)
  | run
  | ping (written : Nat)
  deriving DecidableEq, Repr

/-! ### The connections -/

/-- What the upstream's reading thread takes for one frame. -/
def frameLength (received : Bytes) : Nat :=
  match receive received with
  | .frame _ _ rest => received.length - rest.length
  | _ => 0

/-- A step of the upstream. From a connection of the thread it reads what the thread has written. -/
def upstreamStep (chain : Chain) (s : State) (event : Event) : Option State :=
  match Repeater.step chain.upstream s.upstream event with
  | none => none
  | some upstream =>
    match event with
    | .input k (.clientFrame received) =>
      match s.outbox k with
      | none => some { s with upstream }
      | some written =>
        if received <+: written.drop (s.fetched k) then
          some
            { s with
              upstream
              fetched := fun j => if j = k then s.fetched k + frameLength received else s.fetched j }
        else none
    | _ => some { s with upstream }

def State.write (s : State) (k : Nat) (bytes : Bytes) : State :=
  { s with outbox := fun j => if j = k then some ((s.outbox k).getD [] ++ bytes) else s.outbox j }

/-- The bytes that can have arrived on connection `k` and have not been read. -/
def State.unread (s : State) (k : Nat) : Bytes :=
  (s.upstream.clients k).link.history.wire.drop s.received

/-- A frame has been read. -/
def State.advance (s : State) (events left : List RecvEvent) : State :=
  { s with received := s.received + ((stream events).length - (stream left).length), frames := s.frames + 1 }

/-! ### The thread -/

def Chain.context (chain : Chain) : GlobalContext := chain.downstream.site.context

def subscribeFrame (chain : Chain) : Bytes :=
  encodeSocketFrame messageOpSubscribe (chain.serializeTopics chain.context.layerSubscribeTopics)

def pingFrame : Bytes := encodeSocketFrame (ascii "ping") (ascii "ok")

/-- Step 4: the response to the subscribe request. -/
def responseStep (s : State) (k : Nat) (events : List RecvEvent) : State :=
  match readSocketFrame events with
  | (none, _) => { s with layer := .sleep }
  | (some frame, left) =>
    if frame.1 ≠ messageOpSubscribe then { s with layer := .sleep }
    else if ascii "ok" <:+: frame.2 then { s.advance events left with layer := .loopTest k }
    else { s with layer := .sleep }

/-- Step 6: one turn of the reading loop. -/
def readStep (chain : Chain) (s : State) (k : Nat) (events : List RecvEvent) : State :=
  match readSocketFrame events with
  | (none, _) => { s with layer := .closing k }
  | (some frame, left) =>
    { s.advance events left with
      layer :=
        match relayed chain.context frame.1 frame.2 with
        | none => .loopTest k
        | some (topic, body) => .append k s.frames topic body }

/-- What the thread does with its own process. An exception ends the process, so it has no step. -/
def runStep (chain : Chain) (s : State) : Option State :=
  match s.layer with
  | .loopTest k => some { s with layer := if s.socketDisconnected then .closing k else .read k }
  | .append k frame topic body =>
    match s.downstream.store.appendMessageToCircle topic body with
    | .error _ => none
    | .ok (false, _) => some { s with layer := .loopTest k }
    | .ok (true, store) =>
      some
        { s with
          downstream :=
            { s.downstream with
              store
              logs := fun t => if t = topic then s.downstream.logs t ++ [body] else s.downstream.logs t }
          appended := s.appended ++ [{ topic, body, connection := k, frame }]
          layer :=
            if chain.downstream.site.deployment.config.subscriberEnableEventLoop then .submit k topic
            else .loopTest k }
  | .submit k topic =>
    let submitted := s.downstream.dispatch.submitWork topic
    some
      { s with
        downstream := { s.downstream with dispatch := submitted.2 }
        layer := if submitted.1 then .notify k else .loopTest k }
  | .notify k =>
    let capacity := chain.downstream.site.deployment.pipeCapacity
    some
      { s with
        downstream := { s.downstream with dispatch := s.downstream.dispatch.notifyStartWork capacity }
        layer := .loopTest k }
  | .closing _ => some { s with layer := .sleep }
  | _ => none

def step (chain : Chain) (s : State) : Action → Option State
  | .upstream event => upstreamStep chain s event
  | .downstream event =>
    match Repeater.step chain.downstream s.downstream event with
    | none => none
    | some downstream => some { s with downstream }
  | .connect =>
    if s.layer = .sleep then
      let k := s.upstream.opened
      some
        { s.write k [] with
          upstream := { s.upstream with opened := k + 1 }
          layer := .connected k
          socketDisconnected := false
          received := 0
          frames := 0 }
    else none
  | .setTimeoutFailed =>
    match s.layer with
    | .connected _ => some { s with layer := .sleep }
    | _ => none
  | .subscribe written =>
    match s.layer with
    | .connected k =>
      some
        { s.write k ((subscribeFrame chain).take written) with
          layer := if written < (subscribeFrame chain).length then .sleep else .response k }
    | _ => none
  | .read events =>
    match s.layer with
    | .response k => if stream events <+: s.unread k then some (responseStep s k events) else none
    | .read k => if stream events <+: s.unread k then some (readStep chain s k events) else none
    | _ => none
  | .run => runStep chain s
  | .ping written =>
    match s.layer.pinged with
    | none => none
    | some k =>
      some
        { s.write k (pingFrame.take written) with
          socketDisconnected := s.socketDisconnected || decide (written < pingFrame.length) }

end MessageRepeater.Layer
