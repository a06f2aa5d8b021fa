import MessageRepeater.Config.RepeaterConfig
import MessageRepeater.Connection.SocketFrame

/-!
# A subscriber connection's output

`flushPendingFrame`, `deliverTopic` and `enqueueControlFrame` of
`src/subscriber/subscriber_acceptor.cpp`, one locked operation or one system call at a time. A
function in progress is a program counter; `Control.ret` is its return.
-/

namespace MessageRepeater.Subscriber
open Foundation Combiner Config Connection

inductive TopicDeliveryStatus where
  | noMessage | delivered | wouldBlock | disconnect
  deriving DecidableEq, Repr

inductive PendingWriteStatus where
  | idle | complete | wouldBlock | error
  deriving DecidableEq, Repr

structure PendingSubscriberFrame where
  data : Bytes
  offset : Nat := 0
  advancesSequence : Bool := false
  topic : Topic := []
  nextSequence : Nat := 0
  deriving DecidableEq, Repr

/-- `SubscriberOutputState`, whose event loop is kept beside it. -/
structure SubscriberOutputState where
  controlFrames : List Bytes := []
  pendingFrame : Option PendingSubscriberFrame := none
  deriving DecidableEq, Repr

def maxControlFrames : Nat := 64

/-- What a system call answers. `send` reports all four, zero bytes sent being a failure; `event_add`
fails or not. -/
inductive CallOutcome where
  | accepted (count : Nat)
  | interrupted
  | wouldBlock
  | failed
  deriving DecidableEq, Repr

/-! ### History

What has happened on a connection so far. No step of the program reads it. -/

/-- A frame as the peer sees it. -/
inductive WireFrame where
  | control (data : Bytes)
  | business (topic : Topic) (sequence : Nat) (body : Bytes)
  deriving DecidableEq, Repr

def WireFrame.image : WireFrame → Bytes
  | .control data => data
  | .business topic _ body => encodeSocketFrame topic body

/-- A read of a ring by the writer of the connection. -/
structure ReadEvent where
  topic : Topic
  consumerSequence : Nat
  result : MessageReadResult
  deriving DecidableEq, Repr

/-- The `ok` response to a subscribe request: its record, its topics and the next sequence of every
topic at the moment it was put on the control queue. -/
structure Answer where
  record : Nat
  topics : List Topic
  nextSequence : Topic → Nat

structure History where
  /-- The bytes the kernel has accepted on the connection. -/
  wire : Bytes := []
  /-- The frames whose sending is over, oldest first. -/
  frames : List WireFrame := []
  /-- What the pending frame carries. -/
  parked : Option WireFrame := none
  /-- The control frames put on the queue. -/
  enqueued : List Bytes := []
  reads : List ReadEvent := []
  /-- The first cursor of each topic of each record. -/
  starts : List (Nat × Topic × Nat) := []
  answers : List Answer := []
  /-- A `send` has reported an error. -/
  failed : Bool := false

/-- What the writer and the reading thread of one connection share, and its records by identity. -/
structure Link where
  output : SubscriberOutputState := {}
  records : List ConsumeRecord := []
  history : History := {}

/-- The meta of a topic in a record. -/
def Link.getMeta (link : Link) (record : Nat) (topic : Topic) : Option ConsumeMeta :=
  (link.records[record]?).bind fun r => r.getMeta topic

/-- `record->initialize(topic, sequence)`. -/
def Link.initializeTopic (link : Link) (record : Nat) (topic : Topic) (sequence : Nat) : Link :=
  { link with
    records := link.records.modify record fun r => r.initializeTopic topic sequence
    history :=
      if (link.getMeta record topic).map ConsumeMeta.initialized = some false then
        { link.history with starts := link.history.starts ++ [(record, topic, sequence)] }
      else link.history }

/-- `record->updateSequence(topic, sequence)`. -/
def Link.updateSequence (link : Link) (record : Nat) (topic : Topic) (sequence : Nat) : Link :=
  { link with records := link.records.modify record fun r => r.updateSequence topic sequence }

/-- The next instruction of a function in progress, or its result. -/
inductive Control (Pc Result : Type) where
  | goto (pc : Pc)
  | ret (result : Result)
  deriving DecidableEq, Repr

/-! ### flushPendingFrame -/

/-- `take` is the lock of the control queue, `send` the loop of `sendSocketFrameNonBlocking`, and
`commit` the record update and the reset after the last byte. -/
inductive FlushPc where
  | take | send | commit
  deriving DecidableEq, Repr

/-- The bytes that one `send` call hands to the kernel. -/
def Link.accept (link : Link) (frame : PendingSubscriberFrame) (count : Nat) : Link :=
  { link with
    output :=
      { link.output with pendingFrame := some { frame with offset := frame.offset + count } }
    history :=
      { link.history with wire := link.history.wire ++ (frame.data.drop frame.offset).take count } }

/-- The front of the control queue becomes the pending frame. -/
def Link.takeControl (link : Link) (frame : Bytes) (rest : List Bytes) : Link :=
  { link with
    output := { controlFrames := rest, pendingFrame := some { data := frame } }
    history := { link.history with parked := some (.control frame) } }

/-- `send` has reported an error. -/
def Link.fail (link : Link) : Link :=
  { link with history := { link.history with failed := true } }

/-- `pending_frame.reset()`. -/
def Link.reset (link : Link) : Link :=
  { link with
    output := { link.output with pendingFrame := none }
    history :=
      { link.history with
        frames := link.history.frames ++ link.history.parked.toList
        parked := none } }

/-- `flushPendingFrame` with the writer's record, and `completed_topic` beside the status. -/
def flushStep (link : Link) (record : Option Nat) (outcome : CallOutcome) :
    FlushPc → Option (Link × Control FlushPc (PendingWriteStatus × Topic))
  | .take =>
    match link.output.pendingFrame, link.output.controlFrames with
    | some _, _ => some (link, .goto .send)
    | none, [] => some (link, .ret (.idle, []))
    | none, frame :: rest => some (link.takeControl frame rest, .goto .send)
  | .send =>
    match link.output.pendingFrame with
    | none => none
    | some frame =>
      if frame.offset ≥ frame.data.length then some (link, .goto .commit)
      else
        match outcome with
        | .accepted count =>
          if 0 < count ∧ frame.offset + count ≤ frame.data.length then
            some (link.accept frame count, .goto .send)
          else none
        | .interrupted => some (link, .goto .send)
        | .wouldBlock => some (link, .ret (.wouldBlock, []))
        | .failed => some (link.fail, .ret (.error, []))
  | .commit =>
    match link.output.pendingFrame with
    | none => none
    | some frame =>
      if frame.advancesSequence then
        match record with
        | none => some (link, .ret (.error, []))
        | some record =>
          some ((link.updateSequence record frame.topic frame.nextSequence).reset,
            .ret (.complete, frame.topic))
      else some (link.reset, .ret (.complete, []))

/-! ### deliverTopic -/

inductive DeliverPc where
  | getMeta
  | circleMeta
  | initializeTopic (producerSequence : Nat)
  | read (entry : ConsumeMeta)
  | updateEmpty (nextSequence : Nat)
  | flush (pc : FlushPc)
  deriving DecidableEq, Repr

/-- What `deliverTopic` makes of the status of `flushPendingFrame`. -/
def DeliverPc.afterFlush :
    Control FlushPc (PendingWriteStatus × Topic) → Control DeliverPc TopicDeliveryStatus
  | .goto pc => .goto (.flush pc)
  | .ret (.error, _) => .ret .disconnect
  | .ret (.wouldBlock, _) => .ret .wouldBlock
  | .ret (.complete, _) => .ret .delivered
  | .ret (.idle, _) => .ret .noMessage

/-- Note a read of the ring. -/
def Link.noteRead (link : Link) (event : ReadEvent) : Link :=
  { link with history := { link.history with reads := link.history.reads ++ [event] } }

/-- Park a message as the pending frame. -/
def Link.park (link : Link) (topic : Topic) (body : Bytes) (result : MessageReadResult) : Link :=
  { link with
    output :=
      { link.output with
        pendingFrame :=
          some
            { data := encodeSocketFrame topic body
              advancesSequence := true
              topic
              nextSequence := result.nextSequence } }
    history := { link.history with parked := some (.business topic result.messageSequence body) } }

/-- `deliverTopic` with the writer's record and the ring of `topic`, which no step replaces. -/
def deliverStep (config : RepeaterConfig) (store : MessageCircleComposite) (link : Link)
    (record : Nat) (topic : Topic) (outcome : CallOutcome) :
    DeliverPc → Option (Link × Control DeliverPc TopicDeliveryStatus)
  | .getMeta =>
    if link.output.pendingFrame.isSome then some (link, .ret .wouldBlock)
    else
      match link.getMeta record topic with
      | none => some (link, .ret .noMessage)
      | some entry =>
        if entry.initialized then some (link, .goto (.read entry))
        else some (link, .goto .circleMeta)
  | .circleMeta =>
    match store.getCircle topic with
    | none => none
    | some ring => some (link, .goto (.initializeTopic ring.getMeta.nextSequence))
  | .initializeTopic sequence => some (link.initializeTopic record topic sequence, .ret .noMessage)
  | .read entry =>
    match store.getCircle topic with
    | none => none
    | some ring =>
      let result := ring.read entry.nextSequence config.subscriberAlwaysSendLatest
        config.subscriberOverrunPolicy
      let link := link.noteRead { topic, consumerSequence := entry.nextSequence, result }
      match result.status, result.message with
      | .disconnect, _ => some (link, .ret .disconnect)
      | .noMessage, _ => some (link, .ret .noMessage)
      | .message, none => some (link, .ret .noMessage)
      | .message, some [] => some (link, .goto (.updateEmpty result.nextSequence))
      | .message, some body => some (link.park topic body result, .goto (.flush .take))
  | .updateEmpty nextSequence =>
    some (link.updateSequence record topic nextSequence, .ret .delivered)
  | .flush pc =>
    match flushStep link (some record) outcome pc with
    | none => none
    | some (link, control) => some (link, DeliverPc.afterFlush control)

/-! ### enqueueControlFrame -/

/-- The push of `enqueueControlFrame`, `none` on a full queue. The notify is a step of its own. -/
def Link.enqueueControlFrame (link : Link) (topic message : Bytes) : Option Link :=
  let frame := encodeSocketFrame topic message
  if link.output.controlFrames.length ≥ maxControlFrames then none
  else
    some
      { link with
        output := { link.output with controlFrames := link.output.controlFrames ++ [frame] }
        history := { link.history with enqueued := link.history.enqueued ++ [frame] } }

def Link.noteAnswers (link : Link) (answers : List Answer) : Link :=
  { link with history := { link.history with answers := link.history.answers ++ answers } }

/-- A new record for `topics` whose map iterates in the order `order`. -/
def Link.createRecord (link : Link) (topics order : List Topic) : Link :=
  { link with records := link.records ++ [.new topics order] }

/-! ### What the operations leave alone -/

theorem Link.enqueueControlFrame_some {link link' : Link} {topic message : Bytes}
    (pushed : link.enqueueControlFrame topic message = some link') : link' = { link with
      output := { link.output with
        controlFrames := link.output.controlFrames ++ [encodeSocketFrame topic message] }
      history := { link.history with
        enqueued := link.history.enqueued ++ [encodeSocketFrame topic message] } } := by
  unfold Link.enqueueControlFrame at pushed
  dsimp only at pushed
  split at pushed <;> cases pushed
  rfl

@[simp] theorem Link.initializeTopic_output (link : Link) (record : Nat) (topic : Topic) (sequence : Nat) :
    (link.initializeTopic record topic sequence).output = link.output := rfl

@[simp] theorem Link.updateSequence_output (link : Link) (record : Nat) (topic : Topic)
    (sequence : Nat) : (link.updateSequence record topic sequence).output = link.output := rfl

@[simp] theorem Link.updateSequence_history (link : Link) (record : Nat) (topic : Topic)
    (sequence : Nat) : (link.updateSequence record topic sequence).history = link.history := rfl

end MessageRepeater.Subscriber
