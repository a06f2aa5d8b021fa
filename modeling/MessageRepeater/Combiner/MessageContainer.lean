import Mathlib.Data.Finset.Insert
import Mathlib.Data.List.AList
import MessageRepeater.Foundation.Bytes

/-!
# Message container

The topic rings and the consumer cursors of `src/combiner/message_container.*`. A `MessageSequence`
is a natural number, with the 64-bit wrap written out where the code computes one. An exception is an
`Except.error` with its text, or, where the state after the throw matters, a result next to that state.
-/

namespace MessageRepeater.Combiner
open Foundation

abbrev Topic := Bytes

/-- A connection's `client_ip + ":" + client_port` string. -/
abbrev Key := Bytes

/-- `numeric_limits<MessageSequence>::max()`. -/
def maxSequence : Nat := 2 ^ 64 - 1

inductive SubscriberOverrunPolicy where
  | latest | oldest | disconnect
  deriving DecidableEq, Repr

structure StoredMessage where
  sequence : Nat := 0
  body : Bytes := []
  deriving DecidableEq, Repr

structure CircleMeta where
  overlappingTurns : Nat := 0
  indexOffset : Nat := 0
  nextSequence : Nat := 0
  oldestAvailableSequence : Nat := 0
  deriving DecidableEq, Repr

inductive MessageReadStatus where
  | noMessage | message | disconnect
  deriving DecidableEq, Repr

structure MessageReadResult where
  status : MessageReadStatus := .noMessage
  message : Option Bytes := none
  messageSequence : Nat := 0
  nextSequence : Nat := 0
  producerSequence : Nat := 0
  oldestAvailableSequence : Nat := 0
  skippedMessages : Nat := 0
  overrun : Bool := false
  deriving DecidableEq, Repr

structure ConsumeMeta where
  nextSequence : Nat := 0
  initialized : Bool := false
  deriving DecidableEq, Repr

/-! ### MessageCircle -/

/-- A topic's ring. The constructor throws on a size that is not positive, so every ring has a slot. -/
structure MessageCircle where
  topic : Topic
  circle : List (Option StoredMessage)
  nextSequence : Nat := 0
  circle_pos : 0 < circle.length
  deriving DecidableEq

def MessageCircle.new (topic : Topic) (maxSize : Int) : Except Bytes MessageCircle :=
  if positive : maxSize ≤ 0 then
    .error (ascii "message circle size must be greater than zero")
  else
    .ok { topic, circle := List.replicate maxSize.toNat none, circle_pos := by simp; omega }

inductive AppendResult where
  | appended
  | overflowError (what : Bytes)
  deriving DecidableEq, Repr

/-- What `append` did, and the ring after it, also when it throws. -/
def MessageCircle.append (ring : MessageCircle) (message : Bytes) : AppendResult × MessageCircle :=
  if ring.nextSequence = maxSequence then
    (.overflowError (ascii "message sequence exhausted for topic " ++ ring.topic), ring)
  else
    let stored : StoredMessage := { sequence := ring.nextSequence, body := message }
    (.appended,
      { ring with
        circle := ring.circle.set (stored.sequence % ring.circle.length) (some stored)
        nextSequence := add64 ring.nextSequence 1
        circle_pos := by simpa using ring.circle_pos })

def MessageCircle.oldestAvailableSequence (ring : MessageCircle) : Nat :=
  if ring.nextSequence > ring.circle.length then sub64 ring.nextSequence ring.circle.length else 0

/-- The end of `read`: look `target` up in its slot and fill in the result. -/
def MessageCircle.readSlot (ring : MessageCircle) (sendLatest : Bool)
    (overrunPolicy : SubscriberOverrunPolicy) (target : Nat)
    (result : MessageReadResult) : MessageReadResult :=
  match (ring.circle[target % ring.circle.length]?).join with
  | none => { result with overrun := true, status := .disconnect }
  | some slot =>
    if slot.sequence ≠ target then
      { result with overrun := true, status := .disconnect }
    else
      { result with
        status := .message
        message := some slot.body
        messageSequence := target
        nextSequence :=
          if sendLatest || (result.overrun && overrunPolicy == .latest) then ring.nextSequence
          else add64 target 1 }

def MessageCircle.read (ring : MessageCircle) (consumerSequence : Nat)
    (sendLatest : Bool) (overrunPolicy : SubscriberOverrunPolicy) : MessageReadResult :=
  let oldest := ring.oldestAvailableSequence
  let result : MessageReadResult :=
    { nextSequence := consumerSequence
      producerSequence := ring.nextSequence
      oldestAvailableSequence := oldest }
  if consumerSequence ≥ ring.nextSequence then result
  else if sendLatest then
    let target := sub64 ring.nextSequence 1
    ring.readSlot sendLatest overrunPolicy target
      { result with
        overrun := decide (consumerSequence < oldest)
        skippedMessages := sub64 target consumerSequence }
  else if consumerSequence < oldest then
    match overrunPolicy with
    | .disconnect =>
      { result with
        overrun := true
        status := .disconnect
        skippedMessages := sub64 oldest consumerSequence }
    | .latest =>
      let target := sub64 ring.nextSequence 1
      ring.readSlot sendLatest overrunPolicy target
        { result with overrun := true, skippedMessages := sub64 target consumerSequence }
    | .oldest =>
      ring.readSlot sendLatest overrunPolicy oldest
        { result with overrun := true, skippedMessages := sub64 oldest consumerSequence }
  else ring.readSlot sendLatest overrunPolicy consumerSequence result

def MessageCircle.getMeta (ring : MessageCircle) : CircleMeta :=
  { nextSequence := ring.nextSequence
    oldestAvailableSequence := ring.oldestAvailableSequence
    overlappingTurns := ring.nextSequence / ring.circle.length
    indexOffset := ring.nextSequence % ring.circle.length }

/-! ### MessageCircleComposite -/

structure MessageCircleComposite where
  maxTopicNumbers : Int
  topics : Finset Topic := ∅
  topicCircles : AList (fun _ : Topic => MessageCircle) := ∅

def MessageCircleComposite.init (maxTopicNumbers : Int) : MessageCircleComposite := { maxTopicNumbers }

/-- The size of the map is compared with a signed limit that the comparison makes unsigned. -/
def MessageCircleComposite.createCircleIfAbsent (store : MessageCircleComposite) (topic : Topic)
    (circleMaxSize : Int) : Except Bytes (Bool × MessageCircleComposite) :=
  if topic ∈ store.topics then .ok (true, store)
  else if store.topicCircles.keys.length ≥ toUnsigned64 store.maxTopicNumbers then .ok (false, store)
  else
    match store.topicCircles.lookup topic with
    | some _ => .ok (true, store)
    | none =>
      match MessageCircle.new topic circleMaxSize with
      | .error what => .error what
      | .ok ring =>
        .ok (true,
          { store with
            topicCircles := store.topicCircles.insert topic ring
            topics := insert topic store.topics })

def MessageCircleComposite.appendMessageToCircle (store : MessageCircleComposite) (topic : Topic)
    (message : Bytes) : Except Bytes (Bool × MessageCircleComposite) :=
  match store.topicCircles.lookup topic with
  | none => .ok (false, store)
  | some ring =>
    match ring.append message with
    | (.overflowError what, _) => .error what
    | (.appended, ring') =>
      .ok (true, { store with topicCircles := store.topicCircles.insert topic ring' })

def MessageCircleComposite.getCircle (store : MessageCircleComposite) (topic : Topic) :
    Option MessageCircle :=
  store.topicCircles.lookup topic

/-! ### ConsumeRecord -/

/-- `topics` lists the keys of `topicRecords` in the iteration order of the map, which the language
leaves open. -/
structure ConsumeRecord where
  topics : List Topic
  topicRecords : Topic → Option ConsumeMeta

/-- The record of a request for `topics`, whose map iterates in the order `order`. -/
def ConsumeRecord.new (topics order : List Topic) : ConsumeRecord where
  topics := order
  topicRecords t := if t ∈ topics then some {} else none

def ConsumeRecord.getMeta (record : ConsumeRecord) (topic : Topic) : Option ConsumeMeta :=
  record.topicRecords topic

/-- Overwrite the meta of a topic. -/
def ConsumeRecord.put (record : ConsumeRecord) (topic : Topic) (entry : ConsumeMeta) : ConsumeRecord :=
  { record with topicRecords := fun t => if t = topic then some entry else record.topicRecords t }

def ConsumeRecord.initializeTopic (record : ConsumeRecord) (topic : Topic)
    (producerSequence : Nat) : ConsumeRecord :=
  match record.topicRecords topic with
  | none => record
  | some entry =>
    if entry.initialized then record
    else record.put topic { nextSequence := producerSequence, initialized := true }

def ConsumeRecord.updateSequence (record : ConsumeRecord) (topic : Topic)
    (nextSequence : Nat) : ConsumeRecord :=
  match record.topicRecords topic with
  | none => record
  | some _ => record.put topic { nextSequence, initialized := true }

/-! ### ConsumeRecordComposite -/

/-- The records are objects behind shared pointers, so the map holds their identities. -/
structure ConsumeRecordComposite where
  maxRecordsSize : Int
  consumeRecords : AList (fun _ : Key => Nat) := ∅

/-- `fresh` is the identity of the record that a successful call allocates. -/
def ConsumeRecordComposite.createNewRecord (composite : ConsumeRecordComposite) (key : Key)
    (topics : List Topic) (fresh : Nat) : Bool × ConsumeRecordComposite :=
  if topics.length = 0 then (false, composite)
  else if composite.consumeRecords.keys.length ≥ toUnsigned64 composite.maxRecordsSize then
    (false, composite)
  else (true, { composite with consumeRecords := composite.consumeRecords.insert key fresh })

def ConsumeRecordComposite.getRecord (composite : ConsumeRecordComposite) (key : Key) : Option Nat :=
  composite.consumeRecords.lookup key

def ConsumeRecordComposite.removeRecord (composite : ConsumeRecordComposite) (key : Key) :
    ConsumeRecordComposite :=
  { composite with consumeRecords := composite.consumeRecords.erase key }

/-! ### What each operation leaves alone -/

@[simp] theorem ConsumeRecord.put_getMeta (record : ConsumeRecord) (topic t : Topic)
    (entry : ConsumeMeta) :
    (record.put topic entry).getMeta t = if t = topic then some entry else record.getMeta t := rfl

@[simp] theorem ConsumeRecord.put_topics (record : ConsumeRecord) (topic : Topic)
    (entry : ConsumeMeta) : (record.put topic entry).topics = record.topics := rfl

@[simp] theorem ConsumeRecord.initializeTopic_topics (record : ConsumeRecord) (topic : Topic)
    (seq : Nat) : (record.initializeTopic topic seq).topics = record.topics := by
  unfold ConsumeRecord.initializeTopic
  split
  · rfl
  · split <;> rfl

@[simp] theorem ConsumeRecord.updateSequence_topics (record : ConsumeRecord) (topic : Topic)
    (seq : Nat) : (record.updateSequence topic seq).topics = record.topics := by
  unfold ConsumeRecord.updateSequence
  split <;> rfl

/-- `initializeTopic` sets an entry that is there and not initialized yet, and nothing else. -/
theorem ConsumeRecord.initializeTopic_getMeta (record : ConsumeRecord) (topic t : Topic)
    (seq : Nat) :
    (record.initializeTopic topic seq).getMeta t =
      if t = topic ∧ (record.getMeta t).map ConsumeMeta.initialized = some false then
        some { nextSequence := seq, initialized := true }
      else record.getMeta t := by
  unfold ConsumeRecord.initializeTopic ConsumeRecord.getMeta
  by_cases same : t = topic
  · subst same
    cases found : record.topicRecords t with
    | none => simp [found]
    | some entry =>
      cases fresh : entry.initialized
      · simp [fresh, ConsumeRecord.put]
      · simp [fresh, found]
  · split
    · simp [same]
    · split <;> simp [same, ConsumeRecord.put]

theorem ConsumeRecord.updateSequence_getMeta (record : ConsumeRecord) (topic t : Topic)
    (seq : Nat) :
    (record.updateSequence topic seq).getMeta t =
      if t = topic then (record.getMeta t).map fun _ => { nextSequence := seq, initialized := true }
      else record.getMeta t := by
  unfold ConsumeRecord.updateSequence ConsumeRecord.getMeta
  by_cases same : t = topic
  · subst same
    cases found : record.topicRecords t <;> simp [found, ConsumeRecord.put]
  · split <;> simp [same, ConsumeRecord.put]

theorem ConsumeRecord.new_getMeta (topics order : List Topic) (t : Topic) :
    (ConsumeRecord.new topics order).getMeta t = if t ∈ topics then some {} else none := rfl

end MessageRepeater.Combiner
