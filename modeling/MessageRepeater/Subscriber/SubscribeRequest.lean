import MessageRepeater.Combiner.GlobalContext
import MessageRepeater.Subscriber.Threads

/-!
# Subscribe requests

`parseSubscribeTopics` of `src/subscriber/subscriber_acceptor.cpp`, and what the reading thread makes
of a frame. The JSON library is a parameter: `parse` is the value that `Json::Reader::parse` leaves for
a text, whether it reports success or not.
-/

namespace MessageRepeater.Subscriber
open Foundation Combiner Config Connection

/-- A JSON value, a string, number or boolean being known by its `asString`. -/
inductive JsonValue where
  | null
  | scalar (text : Bytes)
  | array (elements : List JsonValue)
  | object (members : List (Bytes × JsonValue))

/-- `asString`, `none` where it throws. -/
def JsonValue.asString : JsonValue → Option Bytes
  | .null => some []
  | .scalar text => some text
  | .array _ | .object _ => none

/-- The elements of `["topics"]` if it is an array. `isMember` throws on a value that is neither an
object nor null, which leaves no topics either. -/
def JsonValue.topics : JsonValue → List JsonValue
  | .object members =>
    match members.lookup (ascii "topics") with
    | some (.array elements) => elements
    | _ => []
  | _ => []

/-- The three filters of a subscribe request. -/
def subscribable (context : GlobalContext) (topic : Topic) : Bool :=
  context.isAllownTopic topic && context.isEnabledSubscribeTopic topic &&
    !context.isDisabledSubscribeTopic topic

/-- `insert` into a `set<string>`, listed in its order. -/
def insertTopic (topic : Topic) : List Topic → List Topic
  | [] => [topic]
  | t :: rest =>
    if topic = t then t :: rest
    else if topic < t then topic :: t :: rest
    else t :: insertTopic topic rest

/-- The loop over the elements. An exception ends it and keeps what has been inserted. -/
def collectTopics (context : GlobalContext) : List JsonValue → List Topic → List Topic
  | [], topics => topics
  | element :: rest, topics =>
    match element.asString with
    | none => topics
    | some topic =>
      collectTopics context rest
        (if subscribable context topic then insertTopic topic topics else topics)

def parseSubscribeTopics (context : GlobalContext) (parse : Bytes → JsonValue) (messageBody : Bytes) :
    List Topic :=
  collectTopics context (parse messageBody).topics []

/-- What a frame asks for: the buffers are read as C strings. -/
def requestOf (context : GlobalContext) (parse : Bytes → JsonValue) (topicBuffer messageBuffer : Bytes) :
    Request :=
  let topic := cString topicBuffer
  if topic = ascii "ping" then .ping
  else if topic = messageOpPong then .pong
  else if topic = messageOpSubscribe then
    .subscribe (parseSubscribeTopics context parse (cString messageBuffer))
  else .other

/-! ### The topics of a request -/

/-- The text of a subscribe request names the topic. -/
def Names (parse : Bytes → JsonValue) (text : Bytes) (topic : Topic) : Prop :=
  ∃ element ∈ (parse text).topics, element.asString = some topic

theorem mem_insertTopic {topic t : Topic} {topics : List Topic} (member : t ∈ insertTopic topic topics) :
    t = topic ∨ t ∈ topics := by
  induction topics with
  | nil => exact .inl (List.mem_singleton.mp member)
  | cons first rest ih =>
    unfold insertTopic at member
    split at member
    · exact .inr member
    · split at member
      · exact List.mem_cons.mp member
      · rcases List.mem_cons.mp member with rfl | later
        · exact .inr List.mem_cons_self
        · exact (ih later).imp_right (List.mem_cons_of_mem first)

theorem mem_collectTopics {context : GlobalContext} {elements : List JsonValue} {topics : List Topic}
    {topic : Topic} (member : topic ∈ collectTopics context elements topics) :
    topic ∈ topics ∨
      (subscribable context topic = true ∧ ∃ element ∈ elements, element.asString = some topic) := by
  induction elements generalizing topics with
  | nil => exact .inl member
  | cons element rest ih =>
    simp only [collectTopics] at member
    split at member
    · exact .inl member
    · rename_i text named
      rcases ih member with inserted | ⟨passes, later, present, same⟩
      · split at inserted
        · rename_i passes
          rcases mem_insertTopic inserted with rfl | before
          · exact .inr ⟨passes, element, List.mem_cons_self, named⟩
          · exact .inl before
        · exact .inl inserted
      · exact .inr ⟨passes, later, List.mem_cons_of_mem element present, same⟩

/-- A parsed topic is named in the text and passes the filters. -/
theorem mem_parseSubscribeTopics {context : GlobalContext} {parse : Bytes → JsonValue} {text : Bytes}
    {topic : Topic} (member : topic ∈ parseSubscribeTopics context parse text) :
    Names parse text topic ∧ subscribable context topic = true := by
  rcases mem_collectTopics member with none_ | ⟨passes, named⟩
  · cases none_
  · exact ⟨named, passes⟩

theorem requestOf_subscribe {context : GlobalContext} {parse : Bytes → JsonValue}
    {topicBuffer messageBuffer : Bytes} {topics : List Topic}
    (request : requestOf context parse topicBuffer messageBuffer = .subscribe topics) :
    cString topicBuffer = messageOpSubscribe ∧
      topics = parseSubscribeTopics context parse (cString messageBuffer) := by
  unfold requestOf at request
  dsimp only at request
  split at request
  · cases request
  · split at request
    · cases request
    · split at request
      · rename_i subscribe
        cases request
        exact ⟨subscribe, rfl⟩
      · cases request

end MessageRepeater.Subscriber
