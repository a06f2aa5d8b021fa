import MessageRepeater.Foundation.Bytes

/-!
# Socket frames

The length-prefixed frame codec of `src/connection/socket_frame.*` and its loops over `send` and
`recv`.
-/

namespace MessageRepeater.Connection
open Foundation

def encodeSocketFrame (topic message : Bytes) : Bytes := field topic ++ field message

inductive NonBlockingSendStatus where
  | complete | wouldBlock | error
  deriving DecidableEq, Repr

inductive SocketFrameReadStatus where
  | complete | timeout | closed | tooLarge | error
  deriving DecidableEq, Repr

structure SocketFrameReadResult where
  status : SocketFrameReadStatus
  topic : Bytes := []
  message : Bytes := []
  deriving DecidableEq, Repr

/-- What `recv` will see: a chunk of at least one byte, `EINTR`, a timeout, or another error. At the
end of the list the peer has closed. -/
inductive RecvEvent where
  | chunk (first : UInt8) (rest : Bytes)
  | interrupted
  | timedOut
  | failed
  deriving DecidableEq, Repr

/-- The unread rest of a chunk. -/
def pushBack : Bytes → List RecvEvent → List RecvEvent
  | [], events => events
  | first :: rest, events => .chunk first rest :: events

/-- The receive loop: the status, the bytes received and the events left. -/
def receiveExact : List RecvEvent → Nat → SocketFrameReadStatus × Bytes × List RecvEvent
  | events, 0 => (.complete, [], events)
  | [], _ + 1 => (.closed, [], [])
  | .chunk first rest :: events, size + 1 =>
    if rest.length ≤ size then
      let received := receiveExact events (size - rest.length)
      (received.1, first :: rest ++ received.2.1, received.2.2)
    else (.complete, first :: rest.take size, pushBack (rest.drop size) events)
  | .interrupted :: events, size + 1 => receiveExact events (size + 1)
  | .timedOut :: events, _ + 1 => (.timeout, [], events)
  | .failed :: events, _ + 1 => (.error, [], events)

def readSocketFrameBlocking (events : List RecvEvent) (maxTopicSize maxMessageSize : Nat) :
    SocketFrameReadResult × List RecvEvent :=
  match receiveExact events 4 with
  | (.complete, encodedTopicLength, events) =>
    let topicLength := ofBe encodedTopicLength
    if topicLength > maxTopicSize then ({ status := .tooLarge }, events)
    else
      match receiveExact events topicLength with
      | (.complete, topic, events) =>
        match receiveExact events 4 with
        | (.complete, encodedMessageLength, events) =>
          let messageLength := ofBe encodedMessageLength
          if messageLength > maxMessageSize then ({ status := .tooLarge }, events)
          else
            match receiveExact events messageLength with
            | (.complete, message, events) => ({ status := .complete, topic, message }, events)
            | (status, _, events) => ({ status }, events)
        | (status, _, events) => ({ status }, events)
      | (status, _, events) => ({ status }, events)
  | (status, _, events) => ({ status }, events)

/-! ### Frame images -/

theorem encodeSocketFrame_length (topic message : Bytes) :
    (encodeSocketFrame topic message).length = 8 + topic.length + message.length := by
  simp only [encodeSocketFrame, List.length_append, field_length]
  omega

/-! ### The receive loop consumes a prefix of the stream -/

/-- The bytes that the events deliver in all. -/
def stream : List RecvEvent → Bytes
  | [] => []
  | .chunk first rest :: events => first :: rest ++ stream events
  | _ :: events => stream events

/-- No timeout and no error: the events only cut the stream into chunks. -/
def Chunking (events : List RecvEvent) : Prop := .timedOut ∉ events ∧ .failed ∉ events

@[simp] theorem stream_pushBack (bytes : Bytes) (events : List RecvEvent) :
    stream (pushBack bytes events) = bytes ++ stream events := by
  cases bytes <;> rfl

theorem chunking_pushBack {bytes : Bytes} {events : List RecvEvent} (chunks : Chunking events) :
    Chunking (pushBack bytes events) := by
  cases bytes with
  | nil => exact chunks
  | cons first rest => simpa [pushBack, Chunking] using chunks

/-- On a chunked stream with enough bytes the loop returns exactly the next `size` of them. -/
theorem receiveExact_chunking {events : List RecvEvent} (size : Nat) (chunks : Chunking events)
    (enough : size ≤ (stream events).length) :
    ∃ left, receiveExact events size = (.complete, (stream events).take size, left) ∧
      Chunking left ∧ stream left = (stream events).drop size := by
  induction events, size using receiveExact.induct with
  | case1 events => exact ⟨events, by simp [receiveExact], chunks, rfl⟩
  | case2 size => simp [stream] at enough
  | case3 first rest events size fits ih =>
    simp only [stream, List.cons_append, List.length_cons, List.length_append] at enough
    obtain ⟨left, read, chunksLeft, streamLeft⟩ :=
      ih ⟨by simpa using fun h => chunks.1 (by simp [h]), by simpa using fun h => chunks.2 (by simp [h])⟩
        (by omega)
    refine ⟨left, ?_, chunksLeft, ?_⟩
    · simp [receiveExact, fits, read, stream, List.take_append, List.take_of_length_le fits]
    · simp [stream, streamLeft, List.drop_append, List.drop_eq_nil_of_le fits]
  | case4 first rest events size long =>
    have short : size ≤ rest.length := by omega
    refine ⟨_, by simp [receiveExact, long, stream, List.take_append, Nat.sub_eq_zero_of_le short]; rfl,
      ?_, ?_⟩
    · exact chunking_pushBack
        ⟨by simpa using fun h => chunks.1 (by simp [h]), by simpa using fun h => chunks.2 (by simp [h])⟩
    · simp [stream, List.drop_append, Nat.sub_eq_zero_of_le short]
  | case5 events size ih =>
    obtain ⟨left, read, rest⟩ :=
      ih ⟨by simpa using fun h => chunks.1 (by simp [h]), by simpa using fun h => chunks.2 (by simp [h])⟩
        (by simpa [stream] using enough)
    exact ⟨left, by simpa [receiveExact, stream] using read, by simpa [stream] using rest⟩
  | case6 events size => exact absurd List.mem_cons_self chunks.1
  | case7 events size => exact absurd List.mem_cons_self chunks.2

/-- Whatever way the image of a frame is cut into chunks, reading it gives the frame back. -/
theorem readSocketFrameBlocking_encode {events : List RecvEvent} {topic message rest : Bytes}
    {maxTopicSize maxMessageSize : Nat} (chunks : Chunking events)
    (image : stream events = encodeSocketFrame topic message ++ rest)
    (topic_le : topic.length ≤ maxTopicSize) (message_le : message.length ≤ maxMessageSize)
    (topic_lt : topic.length < 2 ^ 32) (message_lt : message.length < 2 ^ 32) :
    ∃ left, readSocketFrameBlocking events maxTopicSize maxMessageSize =
        ({ status := .complete, topic, message }, left) ∧ Chunking left ∧ stream left = rest := by
  have total : (stream events).length = 8 + topic.length + message.length + rest.length := by
    rw [image, List.length_append, encodeSocketFrame_length]
  simp only [encodeSocketFrame, field, List.append_assoc] at image
  obtain ⟨left₁, read₁, chunks₁, stream₁⟩ := receiveExact_chunking 4 chunks (by omega)
  rw [image, List.take_left' (be32_length _)] at read₁
  rw [image, List.drop_left' (be32_length _)] at stream₁
  obtain ⟨left₂, read₂, chunks₂, stream₂⟩ :=
    receiveExact_chunking topic.length chunks₁ (by simp [stream₁])
  rw [stream₁, List.take_left] at read₂
  rw [stream₁, List.drop_left] at stream₂
  obtain ⟨left₃, read₃, chunks₃, stream₃⟩ :=
    receiveExact_chunking 4 chunks₂ (by simp [stream₂])
  rw [stream₂, List.take_left' (be32_length _)] at read₃
  rw [stream₂, List.drop_left' (be32_length _)] at stream₃
  obtain ⟨left₄, read₄, chunks₄, stream₄⟩ :=
    receiveExact_chunking message.length chunks₃ (by simp [stream₃])
  rw [stream₃, List.take_left] at read₄
  rw [stream₃, List.drop_left] at stream₄
  refine ⟨left₄, ?_, chunks₄, stream₄⟩
  simp only [readSocketFrameBlocking, read₁, read₂, read₃, read₄, ofBe_be32 topic_lt,
    ofBe_be32 message_lt, gt_iff_lt, if_neg (Nat.not_lt.mpr topic_le),
    if_neg (Nat.not_lt.mpr message_le)]

end MessageRepeater.Connection
