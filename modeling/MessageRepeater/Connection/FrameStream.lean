import MessageRepeater.Connection.SocketFrame

/-!
# Frames on a stream

Reading after encoding gives the frames back, and a read that completes has consumed an encoding:
the two directions of the codec over every way `recv` can cut, delay or end the stream.
-/

namespace MessageRepeater.Connection
open Foundation

/-- The bytes that arrive before the first timeout, error or end of the stream. -/
def prompt : List RecvEvent → Bytes
  | .chunk first rest :: events => first :: rest ++ prompt events
  | .interrupted :: events => prompt events
  | _ => []

/-- What stops the reader after the prompt bytes. -/
def stop : List RecvEvent → SocketFrameReadStatus
  | [] => .closed
  | .chunk _ _ :: events => stop events
  | .interrupted :: events => stop events
  | .timedOut :: _ => .timeout
  | .failed :: _ => .error

@[simp] theorem prompt_pushBack (bytes : Bytes) (events : List RecvEvent) :
    prompt (pushBack bytes events) = bytes ++ prompt events := by
  cases bytes <;> rfl

@[simp] theorem stop_pushBack (bytes : Bytes) (events : List RecvEvent) :
    stop (pushBack bytes events) = stop events := by
  cases bytes <;> rfl

theorem stop_ne_tooLarge (events : List RecvEvent) : stop events ≠ .tooLarge := by
  induction events with
  | nil => nofun
  | cons event events ih =>
    cases event with
    | chunk => exact ih
    | interrupted => exact ih
    | timedOut => nofun
    | failed => nofun

theorem chunking_tail {event : RecvEvent} {events : List RecvEvent} (chunks : Chunking (event :: events)) :
    Chunking events :=
  ⟨fun late => chunks.1 (List.mem_cons_of_mem _ late), fun late => chunks.2 (List.mem_cons_of_mem _ late)⟩

/-- On a chunked stream every byte is prompt and only the end stops the reader. -/
theorem prompt_of_chunking {events : List RecvEvent} (chunks : Chunking events) :
    prompt events = stream events ∧ stop events = .closed := by
  induction events with
  | nil => exact ⟨rfl, rfl⟩
  | cons event events ih =>
    obtain ⟨bytes, ends⟩ := ih (chunking_tail chunks)
    cases event with
    | chunk first rest =>
      refine ⟨?_, ends⟩
      simp only [prompt, stream, bytes]
    | interrupted => exact ⟨bytes, ends⟩
    | timedOut => exact absurd List.mem_cons_self chunks.1
    | failed => exact absurd List.mem_cons_self chunks.2

/-! ### The receive loop -/

/-- What a completed receive has consumed. -/
structure Consumes (events : List RecvEvent) (bytes : Bytes) (left : List RecvEvent) : Prop where
  prompt : prompt events = bytes ++ prompt left
  stream : stream events = bytes ++ stream left
  stop : stop left = stop events

theorem Consumes.trans {events middle left : List RecvEvent} {bytes bytes' : Bytes}
    (first : Consumes events bytes middle) (second : Consumes middle bytes' left) :
    Consumes events (bytes ++ bytes') left where
  prompt := by rw [first.prompt, second.prompt, List.append_assoc]
  stream := by rw [first.stream, second.stream, List.append_assoc]
  stop := second.stop.trans first.stop

theorem receiveExact_complete {events left : List RecvEvent} {size : Nat} {bytes : Bytes}
    (received : receiveExact events size = (.complete, bytes, left)) :
    bytes.length = size ∧ Consumes events bytes left := by
  induction events, size using receiveExact.induct generalizing bytes with
  | case1 events =>
    simp only [receiveExact, Prod.mk.injEq, true_and] at received
    obtain ⟨rfl, rfl⟩ := received
    exact ⟨rfl, rfl, rfl, rfl⟩
  | case2 size => cases received
  | case3 first rest events size fits ih =>
    simp only [receiveExact, fits, if_true, Prod.mk.injEq] at received
    obtain ⟨status, rfl, rfl⟩ := received
    obtain ⟨length, consumes⟩ := ih (by rw [← status])
    refine ⟨?_, ?_, ?_, consumes.stop⟩
    · simp only [List.length_append, List.length_cons, length]
      omega
    · simp only [prompt, List.cons_append, List.append_assoc]
      rw [consumes.prompt]
    · simp only [stream, List.cons_append, List.append_assoc]
      rw [consumes.stream]
  | case4 first rest events size long =>
    simp only [receiveExact, long, if_false, Prod.mk.injEq, true_and] at received
    obtain ⟨rfl, rfl⟩ := received
    refine ⟨?_, ?_, ?_, ?_⟩
    · simp only [List.length_cons, List.length_take]
      omega
    · simp [prompt, ← List.append_assoc]
    · simp [stream, ← List.append_assoc]
    · simp [stop]
  | case5 events size ih =>
    simp only [receiveExact] at received
    obtain ⟨length, consumes⟩ := ih received
    exact ⟨length, consumes.prompt, consumes.stream, consumes.stop⟩
  | case6 events size => cases received
  | case7 events size => cases received

theorem receiveExact_enough {events : List RecvEvent} {size : Nat}
    (enough : size ≤ (prompt events).length) :
    ∃ left, receiveExact events size = (.complete, (prompt events).take size, left) := by
  induction events, size using receiveExact.induct with
  | case1 events => exact ⟨events, by simp [receiveExact]⟩
  | case2 size => simp [prompt] at enough
  | case3 first rest events size fits ih =>
    simp only [prompt, List.cons_append, List.length_cons, List.length_append] at enough
    obtain ⟨left, read⟩ := ih (by omega)
    exact ⟨left, by simp [receiveExact, fits, read, prompt, List.take_append, List.take_of_length_le fits]⟩
  | case4 first rest events size long =>
    have short : size ≤ rest.length := by omega
    exact ⟨_, by simp [receiveExact, long, prompt, List.take_append, Nat.sub_eq_zero_of_le short]; rfl⟩
  | case5 events size ih =>
    obtain ⟨left, read⟩ := ih enough
    exact ⟨left, by simpa [receiveExact, prompt] using read⟩
  | case6 events size => simp [prompt] at enough
  | case7 events size => simp [prompt] at enough

/-- With too few prompt bytes the loop returns what stopped it. -/
theorem receiveExact_short {events : List RecvEvent} {size : Nat}
    (short : (prompt events).length < size) :
    ∃ left, receiveExact events size = (stop events, prompt events, left) ∧
      (stop events = .closed → left = []) := by
  induction events, size using receiveExact.induct with
  | case1 events => exact absurd short (Nat.not_lt_zero _)
  | case2 size => exact ⟨[], rfl, fun _ => rfl⟩
  | case3 first rest events size fits ih =>
    simp only [prompt, List.cons_append, List.length_cons, List.length_append] at short
    obtain ⟨left, read, ends⟩ := ih (by omega)
    exact ⟨left, by simp [receiveExact, fits, read, prompt, stop], ends⟩
  | case4 first rest events size long =>
    simp only [prompt, List.cons_append, List.length_cons, List.length_append] at short
    omega
  | case5 events size ih => exact ih short
  | case6 events size => exact ⟨events, rfl, by rintro ⟨⟩⟩
  | case7 events size => exact ⟨events, rfl, by rintro ⟨⟩⟩

/-- With enough prompt bytes the loop consumes exactly the first `size` of them. -/
theorem receiveExact_prompt {events : List RecvEvent} {bytes rest : Bytes}
    (arrived : prompt events = bytes ++ rest) :
    ∃ left, receiveExact events bytes.length = (.complete, bytes, left) ∧ Consumes events bytes left := by
  have enough : bytes.length ≤ (prompt events).length := by simp [arrived]
  obtain ⟨left, read⟩ := receiveExact_enough enough
  rw [arrived, List.take_left] at read
  exact ⟨left, read, (receiveExact_complete read).2⟩

/-! ### One call -/

theorem receiveExact_ne_tooLarge {events left : List RecvEvent} {size : Nat} {bytes : Bytes}
    {status : SocketFrameReadStatus} (read : receiveExact events size = (status, bytes, left)) :
    status ≠ .tooLarge := by
  by_cases enough : size ≤ (prompt events).length
  · obtain ⟨_, complete⟩ := receiveExact_enough enough
    rw [complete] at read
    cases read
    nofun
  · obtain ⟨_, stopped, _⟩ := receiveExact_short (Nat.not_le.mp enough)
    rw [stopped] at read
    cases read
    exact stop_ne_tooLarge events

/-- The ways a call can end. -/
inductive FrameRead (events : List RecvEvent) (maxTopicSize maxMessageSize : Nat) :
    SocketFrameReadResult × List RecvEvent → Prop
  | stopped {status : SocketFrameReadStatus} {left : List RecvEvent} (incomplete : status ≠ .complete)
      (within : status ≠ .tooLarge) : FrameRead events maxTopicSize maxMessageSize ({ status }, left)
  | topicTooLarge {lengthField : Bytes} {left : List RecvEvent} (four : lengthField.length = 4)
      (consumes : Consumes events lengthField left) (above : maxTopicSize < ofBe lengthField) :
      FrameRead events maxTopicSize maxMessageSize ({ status := .tooLarge }, left)
  | messageTooLarge {topic lengthField : Bytes} {left : List RecvEvent} (topic_lt : topic.length < 2 ^ 32)
      (four : lengthField.length = 4) (consumes : Consumes events (field topic ++ lengthField) left)
      (above : maxMessageSize < ofBe lengthField) :
      FrameRead events maxTopicSize maxMessageSize ({ status := .tooLarge }, left)
  | complete {topic message : Bytes} {left : List RecvEvent}
      (consumes : Consumes events (encodeSocketFrame topic message) left)
      (topic_le : topic.length ≤ maxTopicSize) (message_le : message.length ≤ maxMessageSize)
      (topic_lt : topic.length < 2 ^ 32) (message_lt : message.length < 2 ^ 32) :
      FrameRead events maxTopicSize maxMessageSize ({ status := .complete, topic, message }, left)

theorem field_of_length {lengthField bytes : Bytes} (four : lengthField.length = 4)
    (size : bytes.length = ofBe lengthField) : lengthField ++ bytes = field bytes := by
  rw [field, size, be32_ofBe four]

theorem readSocketFrameBlocking_read (events : List RecvEvent) (maxTopicSize maxMessageSize : Nat) :
    FrameRead events maxTopicSize maxMessageSize
      (readSocketFrameBlocking events maxTopicSize maxMessageSize) := by
  unfold readSocketFrameBlocking
  dsimp only
  split
  case h_2 incomplete read => exact .stopped incomplete (receiveExact_ne_tooLarge read)
  rename_i topicLength events₁ read₁
  obtain ⟨four, consumes₁⟩ := receiveExact_complete read₁
  split
  · rename_i above
    exact .topicTooLarge four consumes₁ above
  rename_i topic_le
  split
  case h_2 incomplete read => exact .stopped incomplete (receiveExact_ne_tooLarge read)
  rename_i topic events₂ read₂
  obtain ⟨size, consumes₂⟩ := receiveExact_complete read₂
  have topicConsumed := field_of_length four size ▸ consumes₁.trans consumes₂
  have topic_lt : topic.length < 2 ^ 32 := size ▸ ofBe_lt four
  split
  case h_2 incomplete read => exact .stopped incomplete (receiveExact_ne_tooLarge read)
  rename_i messageLength events₃ read₃
  obtain ⟨four', consumes₃⟩ := receiveExact_complete read₃
  split
  · rename_i above
    exact .messageTooLarge topic_lt four' (topicConsumed.trans consumes₃) above
  rename_i message_le
  split
  case h_2 incomplete read => exact .stopped incomplete (receiveExact_ne_tooLarge read)
  rename_i message events₄ read₄
  obtain ⟨size', consumes₄⟩ := receiveExact_complete read₄
  have messageConsumed := field_of_length four' size' ▸ consumes₃.trans consumes₄
  exact .complete (topicConsumed.trans messageConsumed) (by omega) (by omega) topic_lt
    (size' ▸ ofBe_lt four')

/-- A call that completes has consumed the image of the frame it returns, within both limits. -/
theorem readSocketFrameBlocking_complete {events left : List RecvEvent} {maxTopicSize maxMessageSize : Nat}
    {topic message : Bytes}
    (read : readSocketFrameBlocking events maxTopicSize maxMessageSize =
      ({ status := .complete, topic, message }, left)) :
    Consumes events (encodeSocketFrame topic message) left ∧
      topic.length ≤ maxTopicSize ∧ message.length ≤ maxMessageSize ∧
      topic.length < 2 ^ 32 ∧ message.length < 2 ^ 32 := by
  have ended := readSocketFrameBlocking_read events maxTopicSize maxMessageSize
  rw [read] at ended
  cases ended with
  | stopped incomplete _ => exact absurd rfl incomplete
  | complete consumes topic_le message_le topic_lt message_lt =>
    exact ⟨consumes, topic_le, message_le, topic_lt, message_lt⟩

theorem encodeSocketFrame_append_inj {topic topic' message message' rest rest' : Bytes}
    (topic_lt : topic.length < 2 ^ 32) (message_lt : message.length < 2 ^ 32)
    (topic_lt' : topic'.length < 2 ^ 32) (message_lt' : message'.length < 2 ^ 32)
    (same : encodeSocketFrame topic message ++ rest = encodeSocketFrame topic' message' ++ rest') :
    topic = topic' ∧ message = message' ∧ rest = rest' := by
  simp only [encodeSocketFrame, List.append_assoc] at same
  obtain ⟨topics, tails⟩ := field_append_inj topic_lt topic_lt' same
  obtain ⟨messages, rests⟩ := field_append_inj message_lt message_lt' tails
  exact ⟨topics, messages, rests⟩

/-- A stream that stops inside a frame is never read as a frame. -/
theorem readSocketFrameBlocking_truncated {events : List RecvEvent} {maxTopicSize maxMessageSize : Nat}
    {topic message missing : Bytes} (topic_lt : topic.length < 2 ^ 32)
    (message_lt : message.length < 2 ^ 32)
    (inside : prompt events ++ missing = encodeSocketFrame topic message) (short : missing ≠ []) :
    (readSocketFrameBlocking events maxTopicSize maxMessageSize).1.status ≠ .complete := by
  intro complete
  rcases read : readSocketFrameBlocking events maxTopicSize maxMessageSize with
    ⟨⟨status, topic', message'⟩, left⟩
  rw [read] at complete
  cases complete
  obtain ⟨consumes, _, _, topic_lt', message_lt'⟩ := readSocketFrameBlocking_complete read
  have same : encodeSocketFrame topic' message' ++ (prompt left ++ missing) =
      encodeSocketFrame topic message ++ [] := by
    rw [List.append_nil, ← inside, consumes.prompt, List.append_assoc]
  obtain ⟨_, _, nothing⟩ := encodeSocketFrame_append_inj topic_lt' message_lt' topic_lt message_lt same
  exact short (List.append_eq_nil_iff.mp nothing).2

theorem readSocketFrameBlocking_topic_tooLarge {events : List RecvEvent} {maxTopicSize : Nat}
    (maxMessageSize : Nat) {lengthField body : Bytes} (four : lengthField.length = 4)
    (arrived : prompt events = lengthField ++ body) (above : maxTopicSize < ofBe lengthField) :
    ∃ left, readSocketFrameBlocking events maxTopicSize maxMessageSize = ({ status := .tooLarge }, left) ∧
      Consumes events lengthField left := by
  obtain ⟨left, read, consumes⟩ := receiveExact_prompt arrived
  rw [four] at read
  exact ⟨left, by simp [readSocketFrameBlocking, read, above], consumes⟩

theorem readSocketFrameBlocking_message_tooLarge {events : List RecvEvent}
    {maxTopicSize maxMessageSize : Nat} {topic lengthField body : Bytes} (four : lengthField.length = 4)
    (topic_le : topic.length ≤ maxTopicSize) (topic_lt : topic.length < 2 ^ 32)
    (arrived : prompt events = field topic ++ (lengthField ++ body))
    (above : maxMessageSize < ofBe lengthField) :
    ∃ left, readSocketFrameBlocking events maxTopicSize maxMessageSize = ({ status := .tooLarge }, left) ∧
      Consumes events (field topic ++ lengthField) left := by
  rw [field, List.append_assoc] at arrived
  obtain ⟨events₁, read₁, consumes₁⟩ := receiveExact_prompt arrived
  have rest₁ := List.append_cancel_left (consumes₁.prompt.symm.trans arrived)
  obtain ⟨events₂, read₂, consumes₂⟩ := receiveExact_prompt rest₁
  have rest₂ := List.append_cancel_left (consumes₂.prompt.symm.trans rest₁)
  obtain ⟨left, read₃, consumes₃⟩ := receiveExact_prompt rest₂
  rw [be32_length] at read₁
  rw [four] at read₃
  refine ⟨left, ?_, field.eq_1 topic ▸ (consumes₁.trans consumes₂).trans consumes₃⟩
  simp only [readSocketFrameBlocking, read₁, read₂, read₃, ofBe_be32 topic_lt, gt_iff_lt,
    if_neg (Nat.not_lt.mpr topic_le), if_pos above]

/-- A call that answers `TooLarge` has consumed a length field beyond its limit: the first four bytes,
or the four behind a topic. -/
theorem readSocketFrameBlocking_tooLarge {events : List RecvEvent} {maxTopicSize maxMessageSize : Nat}
    (large : (readSocketFrameBlocking events maxTopicSize maxMessageSize).1.status = .tooLarge) :
    ∃ bytes lengthField left, lengthField.length = 4 ∧ Consumes events (bytes ++ lengthField) left ∧
      ((bytes = [] ∧ maxTopicSize < ofBe lengthField) ∨
        ∃ topic, topic.length < 2 ^ 32 ∧ bytes = field topic ∧ maxMessageSize < ofBe lengthField) := by
  have ended := readSocketFrameBlocking_read events maxTopicSize maxMessageSize
  generalize readSocketFrameBlocking events maxTopicSize maxMessageSize = result at large ended
  cases ended with
  | stopped _ within => exact absurd large within
  | topicTooLarge four consumes above => exact ⟨[], _, _, four, consumes, .inl ⟨rfl, above⟩⟩
  | @messageTooLarge topic _ _ topic_lt four consumes above =>
    exact ⟨field topic, _, _, four, consumes, .inr ⟨topic, topic_lt, rfl, above⟩⟩
  | complete => cases large

/-- On a part of a stream of frames within the limits no call answers `TooLarge`. -/
theorem readSocketFrameBlocking_within {events : List RecvEvent} {maxTopicSize maxMessageSize : Nat}
    {topic message rest : Bytes} (topic_lt : topic.length < 2 ^ 32) (message_lt : message.length < 2 ^ 32)
    (topic_le : topic.length ≤ maxTopicSize) (message_le : message.length ≤ maxMessageSize)
    (arrived : stream events <+: encodeSocketFrame topic message ++ rest) :
    (readSocketFrameBlocking events maxTopicSize maxMessageSize).1.status ≠ .tooLarge := by
  intro large
  obtain ⟨bytes, lengthField, left, four, consumes, above⟩ := readSocketFrameBlocking_tooLarge large
  obtain ⟨later, image⟩ := arrived
  rw [consumes.stream, encodeSocketFrame, field] at image
  rcases above with ⟨rfl, above⟩ | ⟨topic', lt, rfl, above⟩
  · simp only [List.nil_append, List.append_assoc] at image
    obtain ⟨rfl, _⟩ := List.append_inj image four
    rw [ofBe_be32 topic_lt] at above
    omega
  · simp only [List.append_assoc] at image
    rw [← List.append_assoc (be32 _) topic, ← field] at image
    obtain ⟨_, rests⟩ := field_append_inj lt topic_lt image
    rw [field, List.append_assoc] at rests
    obtain ⟨rfl, _⟩ := List.append_inj rests four
    rw [ofBe_be32 message_lt] at above
    omega

/-! ### Repeated calls -/

/-- The results of `count` calls in turn. -/
def readFrames (maxTopicSize maxMessageSize : Nat) : Nat → List RecvEvent → List SocketFrameReadResult
  | 0, _ => []
  | count + 1, events =>
    let read := readSocketFrameBlocking events maxTopicSize maxMessageSize
    read.1 :: readFrames maxTopicSize maxMessageSize count read.2

def completeResult (frame : Bytes × Bytes) : SocketFrameReadResult :=
  { status := .complete, topic := frame.1, message := frame.2 }

theorem readFrames_closed {events : List RecvEvent} (maxTopicSize maxMessageSize count : Nat)
    (chunks : Chunking events) (ended : stream events = []) :
    readFrames maxTopicSize maxMessageSize count events =
      List.replicate count { status := .closed } := by
  induction count generalizing events with
  | zero => rfl
  | succ count ih =>
    obtain ⟨bytes, ends⟩ := prompt_of_chunking chunks
    have short : (prompt events).length < 4 := by simp [bytes, ended]
    obtain ⟨left, read, gone⟩ := receiveExact_short short
    rw [ends] at read
    obtain rfl := gone ends
    simp only [readFrames, readSocketFrameBlocking, read, List.replicate_succ]
    rw [ih ⟨by simp, by simp⟩ rfl]

/-- However the images of a list of frames are cut into chunks, the calls return the frames in order. -/
theorem readFrames_encode {maxTopicSize maxMessageSize : Nat} (topic_lt : maxTopicSize < 2 ^ 32)
    (message_lt : maxMessageSize < 2 ^ 32) (frames : List (Bytes × Bytes))
    (within : ∀ frame ∈ frames, frame.1.length ≤ maxTopicSize ∧ frame.2.length ≤ maxMessageSize)
    {events : List RecvEvent} (chunks : Chunking events)
    (image : stream events = frames.flatMap fun frame => encodeSocketFrame frame.1 frame.2) (extra : Nat) :
    readFrames maxTopicSize maxMessageSize (frames.length + extra) events =
      frames.map completeResult ++ List.replicate extra { status := .closed } := by
  induction frames generalizing events with
  | nil =>
    rw [List.length_nil, Nat.zero_add]
    exact readFrames_closed maxTopicSize maxMessageSize extra chunks image
  | cons frame frames ih =>
    obtain ⟨topic_le, message_le⟩ := within frame List.mem_cons_self
    obtain ⟨left, read, chunksLeft, imageLeft⟩ := readSocketFrameBlocking_encode chunks image topic_le
      message_le (by omega) (by omega)
    have rest := ih (fun later member => within later (List.mem_cons_of_mem _ member)) chunksLeft imageLeft
    rw [List.length_cons, Nat.add_right_comm]
    simp only [readFrames, read, rest, List.map_cons, List.cons_append, completeResult]

/-! ### The codec over streams -/

/-- Reading inverts encoding on every chunking, and a call completes on nothing but an image. -/
structure FrameCodec (maxTopicSize maxMessageSize : Nat) : Prop where
  roundTrip : ∀ frames : List (Bytes × Bytes),
    (∀ frame ∈ frames, frame.1.length ≤ maxTopicSize ∧ frame.2.length ≤ maxMessageSize) →
    ∀ events, Chunking events →
    stream events = (frames.flatMap fun frame => encodeSocketFrame frame.1 frame.2) →
    ∀ extra, readFrames maxTopicSize maxMessageSize (frames.length + extra) events =
      frames.map completeResult ++ List.replicate extra { status := .closed }
  complete : ∀ events topic message left,
    readSocketFrameBlocking events maxTopicSize maxMessageSize =
      ({ status := .complete, topic, message }, left) →
    Consumes events (encodeSocketFrame topic message) left
  truncated : ∀ events topic message missing, topic.length < 2 ^ 32 → message.length < 2 ^ 32 →
    prompt events ++ missing = encodeSocketFrame topic message → missing ≠ [] →
    (readSocketFrameBlocking events maxTopicSize maxMessageSize).1.status ≠ .complete
  topicTooLarge : ∀ events lengthField body, lengthField.length = 4 →
    prompt events = lengthField ++ body → maxTopicSize < ofBe lengthField →
    ∃ left, readSocketFrameBlocking events maxTopicSize maxMessageSize =
      ({ status := .tooLarge }, left) ∧ Consumes events lengthField left
  messageTooLarge : ∀ events topic lengthField body, lengthField.length = 4 →
    topic.length ≤ maxTopicSize → prompt events = field topic ++ (lengthField ++ body) →
    maxMessageSize < ofBe lengthField →
    ∃ left, readSocketFrameBlocking events maxTopicSize maxMessageSize =
      ({ status := .tooLarge }, left) ∧ Consumes events (field topic ++ lengthField) left

theorem frame_codec {maxTopicSize maxMessageSize : Nat} (topic_lt : maxTopicSize < 2 ^ 32)
    (message_lt : maxMessageSize < 2 ^ 32) : FrameCodec maxTopicSize maxMessageSize where
  roundTrip frames within _ chunks image extra :=
    readFrames_encode topic_lt message_lt frames within chunks image extra
  complete _ _ _ _ read := (readSocketFrameBlocking_complete read).1
  truncated _ _ _ _ topic message inside short :=
    readSocketFrameBlocking_truncated topic message inside short
  topicTooLarge _ _ _ four arrived above := readSocketFrameBlocking_topic_tooLarge _ four arrived above
  messageTooLarge _ _ _ _ four within arrived above :=
    readSocketFrameBlocking_message_tooLarge four within (by omega) arrived above

/-- Two frames that arrive in three chunks with an interrupted call between them. -/
theorem frame_codec_two_frames :
    readFrames 8 8 3
      [.chunk 0 [0, 0, 1, 97, 0, 0], .interrupted, .chunk 0 [2, 120, 121, 0],
        .chunk 0 [0, 1, 98, 0, 0, 0, 0]] =
      [completeResult (ascii "a", ascii "xy"), completeResult (ascii "b", []), { status := .closed }] := by
  have codec := @frame_codec 8 8 (by decide) (by decide)
  exact codec.roundTrip [(ascii "a", ascii "xy"), (ascii "b", [])] (by decide) _ ⟨by decide, by decide⟩
    (by decide) 1

end MessageRepeater.Connection
