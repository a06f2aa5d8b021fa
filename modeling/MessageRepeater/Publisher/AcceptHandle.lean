import MessageRepeater.Combiner.GlobalContext
import MessageRepeater.Combiner.TopicStore
import MessageRepeater.Connection.SocketFrame

/-!
# The publisher loop

`PublisherBootstrap::acceptHandle` of `src/publisher/publisher_acceptor.cpp`, over the bytes that the
client has sent. `recv` with `MSG_WAITALL` returns short only at their end.
-/

namespace MessageRepeater.Publisher
open Foundation Combiner Config Connection

def headerSize : Nat := 4
def maxMessageSize : Nat := 65536

/-- What a publisher connection has done to the rest of the process. `appended` lists what
`appendMessageToCircle` has stored, oldest first. -/
structure Session where
  store : MessageCircleComposite
  appended : List (Topic × Bytes) := []
  /-- The topics given to `submit_message_topic_to_event_loop`. -/
  submitted : List Topic := []
  /-- How often `sendSocketData` has been called for a pong. -/
  pongs : Nat := 0

/-- `recv` of `count` bytes with `MSG_WAITALL`, `none` if fewer are left. -/
def recvAll (input : Bytes) (count : Nat) : Option (Bytes × Bytes) :=
  if count ≤ input.length then some (input.take count, input.drop count) else none

/-- Steps 1 to 4: the two buffers, each with the byte behind the field, and the input left. -/
inductive Received where
  | frame (topicBuffer messageBuffer rest : Bytes)
  /-- The loop ends. -/
  | ended
  /-- The topic buffer is no longer than the count passed to `recv` for it. -/
  | overflow
  deriving DecidableEq, Repr

/-- A buffer's length is `topic_length + 1` in `uint32_t`. -/
def receive (input : Bytes) : Received :=
  match recvAll input headerSize with
  | none => .ended
  | some (header, input) =>
    let topicLength := ofBe header
    if (topicLength + 1) % 2 ^ 32 ≤ topicLength then .overflow
    else
      match recvAll input topicLength with
      | none => .ended
      | some (topic, input) =>
        match recvAll input headerSize with
        | none => .ended
        | some (header, input) =>
          let messageLength := ofBe header
          if messageLength > maxMessageSize then .ended
          else
            match recvAll input messageLength with
            | none => .ended
            | some (message, rest) => .frame (topic ++ [0]) (message ++ [0]) rest

/-- Step 5 once the topic is let in and the message fits. -/
def storeMessage (config : RepeaterConfig) (session : Session) (topic message : Bytes) :
    Except Bytes Session :=
  match session.store.createCircleIfAbsent topic config.maxTopicCircleSize with
  | .error what => .error what
  | .ok (false, store) => .ok { session with store }
  | .ok (true, store) =>
    match store.appendMessageToCircle topic message with
    | .error what => .error what
    | .ok (false, store) => .ok { session with store }
    | .ok (true, store) =>
      .ok
        { session with
          store
          appended := session.appended ++ [(topic, message)]
          submitted :=
            if config.subscriberEnableEventLoop then session.submitted ++ [topic]
            else session.submitted }

/-- Step 5: the buffers are read as C strings. The body limit is an `int` that the comparison makes
unsigned. -/
def handleFrame (config : RepeaterConfig) (context : GlobalContext) (session : Session)
    (topicBuffer messageBuffer : Bytes) : Except Bytes Session :=
  let topic := cString topicBuffer
  if topic = ascii "ping" then .ok { session with pongs := session.pongs + 1 }
  else if topic = ascii "pong" then .ok session
  else if topic = ascii "subscribe" then .ok session
  else
    let messageText := cString messageBuffer
    if context.isAllownTopic topic = false then .ok session
    else if messageText.length > toUnsigned64 config.maxMessageBodySize then .ok session
    else storeMessage config session topic messageText

/-- How a connection ends: the loop is left, an exception leaves the thread, or a buffer overflows. -/
inductive Ending where
  | closed
  | exception (what : Bytes)
  | overflow
  deriving DecidableEq, Repr

/-- The loop, with a bound on its turns. Each turn takes at least eight bytes. -/
def acceptLoop (config : RepeaterConfig) (context : GlobalContext) :
    Nat → Session → Bytes → Session × Ending
  | 0, session, _ => (session, .closed)
  | turns + 1, session, input =>
    match receive input with
    | .ended => (session, .closed)
    | .overflow => (session, .overflow)
    | .frame topicBuffer messageBuffer rest =>
      match handleFrame config context session topicBuffer messageBuffer with
      | .error what => (session, .exception what)
      | .ok session => acceptLoop config context turns session rest

def acceptHandle (config : RepeaterConfig) (context : GlobalContext) (session : Session)
    (input : Bytes) : Session × Ending :=
  acceptLoop config context (input.length + 1) session input

/-! ### Receiving -/

theorem recvAll_append (bytes rest : Bytes) :
    recvAll (bytes ++ rest) bytes.length = some (bytes, rest) := by
  simp [recvAll]

theorem recvAll_header (n : Nat) (rest : Bytes) :
    recvAll (be32 n ++ rest) headerSize = some (be32 n, rest) := recvAll_append (be32 n) rest

/-- A frame at the front of the input is received as it is, a NUL behind each field. -/
theorem receive_encode {topic message rest : Bytes} (topic_lt : topic.length + 1 < 2 ^ 32)
    (message_le : message.length ≤ maxMessageSize) :
    receive (encodeSocketFrame topic message ++ rest) =
      .frame (topic ++ [0]) (message ++ [0]) rest := by
  have topicLength : ofBe (be32 topic.length) = topic.length := ofBe_be32 (by omega)
  have messageLength : ofBe (be32 message.length) = message.length := by
    apply ofBe_be32
    unfold maxMessageSize at message_le
    omega
  have room : ¬ (topic.length + 1) % 2 ^ 32 ≤ topic.length := by
    rw [Nat.mod_eq_of_lt topic_lt]
    omega
  simp only [receive, encodeSocketFrame, field, List.append_assoc, recvAll_header, topicLength,
    if_neg room, recvAll_append, messageLength, if_neg (Nat.not_lt.mpr message_le), gt_iff_lt]

/-- The topic buffer of the longest topic has no room at all. -/
theorem receive_encode_overflow {topic message rest : Bytes} (longest : topic.length + 1 = 2 ^ 32) :
    receive (encodeSocketFrame topic message ++ rest) = .overflow := by
  have topicLength : ofBe (be32 topic.length) = topic.length := ofBe_be32 (by omega)
  have full : (topic.length + 1) % 2 ^ 32 ≤ topic.length := by
    rw [longest]
    omega
  simp only [receive, encodeSocketFrame, field, List.append_assoc, recvAll_header, topicLength,
    if_pos full]

/-- A received message has at most 65536 bytes in front of the byte behind it. -/
theorem receive_message_le {input topicBuffer messageBuffer rest : Bytes}
    (received : receive input = .frame topicBuffer messageBuffer rest) :
    (cString messageBuffer).length ≤ maxMessageSize := by
  have taken : ∀ {bytes message left : Bytes} {count : Nat},
      recvAll bytes count = some (message, left) → message.length ≤ count := by
    intro bytes message left count taken
    unfold recvAll at taken
    split at taken <;> cases taken
    exact List.length_take_le count bytes
  simp only [receive] at received
  split at received
  · cases received
  split at received
  · cases received
  split at received
  · cases received
  split at received
  · cases received
  split at received
  · cases received
  rename_i small
  split at received
  · cases received
  rename_i message left read
  cases received
  rw [cString_append_nul]
  exact (cString_length_le message).trans ((taken read).trans (Nat.not_lt.mp small))

/-! ### Storing -/

/-- The bodies of a topic that the session has stored. -/
def Session.log (session : Session) (topic : Topic) : List Bytes :=
  (session.appended.filter fun entry => entry.1 = topic).map Prod.snd

/-- The rings hold what the session has stored behind the logs that it started from. -/
def Session.Stores (session : Session) (before : Topic → List Bytes) : Prop :=
  Holding session.store fun topic => before topic ++ session.log topic

theorem log_stored (session : Session) (store : MessageCircleComposite) (submitted : List Topic)
    (before : Topic → List Bytes) (topic message : Bytes) :
    (fun t => before t ++
      { session with store, submitted, appended := session.appended ++ [(topic, message)] }.log t) =
      appendLog (fun t => before t ++ session.log t) topic message := by
  funext t
  unfold Session.log appendLog
  dsimp only
  rw [List.filter_append, List.map_append]
  by_cases same : t = topic
  · simp [same]
  · have other : topic ≠ t := fun eq => same eq.symm
    simp [same, other]

theorem storeMessage_stores {config : RepeaterConfig} {session session' : Session}
    {topic message : Bytes} {before : Topic → List Bytes} (stores : session.Stores before)
    (stored : storeMessage config session topic message = .ok session') : session'.Stores before := by
  unfold storeMessage at stored
  split at stored
  · cases stored
  · rename_i created
    cases stored
    exact Holding.create stores created
  · rename_i store created
    have made := Holding.create stores created
    split at stored
    · cases stored
    · rename_i refused
      cases stored
      exact appendMessageToCircle_refused refused ▸ made
    · rename_i appended
      cases stored
      unfold Session.Stores
      rw [log_stored]
      exact made.append appended

/-- The message that step 5 lets in: its topic and its text. -/
def accepted (config : RepeaterConfig) (context : GlobalContext) (topicBuffer messageBuffer : Bytes) :
    Option (Topic × Bytes) :=
  let topic := cString topicBuffer
  if topic = ascii "ping" ∨ topic = ascii "pong" ∨ topic = ascii "subscribe" then none
  else
    let messageText := cString messageBuffer
    if context.isAllownTopic topic = false then none
    else if messageText.length > toUnsigned64 config.maxMessageBodySize then none
    else some (topic, messageText)

/-- Handling a frame is storing the message that it lets in, if there is one. -/
theorem handleFrame_accepted (config : RepeaterConfig) (context : GlobalContext) (session : Session)
    (topicBuffer messageBuffer : Bytes) :
    match accepted config context topicBuffer messageBuffer with
    | some (topic, message) =>
      handleFrame config context session topicBuffer messageBuffer =
        storeMessage config session topic message
    | none => ∃ session', handleFrame config context session topicBuffer messageBuffer = .ok session' ∧
        session'.store = session.store ∧ session'.appended = session.appended := by
  unfold accepted handleFrame
  dsimp only
  by_cases control : cString topicBuffer = ascii "ping" ∨ cString topicBuffer = ascii "pong" ∨
      cString topicBuffer = ascii "subscribe"
  · rw [if_pos control]
    dsimp only
    split
    · exact ⟨_, rfl, rfl, rfl⟩
    · rename_i ping
      split
      · exact ⟨_, rfl, rfl, rfl⟩
      · rename_i pong
        rw [if_pos ((control.resolve_left ping).resolve_left pong)]
        exact ⟨_, rfl, rfl, rfl⟩
  · rw [if_neg control]
    obtain ⟨ping, pong, subscribe⟩ : _ ∧ _ ∧ _ := by simpa only [not_or] using control
    rw [if_neg ping, if_neg pong, if_neg subscribe]
    by_cases refused : context.isAllownTopic (cString topicBuffer) = false
    · rw [if_pos refused, if_pos refused]
      exact ⟨_, rfl, rfl, rfl⟩
    · rw [if_neg refused, if_neg refused]
      by_cases large : (cString messageBuffer).length > toUnsigned64 config.maxMessageBodySize
      · rw [if_pos large, if_pos large]
        exact ⟨_, rfl, rfl, rfl⟩
      · rw [if_neg large, if_neg large]

theorem accepted_some {config : RepeaterConfig} {context : GlobalContext}
    {topicBuffer messageBuffer : Bytes} {entry : Topic × Bytes}
    (kept : accepted config context topicBuffer messageBuffer = some entry) :
    entry = (cString topicBuffer, cString messageBuffer) ∧
      context.isAllownTopic (cString topicBuffer) = true ∧
      (cString messageBuffer).length ≤ toUnsigned64 config.maxMessageBodySize := by
  unfold accepted at kept
  dsimp only at kept
  split at kept
  · cases kept
  · split at kept
    · cases kept
    · rename_i allowed
      split at kept
      · cases kept
      · rename_i fits
        cases kept
        exact ⟨rfl, by simpa using allowed, Nat.not_lt.mp fits⟩

theorem handleFrame_effect {config : RepeaterConfig} {context : GlobalContext}
    {session session' : Session} {topicBuffer messageBuffer : Bytes}
    (handled : handleFrame config context session topicBuffer messageBuffer = .ok session') :
    (session'.appended = session.appended ∧ session'.store = session.store) ∨
      storeMessage config session (cString topicBuffer) (cString messageBuffer) = .ok session' := by
  unfold handleFrame at handled
  dsimp only at handled
  split at handled
  · cases handled
    exact .inl ⟨rfl, rfl⟩
  · repeat' split at handled
    all_goals first | exact .inr handled | (cases handled; exact .inl ⟨rfl, rfl⟩)

theorem handleFrame_stores {config : RepeaterConfig} {context : GlobalContext}
    {session session' : Session} {topicBuffer messageBuffer : Bytes} {before : Topic → List Bytes}
    (stores : session.Stores before)
    (handled : handleFrame config context session topicBuffer messageBuffer = .ok session') :
    session'.Stores before := by
  rcases handleFrame_effect handled with ⟨appended, store⟩ | stored
  · unfold Session.Stores Session.log at *
    rw [appended, store]
    exact stores
  · exact storeMessage_stores stores stored

/-- Along the whole loop the rings hold what the connection has stored. -/
theorem acceptLoop_stores {config : RepeaterConfig} {context : GlobalContext} {turns : Nat}
    {session : Session} {input : Bytes} {before : Topic → List Bytes} (stores : session.Stores before) :
    (acceptLoop config context turns session input).1.Stores before := by
  induction turns generalizing session input with
  | zero => exact stores
  | succ turns ih =>
    unfold acceptLoop
    split
    · exact stores
    · exact stores
    · split
      · exact stores
      · rename_i handled
        exact ih (handleFrame_stores stores handled)

end MessageRepeater.Publisher
