import MessageRepeater.Combiner.GlobalContext
import MessageRepeater.Connection.FrameStream

/-!
# The layer connector

What `src/layer/layer_connector.cpp` reads from the repeater that it is subscribed to, and what it
keeps of it.
-/

namespace MessageRepeater.Layer
open Foundation Combiner Connection

def maxLayerFrameFieldSize : Nat := 65536

/-- `read_socket_frame`, and the events that are left. -/
def readSocketFrame (events : List RecvEvent) : Option (Bytes × Bytes) × List RecvEvent :=
  match readSocketFrameBlocking events maxLayerFrameFieldSize maxLayerFrameFieldSize with
  | ({ status := .complete, topic, message }, left) => (some (topic, message), left)
  | (_, left) => (none, left)

/-- The message that the reading loop of `layer_replay_work` appends for a frame. -/
def relayed (context : GlobalContext) (topicName messageBody : Bytes) : Option (Topic × Bytes) :=
  if topicName = ascii "pong" then none
  else if context.isAllownTopic topicName then some (topicName, messageBody)
  else none

/-- The topics that `start_layer_replay` makes circles for. -/
def preparedTopics (context : GlobalContext) : List Topic :=
  if context.layerSubscribeTopics.length = 0 ∨ context.layerSubscribeAddresses.length = 0 then []
  else context.layerSubscribeTopics

theorem relayed_some {context : GlobalContext} {topicName messageBody : Bytes} {entry : Topic × Bytes}
    (kept : relayed context topicName messageBody = some entry) :
    entry = (topicName, messageBody) ∧ context.isAllownTopic topicName = true := by
  unfold relayed at kept
  split at kept
  · cases kept
  · split at kept
    · rename_i allowed
      cases kept
      exact ⟨rfl, allowed⟩
    · cases kept

theorem preparedTopics_allown {context : GlobalContext} (layer : context.LayerAllown) :
    ∀ topic ∈ preparedTopics context, context.isAllownTopic topic = true := by
  intro topic member
  unfold preparedTopics at member
  split at member
  · cases member
  · exact layer topic member

/-! ### The reading loop -/

/-- The frames of at most `calls` calls of `read_socket_frame`, and the status of the one that ends the
loop. -/
def readLoop : Nat → List RecvEvent → List (Bytes × Bytes) × Option SocketFrameReadStatus
  | 0, _ => ([], none)
  | calls + 1, events =>
    match readSocketFrameBlocking events maxLayerFrameFieldSize maxLayerFrameFieldSize with
    | ({ status := .complete, topic, message }, left) =>
      let later := readLoop calls left
      ((topic, message) :: later.1, later.2)
    | (result, _) => ([], some result.status)

/-- Both fields of the frame pass the reader. -/
def Fits (frame : Bytes × Bytes) : Prop :=
  frame.1.length ≤ maxLayerFrameFieldSize ∧ frame.2.length ≤ maxLayerFrameFieldSize

def image (frame : Bytes × Bytes) : Bytes := encodeSocketFrame frame.1 frame.2

theorem Fits.lt {frame : Bytes × Bytes} (fits : Fits frame) :
    frame.1.length < 2 ^ 32 ∧ frame.2.length < 2 ^ 32 := by
  obtain ⟨topic, message⟩ := fits
  unfold maxLayerFrameFieldSize at topic message
  omega

theorem readSocketFrame_fits {events : List RecvEvent} {frame : Bytes × Bytes}
    (read : (readSocketFrame events).1 = some frame) : Fits frame := by
  unfold readSocketFrame at read
  split at read
  · rename_i complete
    cases read
    obtain ⟨_, topic, message, _⟩ := readSocketFrameBlocking_complete complete
    exact ⟨topic, message⟩
  · cases read

/-- One call on a part of a stream of frames that fit: it returns the first of them, or nothing, and
does not find it too large. -/
theorem read_fitting {frames : List (Bytes × Bytes)} (fits : ∀ frame ∈ frames, Fits frame)
    {events left : List RecvEvent} {result : SocketFrameReadResult}
    (arrived : stream events <+: frames.flatMap image)
    (read : readSocketFrameBlocking events maxLayerFrameFieldSize maxLayerFrameFieldSize = (result, left)) :
    result.status ≠ .tooLarge ∧ (result.status = .complete → ∃ rest,
      frames = (result.topic, result.message) :: rest ∧ stream left <+: rest.flatMap image) := by
  cases frames with
  | nil =>
    have nothing : stream events = [] := List.prefix_nil.mp arrived
    refine ⟨fun large => ?_, fun complete => ?_⟩
    · obtain ⟨bytes, lengthField, _, four, consumes, _⟩ :=
        readSocketFrameBlocking_tooLarge ((congrArg (fun r => r.1.status) read).trans large)
      have length := congrArg List.length (consumes.stream.symm.trans nothing)
      simp only [List.length_append, List.length_nil, four] at length
      omega
    · obtain ⟨status, topic, message⟩ := result
      cases complete
      have length := congrArg List.length
        ((readSocketFrameBlocking_complete read).1.stream.symm.trans nothing)
      simp only [List.length_append, encodeSocketFrame_length, List.length_nil] at length
      omega
  | cons frame rest =>
    have fit := fits frame List.mem_cons_self
    obtain ⟨topic_lt, message_lt⟩ := fit.lt
    rw [List.flatMap_cons] at arrived
    refine ⟨fun large => ?_, fun complete => ?_⟩
    · exact readSocketFrameBlocking_within topic_lt message_lt fit.1 fit.2 arrived
        ((congrArg (fun r => r.1.status) read).trans large)
    · obtain ⟨status, topic, message⟩ := result
      cases complete
      obtain ⟨consumes, _, _, topic_lt', message_lt'⟩ := readSocketFrameBlocking_complete read
      obtain ⟨later, whole⟩ := arrived
      rw [consumes.stream, List.append_assoc] at whole
      obtain ⟨topics, messages, rests⟩ :=
        encodeSocketFrame_append_inj topic_lt' message_lt' topic_lt message_lt whole
      exact ⟨rest, by rw [topics, messages], later, rests⟩

theorem readLoop_fitting {frames : List (Bytes × Bytes)} (fits : ∀ frame ∈ frames, Fits frame)
    {events : List RecvEvent} (arrived : stream events <+: frames.flatMap image) (calls : Nat) :
    (readLoop calls events).1 <+: frames ∧ (readLoop calls events).2 ≠ some .tooLarge := by
  induction calls generalizing frames events with
  | zero => exact ⟨List.nil_prefix, nofun⟩
  | succ calls ih =>
    unfold readLoop
    split
    · rename_i topic message left read
      obtain ⟨rest, rfl, later⟩ := (read_fitting fits arrived read).2 rfl
      obtain ⟨frames, status⟩ := ih (fun frame member => fits frame (List.mem_cons_of_mem _ member)) later
      exact ⟨List.prefix_cons_inj _ |>.mpr frames, status⟩
    · rename_i result left _ read
      refine ⟨List.nil_prefix, fun large => ?_⟩
      exact (read_fitting fits arrived read).1 (Option.some.inj large)

end MessageRepeater.Layer
