import MessageRepeater.Publisher.AcceptHandle

/-!
# The publisher loop as a fold

What a connection does is what its complete frames do one after the other, each by itself.
-/

namespace MessageRepeater.Publisher
open Foundation Combiner Config Connection

/-! ### The frames of an input -/

/-- The bytes of frames, back to back. -/
def frameBytes (frames : List (Bytes × Bytes)) : Bytes :=
  frames.flatMap fun frame => encodeSocketFrame frame.1 frame.2

/-- A frame that the loop reads to its end. -/
structure WholeFrame (frame : Bytes × Bytes) : Prop where
  topic_lt : frame.1.length < 2 ^ 32 - 1
  message_le : frame.2.length ≤ maxMessageSize

/-- `frames` are the complete frames in front of `input`, as many as there are. -/
structure Frames (input : Bytes) (frames : List (Bytes × Bytes)) (rest : Bytes) : Prop where
  bytes : input = frameBytes frames ++ rest
  fits : ∀ frame ∈ frames, WholeFrame frame
  maximal : ∀ frame tail, WholeFrame frame → rest ≠ encodeSocketFrame frame.1 frame.2 ++ tail

theorem frameBytes_cons (frame : Bytes × Bytes) (frames : List (Bytes × Bytes)) (rest : Bytes) :
    frameBytes (frame :: frames) ++ rest =
      encodeSocketFrame frame.1 frame.2 ++ (frameBytes frames ++ rest) := by
  simp only [frameBytes, List.flatMap_cons, List.append_assoc]

theorem length_le_frameBytes (frames : List (Bytes × Bytes)) :
    frames.length ≤ (frameBytes frames).length := by
  induction frames with
  | nil => exact Nat.zero_le _
  | cons frame frames ih =>
    simp only [frameBytes, List.flatMap_cons, List.length_append, encodeSocketFrame_length,
      List.length_cons] at ih ⊢
    omega

theorem encode_inj {frame frame' : Bytes × Bytes} {tail tail' : Bytes} (fits : WholeFrame frame)
    (fits' : WholeFrame frame')
    (same : encodeSocketFrame frame.1 frame.2 ++ tail = encodeSocketFrame frame'.1 frame'.2 ++ tail') :
    frame = frame' ∧ tail = tail' := by
  have small : ∀ {message : Bytes}, message.length ≤ maxMessageSize → message.length < 2 ^ 32 := by
    intro message le
    unfold maxMessageSize at le
    omega
  have topic := fits.topic_lt
  have topic' := fits'.topic_lt
  simp only [encodeSocketFrame, List.append_assoc] at same
  obtain ⟨topics, fields⟩ := field_append_inj (by omega) (by omega) same
  obtain ⟨messages, tails⟩ := field_append_inj (small fits.message_le) (small fits'.message_le) fields
  exact ⟨Prod.ext topics messages, tails⟩

theorem Frames.cons {input rest : Bytes} {frames : List (Bytes × Bytes)} (whole : Frames input frames rest)
    {frame : Bytes × Bytes} (fits : WholeFrame frame) :
    Frames (encodeSocketFrame frame.1 frame.2 ++ input) (frame :: frames) rest where
  bytes := by rw [frameBytes_cons, ← whole.bytes]
  fits := List.forall_mem_cons.mpr ⟨fits, whole.fits⟩
  maximal := whole.maximal

theorem frames_exist (input : Bytes) : ∃ frames rest, Frames input frames rest := by
  induction size : input.length using Nat.strongRecOn generalizing input with
  | ind n ih =>
    by_cases front : ∃ frame tail, WholeFrame frame ∧ input = encodeSocketFrame frame.1 frame.2 ++ tail
    · obtain ⟨frame, tail, fits, rfl⟩ := front
      rw [List.length_append, encodeSocketFrame_length] at size
      obtain ⟨frames, rest, whole⟩ := ih tail.length (by omega) tail rfl
      exact ⟨frame :: frames, rest, whole.cons fits⟩
    · exact ⟨[], input, rfl, nofun, fun frame tail fits same => front ⟨frame, tail, fits, same⟩⟩

theorem frames_unique {input rest rest' : Bytes} {frames frames' : List (Bytes × Bytes)}
    (whole : Frames input frames rest) (whole' : Frames input frames' rest') :
    frames' = frames ∧ rest' = rest := by
  obtain ⟨bytes, fits, maximal⟩ := whole
  obtain ⟨bytes', fits', maximal'⟩ := whole'
  rw [bytes] at bytes'
  clear bytes
  induction frames generalizing frames' with
  | nil =>
    cases frames' with
    | nil => exact ⟨rfl, bytes'.symm⟩
    | cons frame frames' =>
      rw [frameBytes_cons] at bytes'
      exact absurd bytes' (maximal frame _ (fits' frame List.mem_cons_self))
  | cons frame frames ih =>
    rw [frameBytes_cons] at bytes'
    cases frames' with
    | nil => exact absurd bytes'.symm (maximal' frame _ (fits frame List.mem_cons_self))
    | cons frame' frames' =>
      rw [frameBytes_cons] at bytes'
      obtain ⟨rfl, tails⟩ :=
        encode_inj (fits frame List.mem_cons_self) (fits' frame' List.mem_cons_self) bytes'
      obtain ⟨same, rests⟩ := ih (fun f member => fits f (List.mem_cons_of_mem _ member)) tails
        (fun f member => fits' f (List.mem_cons_of_mem _ member))
      exact ⟨congrArg _ same, rests⟩

/-! ### The loop -/

/-- The single-frame handler on frames in turn, and the exception that stopped it. -/
def handleFrames (config : RepeaterConfig) (context : GlobalContext) :
    Session → List (Bytes × Bytes) → Session × Option Bytes
  | session, [] => (session, none)
  | session, frame :: frames =>
    match handleFrame config context session (frame.1 ++ [0]) (frame.2 ++ [0]) with
    | .error what => (session, some what)
    | .ok session => handleFrames config context session frames

theorem recvAll_some {input bytes rest : Bytes} {count : Nat}
    (received : recvAll input count = some (bytes, rest)) :
    input = bytes ++ rest ∧ bytes.length = count := by
  unfold recvAll at received
  split at received
  · rename_i enough
    cases received
    exact ⟨(List.take_append_drop _ _).symm, List.length_take_of_le enough⟩
  · cases received

theorem receive_frame {input topicBuffer messageBuffer rest : Bytes}
    (received : receive input = .frame topicBuffer messageBuffer rest) :
    ∃ frame, WholeFrame frame ∧ input = encodeSocketFrame frame.1 frame.2 ++ rest := by
  unfold receive at received
  split at received
  · cases received
  rename_i header input₁ read₁
  obtain ⟨rfl, four⟩ := recvAll_some read₁
  have lt := ofBe_lt four
  dsimp only at received
  split at received
  · cases received
  rename_i room
  split at received
  · cases received
  rename_i topic input₂ read₂
  obtain ⟨rfl, topicLength⟩ := recvAll_some read₂
  split at received
  · cases received
  rename_i header' input₃ read₃
  obtain ⟨rfl, four'⟩ := recvAll_some read₃
  split at received
  · cases received
  rename_i small
  split at received
  · cases received
  rename_i message input₄ read₄
  obtain ⟨rfl, messageLength⟩ := recvAll_some read₄
  cases received
  refine ⟨(topic, message), ⟨?_, ?_⟩, ?_⟩
  · show topic.length < 2 ^ 32 - 1
    by_contra longest
    have full : ofBe header + 1 = 2 ^ 32 := by omega
    rw [full] at room
    omega
  · show message.length ≤ maxMessageSize
    omega
  · simp only [encodeSocketFrame, field, topicLength, messageLength, be32_ofBe four, be32_ofBe four',
      List.append_assoc]

/-- How the loop ends behind the last complete frame. -/
def endingOf (rest : Bytes) : Ending :=
  match receive rest with
  | .overflow => .overflow
  | _ => .closed

theorem endingOf_ne_exception (rest what : Bytes) : endingOf rest ≠ .exception what := by
  unfold endingOf
  split <;> nofun

/-- The loop on complete frames and a rest without one. -/
theorem acceptLoop_frames (config : RepeaterConfig) (context : GlobalContext) {rest : Bytes}
    (maximal : ∀ frame tail, WholeFrame frame → rest ≠ encodeSocketFrame frame.1 frame.2 ++ tail)
    (frames : List (Bytes × Bytes)) (fits : ∀ frame ∈ frames, WholeFrame frame) {turns : Nat}
    (enough : frames.length < turns) (session : Session) :
    acceptLoop config context turns session (frameBytes frames ++ rest) =
      ((handleFrames config context session frames).1,
        match (handleFrames config context session frames).2 with
        | some what => .exception what
        | none => endingOf rest) := by
  induction frames generalizing turns session with
  | nil =>
    obtain ⟨turns, rfl⟩ := Nat.exists_eq_succ_of_ne_zero (Nat.ne_of_gt enough)
    show acceptLoop config context (turns + 1) session rest = (session, endingOf rest)
    unfold acceptLoop endingOf
    cases received : receive rest with
    | ended => rfl
    | overflow => rfl
    | frame topicBuffer messageBuffer left =>
      obtain ⟨frame, fit, same⟩ := receive_frame received
      exact absurd same (maximal frame left fit)
  | cons frame frames ih =>
    obtain ⟨fit, fits⟩ := List.forall_mem_cons.mp fits
    have topic_lt := fit.topic_lt
    rw [List.length_cons] at enough
    obtain ⟨turns, rfl⟩ := Nat.exists_eq_succ_of_ne_zero (Nat.ne_zero_of_lt enough)
    rw [frameBytes_cons]
    have received : receive (encodeSocketFrame frame.1 frame.2 ++ (frameBytes frames ++ rest)) =
        .frame (frame.1 ++ [0]) (frame.2 ++ [0]) (frameBytes frames ++ rest) :=
      receive_encode (by omega) fit.message_le
    simp only [acceptLoop, handleFrames, received]
    cases handleFrame config context session (frame.1 ++ [0]) (frame.2 ++ [0]) with
    | error what => rfl
    | ok session' => exact ih fits (by omega) session'

theorem acceptHandle_frames (config : RepeaterConfig) (context : GlobalContext) (session : Session)
    {input rest : Bytes} {frames : List (Bytes × Bytes)} (whole : Frames input frames rest) :
    acceptHandle config context session input =
      ((handleFrames config context session frames).1,
        match (handleFrames config context session frames).2 with
        | some what => .exception what
        | none => endingOf rest) := by
  have enough : frames.length < input.length + 1 := by
    have := length_le_frameBytes frames
    have := congrArg List.length whole.bytes
    rw [List.length_append] at this
    omega
  unfold acceptHandle
  rw [← acceptLoop_frames config context whole.maximal frames whole.fits enough session, ← whole.bytes]

/-! ### One frame -/

/-- The topic has no circle and the limit leaves no room for one. -/
def TopicLimitReached (store : MessageCircleComposite) (topic : Topic) : Prop :=
  topic ∉ store.topics ∧
    store.topicCircles.keys.length ≥ toUnsigned64 store.maxTopicNumbers

/-- The reasons to reject a frame. -/
inductive Rejected (config : RepeaterConfig) (context : GlobalContext) (session : Session)
    (frame : Bytes × Bytes) : Prop where
  | reserved (reserved : GlobalContext.isReservedTopic (cString frame.1) = true)
  | notAllowed (refused : context.isAllownTopic (cString frame.1) = false)
  | tooLarge (large : (cString frame.2).length > toUnsigned64 config.maxMessageBodySize)
  | topicLimit (limit : TopicLimitReached session.store (cString frame.1))

/-- A rejected frame is at most answered: the circles and the dispatch stay as they are. -/
theorem handleFrame_rejected {config : RepeaterConfig} {context : GlobalContext} {session : Session}
    {frame : Bytes × Bytes} (rejected : Rejected config context session frame) :
    handleFrame config context session (frame.1 ++ [0]) (frame.2 ++ [0]) =
      .ok { session with
        pongs := if cString frame.1 = ascii "ping" then session.pongs + 1 else session.pongs } := by
  unfold handleFrame
  simp only [cString_append_nul]
  by_cases ping : cString frame.1 = ascii "ping"
  · rw [if_pos ping, if_pos ping]
  rw [if_neg ping, if_neg ping]
  split
  · rfl
  split
  · rfl
  split
  · rfl
  rename_i allowed
  split
  · rfl
  rename_i fits
  cases rejected with
  | reserved reserved =>
    have free := GlobalContext.isAllownTopic_not_reserved (Bool.eq_true_of_not_eq_false allowed)
    rw [reserved] at free
    cases free
  | notAllowed refused => exact absurd refused allowed
  | tooLarge large => exact absurd large fits
  | topicLimit limit =>
    unfold storeMessage MessageCircleComposite.createCircleIfAbsent
    rw [if_neg limit.1, if_pos limit.2]

/-- With a positive circle size a frame throws only where its circle has used up its sequences. -/
theorem handleFrame_throws {config : RepeaterConfig} {context : GlobalContext} {session : Session}
    {topicBuffer messageBuffer what : Bytes} (positive : 0 < config.maxTopicCircleSize)
    (thrown : handleFrame config context session topicBuffer messageBuffer = .error what) :
    ∃ ring, session.store.getCircle (cString topicBuffer) = some ring ∧
      ring.nextSequence = maxSequence := by
  have stored : storeMessage config session (cString topicBuffer) (cString messageBuffer) =
      .error what := by
    have law := handleFrame_accepted config context session topicBuffer messageBuffer
    cases let_in : accepted config context topicBuffer messageBuffer with
    | none =>
      rw [let_in] at law
      obtain ⟨session', handled, _⟩ := law
      rw [handled] at thrown
      cases thrown
    | some entry =>
      rw [let_in] at law
      obtain ⟨rfl, _⟩ := accepted_some let_in
      rw [← thrown]
      exact law.symm
  unfold storeMessage at stored
  split at stored
  · rename_i failed
    unfold MessageCircleComposite.createCircleIfAbsent at failed
    split at failed
    · cases failed
    split at failed
    · cases failed
    split at failed
    · cases failed
    obtain ⟨ring, made⟩ := new_of_pos (cString topicBuffer) positive
    rw [made] at failed
    cases failed
  · cases stored
  · rename_i store created
    split at stored
    · rename_i failed
      unfold MessageCircleComposite.appendMessageToCircle at failed
      split at failed
      · cases failed
      rename_i ring held
      have last : ring.nextSequence = maxSequence := by
        by_contra room
        unfold MessageCircle.append at failed
        rw [if_neg room] at failed
        cases failed
      rcases createCircleIfAbsent_rings created (cString topicBuffer) with same | ⟨_, made, new, found⟩
      · exact ⟨ring, same ▸ held, last⟩
      · rw [MessageCircleComposite.getCircle, held] at found
        cases found
        have := (new_holds new).1.next
        rw [last] at this
        cases this
    · cases stored
    · cases stored

/-- The connection's effects are those of its complete frames, handled one after the other; a rejected
frame leaves the circles and the dispatch alone, only a circle without a sequence left throws, and what the
accepted frames have stored is what the circles hold behind the logs that they started from. -/
theorem acceptHandle_fold (config : RepeaterConfig) (context : GlobalContext)
    (positive : 0 < config.maxTopicCircleSize) :
    (∀ input, ∃ frames rest, Frames input frames rest ∧
      ∀ frames' rest', Frames input frames' rest' → frames' = frames ∧ rest' = rest) ∧
    (∀ session input frames rest, Frames input frames rest →
      (acceptHandle config context session input).1 = (handleFrames config context session frames).1 ∧
      ∀ what, (acceptHandle config context session input).2 = .exception what ↔
        (handleFrames config context session frames).2 = some what) ∧
    (∀ session frame, Rejected config context session frame →
      handleFrame config context session (frame.1 ++ [0]) (frame.2 ++ [0]) =
        .ok { session with
          pongs := if cString frame.1 = ascii "ping" then session.pongs + 1 else session.pongs }) ∧
    (∀ session topicBuffer messageBuffer what,
      handleFrame config context session topicBuffer messageBuffer = .error what →
      ∃ ring, session.store.getCircle (cString topicBuffer) = some ring ∧
        ring.nextSequence = maxSequence) ∧
    ∀ session input before, session.Stores before →
      (acceptHandle config context session input).1.Stores before := by
  refine ⟨fun input => ?_, fun session input frames rest whole => ?_,
    fun _ _ rejected => handleFrame_rejected rejected,
    fun _ _ _ _ thrown => handleFrame_throws positive thrown, fun _ _ _ stores => acceptLoop_stores stores⟩
  · obtain ⟨frames, rest, whole⟩ := frames_exist input
    exact ⟨frames, rest, whole, fun _ _ whole' => frames_unique whole whole'⟩
  · rw [acceptHandle_frames config context session whole]
    refine ⟨rfl, fun what => ?_⟩
    cases (handleFrames config context session frames).2 with
    | some thrown => exact ⟨fun same => congrArg some (Ending.exception.inj same),
        fun same => congrArg Ending.exception (Option.some.inj same)⟩
    | none => exact ⟨fun same => absurd same (endingOf_ne_exception rest what), nofun⟩

/-- A frame on `*`, a frame on `T` and the beginning of a third: the second is stored, the others have
no effect. -/
theorem acceptHandle_fold_plain :
    ((acceptHandle {} { allownAllTopics := true } { store := MessageCircleComposite.init 10 }
      (frameBytes [(ascii "*", ascii "a"), (ascii "T", ascii "b")] ++ [0, 0])).1.appended =
        [(ascii "T", ascii "b")]) := by
  have whole : Frames (frameBytes [(ascii "*", ascii "a"), (ascii "T", ascii "b")] ++ [0, 0])
      [(ascii "*", ascii "a"), (ascii "T", ascii "b")] [0, 0] := by
    refine ⟨rfl, ?_, fun frame tail _ same => ?_⟩
    · intro frame member
      rcases List.mem_cons.mp member with rfl | member
      · exact ⟨by decide, by decide⟩
      · obtain rfl := List.mem_singleton.mp member
        exact ⟨by decide, by decide⟩
    · have short := congrArg List.length same
      rw [List.length_append, encodeSocketFrame_length] at short
      simp only [List.length_cons, List.length_nil] at short
      omega
  have fold := (acceptHandle_fold {} { allownAllTopics := true } (by decide)).2.1
    { store := MessageCircleComposite.init 10 } _ _ _ whole
  rw [fold.1]
  decide

end MessageRepeater.Publisher
