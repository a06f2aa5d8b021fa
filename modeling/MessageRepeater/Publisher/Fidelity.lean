import MessageRepeater.Publisher.AcceptHandle

/-!
# What the publisher loop makes of a frame's bytes

The loop reads both fields as C strings where the layer path keeps their lengths, so the two agree on
just the frames without a NUL.
-/

namespace MessageRepeater.Publisher
open Foundation Combiner Config Connection

/-- The stored entry is the frame: it is what the layer reader makes of the same bytes, however they
are cut, and subscribers get the same image. -/
structure Faithful (topic message rest : Bytes) (entry : Topic × Bytes) : Prop where
  same : entry = (topic, message)
  layer : ∀ events maxTopicSize maxMessageSize, Chunking events →
    stream events = encodeSocketFrame topic message ++ rest → topic.length ≤ maxTopicSize →
    message.length ≤ maxMessageSize → ∃ left,
      readSocketFrameBlocking events maxTopicSize maxMessageSize =
        ({ status := .complete, topic := entry.1, message := entry.2 }, left)
  image : encodeSocketFrame entry.1 entry.2 = encodeSocketFrame topic message

theorem Faithful.of_same {topic message rest : Bytes} (topic_lt : topic.length + 1 < 2 ^ 32)
    (message_le : message.length ≤ maxMessageSize) : Faithful topic message rest (topic, message) where
  same := rfl
  layer events maxTopic maxMessage chunks image topicFits messageFits := by
    unfold maxMessageSize at message_le
    obtain ⟨left, read, _⟩ := readSocketFrameBlocking_encode chunks image topicFits messageFits
      (by omega) (by omega)
    exact ⟨left, read⟩
  image := rfl

/-- The entry that a frame leaves in its circle is the two fields up to their first NUL. -/
theorem stored_entry {config : RepeaterConfig} {context : GlobalContext} {session session' : Session}
    {topicBuffer messageBuffer : Bytes} {entry : Topic × Bytes}
    (handled : handleFrame config context session topicBuffer messageBuffer = .ok session')
    (accepted : session'.appended = session.appended ++ [entry]) :
    entry = (cString topicBuffer, cString messageBuffer) := by
  have grown : session'.appended ≠ session.appended := by
    rw [accepted]
    intro same
    have length := congrArg List.length same
    simp at length
  rcases handleFrame_effect handled with ⟨same, _⟩ | stored
  · exact absurd same grown
  · unfold storeMessage at stored
    split at stored
    · cases stored
    · cases stored
      exact absurd rfl grown
    · split at stored
      · cases stored
      · cases stored
        exact absurd rfl grown
      · cases stored
        exact (List.singleton_injective (List.append_cancel_left accepted)).symm

/-- A frame that the loop accepts is at the end of its circle's log, with all its bytes if and only if
none of them is a NUL. -/
theorem stored_faithfully_iff (config : RepeaterConfig) (context : GlobalContext)
    {session session' : Session} {topic message rest topicBuffer messageBuffer : Bytes}
    {entry : Topic × Bytes} {before : Topic → List Bytes} (stores : session.Stores before)
    (topic_lt : topic.length < 2 ^ 32) (message_le : message.length ≤ maxMessageSize)
    (received : receive (encodeSocketFrame topic message ++ rest) =
      .frame topicBuffer messageBuffer rest)
    (handled : handleFrame config context session topicBuffer messageBuffer = .ok session')
    (accepted : session'.appended = session.appended ++ [entry]) :
    (∃ ring, session'.store.getCircle entry.1 = some ring ∧
      Holds ring (before entry.1 ++ session.log entry.1 ++ [entry.2])) ∧
    (Faithful topic message rest entry ↔ (0 : UInt8) ∉ topic ∧ (0 : UInt8) ∉ message) := by
  have shorter : topic.length + 1 < 2 ^ 32 := by
    by_contra longest
    rw [receive_encode_overflow (by omega)] at received
    cases received
  rw [receive_encode shorter message_le] at received
  cases received
  have stored := stored_entry handled accepted
  simp only [cString_append_nul] at stored
  constructor
  · have log : session'.log entry.1 = session.log entry.1 ++ [entry.2] := by
      unfold Session.log
      rw [accepted]
      simp
    have holding := handleFrame_stores stores handled
    cases made : session'.store.getCircle entry.1 with
    | none =>
      have empty := Holding.unmade holding made
      rw [log] at empty
      simp at empty
    | some ring =>
      refine ⟨ring, rfl, ?_⟩
      rw [List.append_assoc, ← log]
      exact Holding.holds holding made
  · constructor
    · intro faithful
      have same := stored.symm.trans faithful.same
      simp only [Prod.mk.injEq, cString_eq_self] at same
      exact same
    · rintro ⟨topic_free, message_free⟩
      rw [stored, cString_eq_self.mpr topic_free, cString_eq_self.mpr message_free]
      exact Faithful.of_same shorter message_le

/-- `m` on the topic `T` is stored as it was sent. -/
theorem stored_faithfully_plain :
    ∃ store, (∃ ring, MessageCircleComposite.getCircle store (ascii "T") = some ring ∧
      Holds ring [ascii "m"]) ∧ Faithful (ascii "T") (ascii "m") [] (ascii "T", ascii "m") := by
  have stores : Session.Stores { store := MessageCircleComposite.init 10 } fun _ => [] :=
    holding_init 10
  have received : receive (encodeSocketFrame (ascii "T") (ascii "m") ++ []) =
      .frame (ascii "T" ++ [0]) (ascii "m" ++ [0]) [] := by decide
  obtain ⟨stored, faithful⟩ := stored_faithfully_iff {} { allownAllTopics := true } stores
    (by decide) (by decide) received rfl rfl
  exact ⟨_, stored, faithful.mpr (by decide)⟩

/-- Of the body `a`, NUL, `b` the publisher loop stores the `a` only. -/
theorem stored_cut_at_nul :
    ∃ session', receive (encodeSocketFrame (ascii "T") [97, 0, 98]) =
        .frame (ascii "T" ++ [0]) [97, 0, 98, 0] [] ∧
      handleFrame {} { allownAllTopics := true } { store := MessageCircleComposite.init 10 }
        (ascii "T" ++ [0]) [97, 0, 98, 0] = .ok session' ∧
      session'.appended = [(ascii "T", ascii "a")] ∧
      ¬ Faithful (ascii "T") [97, 0, 98] [] (ascii "T", ascii "a") := by
  refine ⟨_, by decide, rfl, by decide, ?_⟩
  intro faithful
  have same := faithful.same
  revert same
  decide

end MessageRepeater.Publisher
