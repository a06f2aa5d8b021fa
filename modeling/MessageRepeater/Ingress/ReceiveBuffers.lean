import MessageRepeater.Foundation.FillBuffer
import MessageRepeater.Foundation.Runs
import MessageRepeater.Publisher.FrameFold

/-!
# The receive buffers

The two loops that read client frames, with every call of `recv` and the buffer it stores into:
`PublisherBootstrap::acceptHandle` and the reading thread of `SubscriberBootstrap::acceptHandle`. What
`recv` and `poll` answer is an input.
-/

namespace MessageRepeater.Ingress
open Foundation Combiner Config Connection Publisher

/-- The publisher loop calls `recv` with `MSG_WAITALL`, once for each field; the subscriber's reading thread
calls `receiveExact`. -/
inductive ReadLoop where
  | publisher | subscriber
  deriving DecidableEq, Repr

/-- What is being received, behind the buffers of the frame that are full. -/
inductive Field where
  | topicLength
  | topic
  | messageLength (topicBuffer : Bytes)
  | message (topicBuffer : Bytes)
  deriving DecidableEq, Repr

inductive ReadPc where
  | top
  | receive (field : Field) (buffer : FillBuffer)
  | process (topicBuffer messageBuffer : Bytes)
  | left
  /-- A byte has been stored outside of its buffer. -/
  | undefined
  deriving DecidableEq, Repr

/-- `unread` is what the client sends and `recv` has not returned yet. -/
structure ReadState where
  pc : ReadPc := .top
  unread : Bytes
  deriving DecidableEq, Repr

inductive ReadInput where
  | run
  /-- `recv` returns a number of bytes, zero when the client has closed. -/
  | received (count : Nat)
  | interrupted
  /-- `recv` would block. `again` is whether `receiveExact` goes on after its poll. -/
  | blocked (again : Bool)
  | failed
  /-- `connection_alived` is found false. -/
  | dead
  /-- Step 5 breaks out of the loop. -/
  | leave
  deriving DecidableEq, Repr

/-- `std::vector<char>(length + 1)`, where the sum is a `uint32_t`. -/
def allocate (length : Nat) : FillBuffer := .zeroed ((length + 1) % 2 ^ 32) length

def header : FillBuffer := .zeroed headerSize headerSize

/-- Where a loop goes on from a field that it has received. -/
def Field.filled (field : Field) (buffer : FillBuffer) : ReadPc :=
  match field with
  | .topicLength => .receive .topic (allocate (ofBe buffer.memory))
  | .topic => .receive (.messageLength buffer.memory) header
  | .messageLength topicBuffer =>
    let messageLength := ofBe buffer.memory
    if messageLength > maxMessageSize then .left
    else .receive (.message topicBuffer) (allocate messageLength)
  | .message topicBuffer =>
    match buffer.terminate with
    | none => .undefined
    | some messageBuffer => .process topicBuffer messageBuffer

/-- One `recv` with `MSG_WAITALL` of everything that is asked for. -/
def recvStep (field : Field) (buffer : FillBuffer) (unread : Bytes) : ReadInput → Option ReadState
  | .received count =>
    if count ≤ buffer.missing ∧ count ≤ unread.length then
      match buffer.store (unread.take count) with
      | none => some { pc := .undefined, unread }
      | some next =>
        some
          { pc := if count = buffer.missing then field.filled next else .left
            unread := unread.drop count }
    else none
  | .interrupted | .blocked _ | .failed => some { pc := .left, unread }
  | _ => none

/-- One turn of the loop of `receiveExact`, or its return. -/
def receiveExactStep (field : Field) (buffer : FillBuffer) (unread : Bytes) :
    ReadInput → Option ReadState
  | .run => if buffer.received < buffer.length then none else some { pc := field.filled buffer, unread }
  | .received count =>
    if buffer.received < buffer.length ∧ count ≤ buffer.missing ∧ count ≤ unread.length then
      if count = 0 then some { pc := .left, unread }
      else
        match buffer.store (unread.take count) with
        | none => some { pc := .undefined, unread }
        | some next => some { pc := .receive field next, unread := unread.drop count }
    else none
  | .interrupted | .blocked true =>
    if buffer.received < buffer.length then some { pc := .receive field buffer, unread } else none
  | .blocked false | .failed | .dead =>
    if buffer.received < buffer.length then some { pc := .left, unread } else none
  | .leave => none

/-- The publisher loop tests no flag, and its step 5 breaks out of nothing. -/
def readStep (loop : ReadLoop) (s : ReadState) (input : ReadInput) : Option ReadState :=
  match loop, s.pc, input with
  | _, .top, .run => some { s with pc := .receive .topicLength header }
  | .subscriber, .top, .dead => some { s with pc := .left }
  | .publisher, .receive field buffer, input => recvStep field buffer s.unread input
  | .subscriber, .receive field buffer, input => receiveExactStep field buffer s.unread input
  | _, .process _ _, .run => some { s with pc := .top }
  | .subscriber, .process _ _, .leave => some { s with pc := .left }
  | _, _, _ => none

/-- A call of `recv` for the bytes of a topic or a message: the size of the vector, where in it the bytes
are to be stored, and how many are asked for. -/
structure RecvCall where
  size : Nat
  offset : Nat
  count : Nat
  deriving DecidableEq, Repr

def ReadPc.recvCall : ReadPc → Option RecvCall
  | .receive .topic buffer | .receive (.message _) buffer =>
    some { size := buffer.memory.length, offset := buffer.received, count := buffer.missing }
  | _ => none

/-- The buffers are large enough: more bytes than `recv` is asked for, no store out of bounds, and a NUL
at the end of what step 5 reads as C strings. -/
structure Roomy (s : ReadState) : Prop where
  room : ∀ call, s.pc.recvCall = some call → call.offset + call.count < call.size
  bounds : s.pc ≠ .undefined
  terminated : ∀ topicBuffer messageBuffer, s.pc = .process topicBuffer messageBuffer →
    topicBuffer.getLast? = some 0 ∧ messageBuffer.getLast? = some 0

/-- Behind whole frames the stream has a topic length of 2^32-1. -/
def NamesLongest (stream : Bytes) : Prop :=
  ∃ frames rest, (∀ frame ∈ frames, WholeFrame frame) ∧
    stream = frameBytes frames ++ be32 (2 ^ 32 - 1) ++ rest

/-! ### One field -/

theorem header_holds : header.Holds [] 0 := FillBuffer.holds_zeroed headerSize 0

theorem allocate_of_lt {length : Nat} (lt : length + 1 < 2 ^ 32) :
    allocate length = .zeroed (length + 1) length := by
  unfold allocate
  rw [Nat.mod_eq_of_lt lt]

theorem allocate_holds {length : Nat} (lt : length + 1 < 2 ^ 32) : (allocate length).Holds [] 1 := by
  rw [allocate_of_lt lt]
  exact FillBuffer.holds_zeroed length 1

theorem allocate_length (length : Nat) : (allocate length).length = length := rfl

/-- A step in a field whose buffer has room: the loop is left, or the next bytes of the stream are stored. -/
theorem receive_cases {loop : ReadLoop} {field : Field} {buffer : FillBuffer} {unread got : Bytes}
    {spare : Nat} {input : ReadInput} {s' : ReadState} (holds : buffer.Holds got spare)
    (taken : readStep loop { pc := .receive field buffer, unread } input = some s') :
    (s'.pc = .left ∧ ∃ lost, unread = lost ++ s'.unread) ∨
      ∃ next piece, next.Holds (got ++ piece) spare ∧ next.length = buffer.length ∧
        unread = piece ++ s'.unread ∧
        (s'.pc = .receive field next ∨
          ((got ++ piece).length = next.length ∧ s'.pc = field.filled next)) := by
  have stored : ∀ {count : Nat}, count ≤ buffer.missing → count ≤ unread.length →
      ∃ next, buffer.store (unread.take count) = some next ∧ next.length = buffer.length ∧
        next.Holds (got ++ unread.take count) spare := by
    intro count fits there
    exact holds.store (by rw [List.length_take]; omega)
  have nothing : unread = [] ++ unread := rfl
  cases loop with
  | publisher =>
    simp only [readStep] at taken
    cases input with
    | received count =>
      simp only [recvStep] at taken
      split at taken
      · rename_i asked
        have split_ := (List.take_append_drop count unread).symm
        obtain ⟨next, store, length, more⟩ := stored asked.1 asked.2
        rw [store] at taken
        cases taken
        by_cases all : count = buffer.missing
        · have whole := holds.end_eq
          have received := holds.received
          refine .inr ⟨next, _, more, length, split_, .inr ⟨?_, if_pos all⟩⟩
          rw [List.length_append, List.length_take, length]
          omega
        · exact .inl ⟨if_neg all, _, split_⟩
      · cases taken
    | interrupted | blocked again | failed =>
      cases taken
      exact .inl ⟨rfl, [], nothing⟩
    | run | dead | leave => cases taken
  | subscriber =>
    simp only [readStep] at taken
    cases input with
    | run =>
      simp only [receiveExactStep] at taken
      split at taken
      · cases taken
      · rename_i full
        cases taken
        have received := holds.received
        have within := holds.within
        refine .inr ⟨buffer, [], by rwa [List.append_nil], rfl, nothing, .inr ⟨?_, rfl⟩⟩
        rw [List.append_nil]
        omega
    | received count =>
      simp only [receiveExactStep] at taken
      split at taken
      · rename_i asked
        split at taken
        · cases taken
          exact .inl ⟨rfl, [], nothing⟩
        · obtain ⟨next, store, length, more⟩ := stored asked.2.1 asked.2.2
          rw [store] at taken
          cases taken
          exact .inr ⟨next, _, more, length, (List.take_append_drop count unread).symm, .inl rfl⟩
      · cases taken
    | blocked again =>
      cases again <;> simp only [receiveExactStep] at taken <;> split at taken <;> cases taken
      · exact .inl ⟨rfl, [], nothing⟩
      · exact .inr ⟨buffer, [], by rwa [List.append_nil], rfl, nothing, .inl rfl⟩
    | interrupted =>
      simp only [receiveExactStep] at taken
      split at taken <;> cases taken
      exact .inr ⟨buffer, [], by rwa [List.append_nil], rfl, nothing, .inl rfl⟩
    | failed | dead =>
      simp only [receiveExactStep] at taken
      split at taken <;> cases taken
      exact .inl ⟨rfl, [], nothing⟩
    | leave => cases taken

/-! ### What has been read -/

/-- The part of a frame that a loop has read when it stands at a program counter. -/
inductive Partly : ReadPc → Bytes → Prop where
  | top : Partly .top []
  | topicLength {buffer got} (holds : buffer.Holds got 0) (four : buffer.length = headerSize) :
      Partly (.receive .topicLength buffer) got
  | topic {buffer got} (holds : buffer.Holds got 1) (lt : buffer.length + 1 < 2 ^ 32) :
      Partly (.receive .topic buffer) (be32 buffer.length ++ got)
  | messageLength {topic buffer got} (lt : topic.length + 1 < 2 ^ 32) (holds : buffer.Holds got 0)
      (four : buffer.length = headerSize) :
      Partly (.receive (.messageLength (topic ++ [0])) buffer) (field topic ++ got)
  | message {topic buffer got} (lt : topic.length + 1 < 2 ^ 32) (holds : buffer.Holds got 1)
      (le : buffer.length ≤ maxMessageSize) :
      Partly (.receive (.message (topic ++ [0])) buffer) (field topic ++ (be32 buffer.length ++ got))
  | process {topic message} (lt : topic.length + 1 < 2 ^ 32) (le : message.length ≤ maxMessageSize) :
      Partly (.process (topic ++ [0]) (message ++ [0])) (encodeSocketFrame topic message)
  | left (part) : Partly .left part

/-- What a loop has read of the stream is whole frames and a part of the next one. -/
def ReadSoFar (stream : Bytes) (s : ReadState) : Prop :=
  ∃ frames part, (∀ frame ∈ frames, WholeFrame frame) ∧
    stream = frameBytes frames ++ (part ++ s.unread) ∧ Partly s.pc part

theorem frameBytes_concat (frames : List (Bytes × Bytes)) (frame : Bytes × Bytes) :
    frameBytes (frames ++ [frame]) = frameBytes frames ++ encodeSocketFrame frame.1 frame.2 := by
  simp [frameBytes]

theorem word_four {buffer : FillBuffer} {got : Bytes} (holds : buffer.Holds got 0)
    (four : buffer.length = headerSize) (full : got.length = buffer.length) :
    be32 (ofBe buffer.memory) = got ∧ ofBe buffer.memory < 2 ^ 32 := by
  have memory : buffer.memory = got := by simpa using holds.full full
  rw [memory]
  exact ⟨be32_ofBe (full.trans four), ofBe_lt (full.trans four)⟩

/-- A topic length that is not the longest leads to a buffer with room for it. -/
theorem filled_topicLength {buffer : FillBuffer} {got : Bytes} (holds : buffer.Holds got 0)
    (four : buffer.length = headerSize) (full : got.length = buffer.length)
    (shorter : got ≠ be32 (2 ^ 32 - 1)) : Partly (Field.topicLength.filled buffer) got := by
  obtain ⟨word, lt⟩ := word_four holds four full
  have room : ofBe buffer.memory + 1 < 2 ^ 32 := by
    have differs : ofBe buffer.memory ≠ 2 ^ 32 - 1 := by
      intro longest
      rw [longest] at word
      exact shorter word.symm
    omega
  have fresh := Partly.topic (allocate_holds room) room
  rw [allocate_length, word, List.append_nil] at fresh
  exact fresh

theorem filled_topic {buffer : FillBuffer} {got : Bytes} (holds : buffer.Holds got 1)
    (lt : buffer.length + 1 < 2 ^ 32) (full : got.length = buffer.length) :
    Partly (Field.topic.filled buffer) (be32 buffer.length ++ got) := by
  have memory : buffer.memory = got ++ [0] := holds.full full
  rw [← full] at lt ⊢
  have fresh := Partly.messageLength lt header_holds rfl
  rw [List.append_nil, field] at fresh
  simpa only [Field.filled, memory] using fresh

theorem filled_messageLength {topic : Bytes} {buffer : FillBuffer} {got : Bytes}
    (lt : topic.length + 1 < 2 ^ 32) (holds : buffer.Holds got 0) (four : buffer.length = headerSize)
    (full : got.length = buffer.length) :
    Partly ((Field.messageLength (topic ++ [0])).filled buffer) (field topic ++ got) := by
  obtain ⟨word, _⟩ := word_four holds four full
  simp only [Field.filled]
  split
  · exact .left _
  · rename_i small
    have le : ofBe buffer.memory ≤ maxMessageSize := Nat.not_lt.mp small
    have room : ofBe buffer.memory + 1 < 2 ^ 32 := by
      unfold maxMessageSize at le
      omega
    have fresh := Partly.message lt (allocate_holds room) le
    rw [allocate_length, word, List.append_nil] at fresh
    exact fresh

theorem filled_message {topic : Bytes} {buffer : FillBuffer} {got : Bytes}
    (lt : topic.length + 1 < 2 ^ 32) (holds : buffer.Holds got 1) (le : buffer.length ≤ maxMessageSize)
    (full : got.length = buffer.length) :
    Partly ((Field.message (topic ++ [0])).filled buffer)
      (field topic ++ (be32 buffer.length ++ got)) := by
  simp only [Field.filled, holds.terminate full]
  rw [← full] at le ⊢
  exact .process lt le

theorem step_readSoFar {loop : ReadLoop} {stream : Bytes} {s s' : ReadState} {input : ReadInput}
    (never : ¬ NamesLongest stream) (soFar : ReadSoFar stream s)
    (taken : readStep loop s input = some s') : ReadSoFar stream s' := by
  obtain ⟨pc, unread⟩ := s
  obtain ⟨frames, part, whole, bytes, partly⟩ := soFar
  dsimp only at bytes partly
  -- A field grows, or its last piece leads to what `filled` says.
  have grown : ∀ (front : Bytes) {field buffer got spare},
      part = front ++ got → pc = .receive field buffer → buffer.Holds got spare →
      (∀ next got', next.Holds got' spare → next.length = buffer.length →
        (∃ rest, stream = frameBytes frames ++ (front ++ got' ++ rest)) →
        Partly (.receive field next) (front ++ got') ∧
          (got'.length = next.length → Partly (field.filled next) (front ++ got'))) →
      ReadSoFar stream s' := by
    intro front field buffer got spare same at_ holds onward
    subst at_ same
    rcases receive_cases holds taken with ⟨gone, lost, rest⟩ | ⟨next, piece, more, length, rest, at_⟩
    · exact ⟨frames, front ++ got ++ lost, whole, by simp [bytes, rest], gone ▸ .left _⟩
    · have now : stream = frameBytes frames ++ (front ++ (got ++ piece) ++ s'.unread) := by
        simp [bytes, rest]
      obtain ⟨stays, leads⟩ := onward next (got ++ piece) more length ⟨_, now⟩
      refine ⟨frames, _, whole, now, ?_⟩
      rcases at_ with at_ | ⟨full, at_⟩
      · exact at_ ▸ stays
      · exact at_ ▸ leads full
  cases partly with
  | top =>
    cases input with
    | run =>
      cases loop <;> cases taken <;> exact ⟨frames, [], whole, bytes, .topicLength header_holds rfl⟩
    | dead =>
      cases loop <;> cases taken
      exact ⟨frames, [], whole, bytes, .left []⟩
    | _ => cases loop <;> cases taken
  | topicLength holds four =>
    refine grown [] rfl rfl holds fun next got' more length now => ?_
    have four' : next.length = headerSize := length.trans four
    refine ⟨.topicLength more four', fun full => filled_topicLength more four' full ?_⟩
    rintro rfl
    obtain ⟨rest, now⟩ := now
    exact never ⟨frames, rest, whole, by simpa using now⟩
  | @topic buffer got holds lt =>
    refine grown (be32 buffer.length) rfl rfl holds fun next got' more length _ => ?_
    rw [← length] at lt ⊢
    exact ⟨.topic more lt, filled_topic more lt⟩
  | @messageLength topic buffer got lt holds four =>
    refine grown (field topic) rfl rfl holds fun next got' more length _ => ?_
    have four' : next.length = headerSize := length.trans four
    exact ⟨.messageLength lt more four', filled_messageLength lt more four'⟩
  | @message topic buffer got lt holds le =>
    refine grown (field topic ++ be32 buffer.length) (List.append_assoc ..).symm rfl holds
      fun next got' more length _ => ?_
    rw [← length] at le ⊢
    rw [List.append_assoc]
    exact ⟨.message lt more le, filled_message lt more le⟩
  | @process topic message lt le =>
    cases input with
    | run =>
      have fits : WholeFrame (topic, message) := ⟨by dsimp only; omega, le⟩
      have longer : stream = frameBytes (frames ++ [(topic, message)]) ++ ([] ++ unread) := by
        rw [bytes, frameBytes_concat]
        simp
      have all : ∀ frame ∈ frames ++ [(topic, message)], WholeFrame frame := by
        intro frame member
        rcases List.mem_append.mp member with old | new
        · exact whole frame old
        · exact List.mem_singleton.mp new ▸ fits
      cases loop <;> cases taken <;> exact ⟨_, [], all, longer, .top⟩
    | leave =>
      cases loop <;> cases taken
      exact ⟨frames, _, whole, bytes, .left _⟩
    | _ => cases loop <;> cases taken
  | left part => cases loop <;> cases input <;> cases taken

theorem Partly.roomy {s : ReadState} {part : Bytes} (partly : Partly s.pc part) : Roomy s := by
  obtain ⟨pc, unread⟩ := s
  have room : ∀ {buffer : FillBuffer} {got : Bytes}, buffer.Holds got 1 →
      buffer.received + buffer.missing < buffer.memory.length := by
    intro buffer got holds
    rw [holds.end_eq, holds.size]
    exact Nat.lt_succ_self _
  refine ⟨?_, ?_, ?_⟩
  · rintro call called
    cases partly with
    | topic holds lt =>
      cases called
      exact room holds
    | message lt holds le =>
      cases called
      exact room holds
    | _ => cases called
  · rintro rfl
    cases partly
  · rintro topicBuffer messageBuffer rfl
    cases partly
    exact ⟨List.getLast?_concat, List.getLast?_concat⟩

/-! ### Where the bytes lead -/

/-- With all bytes of a field at hand either loop comes to fill its buffer. -/
theorem fill_run (loop : ReadLoop) (field : Field) (bytes rest : Bytes) (spare : Nat) :
    ∃ buffer, buffer.Holds bytes spare ∧ buffer.length = bytes.length ∧
      Run (readStep loop) Free
        { pc := .receive field (.zeroed (bytes.length + spare) bytes.length), unread := bytes ++ rest }
        { pc := field.filled buffer, unread := rest } := by
  have missing : (FillBuffer.zeroed (bytes.length + spare) bytes.length).missing = bytes.length := rfl
  have enough : bytes.length ≤ (bytes ++ rest).length := by simp
  obtain ⟨buffer, store, length, full⟩ :=
    (FillBuffer.holds_zeroed bytes.length spare).store (Nat.le_of_eq missing.symm)
  cases loop with
  | publisher =>
    refine ⟨buffer, full, length, .cons (.received bytes.length) trivial ?_ .refl⟩
    simp [readStep, recvStep, missing, store]
  | subscriber =>
    by_cases empty : bytes = []
    · subst empty
      exact ⟨_, FillBuffer.holds_zeroed 0 spare, rfl, .cons .run trivial rfl .refl⟩
    · have short : (FillBuffer.zeroed (bytes.length + spare) bytes.length).received <
          (FillBuffer.zeroed (bytes.length + spare) bytes.length).length := List.length_pos_iff.mpr empty
      have all : ¬ buffer.received < buffer.length := by
        rw [full.received, length, List.nil_append]
        exact Nat.lt_irrefl _
      have stored : readStep .subscriber
          { pc := .receive field (.zeroed (bytes.length + spare) bytes.length), unread := bytes ++ rest }
          (.received bytes.length) = some { pc := .receive field buffer, unread := rest } := by
        simp [readStep, receiveExactStep, missing, store, short, empty]
      have ended : readStep .subscriber { pc := .receive field buffer, unread := rest } .run =
          some { pc := field.filled buffer, unread := rest } := by
        simp [readStep, receiveExactStep, all]
      exact ⟨buffer, full, length, .cons _ trivial stored (.cons _ trivial ended .refl)⟩

theorem header_run (loop : ReadLoop) (field : Field) (n : Nat) (rest : Bytes) :
    ∃ buffer, buffer.memory = be32 n ∧
      Run (readStep loop) Free { pc := .receive field header, unread := be32 n ++ rest }
        { pc := field.filled buffer, unread := rest } := by
  obtain ⟨buffer, holds, length, run⟩ := fill_run loop field (be32 n) rest 0
  exact ⟨buffer, by simpa using holds.full length.symm, run⟩

/-- Either loop reads a whole frame in front of the stream. -/
theorem frame_run (loop : ReadLoop) {frame : Bytes × Bytes} (fits : WholeFrame frame) (rest : Bytes) :
    Run (readStep loop) Free { unread := encodeSocketFrame frame.1 frame.2 ++ rest }
      { pc := .process (frame.1 ++ [0]) (frame.2 ++ [0]), unread := rest } := by
  obtain ⟨topic, message⟩ := frame
  obtain ⟨topic_lt, message_le⟩ := fits
  dsimp only at topic_lt message_le ⊢
  have message_lt : message.length + 1 < 2 ^ 32 := by
    unfold maxMessageSize at message_le
    omega
  simp only [encodeSocketFrame, field, List.append_assoc]
  obtain ⟨head, headWord, first⟩ := header_run loop .topicLength topic.length
    (topic ++ (be32 message.length ++ (message ++ rest)))
  obtain ⟨topicBuffer, topicHolds, topicLength, second⟩ := fill_run loop .topic topic
    (be32 message.length ++ (message ++ rest)) 1
  obtain ⟨head', headWord', third⟩ := header_run loop (.messageLength (topic ++ [0])) message.length
    (message ++ rest)
  obtain ⟨messageBuffer, messageHolds, messageLength, fourth⟩ :=
    fill_run loop (.message (topic ++ [0])) message rest 1
  simp only [Field.filled, headWord, ofBe_be32 (show topic.length < 2 ^ 32 by omega),
    allocate_of_lt (show topic.length + 1 < 2 ^ 32 by omega)] at first
  simp only [Field.filled, topicHolds.full topicLength.symm, List.replicate_one] at second
  simp only [Field.filled, headWord', ofBe_be32 (show message.length < 2 ^ 32 by omega),
    allocate_of_lt message_lt, if_neg (Nat.not_lt.mpr message_le), gt_iff_lt] at third
  simp only [Field.filled, messageHolds.terminate messageLength.symm] at fourth
  have start : readStep loop
      { unread := be32 topic.length ++ (topic ++ (be32 message.length ++ (message ++ rest))) } .run =
      some
        { pc := .receive .topicLength header
          unread := be32 topic.length ++ (topic ++ (be32 message.length ++ (message ++ rest))) } := by
    cases loop <;> rfl
  exact .cons .run trivial start (first.trans (second.trans (third.trans fourth)))

/-- The steps come to what `receive` says of a frame. -/
theorem receive_run (loop : ReadLoop) {input topicBuffer messageBuffer rest : Bytes}
    (received : receive input = .frame topicBuffer messageBuffer rest) :
    Run (readStep loop) Free { unread := input }
      { pc := .process topicBuffer messageBuffer, unread := rest } := by
  obtain ⟨frame, fits, rfl⟩ := receive_frame received
  have topic_lt := fits.topic_lt
  rw [receive_encode (by omega) fits.message_le] at received
  cases received
  exact frame_run loop fits rest

theorem frames_run (loop : ReadLoop) {frames : List (Bytes × Bytes)}
    (fits : ∀ frame ∈ frames, WholeFrame frame) (rest : Bytes) :
    Run (readStep loop) Free { unread := frameBytes frames ++ rest } { unread := rest } := by
  induction frames with
  | nil => exact .refl
  | cons frame frames ih =>
    obtain ⟨fit, fits⟩ := List.forall_mem_cons.mp fits
    rw [frameBytes_cons]
    have next : readStep loop
        { pc := .process (frame.1 ++ [0]) (frame.2 ++ [0]), unread := frameBytes frames ++ rest } .run =
        some { unread := frameBytes frames ++ rest } := by
      cases loop <;> rfl
    exact (frame_run loop fit _).trans (.cons .run trivial next (ih fits))

/-- The vector for the longest topic is empty. -/
theorem longest_not_roomy (unread : Bytes) :
    ¬ Roomy { pc := .receive .topic (allocate (2 ^ 32 - 1)), unread } := by
  intro roomy
  have room := roomy.room _ rfl
  simp [allocate, FillBuffer.zeroed] at room

/-- For either loop and every stream of a client: the receive buffers are large enough in every run, however
`recv` cuts the stream and whatever it answers, if and only if no topic length field that the loop comes
to is 2^32-1. -/
theorem receive_buffers_roomy_iff (loop : ReadLoop) (stream : Bytes) :
    (∀ s, Run (readStep loop) Free { unread := stream } s → Roomy s) ↔ ¬ NamesLongest stream := by
  constructor
  · rintro roomy ⟨frames, rest, whole, rfl⟩
    have start : readStep loop { unread := be32 (2 ^ 32 - 1) ++ rest } .run =
        some { pc := .receive .topicLength header, unread := be32 (2 ^ 32 - 1) ++ rest } := by
      cases loop <;> rfl
    obtain ⟨buffer, word, run⟩ := header_run loop .topicLength (2 ^ 32 - 1) rest
    simp only [Field.filled, word, ofBe_be32 (show 2 ^ 32 - 1 < 2 ^ 32 by omega)] at run
    have reached := (frames_run loop whole _).trans (.cons .run trivial start run)
    rw [← List.append_assoc] at reached
    exact longest_not_roomy rest (roomy _ reached)
  · intro never s run
    have fresh : ReadSoFar stream { unread := stream } := ⟨[], [], nofun, rfl, .top⟩
    obtain ⟨_, _, _, _, partly⟩ :=
      run.keeps fresh fun _ _ _ soFar _ taken => step_readSoFar never soFar taken
    exact partly.roomy

/-- Four bytes `FF` and one more: `recv` is asked for 4294967295 bytes and the vector has none. -/
theorem longest_topic_overruns : ¬ ∀ (loop : ReadLoop) (stream : Bytes) (s : ReadState),
    Run (readStep loop) Free { unread := stream } s → Roomy s := by
  intro always
  obtain ⟨s, run, here⟩ := Run.exists_of_replay (readStep .subscriber) Free
    { unread := [255, 255, 255, 255, 65] } [.run, .received 4, .run]
    (fun s => s.pc = .receive .topic { memory := [], length := 4294967295 }) (by decide +kernel)
  have roomy := always .subscriber _ s run
  obtain ⟨pc, unread⟩ := s
  obtain rfl : pc = .receive .topic { memory := [], length := 4294967295 } := by simpa using here
  exact absurd (roomy.room _ rfl) (by decide)

end MessageRepeater.Ingress
