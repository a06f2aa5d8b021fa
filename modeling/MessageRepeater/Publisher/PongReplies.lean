import MessageRepeater.Foundation.Runs
import MessageRepeater.Publisher.AcceptHandle

/-!
# Pong replies

What a publisher connection writes. `sendSocketData` of `src/connection/acceptor.cpp` gives a reply up
at the first error, and the loop goes on reading.
-/

namespace MessageRepeater.Publisher
open Foundation Combiner Config Connection

/-- What `send` answers. The write timeout of the socket ends it with `EAGAIN`. -/
inductive SendOutcome where
  | accepted (count : Nat)
  | interrupted
  | timedOut
  | failed
  deriving DecidableEq, Repr

/-- Where the loop is: before a frame, in `sendSocketData`, or left. -/
inductive LoopPc where
  | reading
  | sending (totalSent : Nat)
  | left
  deriving DecidableEq, Repr

structure ReplyState where
  session : Session
  pc : LoopPc := .reading
  /-- The bytes the kernel has accepted on the connection. -/
  wire : Bytes := []
  /-- A reply was given up between its first and its last byte. -/
  cut : Bool := false

inductive ReplyAction where
  /-- A frame has been received into the two buffers. -/
  | receive (topicBuffer messageBuffer : Bytes)
  /-- The loop breaks at a short or oversized read. -/
  | leave
  | send (outcome : SendOutcome)
  deriving DecidableEq, Repr

def pongFrame : Bytes := encodeSocketFrame (ascii "pong") (ascii "ok")

/-- One turn of the loop of `sendSocketData`. A frame that is sent, or given up, ends the function and
the turn of the read loop. -/
def sendTurn (state : ReplyState) (totalSent : Nat) : SendOutcome → Option ReplyState
  | .accepted count =>
    if 0 < count ∧ totalSent + count ≤ pongFrame.length then
      some { state with
        wire := state.wire ++ (pongFrame.drop totalSent).take count
        pc := if totalSent + count < pongFrame.length then .sending (totalSent + count) else .reading }
    else none
  | .interrupted => some state
  | _ => some { state with pc := .reading, cut := state.cut || decide (0 < totalSent) }

def replyStep (config : RepeaterConfig) (context : GlobalContext) (state : ReplyState)
    (action : ReplyAction) : Option ReplyState :=
  match state.pc, action with
  | .reading, .receive topicBuffer messageBuffer =>
    match handleFrame config context state.session topicBuffer messageBuffer with
    | .error _ => some { state with pc := .left }
    | .ok session =>
      some { state with
        session
        pc := if cString topicBuffer = ascii "ping" then .sending 0 else .reading }
  | .reading, .leave => some { state with pc := .left }
  | .sending totalSent, .send outcome => sendTurn state totalSent outcome
  | _, _ => none

/-- Whole replies, and less than one behind them. -/
def WholeReplies (wire : Bytes) : Prop :=
  ∃ k m, m < pongFrame.length ∧ wire = (List.replicate k pongFrame).flatten ++ pongFrame.take m

/-- No ping arrives after a reply that was cut. -/
def NoPingAfterCut (state : ReplyState) (action : ReplyAction) : Prop :=
  state.cut = true → ∀ topicBuffer messageBuffer, action = .receive topicBuffer messageBuffer →
    cString topicBuffer ≠ ascii "ping"

/-! ### What is on the wire -/

theorem pongFrame_length : pongFrame.length = 14 := rfl

theorem replies_length (k : Nat) : (List.replicate k pongFrame).flatten.length = 14 * k := by
  rw [List.length_flatten, List.map_replicate, List.sum_replicate_nat, pongFrame_length, Nat.mul_comm]

theorem replies_succ (k : Nat) :
    (List.replicate (k + 1) pongFrame).flatten = (List.replicate k pongFrame).flatten ++ pongFrame := by
  rw [List.replicate_succ', List.flatten_append, List.flatten_singleton]

/-- Before the first cut the open part of the wire is what the reply in progress has sent. -/
structure Replies (k m : Nat) (state : ReplyState) : Prop where
  wire : state.wire = (List.replicate k pongFrame).flatten ++ pongFrame.take m
  open_lt : m < pongFrame.length
  sending : ∀ totalSent, state.pc = .sending totalSent → state.cut = false ∧ totalSent = m
  between : state.cut = false → (∀ totalSent, state.pc ≠ .sending totalSent) → m = 0
  cut_pos : state.cut = true → 0 < m

theorem Replies.start (session : Session) : Replies 0 0 { session } where
  wire := rfl
  open_lt := by decide
  sending := nofun
  between _ _ := rfl
  cut_pos := nofun

/-- A byte that the kernel accepts is the next one of the reply in progress. -/
theorem Replies.accept {k m count : Nat} {state : ReplyState} (replies : Replies k m state)
    (pc : state.pc = .sending m) :
    ∃ k' m', Replies k' m'
      { state with
        wire := state.wire ++ (pongFrame.drop m).take count
        pc := if m + count < pongFrame.length then .sending (m + count) else .reading } := by
  obtain ⟨whole, -⟩ := replies.sending m pc
  have sent : state.wire ++ (pongFrame.drop m).take count =
      (List.replicate k pongFrame).flatten ++ pongFrame.take (m + count) := by
    rw [replies.wire, List.append_assoc, ← List.take_add]
  by_cases more : m + count < pongFrame.length
  · refine ⟨k, m + count, sent, more, fun totalSent at_ => ⟨whole, ?_⟩, fun _ elsewhere => ?_, ?_⟩
    · simp only [if_pos more, LoopPc.sending.injEq] at at_
      exact at_.symm
    · exact absurd (if_pos more) (elsewhere (m + count))
    · intro cut
      rw [whole] at cut
      cases cut
  · refine ⟨k + 1, 0, ?_, by decide, fun totalSent at_ => ?_, fun _ _ => rfl, ?_⟩
    · show state.wire ++ (pongFrame.drop m).take count = _
      rw [sent, List.take_of_length_le (Nat.le_of_not_lt more), replies_succ, List.take_zero,
        List.append_nil]
    · simp only [if_neg more] at at_
      cases at_
    · intro cut
      rw [whole] at cut
      cases cut

/-- A reply given up leaves what it has sent as the open part. -/
theorem Replies.giveUp {k m : Nat} {state : ReplyState} (replies : Replies k m state)
    (pc : state.pc = .sending m) :
    Replies k m { state with pc := .reading, cut := state.cut || decide (0 < m) } := by
  obtain ⟨whole, -⟩ := replies.sending m pc
  refine ⟨replies.wire, replies.open_lt, nofun, ?_, ?_⟩
  · intro uncut _
    simp only [whole, Bool.false_or, decide_eq_false_iff_not] at uncut
    omega
  · intro cut
    simpa [whole] using cut

/-- A step that answers no ping after a cut keeps the shape of the wire, and after a cut the wire. -/
theorem replyStep_replies {config : RepeaterConfig} {context : GlobalContext} {k m : Nat}
    {state state' : ReplyState} {action : ReplyAction} (replies : Replies k m state)
    (guard : NoPingAfterCut state action) (taken : replyStep config context state action = some state') :
    (∃ k' m', Replies k' m' state') ∧
      (state.cut = true → state'.cut = true ∧ state'.wire = state.wire) := by
  unfold replyStep at taken
  split at taken
  · rename_i topicBuffer messageBuffer pc
    have idle : ∀ totalSent, state.pc ≠ .sending totalSent := by
      intro totalSent at_
      rw [pc] at at_
      cases at_
    split at taken
    · obtain rfl := Option.some.inj taken
      exact ⟨⟨k, m, replies.wire, replies.open_lt, nofun, fun uncut _ => replies.between uncut idle,
        replies.cut_pos⟩, fun cut => ⟨cut, rfl⟩⟩
    · obtain rfl := Option.some.inj taken
      refine ⟨⟨k, m, replies.wire, replies.open_lt, ?_, fun uncut _ => replies.between uncut idle,
        replies.cut_pos⟩, fun cut => ⟨cut, rfl⟩⟩
      intro totalSent at_
      simp only at at_
      split at at_
      · rename_i ping
        have uncut : state.cut = false := by
          by_contra cut
          exact guard (Bool.eq_true_of_not_eq_false cut) topicBuffer messageBuffer rfl ping
        cases at_
        exact ⟨uncut, (replies.between uncut idle).symm⟩
      · cases at_
  · rename_i pc
    have idle : ∀ totalSent, state.pc ≠ .sending totalSent := by
      intro totalSent at_
      rw [pc] at at_
      cases at_
    obtain rfl := Option.some.inj taken
    exact ⟨⟨k, m, replies.wire, replies.open_lt, nofun, fun uncut _ => replies.between uncut idle,
      replies.cut_pos⟩, fun cut => ⟨cut, rfl⟩⟩
  · rename_i totalSent outcome pc
    obtain ⟨whole, rfl⟩ := replies.sending totalSent pc
    refine ⟨?_, fun cut => absurd (whole.symm.trans cut) nofun⟩
    cases outcome with
    | accepted count =>
      simp only [sendTurn] at taken
      split at taken
      · obtain rfl := Option.some.inj taken
        exact replies.accept pc
      · cases taken
    | interrupted =>
      obtain rfl := Option.some.inj taken
      exact ⟨k, totalSent, replies⟩
    | timedOut =>
      obtain rfl := Option.some.inj taken
      exact ⟨k, totalSent, replies.giveUp pc⟩
    | failed =>
      obtain rfl := Option.some.inj taken
      exact ⟨k, totalSent, replies.giveUp pc⟩
  · cases taken

/-- Along a run no reply is written behind the rest of a cut one, and after a cut nothing is. -/
theorem run_replies {config : RepeaterConfig} {context : GlobalContext} {state state' : ReplyState}
    (start : ∃ k m, Replies k m state)
    (run : Run (replyStep config context) NoPingAfterCut state state') :
    (∃ k m, Replies k m state') ∧ (state.cut = true → state'.cut = true ∧ state'.wire = state.wire) := by
  induction run with
  | refl => exact ⟨start, fun cut => ⟨cut, rfl⟩⟩
  | tail _ action guard taken ih =>
    obtain ⟨⟨k, m, replies⟩, kept⟩ := ih
    obtain ⟨next, still⟩ := replyStep_replies replies guard taken
    refine ⟨next, fun cut => ?_⟩
    obtain ⟨cut', same⟩ := kept cut
    obtain ⟨cut'', same'⟩ := still cut'
    exact ⟨cut'', same'.trans same⟩

/-! ### A ping after a cut -/

/-- The rest of a reply and a whole one are never the beginning of two. -/
theorem not_wholeReplies {k m : Nat} {wire : Bytes}
    (shape : wire = (List.replicate k pongFrame).flatten ++ pongFrame.take m) (positive : 0 < m)
    (lt : m < pongFrame.length) : ¬ WholeReplies (wire ++ pongFrame) := by
  rintro ⟨k', m', lt', same⟩
  have lengths := congrArg List.length same
  simp only [shape, List.length_append, replies_length, List.length_take, pongFrame_length] at lengths lt lt'
  obtain rfl : k' = k + 1 := by omega
  obtain rfl : m' = m := by omega
  rw [shape, replies_succ, List.append_assoc, List.append_assoc] at same
  have turned := List.append_cancel_left same
  have never : ∀ j < 14, 0 < j → pongFrame.take j ++ pongFrame ≠ pongFrame ++ pongFrame.take j := by
    decide
  exact never m' lt positive turned

/-- A ping that is answered after a cut breaks the framing. -/
theorem ping_after_cut (config : RepeaterConfig) (context : GlobalContext) {k m : Nat}
    {state : ReplyState} (replies : Replies k m state) (cut : state.cut = true)
    (reading : state.pc = .reading) {topicBuffer : Bytes} (messageBuffer : Bytes)
    (ping : cString topicBuffer = ascii "ping") :
    ∃ last, replay (replyStep config context) state
        [.receive topicBuffer messageBuffer, .send (.accepted pongFrame.length)] = some last ∧
      ¬ WholeReplies last.wire := by
  have handled : handleFrame config context state.session topicBuffer messageBuffer =
      .ok { state.session with pongs := state.session.pongs + 1 } := by
    unfold handleFrame
    rw [if_pos ping]
  have received : replyStep config context state (.receive topicBuffer messageBuffer) =
      some { state with
        session := { state.session with pongs := state.session.pongs + 1 }
        pc := .sending 0 } := by
    simp only [replyStep, reading, handled, ping, if_true]
  refine ⟨_, by simp only [replay, received]; rfl, ?_⟩
  exact not_wholeReplies replies.wire (replies.cut_pos cut) replies.open_lt

/-- While no ping arrives after a cut reply, the wire is whole replies and less than one behind them,
and nothing is written after the cut; any later ping can have its reply written there. -/
theorem replies_framed (config : RepeaterConfig) (context : GlobalContext) {session : Session}
    {state : ReplyState} (run : Run (replyStep config context) NoPingAfterCut { session } state) :
    WholeReplies state.wire ∧
    (state.cut = true → ∀ state', Run (replyStep config context) NoPingAfterCut state state' →
      state'.wire = state.wire) ∧
    (state.cut = true → state.pc = .reading → ∀ topicBuffer messageBuffer,
      cString topicBuffer = ascii "ping" →
      ∃ last, replay (replyStep config context) state
          [.receive topicBuffer messageBuffer, .send (.accepted pongFrame.length)] = some last ∧
        ¬ WholeReplies last.wire) := by
  obtain ⟨⟨k, m, replies⟩, -⟩ := run_replies ⟨0, 0, .start session⟩ run
  refine ⟨⟨k, m, replies.open_lt, replies.wire⟩, fun cut state' later => ?_,
    fun cut reading topicBuffer messageBuffer ping =>
      ping_after_cut config context replies cut reading messageBuffer ping⟩
  exact ((run_replies ⟨k, m, replies⟩ later).2 cut).2

/-- A cut reply and no further ping: the three bytes stay the last ones. -/
theorem replies_framed_cut :
    ∃ state, replay (replyStep {} {}) { session := { store := MessageCircleComposite.init 10 } }
        [.receive (ascii "ping" ++ [0]) [0], .send (.accepted 3), .send .timedOut,
          .receive (ascii "pong" ++ [0]) [0]] = some state ∧
      state.cut = true ∧ WholeReplies state.wire := by
  refine ⟨_, rfl, rfl, ?_⟩
  refine (@replies_framed {} {} { store := MessageCircleComposite.init 10 } _ ?_).1
  refine (((Run.refl.tail (.receive (ascii "ping" ++ [0]) [0]) ?_ rfl).tail (.send (.accepted 3)) ?_
    rfl).tail (.send .timedOut) ?_ rfl).tail (.receive (ascii "pong" ++ [0]) [0]) ?_ rfl
  · exact fun cut => nomatch cut
  · exact fun cut => nomatch cut
  · exact fun cut => nomatch cut
  · rintro - topicBuffer messageBuffer same
    cases same
    decide

/-- Two pings: the first reply times out after three bytes, and the second is written behind them. -/
theorem replies_run_together :
    ∃ state, Run (replyStep {} {}) Free { session := { store := MessageCircleComposite.init 10 } } state ∧
      ¬ WholeReplies state.wire := by
  refine ⟨_, ((((Run.refl.tail (.receive (ascii "ping" ++ [0]) [0]) trivial rfl).tail
    (.send (.accepted 3)) trivial rfl).tail (.send .timedOut) trivial rfl).tail
    (.receive (ascii "ping" ++ [0]) [0]) trivial rfl).tail (.send (.accepted 14)) trivial rfl, ?_⟩
  exact not_wholeReplies (k := 0) (m := 3) rfl (by decide) (by decide)

end MessageRepeater.Publisher
