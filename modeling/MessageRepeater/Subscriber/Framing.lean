import MessageRepeater.Subscriber.ThreadFrames

/-!
# Framing of a subscriber connection's output

The bytes on the wire are whole frames and the sent part of the one pending frame. The pending slot
is filled only when it is empty and emptied only after its last byte, by whichever callback.
-/

namespace MessageRepeater.Subscriber
open Foundation Combiner Config Connection

def WireFrame.control? : WireFrame → Option Bytes
  | .control data => some data
  | .business .. => none

/-- The bytes of the pending frame that have been sent. -/
def Link.sentPart (link : Link) : Bytes :=
  match link.output.pendingFrame with
  | none => []
  | some frame => frame.data.take frame.offset

/-- The pending slot holds the parked frame, sent up to its offset. -/
structure Parked (link : Link) : Prop where
  data : link.output.pendingFrame.map PendingSubscriberFrame.data =
    link.history.parked.map WireFrame.image
  within : ∀ frame, link.output.pendingFrame = some frame → frame.offset ≤ frame.data.length

structure Framed (link : Link) : Prop where
  wire : link.history.wire =
    (link.history.frames.map WireFrame.image).flatten ++ link.sentPart
  parked : Parked link
  controls : link.history.frames.filterMap WireFrame.control? ++
    (link.history.parked.bind WireFrame.control?).toList ++ link.output.controlFrames =
      link.history.enqueued
  encoded : ∀ frame ∈ link.history.enqueued, ∃ topic message, frame = encodeSocketFrame topic message

/-- Every byte of the pending frame has been sent. -/
def Whole (link : Link) : Prop :=
  ∃ frame, link.output.pendingFrame = some frame ∧ frame.data.length ≤ frame.offset

/-! ### The operations keep the framing -/

theorem Framed.congr {link link' : Link} (framed : Framed link) (output : link'.output = link.output)
    (wire : link'.history.wire = link.history.wire)
    (frames : link'.history.frames = link.history.frames)
    (parked : link'.history.parked = link.history.parked)
    (enqueued : link'.history.enqueued = link.history.enqueued) : Framed link' := by
  have sent : link'.sentPart = link.sentPart := by unfold Link.sentPart; rw [output]
  refine ⟨?_, ⟨?_, ?_⟩, ?_, ?_⟩
  · rw [wire, frames, sent]
    exact framed.wire
  · rw [output, parked]
    exact framed.parked.data
  · rw [output]
    exact framed.parked.within
  · rw [frames, parked, output, enqueued]
    exact framed.controls
  · rw [enqueued]
    exact framed.encoded

theorem Framed.sentPart_none {link : Link} (pending : link.output.pendingFrame = none) :
    link.sentPart = [] := by
  unfold Link.sentPart
  rw [pending]

theorem Parked.none {link : Link} (parked : Parked link)
    (pending : link.output.pendingFrame = none) : link.history.parked = none := by
  have data := parked.data
  rw [pending, Option.map_none] at data
  exact Option.map_eq_none_iff.mp data.symm

theorem Parked.some {link : Link} (parked : Parked link) {frame : PendingSubscriberFrame}
    (pending : link.output.pendingFrame = some frame) :
    ∃ wireFrame, link.history.parked = some wireFrame ∧ wireFrame.image = frame.data := by
  have data := parked.data
  rw [pending, Option.map_some] at data
  obtain ⟨wireFrame, held, image⟩ := Option.map_eq_some_iff.mp data.symm
  exact ⟨wireFrame, held, image⟩

theorem Framed.takeControl {link : Link} {frame : Bytes} {rest : List Bytes} (framed : Framed link)
    (pending : link.output.pendingFrame = none)
    (control : link.output.controlFrames = frame :: rest) : Framed (link.takeControl frame rest) := by
  have wire := framed.wire
  have controls := framed.controls
  rw [sentPart_none pending] at wire
  rw [framed.parked.none pending, control] at controls
  refine ⟨by simpa [Link.takeControl, Link.sentPart] using wire, ⟨rfl, ?_⟩, ?_, framed.encoded⟩
  · intro held at_
    obtain rfl : { data := frame } = held := by simpa [Link.takeControl] using at_
    exact Nat.zero_le _
  · simpa [Link.takeControl, WireFrame.control?] using controls

theorem Framed.accept {link : Link} {frame : PendingSubscriberFrame} {count : Nat}
    (framed : Framed link) (pending : link.output.pendingFrame = some frame)
    (within : frame.offset + count ≤ frame.data.length) : Framed (link.accept frame count) := by
  have wire := framed.wire
  have parked := framed.parked.data
  have sent : link.sentPart = frame.data.take frame.offset := by unfold Link.sentPart; rw [pending]
  rw [sent] at wire
  refine ⟨?_, ⟨?_, ?_⟩, framed.controls, framed.encoded⟩
  · simp only [Link.accept, Link.sentPart, wire, List.append_assoc]
    rw [← List.take_add]
  · rw [pending] at parked
    exact parked
  · intro held at_
    obtain rfl : { frame with offset := frame.offset + count } = held := by
      simpa [Link.accept] using at_
    exact within

theorem Framed.reset {link : Link} (framed : Framed link) (whole : Whole link) :
    Framed link.reset := by
  obtain ⟨frame, pending, all⟩ := whole
  obtain ⟨wireFrame, parked, image⟩ := framed.parked.some pending
  have wire := framed.wire
  have controls := framed.controls
  have sent : link.sentPart = wireFrame.image := by
    unfold Link.sentPart
    rw [pending, image]
    exact List.take_of_length_le all
  rw [sent] at wire
  rw [parked] at controls
  refine ⟨?_, ⟨rfl, nofun⟩, ?_, framed.encoded⟩
  · simp [Link.reset, Link.sentPart, wire, parked]
  · refine Eq.trans ?_ controls
    cases found : wireFrame.control? <;> simp [Link.reset, parked, List.filterMap_append, found]

theorem Framed.park {link : Link} {topic : Topic} {body : Bytes} {result : MessageReadResult}
    (framed : Framed link) (pending : link.output.pendingFrame = none) :
    Framed (link.park topic body result) := by
  have wire := framed.wire
  have controls := framed.controls
  rw [sentPart_none pending] at wire
  rw [framed.parked.none pending] at controls
  refine ⟨by simpa [Link.park, Link.sentPart] using wire, ⟨rfl, ?_⟩, ?_, framed.encoded⟩
  · intro held at_
    simp only [Link.park, Option.some.injEq] at at_
    rw [← at_]
    exact Nat.zero_le _
  · simpa [Link.park, WireFrame.control?] using controls

theorem Framed.enqueue {link link' : Link} {topic message : Bytes} (framed : Framed link)
    (pushed : link.enqueueControlFrame topic message = some link') : Framed link' := by
  cases Link.enqueueControlFrame_some pushed
  refine ⟨framed.wire, ⟨framed.parked.data, framed.parked.within⟩, ?_, ?_⟩
  · rw [← framed.controls]
    simp
  · intro frame member
    rcases List.mem_append.mp member with old | new
    · exact framed.encoded frame old
    · exact ⟨topic, message, List.mem_singleton.mp new⟩

/-! ### One step -/

/-- What the program counter of a call says about the pending slot. -/
def SlotAt (link : Link) : Call → Prop
  | .flush .commit | .deliver _ (.flush .commit) => Whole link
  | .deliver _ .circleMeta | .deliver _ (.initializeTopic _) | .deliver _ (.read _)
  | .deliver _ (.updateEmpty _) => link.output.pendingFrame = none
  | _ => True

theorem Call.Fresh.slot {link : Link} {call : Call} (fresh : call.Fresh) : SlotAt link call := by
  cases fresh <;> trivial

theorem FlushMove.framed {link link' : Link} {record : Option Nat} {pc : FlushPc}
    {control : Control FlushPc (PendingWriteStatus × Topic)}
    (moved : FlushMove link record pc link' control) (framed : Framed link)
    (commit : pc = .commit → Whole link) :
    Framed link' ∧ (control = .goto .commit → Whole link') := by
  cases moved with
  | resume | idle | again | blocked | orphan => exact ⟨framed, nofun⟩
  | next pending queue => exact ⟨framed.takeControl pending queue, nofun⟩
  | sent pending whole => exact ⟨framed, fun _ => ⟨_, pending, whole⟩⟩
  | accept pending within => exact ⟨framed.accept pending within, nofun⟩
  | failed => exact ⟨framed.congr rfl rfl rfl rfl rfl, nofun⟩
  | business pending =>
    refine ⟨Framed.reset (framed.congr rfl rfl rfl rfl rfl) ?_, nofun⟩
    exact commit rfl
  | control pending => exact ⟨framed.reset (commit rfl), nofun⟩

theorem Link.initializeTopic_framed {link : Link} {record : Nat} {topic : Topic} {sequence : Nat}
    (framed : Framed link) : Framed (link.initializeTopic record topic sequence) := by
  refine framed.congr rfl ?_ ?_ ?_ ?_ <;> unfold Link.initializeTopic <;> dsimp only <;> split <;> rfl

theorem DeliverMove.framed {config : RepeaterConfig} {store : MessageCircleComposite}
    {link link' : Link} {record : Nat} {topic : Topic} {pc : DeliverPc}
    {control : Control DeliverPc TopicDeliveryStatus}
    (moved : DeliverMove config store link record topic pc link' control) (framed : Framed link)
    (slot : SlotAt link (.deliver topic pc)) :
    Framed link' ∧ ∀ pc', control = .goto pc' → SlotAt link' (.deliver topic pc') := by
  cases moved with
  | busy | absent => exact ⟨framed, nofun⟩
  | entry pending | fresh pending =>
    refine ⟨framed, ?_⟩
    rintro pc' ⟨⟩
    exact pending
  | circleMeta =>
    refine ⟨framed, ?_⟩
    rintro pc' ⟨⟩
    exact slot
  | initializeTopic => exact ⟨Link.initializeTopic_framed framed, nofun⟩
  | disconnect | nothing => exact ⟨framed.congr rfl rfl rfl rfl rfl, nofun⟩
  | empty =>
    refine ⟨framed.congr rfl rfl rfl rfl rfl, ?_⟩
    rintro pc' ⟨⟩
    exact slot
  | park =>
    refine ⟨Framed.park (framed.congr rfl rfl rfl rfl rfl) slot, ?_⟩
    rintro pc' ⟨⟩
    trivial
  | updateEmpty => exact ⟨framed.congr rfl rfl rfl rfl rfl, nofun⟩
  | @flush pc link' flushControl moved =>
    obtain ⟨framed', whole⟩ := moved.framed framed (by rintro rfl; exact slot)
    refine ⟨framed', ?_⟩
    intro pc' next
    rcases flushControl with inner | ⟨status, completed⟩
    · obtain rfl : DeliverPc.flush inner = pc' := Control.goto.inj next
      cases inner with
      | take | send => trivial
      | commit => exact whole rfl
    · cases status <;> cases next

/-- The framing with what the writer's program counter says about the slot, and the end of all
writing after an error. -/
structure Sound (s : State) : Prop where
  framed : Framed s.link
  slot : SlotAt s.link s.writer.call
  failed : s.link.history.failed = true → s.writer.call = .closing

theorem FlushMove.error {link link' : Link} {record : Option Nat} {pc : FlushPc}
    {control : Control FlushPc (PendingWriteStatus × Topic)}
    (moved : FlushMove link record pc link' control) :
    link'.history.failed = link.history.failed ∨ control = .ret (.error, []) := by
  cases moved with
  | failed => exact .inr rfl
  | _ => exact .inl rfl

theorem DeliverMove.error {config : RepeaterConfig} {store : MessageCircleComposite}
    {link link' : Link} {record : Nat} {topic : Topic} {pc : DeliverPc}
    {control : Control DeliverPc TopicDeliveryStatus}
    (moved : DeliverMove config store link record topic pc link' control) :
    link'.history.failed = link.history.failed ∨ control = .ret .disconnect := by
  cases moved with
  | initializeTopic =>
    left
    unfold Link.initializeTopic
    dsimp only
    split <;> rfl
  | flush moved =>
    rcases moved.error with same | rfl
    · exact .inl same
    · exact .inr rfl
  | _ => exact .inl rfl

theorem WriterMove.sound {d : Deployment} {s s' : State} (moved : WriterMove d s s')
    (sound : Sound s) : Sound s' := by
  have open_ : s.writer.call ≠ .closing → s.link.history.failed = false := by
    intro going
    by_contra failed
    exact going (sound.failed (by simpa using failed))
  cases moved with
  | @flush pc link control at_ move link_eq record_eq next =>
    have slot := sound.slot
    rw [at_] at slot
    obtain ⟨framed, whole⟩ := move.framed sound.framed (by rintro rfl; exact slot)
    have running := open_ (by rw [at_]; simp)
    subst link_eq
    refine ⟨framed, ?_, fun failed => ?_⟩
    · rcases control with pc' | ⟨status, completed⟩
      · simp only [Call.AfterFlush] at next
        rw [next]
        cases pc' with
        | take | send => trivial
        | commit => exact whole rfl
      · exact next.1.slot
    · rcases move.error with same | rfl
      · exact absurd (same.symm.trans failed) (by simp [running])
      · exact next.2 rfl
  | @deliver topic pc record link control at_ cached move link_eq record_eq next =>
    have slot := sound.slot
    rw [at_] at slot
    obtain ⟨framed, slots⟩ := move.framed sound.framed slot
    have running := open_ (by rw [at_]; simp)
    subst link_eq
    refine ⟨framed, ?_, fun failed => ?_⟩
    · rcases control with pc' | status
      · simp only [Call.AfterDeliver] at next
        rw [next]
        exact slots pc' rfl
      · exact next.1.slot
    · rcases move.error with same | rfl
      · exact absurd (same.symm.trans failed) (by simp [running])
      · exact next.2 rfl
  | test at_ link_eq _ _ _ next =>
    refine ⟨by rw [link_eq]; exact sound.framed, by rw [next]; trivial, ?_⟩
    rw [link_eq, open_ (by rw [at_]; simp)]
    rintro ⟨⟩
  | cache at_ link_eq _ next | other at_ link_eq _ next =>
    refine ⟨by rw [link_eq]; exact sound.framed, next.slot, ?_⟩
    rw [link_eq, open_ (by rw [at_]; simp)]
    rintro ⟨⟩
  | close at_ link_eq _ next =>
    exact ⟨by rw [link_eq]; exact sound.framed, by rw [next]; trivial, fun _ => next⟩

/-- The reading thread adds to the control queue and changes nothing else of the framing. -/
theorem ReaderMove.framed {s s' : State} (moved : ReaderMove s s') (framed : Framed s.link) :
    Framed s'.link ∧ s'.link.output.pendingFrame = s.link.output.pendingFrame ∧
      s'.link.history.failed = s.link.history.failed ∧ s'.link.history.wire = s.link.history.wire := by
  cases moved with
  | same link_eq =>
    rw [link_eq]
    exact ⟨framed, rfl, rfl, rfl⟩
  | enqueue at_ pushed link_eq =>
    rw [link_eq]
    have kept := framed.enqueue pushed
    cases Link.enqueueControlFrame_some pushed
    exact ⟨kept.congr rfl rfl rfl rfl rfl, rfl, rfl, rfl⟩
  | create at_ link_eq =>
    rw [link_eq]
    exact ⟨framed.congr rfl rfl rfl rfl rfl, rfl, rfl, rfl⟩
  | initializeTopic at_ link_eq =>
    rw [link_eq]
    refine ⟨Link.initializeTopic_framed framed, rfl, ?_, ?_⟩
    all_goals
      unfold Link.initializeTopic
      dsimp only
      split <;> rfl

theorem SlotAt.congr {link link' : Link} {call : Call} (slot : SlotAt link call)
    (pending : link'.output.pendingFrame = link.output.pendingFrame) : SlotAt link' call := by
  unfold SlotAt Whole at *
  rw [pending]
  exact slot

theorem step_sound {d : Deployment} {s s' : State} {action : Action} (sound : Sound s)
    (taken : step d s action = some s') : Sound s' := by
  rcases step_output taken with moved | ⟨moved, _, writer_eq⟩ | frame
  · exact moved.sound sound
  · obtain ⟨framed, pending, failed, _⟩ := moved.framed sound.framed
    refine ⟨framed, ?_, ?_⟩
    · rw [writer_eq]
      exact sound.slot.congr pending
    · rw [failed, writer_eq]
      exact sound.failed
  · refine ⟨by rw [frame.link]; exact sound.framed, ?_, ?_⟩
    · rw [frame.call, frame.link]
      exact sound.slot
    · rw [frame.call, frame.link]
      exact sound.failed

theorem initial_sound (d : Deployment) : Sound (initial d) := by
  refine ⟨⟨rfl, ⟨rfl, nofun⟩, rfl, nofun⟩, ?_, nofun⟩
  unfold initial
  dsimp only
  split <;> trivial

theorem reachable_sound {d : Deployment} {s : State} (run : Run (step d) Free (initial d) s) :
    Sound s :=
  run.keeps (initial_sound d) fun _ _ _ sound _ taken => step_sound sound taken

/-! ### No byte after an error -/

/-- A writer that has left its loop writes nothing, and does not come back. -/
theorem step_closing {d : Deployment} {s s' : State} {action : Action} (sound : Sound s)
    (closing : s.writer.call = .closing) (taken : step d s action = some s') :
    s'.writer.call = .closing ∧ s'.link.history.wire = s.link.history.wire := by
  rcases step_output taken with moved | ⟨moved, _, writer_eq⟩ | frame
  · cases moved with
    | flush at_ | deliver at_ | test at_ | cache at_ | other at_ =>
      rw [closing] at at_
      cases at_
    | close at_ link_eq _ next => exact ⟨next, by rw [link_eq]⟩
  · obtain ⟨_, _, _, wire⟩ := moved.framed sound.framed
    exact ⟨by rw [writer_eq]; exact closing, wire⟩
  · exact ⟨by rw [frame.call]; exact closing, by rw [frame.link]⟩

theorem closing_silent {d : Deployment} {s s' : State} (sound : Sound s)
    (closing : s.writer.call = .closing) (run : Run (step d) Free s s') :
    s'.link.history.wire = s.link.history.wire := by
  suffices still : Sound s' ∧ s'.writer.call = .closing ∧
      s'.link.history.wire = s.link.history.wire from still.2.2
  induction run with
  | refl => exact ⟨sound, closing, rfl⟩
  | tail _ action _ taken ih =>
    obtain ⟨kept, shut, wire⟩ := ih
    obtain ⟨shut', same⟩ := step_closing kept shut taken
    exact ⟨step_sound kept taken, shut', same.trans wire⟩

/-- A frame that is a whole `encodeSocketFrame` image. -/
def WireFrame.Encoded (frame : WireFrame) : Prop :=
  ∃ topic message, frame.image = encodeSocketFrame topic message

theorem Framed.encoded_frame {link : Link} (framed : Framed link) {frame : WireFrame}
    (member : frame ∈ link.history.frames ∨ link.history.parked = some frame) : frame.Encoded := by
  cases frame with
  | business topic _ body => exact ⟨topic, body, rfl⟩
  | control data =>
    apply framed.encoded data
    rw [← framed.controls]
    rcases member with sent | parked
    · exact List.mem_append_left _ (List.mem_append_left _ (List.mem_filterMap.mpr ⟨_, sent, rfl⟩))
    · simp [parked, WireFrame.control?]

/-- In every run, whatever `send` reports: the wire is whole frames and the first `offset` bytes of
the pending one, the control frames on it are the enqueued ones in their order, and after an error
no run writes another byte. -/
theorem output_framed (d : Deployment) {s : State} (run : Run (step d) Free (initial d) s) :
    s.link.history.wire = (s.link.history.frames.map WireFrame.image).flatten ++ s.link.sentPart ∧
    (∀ frame ∈ s.link.history.frames, frame.Encoded) ∧
    (∀ pending, s.link.output.pendingFrame = some pending → pending.offset ≤ pending.data.length ∧
      ∃ frame, s.link.history.parked = some frame ∧ frame.Encoded ∧ frame.image = pending.data) ∧
    s.link.history.frames.filterMap WireFrame.control? ++
      (s.link.history.parked.bind WireFrame.control?).toList ++ s.link.output.controlFrames =
        s.link.history.enqueued ∧
    (s.link.history.failed = true → ∀ s', Run (step d) Free s s' →
      s'.link.history.wire = s.link.history.wire) := by
  have sound := reachable_sound run
  refine ⟨sound.framed.wire, ?_, ?_, sound.framed.controls, ?_⟩
  · exact fun frame sent => sound.framed.encoded_frame (.inl sent)
  · intro pending held
    obtain ⟨frame, parked, image⟩ := sound.framed.parked.some held
    exact ⟨sound.framed.parked.within pending held, frame, parked,
      sound.framed.encoded_frame (.inr parked), image⟩
  · exact fun failed s' later => closing_silent sound (sound.failed failed) later

/-- A client pings, and `send` takes five bytes of the answer before it fails. -/
theorem output_framed_broken_pong : ∃ s, Run (step (sample false)) Free (initial (sample false)) s ∧
    s.link.history.wire = (encodeSocketFrame messageOpPong (ascii "ok")).take 5 ∧
    s.link.history.wire = (s.link.history.frames.map WireFrame.image).flatten ++ s.link.sentPart ∧
    ∀ s', Run (step (sample false)) Free s s' → s'.link.history.wire = s.link.history.wire := by
  obtain ⟨s, run, passed⟩ := Run.exists_of_replay (step (sample false)) Free (initial (sample false))
    [.reader .run, .reader (.request .ping), .reader .run, .writer .failed, .writer .failed,
      .writer .failed, .writer .failed, .writer (.accepted 5), .writer .failed]
    (fun s => decide (s.link.history.wire =
      (encodeSocketFrame messageOpPong (ascii "ok")).take 5 ∧ s.link.history.failed = true))
    (by decide)
  obtain ⟨sent, failed⟩ := of_decide_eq_true passed
  obtain ⟨wire, _, _, _, silent⟩ := output_framed (sample false) run
  exact ⟨s, run, sent, wire, silent failed⟩

end MessageRepeater.Subscriber
