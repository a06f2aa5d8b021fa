import MessageRepeater.Subscriber.Acknowledgement

/-!
# Where a connection starts

No cursor of a connection starts before the end that its topic's log had when the connection was
opened. So all that the connection carries of a topic is newer, in order, and without repetition.
-/

namespace MessageRepeater.Subscriber
open Foundation Combiner Config Connection

/-- Every cursor that is set, or about to be set, starts at `floor` or later. -/
structure Floored (floor : Topic → Nat) (s : State) : Prop where
  logs : ∀ t, floor t ≤ (s.logs t).length
  starts : ∀ r t start, (r, t, start) ∈ s.link.history.starts → floor t ≤ start
  reader : ∀ record topics t sequence todo,
    s.reader = .initializeTopic record topics t sequence todo → floor t ≤ sequence
  call : ∀ t sequence, s.writer.call = .deliver t (.initializeTopic sequence) → floor t ≤ sequence

/-! ### What is about to be set -/

/-- A start that the writer adds is the one it was about to set. -/
theorem WriterMove.added {d : Deployment} {s s' : State} (moved : WriterMove d s s') {r : Nat}
    {t : Topic} {start : Nat} (member : (r, t, start) ∈ s'.link.history.starts) :
    (r, t, start) ∈ s.link.history.starts ∨ s.writer.call = .deliver t (.initializeTopic start) := by
  cases moved with
  | flush at_ move link_eq =>
    rw [link_eq] at member
    exact ((move.grows .outside).added r t start member).imp_right nofun
  | deliver at_ _ move link_eq =>
    rw [link_eq] at member
    exact (move.grows.added r t start member).imp_right at_.trans
  | test _ link_eq | cache _ link_eq | other _ link_eq | close _ link_eq =>
    exact .inl (link_eq ▸ member)

theorem readerStep_setting {d : Deployment} {s s' : State} {input : ReaderInput} (rings : Rings s)
    (taken : readerStep d s input = some s') {record : Nat} {topics : List Topic} {t : Topic}
    {sequence : Nat} {todo : List Topic}
    (at_ : s'.reader = .initializeTopic record topics t sequence todo) :
    sequence = (s.logs t).length := by
  have goes := readerStep_goes taken
  rw [at_] at goes
  cases goes with
  | quiet quiet => cases quiet
  | unmade _ unmade => rw [Holding.unmade rings unmade, List.length_nil]
  | setting => exact rings.nextSequence t

/-- A start that the reading thread adds is the one it was about to set. -/
theorem ReaderMove.added {s s' : State} (moved : ReaderMove s s') {r : Nat} {t : Topic} {start : Nat}
    (member : (r, t, start) ∈ s'.link.history.starts) :
    (r, t, start) ∈ s.link.history.starts ∨
      ∃ topics todo, s.reader = .initializeTopic r topics t start todo := by
  cases moved with
  | same link_eq => exact .inl (link_eq ▸ member)
  | enqueue _ pushed link_eq =>
    rw [link_eq] at member
    exact .inl ((enqueueControlFrame_link pushed).2.1 ▸ member)
  | create _ link_eq =>
    rw [link_eq] at member
    exact .inl member
  | initializeTopic at_ link_eq =>
    rw [link_eq] at member
    refine (mem_initializeTopic_starts member).imp_right fun same => ?_
    cases same
    exact ⟨_, _, at_⟩

/-! ### Every step -/

theorem OutputFrame.floored {floor : Topic → Nat} {s s' : State} (frame : OutputFrame s s')
    (floored : Floored floor s) (logs : ∀ t, floor t ≤ (s'.logs t).length) : Floored floor s' := by
  refine ⟨logs, ?_, ?_, ?_⟩
  · rw [frame.link]
    exact floored.starts
  · rw [frame.reader]
    exact floored.reader
  · rw [frame.call]
    exact floored.call

theorem step_floored {d : Deployment} {floor : Topic → Nat} {s s' : State} {action : Action}
    (rings : Rings s) (floored : Floored floor s) (taken : step d s action = some s') :
    Floored floor s' := by
  have logs : ∀ t, floor t ≤ (s'.logs t).length :=
    fun t => (floored.logs t).trans ((step_rings rings taken).2 t).length_le
  cases action with
  | writer outcome =>
    have moved := writerStep_move taken
    refine ⟨logs, fun r t start member => ?_, ?_, fun t sequence at_ => ?_⟩
    · rcases moved.added member with old | setting
      · exact floored.starts r t start old
      · exact floored.call t start setting
    · rw [(writerStep_frame taken).reader]
      exact floored.reader
    · obtain ⟨ring, made, rfl⟩ := moved.setting at_
      exact (floored.logs t).trans_eq (rings.holds made).next.symm
  | reader input =>
    obtain ⟨moved, _, writer, _⟩ := readerStep_move taken
    refine ⟨logs, fun r t start member => ?_, fun record topics t sequence todo at_ => ?_, ?_⟩
    · rcases moved.added member with old | ⟨topics, todo, setting⟩
      · exact floored.starts r t start old
      · exact floored.reader r topics t start todo setting
    · exact (floored.logs t).trans_eq (readerStep_setting rings taken at_).symm
    · rw [writer]
      exact floored.call
  | _ => exact (step_frame (by simp) (by simp) taken).floored floored logs

/-! ### What the connection carries -/

/-- The messages of a topic that the wire has or gets next, oldest first. -/
def Link.carriedOf (link : Link) (topic : Topic) : List (Nat × Bytes) :=
  link.carried.filterMap (WireFrame.entry? topic)

/-- The parked frame is not of the topic, or it is the topic's next message. -/
theorem Delivering.carriedOf {config : RepeaterConfig} {s : State} (delivering : Delivering config s)
    (topic : Topic) : s.link.carriedOf topic = s.link.sent topic ∨
      ∃ sequence body, s.link.carriedOf topic = s.link.sent topic ++ [(sequence, body)] ∧
        Due config s topic sequence body := by
  have slot := delivering.slot
  unfold Link.carriedOf Link.carried Link.sent
  rw [List.filterMap_append]
  generalize s.link.output.pendingFrame = pending, s.link.history.parked = parked at slot
  cases slot with
  | empty | control => exact .inl (by simp [WireFrame.entry?])
  | @business frame sequence body _ _ due =>
    by_cases same : frame.topic = topic
    · subst same
      exact .inr ⟨sequence, body, by simp [WireFrame.entry?], due⟩
    · exact .inl (by simp [WireFrame.entry?, same])

/-- The cursor that the writer sends a topic from started at the floor or later. -/
theorem Delivering.consumed_sent {config : RepeaterConfig} {floor : Topic → Nat} {s : State}
    (delivering : Delivering config s) (floored : Floored floor s) {topic : Topic} {record : Nat}
    {entry : ConsumeMeta} (cached : s.record = some record)
    (found : s.link.getMeta record topic = some entry) (initialized : entry.initialized = true) :
    ∃ start, floor topic ≤ start ∧ Consumed (s.logs topic) (s.Excused config topic)
      (s.link.sent topic) start entry.nextSequence := by
  obtain ⟨start, started⟩ := (delivering.started record topic).mpr ⟨entry, found, initialized⟩
  have consumed := delivering.consumed record topic start entry started found
  rw [State.sentBy, if_pos cached] at consumed
  exact ⟨start, floored.starts record topic start started, consumed⟩

/-- From the floor on, in order, and as the log has them. -/
theorem carried_ordered {config : RepeaterConfig} {floor : Topic → Nat} {s : State}
    (delivering : Delivering config s) (floored : Floored floor s) (topic : Topic) :
    ((s.link.carriedOf topic).map Prod.fst).Pairwise (· < ·) ∧
      ∀ item ∈ s.link.carriedOf topic, floor topic ≤ item.1 ∧
        (s.logs topic)[item.1]? = some item.2 := by
  have reached : ∀ {excused : Nat → Prop} {sent start cursor}, floor topic ≤ start →
      Consumed (s.logs topic) excused sent start cursor → (sent.map Prod.fst).Pairwise (· < ·) ∧
        ∀ item ∈ sent, floor topic ≤ item.1 ∧ (s.logs topic)[item.1]? = some item.2 := by
    intro excused sent start cursor beyond consumed
    refine ⟨consumed.ordered, fun item member => ?_⟩
    obtain ⟨from_, _, found⟩ := consumed.inside item member
    exact ⟨beyond.trans from_, found⟩
  rcases delivering.carriedOf topic with same | ⟨sequence, body, more, due⟩
  · rw [same]
    by_cases unsent : s.link.sent topic = []
    · rw [unsent]
      exact ⟨.nil, nofun⟩
    · obtain ⟨record, entry, cached, found, initialized⟩ := delivering.idle topic unsent
      obtain ⟨start, beyond, consumed⟩ := delivering.consumed_sent floored cached found initialized
      exact reached beyond consumed
  · obtain ⟨record, entry, cached, found, initialized, le, between⟩ := due.entry
    obtain ⟨start, beyond, consumed⟩ := delivering.consumed_sent floored cached found initialized
    rw [more]
    exact reached beyond ((consumed.skip le between).send due.body)

end MessageRepeater.Subscriber
