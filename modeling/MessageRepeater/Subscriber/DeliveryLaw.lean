import MessageRepeater.Subscriber.Answers

/-!
# The delivery law of one accepted request

With a single accepted request the writer can only use that request's record, so everything that is
known of its cursors holds of all the business frames of the connection.
-/

namespace MessageRepeater.Subscriber
open Foundation Combiner Config Connection

/-- The message of a parked frame whose last byte is sent. -/
def Link.sentPending (link : Link) (topic : Topic) : List (Nat × Bytes) :=
  match link.output.pendingFrame with
  | none => []
  | some frame =>
    if frame.data.length ≤ frame.offset then
      link.history.parked.toList.filterMap (WireFrame.entry? topic)
    else []

/-- The messages of a topic whose frames are completely written, oldest first. -/
def Link.written (link : Link) (topic : Topic) : List (Nat × Bytes) :=
  link.sent topic ++ link.sentPending topic

/-- How the written frames of a topic relate to its log, for a cursor that started at `start`. -/
structure InOrder (config : RepeaterConfig) (s : State) (topic : Topic) (start cursor : Nat) :
    Prop where
  ordered : ((s.link.written topic).map Prod.fst).Pairwise (· < ·)
  bodies : ∀ item ∈ s.link.written topic,
    start ≤ item.1 ∧ (s.logs topic)[item.1]? = some item.2
  accounted : ∀ q, start ≤ q → q < cursor →
    (∃ body, (q, body) ∈ s.link.written topic) ∨ s.Excused config topic q
  nothingSkipped : config.subscriberAlwaysSendLatest = false →
    config.subscriberOverrunPolicy = .disconnect → ∀ q body, start ≤ q → q < cursor →
    (s.logs topic)[q]? = some body → body ≠ [] → (q, body) ∈ s.link.written topic

theorem Consumed.inOrder {config : RepeaterConfig} {s : State} {topic : Topic}
    {start cursor reach : Nat}
    (consumed : Consumed (s.logs topic) (s.Excused config topic) (s.link.written topic) start reach)
    (le : cursor ≤ reach) : InOrder config s topic start cursor where
  ordered := consumed.ordered
  bodies item member := by
    obtain ⟨from_, _, found⟩ := consumed.inside item member
    exact ⟨from_, found⟩
  accounted q from_ lt := consumed.passed q from_ (by omega)
  nothingSkipped sequential policy q body from_ lt found nonempty := by
    rcases consumed.passed q from_ (by omega) with ⟨other, member⟩ | empty | ⟨event, _, _, skips⟩
    · obtain ⟨_, _, at_⟩ := consumed.inside _ member
      obtain rfl : body = other := Option.some.inj (found.symm.trans at_)
      exact member
    · rw [found, Option.some.injEq] at empty
      exact absurd empty nonempty
    · rcases skips.cause with latest | ⟨_, other⟩
      · rw [sequential] at latest
        cases latest
      · exact absurd policy other

/-- The frame in the slot is not counted, or it is the topic's next message. -/
theorem Delivering.written {config : RepeaterConfig} {s : State} (delivering : Delivering config s)
    (topic : Topic) : s.link.written topic = s.link.sent topic ∨
      ∃ sequence body, s.link.written topic = s.link.sent topic ++ [(sequence, body)] ∧
        Due config s topic sequence body := by
  have slot := delivering.slot
  unfold Link.written Link.sentPending
  cases pending : s.link.output.pendingFrame with
  | none => exact .inl (List.append_nil _)
  | some frame =>
    rw [pending] at slot
    by_cases whole : frame.data.length ≤ frame.offset
    · simp only [if_pos whole]
      cases advances : frame.advancesSequence with
      | false =>
        obtain ⟨data, parked⟩ := slot.staying advances
        exact .inl (by simp [parked, WireFrame.entry?])
      | true =>
        obtain ⟨sequence, body, parked, _, due⟩ := slot.advancing advances
        by_cases same : frame.topic = topic
        · subst same
          exact .inr ⟨sequence, body, by simp [parked, WireFrame.entry?], due⟩
        · exact .inl (by simp [parked, WireFrame.entry?, same])
    · simp only [if_neg whole, List.append_nil, true_or]

/-- The only record the writer can have cached is that of the only answer. -/
theorem Answered.only {d : Deployment} {s : State} (answered : Answered d s) {answer : Answer}
    (accepted : s.link.history.answers = [answer])
    (last : answer.record + 1 = s.link.records.length) {r : Nat} (cached : s.record = some r) :
    r = answer.record := by
  obtain ⟨lt, other, member, le⟩ := answered.record r cached
  rw [accepted, List.mem_singleton] at member
  subst member
  omega

theorem consumed_written {d : Deployment} {s : State} (delivering : Delivering d.config s)
    {record : Nat} (only : ∀ r, s.record = some r → r = record) {topic : Topic} {start : Nat}
    {entry : ConsumeMeta} (started : (record, topic, start) ∈ s.link.history.starts)
    (found : s.link.getMeta record topic = some entry) :
    ∃ reach, entry.nextSequence ≤ reach ∧ Consumed (s.logs topic) (s.Excused d.config topic)
      (s.link.written topic) start reach := by
  have consumed := delivering.consumed record topic start entry started found
  have mine : s.sentBy record topic = s.link.sent topic := by
    unfold State.sentBy
    split
    · rfl
    · rename_i other
      by_contra some_
      obtain ⟨r, _, cached, _⟩ := delivering.idle topic (fun none_ => some_ none_.symm)
      exact other (only r cached ▸ cached)
  rw [mine] at consumed
  rcases delivering.written topic with same | ⟨sequence, body, more, due⟩
  · rw [same]
    exact ⟨entry.nextSequence, Nat.le_refl _, consumed⟩
  · obtain ⟨r, held, cached, at_, _, le, between⟩ := due.entry
    obtain rfl := only r cached
    obtain rfl : entry = held := Option.some.inj (found.symm.trans at_)
    rw [more]
    exact ⟨sequence + 1, by omega, (consumed.skip le between).send due.body⟩

/-- A topic that the writer's record has no entry for has no frame. -/
theorem Delivering.unwritten {config : RepeaterConfig} {s : State} (delivering : Delivering config s)
    {topic : Topic} (absent : ∀ r, s.record = some r → s.link.getMeta r topic = none) :
    s.link.written topic = [] := by
  have unsent : s.link.sent topic = [] := by
    by_contra some_
    obtain ⟨r, entry, cached, found, _⟩ := delivering.idle topic some_
    cases (absent r cached).symm.trans found
  rcases delivering.written topic with same | ⟨sequence, body, _, due⟩
  · rw [same, unsent]
  · obtain ⟨r, entry, cached, found, _⟩ := due.entry
    cases (absent r cached).symm.trans found

/-- In every run with one accepted request, whichever the writer and the policy: the frames of a
subscribed topic follow its log in order from a start no later than the answer, what they leave out
is empty or skipped by an overrun or in send-latest mode, and no other topic has a frame. -/
theorem delivered_in_order (d : Deployment) {s : State} (run : Run (step d) Free (initial d) s)
    {answer : Answer} (accepted : s.link.history.answers = [answer])
    (last : answer.record + 1 = s.link.records.length) (topic : Topic) :
    (topic ∈ answer.topics → ∃ start entry, s.link.getMeta answer.record topic = some entry ∧
      start ≤ answer.nextSequence topic ∧
      InOrder d.config s topic start entry.nextSequence) ∧
    (topic ∉ answer.topics → s.link.written topic = []) := by
  have delivering := reachable_delivering run
  have answered := reachable_answered run
  have only := fun r => answered.only accepted last (r := r)
  have kept := answered.answers answer (by rw [accepted]; exact List.mem_singleton_self _)
  constructor
  · intro asked
    obtain ⟨start, started, le⟩ := kept.starts topic asked
    obtain ⟨entry, found, _⟩ := (delivering.started answer.record topic).mp ⟨start, started⟩
    obtain ⟨reach, reached, consumed⟩ := consumed_written delivering only started found
    exact ⟨start, entry, found, le, Consumed.inOrder consumed reached⟩
  · intro other
    refine delivering.unwritten fun r cached => ?_
    rw [only r cached]
    by_contra some_
    exact other ((kept.topics topic).mp (Option.isSome_iff_ne_none.mpr some_))

/-- One request for a topic, one message, and the whole frame sent in two parts. -/
theorem delivered_in_order_one_message : ∃ s answer,
    Run (step (sample false)) Free (initial (sample false)) s ∧
    s.link.history.answers = [answer] ∧ s.link.written (ascii "T") = [(0, ascii "m")] ∧
    ∃ start entry, s.link.getMeta answer.record (ascii "T") = some entry ∧
      start ≤ answer.nextSequence (ascii "T") ∧
      InOrder (sample false).config s (ascii "T") start entry.nextSequence := by
  obtain ⟨s, run, passed⟩ := Run.exists_of_replay (step (sample false)) Free (initial (sample false))
    ([Action.reader .run, .reader (.request (.subscribe [ascii "T"])), .reader (.order [ascii "T"])] ++
      List.replicate 6 (Action.reader .run) ++
      [Action.publisher 0 (.create (ascii "T") (ascii "m")), .publisher 0 .run] ++
      List.replicate 5 (Action.writer .interrupted) ++ [Action.writer (.accepted 19)] ++
      List.replicate 12 (Action.writer .interrupted) ++ [Action.writer (.accepted 4), .writer (.accepted 6)])
    (fun s => decide (s.link.history.answers.map Answer.record = [0] ∧
      s.link.history.answers.map Answer.topics = [[ascii "T"]] ∧ s.link.records.length = 1 ∧
      s.link.written (ascii "T") = [(0, ascii "m")]))
    (by decide +kernel)
  obtain ⟨records, topics, length, written⟩ := of_decide_eq_true passed
  obtain ⟨answer, accepted⟩ := List.length_eq_one_iff.mp
    (show s.link.history.answers.length = 1 by simpa using congrArg List.length records)
  rw [accepted] at records topics
  have record : answer.record = 0 := by simpa using records
  have asked : ascii "T" ∈ answer.topics := by
    have : answer.topics = [ascii "T"] := by simpa using topics
    rw [this]
    exact List.mem_singleton_self _
  exact ⟨s, answer, run, accepted, written,
    (delivered_in_order (sample false) run accepted (by rw [record, length]) (ascii "T")).1 asked⟩

end MessageRepeater.Subscriber
