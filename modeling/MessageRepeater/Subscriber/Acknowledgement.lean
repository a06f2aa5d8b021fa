import MessageRepeater.Connection.FrameStream
import MessageRepeater.Subscriber.Answers

/-!
# The acknowledgement comes before the data

The reading thread puts the `ok` response on the control queue before the record can be seen as
subscribed, the writer caches a record before it empties the queue, and it delivers only after that.
-/

namespace MessageRepeater.Subscriber
open Foundation Combiner Config Connection

def subscribeResponse (text : String) : Bytes := encodeSocketFrame messageOpSubscribe (ascii text)

/-- The response to an accepted subscribe request. -/
def okResponse : Bytes := subscribeResponse "ok"

/-- The texts of a response to a subscribe request. -/
def responseTexts : List String := ["ok", "fail subscribe", "topic is empty or not support"]

/-- The frames on the wire, the last one perhaps in part. -/
def Link.carried (link : Link) : List WireFrame := link.history.frames ++ link.history.parked.toList

/-- Every business frame comes after an `ok` response. -/
def AcknowledgedFirst (frames : List WireFrame) : Prop :=
  ∀ before topic sequence body after, frames = before ++ .business topic sequence body :: after →
    .control okResponse ∈ before

/-- What the reading thread may be about to put on the control queue. -/
def ReaderPc.Replies : ReaderPc → Prop
  | .enqueue topic message .refresh => topic = messageOpPong ∧ message = ascii "ok"
  | .enqueue topic message .again => topic = messageOpSubscribe ∧
      (message = ascii "fail subscribe" ∨ message = ascii "topic is empty or not support")
  | .enqueue topic message (.answered _ _) => topic = messageOpSubscribe ∧ message = ascii "ok"
  | _ => True

/-- The writer has found nothing left to flush and has not flushed since. -/
def WriterPc.Flushed : WriterPc → Prop
  | .normal (.subscribedTest) | .normal (.getTopics) | .normal (.getCircle _ _)
  | .normal (.deliver _ _ _) => True
  | .loop (.subscribedTest _) | .loop (.popWork _) | .loop (.getCircle _ _)
  | .loop (.deliver _ _ _) => True
  | _ => False

structure Acknowledged (s : State) : Prop where
  replies : s.reader.Replies
  counted : s.link.history.enqueued.count okResponse = s.link.history.answers.length
  flushed : s.writer.Flushed → s.record ≠ none → .control okResponse ∈ s.link.history.frames
  first : AcknowledgedFirst s.link.carried

/-! ### The frames on the wire -/

theorem AcknowledgedFirst.concat {frames : List WireFrame} {frame : WireFrame}
    (first : AcknowledgedFirst frames)
    (data : (∃ bytes, frame = .control bytes) ∨ .control okResponse ∈ frames) :
    AcknowledgedFirst (frames ++ [frame]) := by
  intro before topic sequence body after split
  rcases List.eq_nil_or_concat after with rfl | ⟨init, last, rfl⟩
  · obtain ⟨rfl, same⟩ := List.append_inj' split rfl
    rcases data with ⟨bytes, rfl⟩ | acknowledged
    · cases same
    · exact acknowledged
  · rw [List.concat_eq_append, ← List.cons_append, ← List.append_assoc] at split
    exact first before topic sequence body init (List.append_inj' split rfl).1

theorem Framed.carried_wire {link : Link} (framed : Framed link) :
    ∃ missing, link.history.wire ++ missing = (link.carried.map WireFrame.image).flatten := by
  rw [framed.wire, Link.carried, List.map_append, List.flatten_append, Link.sentPart]
  cases pending : link.output.pendingFrame with
  | none =>
    rw [framed.parked.none pending]
    exact ⟨[], by simp⟩
  | some frame =>
    obtain ⟨held, parked, image⟩ := framed.parked.some pending
    exact ⟨frame.data.drop frame.offset, by simp [parked, image]⟩

theorem Framed.carried_controls {link : Link} (framed : Framed link) :
    link.carried.filterMap WireFrame.control? ++ link.output.controlFrames = link.history.enqueued := by
  rw [← framed.controls, Link.carried, List.filterMap_append]
  congr 2
  cases link.history.parked with
  | none => rfl
  | some frame => cases frame <;> rfl

theorem Link.initializeTopic_carried (link : Link) (record : Nat) (topic : Topic) (sequence : Nat) :
    (link.initializeTopic record topic sequence).carried = link.carried := by
  unfold Link.initializeTopic Link.carried
  dsimp only
  split <;> rfl

/-- A call puts at most one frame more on the wire, never takes one back, and queues nothing. -/
structure Carries (link link' : Link) (frame : WireFrame) : Prop where
  carried : link'.carried = link.carried ∨ link'.carried = link.carried ++ [frame]
  frames : link.history.frames ⊆ link'.history.frames
  enqueued : link'.history.enqueued = link.history.enqueued
  answers : link'.history.answers = link.history.answers

theorem FlushMove.carries {link link' : Link} {record : Option Nat} {pc : FlushPc}
    {control : Control FlushPc (PendingWriteStatus × Topic)}
    (moved : FlushMove link record pc link' control) (framed : Framed link) :
    ∃ bytes, Carries link link' (.control bytes) := by
  cases moved with
  | @next data _ pending queue =>
    refine ⟨data, .inr ?_, List.Subset.refl _, rfl, rfl⟩
    simp [Link.carried, Link.takeControl, framed.parked.none pending]
  | business | control =>
    refine ⟨[], .inl ?_, List.subset_append_left _ _, rfl, rfl⟩
    simp [Link.carried, Link.reset]
  | _ => exact ⟨[], .inl rfl, List.Subset.refl _, rfl, rfl⟩

/-- The frame that `deliverTopic` parks for what it has read. -/
inductive Parks (config : RepeaterConfig) (store : MessageCircleComposite) (topic : Topic)
    (entry : ConsumeMeta) : WireFrame → Prop where
  | message {ring result body} (made : store.getCircle topic = some ring)
      (read : ring.read entry.nextSequence config.subscriberAlwaysSendLatest
        config.subscriberOverrunPolicy = result)
      (found : result.message = some body) (nonempty : body ≠ []) :
      Parks config store topic entry (.business topic result.messageSequence body)

theorem DeliverMove.carries {config : RepeaterConfig} {store : MessageCircleComposite}
    {link link' : Link} {record : Nat} {topic : Topic} {pc : DeliverPc}
    {control : Control DeliverPc TopicDeliveryStatus}
    (moved : DeliverMove config store link record topic pc link' control) (framed : Framed link)
    (slot : SlotAt link (.deliver topic pc)) : (∃ bytes, Carries link link' (.control bytes)) ∨
      ∃ entry frame, pc = .read entry ∧ Parks config store topic entry frame ∧
        Carries link link' frame := by
  cases moved with
  | initializeTopic =>
    refine .inl ⟨[], .inl (link.initializeTopic_carried _ _ _), ?_, ?_, ?_⟩
    all_goals rw [link.initializeTopic_history record topic]
    exact List.Subset.refl _
  | @park entry ring result body made read status message nonempty =>
    refine .inr ⟨entry, _, rfl, .message made read message nonempty, .inr ?_, List.Subset.refl _, rfl,
      rfl⟩
    simp [Link.carried, Link.park, Link.noteRead, framed.parked.none slot]
  | flush moved => exact .inl (moved.carries framed)
  | _ => exact .inl ⟨[], .inl rfl, List.Subset.refl _, rfl, rfl⟩

/-! ### The steps of the writer -/

theorem Call.deliver_flushed {pc : WriterPc} {topic : Topic} {inner : DeliverPc}
    (at_ : pc.call = .deliver topic inner) : pc.Flushed := by
  rcases pc with pc | pc <;> cases pc <;> trivial

/-- How a writer comes past `flushPendingFrame`: nothing was pending and nothing queued. -/
structure Drained (s s' : State) : Prop where
  pending : s.link.output.pendingFrame = none
  queue : s.link.output.controlFrames = []
  link : s'.link = s.link
  record : s'.record = s.record

theorem FlushMove.drained {link link' : Link} {record : Option Nat} {pc : FlushPc} {completed : Topic}
    (moved : FlushMove link record pc link' (.ret (.idle, completed))) :
    link.output.pendingFrame = none ∧ link.output.controlFrames = [] ∧ link' = link := by
  cases moved with
  | idle pending queue => exact ⟨pending, queue, rfl⟩

theorem nextFrame_flushed (s : State) (frames : Nat) : ¬ (s.nextFrame frames).writer.Flushed := by
  unfold State.nextFrame
  split <;> exact id

theorem requeue_flushed (s : State) (frames : Nat) (topic : Topic) :
    ¬ (s.requeue frames topic).writer.Flushed := by
  unfold State.requeue
  split
  · exact nextFrame_flushed s frames
  · exact id

theorem normalStep_flushed {d : Deployment} {s s' : State} {outcome : CallOutcome} {pc : NormalPc}
    (at_ : s.writer = .normal pc) (taken : normalStep d s outcome pc = some s')
    (flushed : s'.writer.Flushed) : (s.writer.Flushed ∧ s'.record = s.record) ∨ Drained s s' := by
  rw [at_]
  cases pc <;> simp only [normalStep] at taken
  case flush pc =>
    split at taken
    · cases taken
    · rename_i link control moved
      cases taken
      rcases control with inner | ⟨status, completed⟩
      · exact flushed.elim
      · cases status <;> try exact flushed.elim
        obtain ⟨pending, queue, same⟩ := (flushStep_move moved).drained
        exact .inr ⟨pending, queue, same, rfl⟩
  case deliver topic todo pc =>
    split at taken
    · cases taken
    · split at taken <;> cases taken
      exact .inl ⟨trivial, rfl⟩
  case getTopics | getCircle =>
    split at taken <;> cases taken <;> exact .inl ⟨trivial, rfl⟩
  case subscribedTest =>
    cases taken
    exact .inl ⟨trivial, rfl⟩
  case existsTest =>
    split at taken <;> cases taken
    split at flushed <;> exact flushed.elim
  case exitKill =>
    split at taken <;> cases taken
    exact flushed.elim
  case top | cacheTest =>
    cases taken
    split at flushed <;> exact flushed.elim
  all_goals
    cases taken <;> exact flushed.elim

theorem loopStep_flushed {d : Deployment} {s s' : State} {outcome : CallOutcome} {pc : LoopPc}
    (at_ : s.writer = .loop pc) (taken : loopStep d s outcome pc = some s')
    (flushed : s'.writer.Flushed) : (s.writer.Flushed ∧ s'.record = s.record) ∨ Drained s s' := by
  rw [at_]
  cases pc <;> simp only [loopStep] at taken
  case flush frames pc =>
    split at taken
    · cases taken
    · rename_i link control moved
      cases taken
      rcases control with inner | ⟨status, completed⟩
      · exact flushed.elim
      · cases status
        case idle =>
          obtain ⟨pending, queue, same⟩ := (flushStep_move moved).drained
          exact .inr ⟨pending, queue, same, rfl⟩
        case complete => exact (requeue_flushed _ _ _ flushed).elim
        case wouldBlock | error => exact flushed.elim
  case deliver frames topic pc =>
    split at taken
    · cases taken
    · split at taken
      · cases taken
      · rename_i link control _
        cases taken
        rw [(afterDeliver_loop { s with link } frames topic control).1]
        exact .inl ⟨trivial, rfl⟩
  case getCircle frames topic =>
    split at taken <;> cases taken
    · exact (nextFrame_flushed _ _ flushed).elim
    · exact .inl ⟨trivial, rfl⟩
  case popWork =>
    split at taken <;> cases taken <;> exact .inl ⟨trivial, rfl⟩
  case subscribedTest =>
    cases taken
    split
    · exact .inl ⟨trivial, rfl⟩
    · split <;> exact .inl ⟨trivial, rfl⟩
  case cacheGet | requeueSubmit =>
    cases taken
    exact (nextFrame_flushed _ _ flushed).elim
  case cacheTest | requeueNext =>
    cases taken
    split at flushed <;> first | exact flushed.elim | exact (nextFrame_flushed _ _ flushed).elim
  case requeueCircle =>
    split at taken <;> cases taken
    · exact (nextFrame_flushed _ _ flushed).elim
    · exact flushed.elim
  case requeueMeta =>
    split at taken <;> cases taken
    · exact (nextFrame_flushed _ _ flushed).elim
    · split at flushed
      · exact flushed.elim
      · exact (nextFrame_flushed _ _ flushed).elim
  case aliveTest | entry | hasControl | hasWorks =>
    cases taken
    split at flushed <;> exact flushed.elim
  case waiting | drain | enableWrite =>
    split at taken <;> cases taken <;> exact flushed.elim
  all_goals
    cases taken <;> exact flushed.elim

/-- Past `flushPendingFrame` the writer came by a step of its own, with its record unchanged. -/
theorem step_flushed {d : Deployment} {s s' : State} {action : Action}
    (taken : step d s action = some s') (flushed : s'.writer.Flushed) :
    (s.writer.Flushed ∧ s'.record = s.record) ∨ Drained s s' := by
  cases action with
  | writer outcome =>
    simp only [step, writerStep] at taken
    split at taken
    · exact normalStep_flushed ‹_› taken flushed
    · exact loopStep_flushed ‹_› taken flushed
  | writable =>
    obtain ⟨_, _, rfl⟩ := writableStep_same taken
    exact flushed.elim
  | _ =>
    obtain ⟨writer, record⟩ := step_writer (by simp) (by simp) taken
    exact .inl ⟨writer ▸ flushed, record⟩

/-! ### The steps of the reading thread -/

theorem quiet_replies {pc : ReaderPc} (quiet : pc.quiet = true) : pc.Replies := by
  cases pc <;> trivial

theorem readerStep_replies {d : Deployment} {s s' : State} {input : ReaderInput}
    (taken : readerStep d s input = some s') : s'.reader.Replies := by
  have goes := readerStep_goes taken
  generalize s'.reader = pc at goes
  cases goes with
  | quiet quiet => exact quiet_replies quiet
  | pong => exact ⟨rfl, rfl⟩
  | refuse known =>
    rcases known with rfl | rfl
    · exact ⟨rfl, .inl rfl⟩
    · exact ⟨rfl, .inr rfl⟩
  | answer => exact ⟨rfl, rfl⟩
  | create | getRecord | getCircle | unmade | circleMeta | setting | next => trivial

/-- An `ok` response is put on the queue exactly with an answer. -/
theorem ReaderPc.Replies.counted {s : State} {topic message : Bytes} {after : AfterEnqueue}
    (replies : ReaderPc.Replies (.enqueue topic message after)) :
    [encodeSocketFrame topic message].count okResponse = (s.answer after).length := by
  cases after with
  | refresh =>
    obtain ⟨rfl, rfl⟩ := replies
    show [_].count okResponse = 0
    decide
  | again =>
    show [_].count okResponse = 0
    obtain ⟨rfl, rfl | rfl⟩ := replies <;> decide
  | answered record topics =>
    obtain ⟨rfl, rfl⟩ := replies
    exact List.count_singleton_self

theorem ReaderMove.counted {s s' : State} (moved : ReaderMove s s') (replies : s.reader.Replies)
    (counted : s.link.history.enqueued.count okResponse = s.link.history.answers.length) :
    s'.link.history.enqueued.count okResponse = s'.link.history.answers.length := by
  cases moved with
  | same link_eq =>
    rw [link_eq]
    exact counted
  | @enqueue topic message after link at_ pushed link_eq =>
    rw [at_] at replies
    have pair := replies.counted (s := s)
    rw [link_eq]
    cases Link.enqueueControlFrame_some pushed
    simp only [Link.noteAnswers, List.count_append, List.length_append, counted, pair]
  | create at_ link_eq =>
    rw [link_eq]
    exact counted
  | @initializeTopic record _ topic sequence _ at_ link_eq =>
    rw [link_eq, s.link.initializeTopic_history]
    exact counted

/-! ### Every run -/

theorem WriterMove.carries {d : Deployment} {s s' : State} (moved : WriterMove d s s') (sound : Sound s) :
    (∃ bytes, Carries s.link s'.link (.control bytes)) ∨
      ∃ topic entry frame, s.writer.call = .deliver topic (.read entry) ∧ s.record ≠ none ∧
        Parks d.config s.store topic entry frame ∧ Carries s.link s'.link frame := by
  have still : s'.link = s.link → Carries s.link s'.link (.control []) := by
    intro same
    rw [same]
    exact ⟨.inl rfl, List.Subset.refl _, rfl, rfl⟩
  have slot := sound.slot
  cases moved with
  | flush at_ move link_eq => exact .inl (link_eq ▸ move.carries sound.framed)
  | deliver at_ cached move link_eq =>
    rw [at_] at slot
    rcases move.carries sound.framed slot with ⟨bytes, carries⟩ | ⟨entry, frame, rfl, parks, carries⟩
    · exact .inl ⟨bytes, link_eq ▸ carries⟩
    · exact .inr ⟨_, entry, frame, at_, by rw [cached]; nofun, parks, link_eq ▸ carries⟩
  | test _ link_eq | cache _ link_eq | other _ link_eq | close _ link_eq => exact .inl ⟨_, still link_eq⟩

theorem step_carries {d : Deployment} {s s' : State} {action : Action} (sound : Sound s)
    (taken : step d s action = some s') :
    s.link.history.frames ⊆ s'.link.history.frames ∧
      (s'.link.carried = s.link.carried ∨
        (∃ bytes, s'.link.carried = s.link.carried ++ [.control bytes]) ∨
        ∃ topic entry frame, s.writer.call = .deliver topic (.read entry) ∧ s.record ≠ none ∧
          Parks d.config s.store topic entry frame ∧ s'.link.carried = s.link.carried ++ [frame]) := by
  rcases step_output taken with moved | ⟨moved, _⟩ | frame
  · rcases moved.carries sound with ⟨bytes, carries⟩ |
      ⟨topic, entry, frame, at_, cached, parks, carries⟩
    · exact ⟨carries.frames, carries.carried.imp_right fun more => .inl ⟨bytes, more⟩⟩
    · exact ⟨carries.frames,
        carries.carried.imp_right fun more => .inr ⟨topic, entry, frame, at_, cached, parks, more⟩⟩
  · have same : s'.link.carried = s.link.carried ∧ s'.link.history.frames = s.link.history.frames := by
      cases moved with
      | same link_eq => rw [link_eq]; exact ⟨rfl, rfl⟩
      | enqueue _ pushed link_eq =>
        rw [link_eq]
        cases Link.enqueueControlFrame_some pushed
        exact ⟨rfl, rfl⟩
      | create _ link_eq => rw [link_eq]; exact ⟨rfl, rfl⟩
      | initializeTopic _ link_eq =>
        rw [link_eq, s.link.initializeTopic_carried, s.link.initializeTopic_history]
        exact ⟨rfl, rfl⟩
    exact ⟨same.2 ▸ List.Subset.refl _, .inl same.1⟩
  · rw [frame.link]
    exact ⟨List.Subset.refl _, .inl rfl⟩

/-- A cached record stands for an answer whose `ok` response has been queued. -/
theorem Acknowledged.queued {d : Deployment} {s : State} (acknowledged : Acknowledged s)
    (answered : Answered d s) (cached : s.record ≠ none) :
    okResponse ∈ s.link.history.enqueued := by
  obtain ⟨r, held⟩ := Option.ne_none_iff_exists'.mp cached
  obtain ⟨_, answer, member, _⟩ := answered.record r held
  apply List.count_pos_iff.mp
  rw [acknowledged.counted]
  exact List.length_pos_of_mem member

theorem step_acknowledged {d : Deployment} {s s' : State} {action : Action} (sound : Sound s)
    (answered : Answered d s) (acknowledged : Acknowledged s) (taken : step d s action = some s') :
    Acknowledged s' := by
  have replies : s'.reader.Replies := by
    by_cases reads : ∃ input, action = .reader input
    · obtain ⟨input, rfl⟩ := reads
      exact readerStep_replies taken
    · rw [step_reader (fun input same => reads ⟨input, same⟩) taken]
      exact acknowledged.replies
  have counted : s'.link.history.enqueued.count okResponse = s'.link.history.answers.length := by
    rcases step_output taken with moved | ⟨moved, _⟩ | frame
    · rcases moved.carries sound with ⟨_, carries⟩ | ⟨_, _, _, _, _, _, carries⟩
      all_goals
        rw [carries.enqueued, carries.answers]
        exact acknowledged.counted
    · exact moved.counted acknowledged.replies acknowledged.counted
    · rw [frame.link]
      exact acknowledged.counted
  obtain ⟨grown, carried⟩ := step_carries sound taken
  refine ⟨replies, counted, fun flushed cached => ?_, ?_⟩
  · rcases step_flushed taken flushed with ⟨before, record_eq⟩ | drained
    · exact grown (acknowledged.flushed before (record_eq ▸ cached))
    · have queued := acknowledged.queued answered (drained.record ▸ cached)
      rw [← sound.framed.carried_controls, drained.queue, List.append_nil] at queued
      obtain ⟨frame, sent, control⟩ := List.mem_filterMap.mp queued
      obtain rfl : frame = .control okResponse := by
        cases frame <;> simp_all [WireFrame.control?]
      rw [Link.carried, sound.framed.parked.none drained.pending] at sent
      exact grown (by simpa using sent)
  · rcases carried with same | ⟨bytes, more⟩ | ⟨topic, entry, frame, at_, cached, parks, more⟩
    · exact same ▸ acknowledged.first
    · exact more ▸ acknowledged.first.concat (.inl ⟨bytes, rfl⟩)
    · have sent := acknowledged.flushed (Call.deliver_flushed at_) cached
      exact more ▸ acknowledged.first.concat (.inr (List.mem_append_left _ sent))

theorem initial_acknowledged (d : Deployment) : Acknowledged (initial d) := by
  refine ⟨trivial, rfl, fun _ cached => (cached rfl).elim, ?_⟩
  intro before topic sequence body after split
  have empty := congrArg List.length split
  simp [Link.carried, initial] at empty

theorem reachable_acknowledged {d : Deployment} {s : State} (run : Run (step d) Free (initial d) s) :
    Acknowledged s :=
  run.keeps_under (fun _ before => And.intro (reachable_sound before) (reachable_answered before))
    (initial_acknowledged d)
    fun _ _ _ known acknowledged _ taken => step_acknowledged known.1 known.2 acknowledged taken

/-! ### The control frames -/

/-- What a control frame says. -/
def ControlReply (topic message : Bytes) : Prop :=
  (topic = messageOpPong ∧ message = ascii "ok") ∨
    (topic = messageOpSubscribe ∧ ∃ text ∈ responseTexts, message = ascii text)

theorem ReaderPc.Replies.reply {topic message : Bytes} {after : AfterEnqueue}
    (replies : ReaderPc.Replies (.enqueue topic message after)) : ControlReply topic message := by
  cases after with
  | refresh => exact .inl replies
  | again =>
    obtain ⟨rfl, rfl | rfl⟩ := replies
    · exact .inr ⟨rfl, "fail subscribe", by simp [responseTexts], rfl⟩
    · exact .inr ⟨rfl, "topic is empty or not support", by simp [responseTexts], rfl⟩
  | answered record topics =>
    obtain ⟨rfl, rfl⟩ := replies
    exact .inr ⟨rfl, "ok", by simp [responseTexts], rfl⟩

/-- Every control frame that has been queued is one of the four replies. -/
def Replied (s : State) : Prop :=
  ∀ frame ∈ s.link.history.enqueued, ∃ topic message, ControlReply topic message ∧
    frame = encodeSocketFrame topic message

/-! ### A client that subscribes first -/

/-- Until something has been queued for it, the client asks for nothing but subscriptions. -/
def SubscribesFirst (s : State) (action : Action) : Prop :=
  ∀ request, action = .reader (.request request) → s.link.history.enqueued = [] →
    ∃ topics, request = .subscribe topics

/-- The first control frame answers a subscribe request. -/
structure Opened (s : State) : Prop where
  reader : s.link.history.enqueued = [] → ∀ topic message, s.reader ≠ .enqueue topic message .refresh
  first : ∀ frame, s.link.history.enqueued.head? = some frame →
    ∃ text ∈ responseTexts, frame = subscribeResponse text

theorem readerStep_refresh {d : Deployment} {s s' : State} {input : ReaderInput}
    (taken : readerStep d s input = some s') {topic message : Bytes}
    (at_ : s'.reader = .enqueue topic message .refresh) : input = .request .ping := by
  have goes := readerStep_goes taken
  rw [at_] at goes
  cases goes with
  | quiet quiet => cases quiet
  | pong asked => exact asked

theorem step_enqueued {d : Deployment} {s s' : State} {action : Action} (sound : Sound s)
    (taken : step d s action = some s') :
    s'.link.history.enqueued = s.link.history.enqueued ∨
      ∃ topic message after, s.reader = .enqueue topic message after ∧
        s'.link.history.enqueued = s.link.history.enqueued ++ [encodeSocketFrame topic message] := by
  rcases step_output taken with moved | ⟨moved, _⟩ | frame
  · rcases moved.carries sound with ⟨_, carries⟩ | ⟨_, _, _, _, _, _, carries⟩
    all_goals exact .inl carries.enqueued
  · cases moved with
    | same link_eq => exact .inl (by rw [link_eq])
    | @enqueue topic message after link at_ pushed link_eq =>
      refine .inr ⟨topic, message, after, at_, ?_⟩
      rw [link_eq]
      cases Link.enqueueControlFrame_some pushed
      rfl
    | create _ link_eq => exact .inl (by rw [link_eq]; rfl)
    | initializeTopic _ link_eq => exact .inl (by rw [link_eq, s.link.initializeTopic_history])
  · exact .inl (by rw [frame.link])

theorem step_replied {d : Deployment} {s s' : State} {action : Action} (sound : Sound s)
    (replies : s.reader.Replies) (replied : Replied s) (taken : step d s action = some s') :
    Replied s' := by
  intro frame member
  rcases step_enqueued sound taken with same | ⟨topic, message, after, at_, more⟩
  · exact replied frame (same ▸ member)
  · rw [more] at member
    rcases List.mem_append.mp member with old | new
    · exact replied frame old
    · rw [at_] at replies
      exact ⟨topic, message, replies.reply, List.mem_singleton.mp new⟩

theorem reachable_replied {d : Deployment} {s : State} (run : Run (step d) Free (initial d) s) :
    Replied s :=
  run.keeps_under
    (fun _ before => And.intro (reachable_sound before) (reachable_acknowledged before).replies)
    (fun _ member => absurd member List.not_mem_nil)
    fun _ _ _ known replied _ taken => step_replied known.1 known.2 replied taken

theorem Framed.control_queued {link : Link} (framed : Framed link) {bytes : Bytes}
    (sent : .control bytes ∈ link.carried) : bytes ∈ link.history.enqueued := by
  rw [← framed.carried_controls]
  exact List.mem_append_left _ (List.mem_filterMap.mpr ⟨_, sent, rfl⟩)

theorem step_opened {d : Deployment} {s s' : State} {action : Action} (sound : Sound s)
    (replies : s.reader.Replies) (opened : Opened s) (guard : SubscribesFirst s action)
    (taken : step d s action = some s') : Opened s' := by
  have queued := step_enqueued sound taken
  constructor
  · intro nothing topic message at_
    have before : s.link.history.enqueued = [] := by
      rcases queued with same | ⟨_, _, _, _, more⟩
      · exact same ▸ nothing
      · simp [more] at nothing
    by_cases reads : ∃ input, action = .reader input
    · obtain ⟨input, rfl⟩ := reads
      obtain rfl := readerStep_refresh taken at_
      obtain ⟨topics, subscribe⟩ := guard _ rfl before
      cases subscribe
    · refine opened.reader before topic message ?_
      rw [← at_, step_reader (fun input same => reads ⟨input, same⟩) taken]
  · intro frame head
    rcases queued with same | ⟨topic, message, after, at_, more⟩
    · exact opened.first frame (same ▸ head)
    · rw [more] at head
      cases held : s.link.history.enqueued with
      | cons first rest =>
        rw [held] at head
        exact opened.first frame (by rw [held]; exact head)
      | nil =>
        rw [held, List.nil_append, List.head?_cons, Option.some.injEq] at head
        rw [at_] at replies
        subst head
        rcases replies.reply with ⟨rfl, rfl⟩ | ⟨rfl, text, member, rfl⟩
        · cases after with
          | refresh => exact (opened.reader held _ _ at_).elim
          | again => exact absurd replies.1 (by decide)
          | answered => exact absurd replies.1 (by decide)
        · exact ⟨text, member, rfl⟩

theorem reachable_opened {d : Deployment} {s : State} (run : Run (step d) SubscribesFirst (initial d) s) :
    Opened s :=
  run.keeps_under
    (fun _ before => And.intro (reachable_sound (before.weaken fun _ _ _ => trivial))
      (reachable_acknowledged (before.weaken fun _ _ _ => trivial)).replies)
    ⟨fun _ _ _ => nofun, nofun⟩
    fun _ _ _ known opened guard taken => step_opened known.1 known.2 opened guard taken

/-- Whatever way the wire reaches the client, the first frame it reads answers its subscribe request. -/
theorem first_frame_read {s : State} (sound : Sound s) (first : AcknowledgedFirst s.link.carried)
    (opened : Opened s) {events left : List RecvEvent} {maxTopicSize maxMessageSize : Nat}
    {topic message : Bytes} (arrived : stream events <+: s.link.history.wire)
    (read : readSocketFrameBlocking events maxTopicSize maxMessageSize =
      ({ status := .complete, topic, message }, left)) :
    topic = messageOpSubscribe ∧ ∃ text ∈ responseTexts, message = ascii text := by
  obtain ⟨consumes, _, _, topic_lt, message_lt⟩ := readSocketFrameBlocking_complete read
  obtain ⟨missing, wire⟩ := sound.framed.carried_wire
  obtain ⟨later, arrived⟩ := arrived
  rw [← arrived, consumes.stream, List.append_assoc, List.append_assoc] at wire
  have controls := sound.framed.carried_controls
  cases carried : s.link.carried with
  | nil =>
    have none_ := congrArg List.length wire
    simp [carried, encodeSocketFrame_length] at none_
  | cons frame rest =>
    rw [carried] at wire controls
    cases frame with
    | business topic sequence body =>
      exact absurd (first [] topic sequence body rest carried) List.not_mem_nil
    | control data =>
      obtain ⟨text, member, rfl⟩ := opened.first data (by rw [← controls]; rfl)
      have short : (ascii text).length < 2 ^ 32 := by
        simp only [responseTexts, List.mem_cons, List.not_mem_nil, or_false] at member
        rcases member with rfl | rfl | rfl <;> decide
      have named : messageOpSubscribe.length < 2 ^ 32 := by decide
      obtain ⟨topics, messages, _⟩ :=
        encodeSocketFrame_append_inj topic_lt message_lt named short wire
      exact ⟨topics, text, member, messages⟩

/-- In every run of either writer: each `ok` on the control queue stands for an accepted request, no
business frame goes out before the first of them is completely written, and a client that subscribes
first reads the response as its first frame. -/
theorem acknowledged_before_data (d : Deployment) {s : State} (run : Run (step d) Free (initial d) s) :
    s.link.history.enqueued.count okResponse = s.link.history.answers.length ∧
    s.link.carried.filterMap WireFrame.control? <+: s.link.history.enqueued ∧
    s.link.history.wire = (s.link.history.frames.map WireFrame.image).flatten ++ s.link.sentPart ∧
    (∀ before topic sequence body after,
      s.link.carried = before ++ .business topic sequence body :: after →
      .control okResponse ∈ before ∧ before <+: s.link.history.frames) ∧
    (Run (step d) SubscribesFirst (initial d) s →
      ∀ events left maxTopicSize maxMessageSize topic message, stream events <+: s.link.history.wire →
      readSocketFrameBlocking events maxTopicSize maxMessageSize =
        ({ status := .complete, topic, message }, left) →
      topic = messageOpSubscribe ∧ ∃ text ∈ responseTexts, message = ascii text) := by
  have sound := reachable_sound run
  have acknowledged := reachable_acknowledged run
  refine ⟨acknowledged.counted, ⟨_, sound.framed.carried_controls⟩, sound.framed.wire, ?_, ?_⟩
  · intro before topic sequence body after split
    refine ⟨acknowledged.first before topic sequence body after split, ?_⟩
    have lengths := congrArg List.length split
    have parked : s.link.history.parked.toList.length ≤ 1 := Option.length_toList_le
    simp only [Link.carried, List.length_append, List.length_cons] at lengths
    exact List.prefix_of_prefix_length_le (split ▸ List.prefix_append before _)
      (List.prefix_append s.link.history.frames _) (by omega)
  · intro subscribes events left _ _ topic message arrived read
    exact first_frame_read sound acknowledged.first (reachable_opened subscribes) arrived read

/-- The run of one request, one message and one send: the client reads the answer and then the message. -/
theorem acknowledged_before_data_one_message : ∃ s,
    Run (step (sample false)) Free (initial (sample false)) s ∧
    s.link.carried = [.control okResponse, .business (ascii "T") 0 (ascii "m")] ∧
    s.link.history.enqueued.count okResponse = s.link.history.answers.length := by
  obtain ⟨s, run, passed⟩ := Run.exists_of_replay (step (sample false)) Free (initial (sample false))
    ([Action.reader .run, .reader (.request (.subscribe [ascii "T"])), .reader (.order [ascii "T"])] ++
      List.replicate 6 (Action.reader .run) ++
      [Action.publisher 0 (.create (ascii "T") (ascii "m")), .publisher 0 .run] ++
      List.replicate 5 (Action.writer .interrupted) ++ [Action.writer (.accepted 19)] ++
      List.replicate 12 (Action.writer .interrupted) ++ [Action.writer (.accepted 4)])
    (fun s => decide (s.link.carried = [.control okResponse, .business (ascii "T") 0 (ascii "m")]))
    (by decide +kernel)
  exact ⟨s, run, of_decide_eq_true passed, (acknowledged_before_data (sample false) run).1⟩

end MessageRepeater.Subscriber
