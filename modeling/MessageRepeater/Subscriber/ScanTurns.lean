import MessageRepeater.Foundation.ScanRounds
import MessageRepeater.Subscriber.Answers
import MessageRepeater.Subscriber.Bypass

/-!
# The turns of the topics in normal mode

The normal writing thread goes through the topics of its record in the order of the map and leaves the
scan when the socket is full; the next scan starts from the first topic. This is a server of
`Foundation.ScanRounds`: the frame that the full socket has held up is its late item, and an empty
message uses up a turn.
-/

namespace MessageRepeater.Subscriber
open Foundation Combiner Config Connection

/-! ### The scan -/

def NormalPc.phase (pending : Option Topic) : NormalPc → ScanPhase Topic
  | .getCircle topic todo => .scanning (topic :: todo)
  | .deliver topic todo (.flush _) => .sending topic todo
  | .deliver _ todo (.updateEmpty _) => if todo = [] then .outside else .scanning todo
  | .deliver topic todo _ => .scanning (topic :: todo)
  | .dropSubscribed | .dropAlive | .exitShutdown | .exitKill | .exitAlive | .done => .closed
  | _ => match pending with
    | some topic => .late topic
    | none => .outside

def State.phase (s : State) : ScanPhase Topic :=
  match s.writer with
  | .normal pc => pc.phase s.link.pendingTopic
  | .loop _ => .closed

/-- The topics of a record in the order of its map. -/
def Link.topicsOf (link : Link) (record : Nat) : Option (List Topic) :=
  (link.records[record]?).map ConsumeRecord.topics

/-- The order of the scans, once the writer has its record. -/
def State.order (s : State) : Option (List Topic) := s.record.bind s.link.topicsOf

/-- A read of an empty message of the topic, which takes the turn without a frame. -/
def ReadEvent.Empty (topic : Topic) (event : ReadEvent) : Prop :=
  event.topic = topic ∧ event.result.status = .message ∧ event.result.message = some []

instance (topic : Topic) (event : ReadEvent) : Decidable (event.Empty topic) :=
  inferInstanceAs (Decidable (_ ∧ _ ∧ _))

/-- The empty messages of the topic that the writer has taken. -/
def Link.emptied (link : Link) (topic : Topic) : Nat :=
  link.history.reads.countP fun event => event.Empty topic

def State.scan (s : State) : ScanState Topic where
  phase := s.phase
  order := s.order
  sent := s.completed
  skipped := s.link.emptied

/-- A message at or behind the cursor of the writer's record is not empty. -/
def State.unread (s : State) (topic : Topic) : Bool :=
  match s.record.bind fun record => s.link.getMeta record topic with
  | some entry => entry.initialized && ((s.logs topic).drop entry.nextSequence).any (· ≠ [])
  | none => false

/-- The topic whose cursor the writer is about to set. -/
def NormalPc.setting : NormalPc → Option Topic
  | .deliver topic _ .circleMeta | .deliver topic _ (.initializeTopic _) => some topic
  | _ => none

def State.setting (s : State) : Option Topic :=
  match s.writer with
  | .normal pc => pc.setting
  | .loop _ => none

/-- What the writer's program counter says about the pending slot. -/
def NormalPc.Slot (link : Link) : NormalPc → Prop
  | .deliver topic _ (.flush _) => link.pendingTopic = some topic
  | .subscribedTest | .getTopics | .getCircle _ _ | .deliver _ _ _ => link.output.pendingFrame = none
  | _ => True

/-- The send of a topic's frame finds the socket full while other topics still have their turn. -/
def State.Blocks (s : State) (action : Action) : Prop :=
  action = .writer .wouldBlock ∧
    ∃ topic todo, s.writer = .normal (.deliver topic todo (.flush .send))

/-! ### What the operations leave alone -/

theorem modify_topicsOf (link : Link) (record : Nat) (change : ConsumeRecord → ConsumeRecord)
    (same : ∀ r, (change r).topics = r.topics) :
    ({ link with records := link.records.modify record change } : Link).topicsOf = link.topicsOf := by
  funext r
  unfold Link.topicsOf
  rw [List.getElem?_modify]
  cases link.records[r]? with
  | none => rfl
  | some held =>
    by_cases here : record = r <;> simp [here, same]

theorem updateSequence_topicsOf (link : Link) (record : Nat) (topic : Topic) (sequence : Nat) :
    (link.updateSequence record topic sequence).topicsOf = link.topicsOf :=
  modify_topicsOf link record _ fun r => r.updateSequence_topics topic sequence

theorem initializeTopic_topicsOf (link : Link) (record : Nat) (topic : Topic) (sequence : Nat) :
    (link.initializeTopic record topic sequence).topicsOf = link.topicsOf :=
  modify_topicsOf link record _ fun r => r.initializeTopic_topics topic sequence

/-- A step that completes no frame and takes no empty message. -/
theorem goNormal_scan {s : State} {link : Link} (pc : NormalPc) (topics : link.topicsOf = s.link.topicsOf)
    (sent : link.sent = s.link.sent) (emptied : link.emptied = s.link.emptied) :
    ({ s with link }.goNormal pc).scan = { s.scan with phase := pc.phase link.pendingTopic } := by
  show ScanState.mk _ (s.record.bind link.topicsOf) (fun topic => (link.sent topic).length) link.emptied = _
  rw [topics, sent, emptied]
  rfl

/-- A step that completes the pending frame of a topic. -/
theorem goNormal_completes {s : State} {link : Link} {topic : Topic} (pc : NormalPc)
    (topics : link.topicsOf = s.link.topicsOf)
    (frames : link.history.frames = s.link.history.frames ++ s.link.history.parked.toList)
    (emptied : link.emptied = s.link.emptied) (pending : s.link.pendingTopic = some topic) :
    ({ s with link }.goNormal pc).scan =
      { s.scan with phase := pc.phase link.pendingTopic, sent := ScanState.bump s.scan.sent topic } := by
  have sent : ({ s with link }.goNormal pc).completed = ScanState.bump s.scan.sent topic := by
    funext t
    rw [completed_append (s := s) frames, ← Link.pendingTopic, pending]
    simp only [Option.some.injEq]
    rfl
  show ScanState.mk _ (s.record.bind link.topicsOf) ({ s with link }.goNormal pc).completed link.emptied = _
  rw [topics, sent, emptied]
  rfl

/-- A step that takes an empty message of a topic. -/
theorem goNormal_empties {s : State} {topic : Topic} {event : ReadEvent} (pc : NormalPc)
    (empty : event.Empty topic) :
    ({ s with link := s.link.noteRead event }.goNormal pc).scan =
      { s.scan with
        phase := pc.phase s.link.pendingTopic
        skipped := ScanState.bump s.scan.skipped topic } := by
  have emptied : (s.link.noteRead event).emptied = ScanState.bump s.link.emptied topic := by
    funext t
    unfold Link.emptied Link.noteRead ScanState.bump
    rw [List.countP_append, List.countP_singleton]
    by_cases same : topic = t
    · subst same
      simp [empty]
    · have other : ¬ event.Empty t := fun both => same (empty.1.symm.trans both.1)
      simp [same, other]
  show ScanState.mk _ (s.record.bind s.link.topicsOf) s.completed (s.link.noteRead event).emptied = _
  rw [emptied]
  rfl

theorem noteRead_emptied {link : Link} {event : ReadEvent}
    (other : event.result.status ≠ .message ∨ event.result.message ≠ some []) :
    (link.noteRead event).emptied = link.emptied := by
  funext t
  have not_ : ¬ event.Empty t := fun both => other.elim (· both.2.1) (· both.2.2)
  unfold Link.emptied Link.noteRead
  rw [List.countP_append, List.countP_singleton]
  simp [not_]

/-! ### One step of the writer -/

/-- How a step of the writer appears in the scan. -/
structure ScanStep (s s' : State) (action : Action) : Prop where
  slot : ∃ pc, s'.writer = .normal pc ∧ pc.Slot s'.link
  setting : ∀ topic, s'.setting = some topic → s.setting = some topic ∨ s.unread topic = false
  move : s'.scan = s.scan ∨ ∃ move, s.scan.step move = some s'.scan ∧
    (move = .block → s.Blocks action) ∧
    (move = .pass → ∀ topic todo, s.phase = .scanning (topic :: todo) →
      s.unread topic = true → s.setting = some topic)

theorem scan_phase (todo : List Topic) :
    (NormalPc.scan todo).phase none = if todo = [] then .outside else .scanning todo := by
  cases todo <;> rfl

theorem scan_slot {link : Link} (todo : List Topic) (free : link.output.pendingFrame = none) :
    (NormalPc.scan todo).Slot link := by
  cases todo with
  | nil => trivial
  | cons => exact free

theorem scan_setting (todo : List Topic) : (NormalPc.scan todo).setting = none := by
  cases todo <;> rfl

section
variable {s : State} {link : Link} {action : Action} {pc : NormalPc}

/-- A step that is one of the scan, neither the end of it nor a turn that is passed. -/
theorem ScanStep.moves (move : ScanMove Topic) (slot : pc.Slot link) (calm : pc.setting = none)
    (moved : s.scan.step move = some ({ s with link }.goNormal pc).scan) (unblocked : move ≠ .block)
    (taken : move ≠ .pass) : ScanStep s ({ s with link }.goNormal pc) action :=
  ⟨⟨pc, rfl, slot⟩, fun _ set_ => (nomatch calm.symm.trans set_),
    .inr ⟨move, moved, fun is_ => absurd is_ unblocked, fun is_ => absurd is_ taken⟩⟩

theorem ScanStep.plain (slot : pc.Slot link) (calm : pc.setting = none)
    (topics : link.topicsOf = s.link.topicsOf)
    (sent : link.sent = s.link.sent) (emptied : link.emptied = s.link.emptied)
    (phase : pc.phase link.pendingTopic = s.phase ∨ pc.phase link.pendingTopic = .closed) :
    ScanStep s ({ s with link }.goNormal pc) action := by
  have scan := goNormal_scan pc topics sent emptied
  rcases phase with same | closed
  · refine ⟨⟨pc, rfl, slot⟩, fun _ set_ => (nomatch calm.symm.trans set_), .inl ?_⟩
    rw [scan, same]
    rfl
  · exact .moves .close slot calm (by rw [scan, closed]; rfl) nofun nofun

end

theorem pendingTopic_none {Due : Topic → Nat → Bytes → Prop} {link : Link}
    (held : Slot Due link.output.pendingFrame link.history.parked)
    (pending : link.output.pendingFrame = none) : link.pendingTopic = none := by
  rw [pending] at held
  generalize parked : link.history.parked = frame at held
  cases held
  rw [Link.pendingTopic, parked]
  rfl

theorem pendingTopic_some {Due : Topic → Nat → Bytes → Prop} {link : Link} {frame : PendingSubscriberFrame}
    (held : Slot Due link.output.pendingFrame link.history.parked)
    (pending : link.output.pendingFrame = some frame) (advances : frame.advancesSequence = true) :
    link.pendingTopic = some frame.topic := by
  rw [pending] at held
  obtain ⟨sequence, body, parked, _⟩ := held.advancing advances
  rw [Link.pendingTopic, parked]
  rfl

theorem reset_control {Due : Topic → Nat → Bytes → Prop} {link : Link} {frame : PendingSubscriberFrame}
    (held : Slot Due link.output.pendingFrame link.history.parked)
    (pending : link.output.pendingFrame = some frame) (stays : frame.advancesSequence = false) :
    link.pendingTopic = none ∧ link.reset.sent = link.sent := by
  rw [pending] at held
  obtain ⟨data, parked⟩ := held.staying stays
  refine ⟨by rw [Link.pendingTopic, parked]; rfl, ?_⟩
  funext topic
  simp [Link.sent, Link.reset, parked, WireFrame.entry?]

/-- `flushPendingFrame` at the top of the loop. -/
theorem flush_scan {config : RepeaterConfig} {s : State} {link : Link} {action : Action} {pc : FlushPc}
    {control : Control FlushPc (PendingWriteStatus × Topic)} (at_ : s.writer = .normal (.flush pc))
    (held : Slot (Due config s) s.link.output.pendingFrame s.link.history.parked)
    (moved : FlushMove s.link s.record pc link control) :
    ScanStep s ({ s with link }.goNormal (.afterFlush control)) action := by
  have here : s.phase = NormalPc.top.phase s.link.pendingTopic := by rw [State.phase, at_]; rfl
  cases moved with
  | resume | sent | accept | again | blocked =>
    exact .plain trivial rfl rfl rfl rfl (.inl here.symm)
  | idle pending _ => exact .plain pending rfl rfl rfl rfl (.inl here.symm)
  | next pending _ =>
    refine .plain trivial rfl rfl rfl rfl (.inl ?_)
    rw [here, pendingTopic_none held pending]
    rfl
  | failed | orphan => exact .plain trivial rfl rfl rfl rfl (.inr rfl)
  | @business frame r pending advances cached =>
    have late := pendingTopic_some held pending advances
    have topics : (s.link.updateSequence r frame.topic frame.nextSequence).reset.topicsOf = s.link.topicsOf :=
      updateSequence_topicsOf s.link r frame.topic frame.nextSequence
    refine .moves .flush trivial rfl ?_ nofun nofun
    rw [goNormal_completes _ topics rfl rfl late, State.scan, here, late]
    rfl
  | control pending stays =>
    obtain ⟨none_, sent⟩ := reset_control held pending stays
    refine .plain trivial rfl rfl sent rfl (.inl ?_)
    rw [here, none_]
    rfl

theorem flushStep_blocked {link link' : Link} {record : Option Nat} {outcome : CallOutcome} {pc : FlushPc}
    {topic : Topic} (taken : flushStep link record outcome pc = some (link', .ret (.wouldBlock, topic))) :
    pc = .send ∧ outcome = .wouldBlock := by
  cases pc <;> simp only [flushStep] at taken
  case take => split at taken <;> cases taken
  case send =>
    split at taken
    · cases taken
    · split at taken
      · cases taken
      · split at taken
        · split at taken <;> cases taken
        · cases taken
        · exact ⟨rfl, rfl⟩
        · cases taken
  case commit =>
    split at taken
    · cases taken
    · split at taken
      · split at taken <;> cases taken
      · cases taken

/-- `flushPendingFrame` inside `deliverTopic`. -/
theorem sending_scan {config : RepeaterConfig} {s : State} {link : Link} {record : Nat} {topic : Topic}
    {todo : List Topic} {outcome : CallOutcome} {pc : FlushPc}
    {control : Control FlushPc (PendingWriteStatus × Topic)}
    (at_ : s.writer = .normal (.deliver topic todo (.flush pc)))
    (pending : s.link.pendingTopic = some topic)
    (held : Slot (Due config s) s.link.output.pendingFrame s.link.history.parked)
    (taken : flushStep s.link (some record) outcome pc = some (link, control)) :
    ScanStep s ({ s with link }.goNormal (.afterDeliver topic todo (DeliverPc.afterFlush control)))
      (.writer outcome) := by
  have here : s.phase = .sending topic todo := by rw [State.phase, at_]; rfl
  have busy : s.link.output.pendingFrame ≠ none := fun free => by
    rw [pendingTopic_none held free] at pending
    cases pending
  cases flushStep_move taken with
  | resume | sent | accept | again => exact .plain pending rfl rfl rfl rfl (.inl here.symm)
  | idle free | next free => exact absurd free busy
  | blocked =>
    obtain ⟨sending, rfl⟩ := flushStep_blocked taken
    rw [sending] at at_
    refine ⟨⟨_, rfl, trivial⟩, by rintro _ ⟨⟩, .inr ⟨.block, ?_, fun _ => ⟨rfl, topic, todo, at_⟩, by rintro ⟨⟩⟩⟩
    rw [goNormal_scan _ rfl rfl rfl, State.scan, here]
    simp only [DeliverPc.afterFlush, NormalPc.afterDeliver, NormalPc.phase, pending]
    rfl
  | failed | orphan => exact .plain trivial rfl rfl rfl rfl (.inr rfl)
  | @business frame r full advances cached =>
    have topics : (s.link.updateSequence r frame.topic frame.nextSequence).reset.topicsOf = s.link.topicsOf :=
      updateSequence_topicsOf s.link r frame.topic frame.nextSequence
    refine .moves .finish (scan_slot todo rfl) (scan_setting todo) ?_ (by simp) (by simp)
    rw [goNormal_completes _ topics rfl rfl pending, State.scan, here]
    simp only [DeliverPc.afterFlush, NormalPc.afterDeliver]
    rw [show ((s.link.updateSequence r frame.topic frame.nextSequence).reset).pendingTopic = none from rfl,
      scan_phase]
    rfl
  | control full stays =>
    rw [(reset_control held full stays).1] at pending
    cases pending

/-- A turn that is over without a frame. -/
theorem ScanStep.passes {s : State} {link : Link} {action : Action} {topic : Topic} {todo : List Topic}
    (here : s.phase = .scanning (topic :: todo)) (free : link.output.pendingFrame = none)
    (none_ : link.pendingTopic = none) (topics : link.topicsOf = s.link.topicsOf)
    (sent : link.sent = s.link.sent) (emptied : link.emptied = s.link.emptied)
    (cause : s.unread topic = true → s.setting = some topic) :
    ScanStep s ({ s with link }.goNormal (.scan todo)) action := by
  refine ⟨⟨_, rfl, scan_slot todo free⟩, fun _ set_ => (nomatch (scan_setting todo).symm.trans set_),
    .inr ⟨.pass, ?_, nofun, fun _ t rest at_ unread => ?_⟩⟩
  · rw [goNormal_scan _ topics sent emptied, none_, scan_phase, State.scan, here]
    rfl
  · cases here.symm.trans at_
    exact cause unread

theorem unread_reads (config : RepeaterConfig) {s : State} {record : Nat} {topic : Topic}
    {entry : ConsumeMeta} {ring : MessageCircle} (rings : Rings s) (cached : s.record = some record)
    (found : s.link.getMeta record topic = some entry) (made : s.store.getCircle topic = some ring)
    (unread : s.unread topic = true) :
    (ring.read entry.nextSequence config.subscriberAlwaysSendLatest config.subscriberOverrunPolicy).status ≠
      .noMessage ∧
    ((ring.read entry.nextSequence config.subscriberAlwaysSendLatest
      config.subscriberOverrunPolicy).status = .message →
    (ring.read entry.nextSequence config.subscriberAlwaysSendLatest
      config.subscriberOverrunPolicy).message ≠ none) := by
  have inside : entry.nextSequence < (s.logs topic).length := by
    simp only [State.unread, cached, Option.bind_some, found, Bool.and_eq_true, List.any_eq_true] at unread
    obtain ⟨body, member, _⟩ := unread.2
    have some_ := List.length_pos_of_mem member
    rw [List.length_drop] at some_
    omega
  have outcome := read_outcome (rings.holds made) entry.nextSequence config.subscriberAlwaysSendLatest
    config.subscriberOverrunPolicy
  generalize ring.read entry.nextSequence config.subscriberAlwaysSendLatest
    config.subscriberOverrunPolicy = result at outcome
  cases outcome with
  | idle beyond => exact absurd beyond (Nat.not_le.mpr inside)
  | message q overrun le lt =>
    refine ⟨by rintro ⟨⟩, fun _ => ?_⟩
    simp [logMessage, List.getElem?_eq_getElem lt]
  | disconnect => exact ⟨by simp, by simp⟩

theorem read_scan {config : RepeaterConfig} {s : State} {link : Link} {record : Nat} {topic : Topic}
    {todo : List Topic} {action : Action} {entry : ConsumeMeta}
    {control : Control DeliverPc TopicDeliveryStatus} (here : s.phase = .scanning (topic :: todo))
    (cached : s.record = some record) (free : s.link.output.pendingFrame = none) (rings : Rings s)
    (held : Slot (Due config s) s.link.output.pendingFrame s.link.history.parked)
    (found : s.link.getMeta record topic = some entry)
    (moved : DeliverMove config s.store s.link record topic (.read entry) link control) :
    ScanStep s ({ s with link }.goNormal (.afterDeliver topic todo control)) action := by
  cases moved with
  | disconnect made read status =>
    refine .plain trivial rfl rfl rfl (noteRead_emptied (.inl ?_)) (.inr rfl)
    rw [status]
    nofun
  | nothing made read status =>
    refine .passes here free (pendingTopic_none held free) rfl rfl (noteRead_emptied ?_) fun unread => ?_
    · rcases status with idle | ⟨_, missing⟩
      · exact .inl (by rw [idle]; nofun)
      · exact .inr (by rw [missing]; nofun)
    · have some_ := unread_reads config rings cached found made unread
      rw [read] at some_
      rcases status with idle | ⟨message, missing⟩
      · exact absurd idle some_.1
      · exact absurd missing (some_.2 message)
  | empty made read status body =>
    refine .moves .skip free rfl ?_ nofun nofun
    have empty : ReadEvent.Empty topic { topic, consumerSequence := entry.nextSequence, result := _ } :=
      ⟨rfl, status, body⟩
    rw [goNormal_empties _ empty, pendingTopic_none held free, State.scan, here]
    rfl
  | @park _ ring result body made read status message nonempty =>
    refine .moves .take rfl rfl ?_ nofun nofun
    have emptied : Link.emptied ((s.link.noteRead
        { topic, consumerSequence := entry.nextSequence, result }).park topic body result) =
        s.link.emptied := by
      refine noteRead_emptied (.inr ?_)
      rw [message]
      exact fun same => nonempty (Option.some.inj same)
    rw [goNormal_scan (s := s) _ (by rfl) (by rfl) emptied, State.scan, here]
    rfl

theorem deliver_scan {d : Deployment} {s : State} {link : Link} {record : Nat} {topic : Topic}
    {todo : List Topic} {outcome : CallOutcome} {pc : DeliverPc}
    {control : Control DeliverPc TopicDeliveryStatus}
    (at_ : s.writer = .normal (.deliver topic todo pc)) (cached : s.record = some record)
    (slot : NormalPc.Slot s.link (.deliver topic todo pc)) (delivering : Delivering d.config s)
    (taken : deliverStep d.config s.store s.link record topic outcome pc = some (link, control)) :
    ScanStep s ({ s with link }.goNormal (.afterDeliver topic todo control)) (.writer outcome) := by
  have held := delivering.slot
  have call := delivering.call
  rw [at_] at call
  cases pc with
  | flush pc =>
    simp only [deliverStep] at taken
    split at taken <;> cases taken
    exact sending_scan at_ slot held ‹_›
  | getMeta =>
    have here : s.phase = .scanning (topic :: todo) := by rw [State.phase, at_]; rfl
    cases deliverStep_move taken with
    | busy pending => cases slot.symm.trans pending
    | absent missing =>
      refine .passes here slot (pendingTopic_none held slot) rfl rfl rfl fun unread => ?_
      simp only [State.unread, cached, Option.bind_some, missing] at unread
      cases unread
    | entry => exact .plain slot rfl rfl rfl rfl (.inl here.symm)
    | fresh pending found fresh =>
      refine ⟨⟨_, rfl, slot⟩, fun t set_ => .inr ?_, .inl ?_⟩
      · cases set_
        simp only [State.unread, cached, Option.bind_some, found, fresh, Bool.false_and]
      · rw [goNormal_scan _ rfl rfl rfl, State.scan, here]
        rfl
  | circleMeta =>
    have here : s.phase = .scanning (topic :: todo) := by rw [State.phase, at_]; rfl
    cases deliverStep_move taken with
    | circleMeta made =>
      refine ⟨⟨_, rfl, slot⟩, fun t set_ => .inl ?_, .inl ?_⟩
      · cases set_
        rw [State.setting, at_]
        rfl
      · rw [goNormal_scan _ rfl rfl rfl, State.scan, here]
        rfl
  | initializeTopic q =>
    have here : s.phase = .scanning (topic :: todo) := by rw [State.phase, at_]; rfl
    cases taken
    have history := s.link.initializeTopic_history record topic q
    refine .passes here slot ?_ (initializeTopic_topicsOf s.link record topic q) ?_ ?_ fun _ => ?_
    · rw [Link.pendingTopic, history]
      exact pendingTopic_none held slot
    · funext t
      rw [Link.sent, history]
      rfl
    · funext t
      rw [Link.emptied, history]
      rfl
    · rw [State.setting, at_]
      rfl
  | read entry =>
    have here : s.phase = .scanning (topic :: todo) := by rw [State.phase, at_]; rfl
    obtain ⟨record', cached', found, _⟩ := call
    cases cached.symm.trans cached'
    exact read_scan here cached slot delivering.rings held found (deliverStep_move taken)
  | updateEmpty next =>
    cases taken
    have none_ : (s.link.updateSequence record topic next).pendingTopic = none := pendingTopic_none held slot
    refine .plain (scan_slot todo slot) (scan_setting todo) (updateSequence_topicsOf s.link record topic next)
      rfl rfl (.inl ?_)
    rw [none_, State.phase, at_]
    exact scan_phase todo

theorem unread_nil {s : State} {topic : Topic} (nil : s.logs topic = []) : s.unread topic = false := by
  unfold State.unread
  rw [nil]
  split
  · simp
  · rfl

/-- A step that leaves the scan alone, except that the order may become known. -/
theorem ScanStep.aside {s t : State} {action : Action} (slot : ∃ pc, t.writer = .normal pc ∧ pc.Slot t.link)
    (setting : t.setting = s.setting ∨ t.setting = none) (phase : t.phase = s.phase)
    (sent : t.link.sent = s.link.sent) (emptied : t.link.emptied = s.link.emptied)
    (order : t.order = s.order ∨ s.order = none ∧ ∀ topics, t.order = some topics → topics.Nodup) :
    ScanStep s t action := by
  have completed : t.completed = s.completed := by
    funext topic
    rw [State.completed, State.completed, sent]
  have same : t.scan = { s.scan with order := t.order } := by
    rw [State.scan, phase, emptied, completed]
    rfl
  refine ⟨slot, fun topic set_ => .inl ?_, ?_⟩
  · rcases setting with still | none_
    · exact still ▸ set_
    · cases none_.symm.trans set_
  · rcases order with still | ⟨unknown, distinct⟩
    · exact .inl (by rw [same, still]; rfl)
    · cases known : t.order with
      | none => exact .inl (by rw [same, known, ← unknown]; rfl)
      | some topics =>
        refine .inr ⟨.learn topics, ?_, by simp, by simp⟩
        rw [same, known, ScanState.step]
        exact if_pos ⟨unknown, distinct topics known⟩

/-- Every record has each of its topics once in its order. -/
structure Ordered (link : Link) : Prop where
  distinct : ∀ r topics, link.topicsOf r = some topics → topics.Nodup
  listed : ∀ r t, (link.getMeta r t).isSome = true → ∃ topics, link.topicsOf r = some topics ∧ t ∈ topics

theorem order_nodup {s : State} (ordered : Ordered s.link) {topics : List Topic}
    (known : s.order = some topics) : topics.Nodup := by
  obtain ⟨r, _, held⟩ := Option.bind_eq_some_iff.mp known
  exact ordered.distinct r topics held

theorem Ordered.congr {link link' : Link} (ordered : Ordered link) (topics : link'.topicsOf = link.topicsOf)
    (present : ∀ r t, (link'.getMeta r t).isSome = (link.getMeta r t).isSome) : Ordered link' := by
  constructor
  · rw [topics]
    exact ordered.distinct
  · intro r t held
    rw [topics]
    exact ordered.listed r t (present r t ▸ held)

theorem normalStep_scan {d : Deployment} {s s' : State} {outcome : CallOutcome} {pc : NormalPc}
    (at_ : s.writer = .normal pc) (slot : pc.Slot s.link) (delivering : Delivering d.config s)
    (ordered : Ordered s.link) (taken : normalStep d s outcome pc = some s') :
    ScanStep s s' (.writer outcome) := by
  have here : s.phase = pc.phase s.link.pendingTopic := by rw [State.phase, at_]
  cases pc with
  | existsTest =>
    simp only [normalStep] at taken
    split at taken <;> cases taken
    split
    · exact .plain trivial rfl rfl rfl rfl (.inl here.symm)
    · exact .plain trivial rfl rfl rfl rfl (.inr rfl)
  | top =>
    cases taken
    split
    · exact .plain trivial rfl rfl rfl rfl (.inl here.symm)
    · exact .plain trivial rfl rfl rfl rfl (.inr rfl)
  | cacheTest =>
    cases taken
    split <;> exact .plain trivial rfl rfl rfl rfl (.inl here.symm)
  | cacheGet =>
    cases taken
    have uncached : s.record = none := by
      have call := delivering.call
      rwa [at_] at call
    refine .aside ⟨_, rfl, trivial⟩ (.inr rfl) here.symm rfl rfl (.inr ⟨?_, fun topics known => ?_⟩)
    · rw [State.order, uncached]
      rfl
    · refine order_nodup ?_ known
      exact ordered
  | flush pc =>
    simp only [normalStep] at taken
    split at taken <;> cases taken
    exact flush_scan at_ delivering.slot (flushStep_move ‹_›)
  | subscribedTest =>
    cases taken
    split
    · exact .plain trivial rfl rfl rfl rfl (.inl here.symm)
    · split
      · exact .plain trivial rfl rfl rfl rfl (.inr rfl)
      · exact .plain slot rfl rfl rfl rfl (.inl here.symm)
  | getTopics =>
    simp only [normalStep] at taken
    split at taken <;> cases taken
    rename_i record found
    have known : s.order = some record.topics := by
      obtain ⟨r, cached, held⟩ := Option.bind_eq_some_iff.mp found
      rw [State.order, cached, Option.bind_some, Link.topicsOf, held]
      rfl
    have none_ := pendingTopic_none delivering.slot slot
    rw [none_] at here
    refine .moves .start (scan_slot _ slot) (scan_setting _) ?_ (by simp) (by simp)
    rw [goNormal_scan (s := s) _ rfl rfl rfl, none_, scan_phase, State.scan, here, known]
    rfl
  | getCircle topic todo =>
    simp only [normalStep] at taken
    split at taken <;> cases taken
    · rename_i unmade
      refine .passes here slot (pendingTopic_none delivering.slot slot) rfl rfl rfl fun unread => ?_
      rw [unread_nil (Holding.unmade delivering.rings unmade)] at unread
      cases unread
    · exact .plain slot rfl rfl rfl rfl (.inl here.symm)
  | deliver topic todo pc =>
    simp only [normalStep] at taken
    split at taken
    · cases taken
    · rename_i record cached
      split at taken <;> cases taken
      exact deliver_scan at_ cached slot delivering ‹_›
  | exitKill =>
    simp only [normalStep] at taken
    split at taken <;> cases taken
    exact .aside ⟨_, rfl, trivial⟩ (.inr rfl) here.symm rfl rfl (.inl rfl)
  | dropSubscribed | dropAlive | exitShutdown | exitAlive =>
    cases taken
    exact .aside ⟨_, rfl, trivial⟩ (.inr rfl) here.symm rfl rfl (.inl rfl)
  | done => cases taken

/-! ### Every step -/

/-- What holds along every run in normal mode. -/
structure NormalTurns (s : State) : Prop where
  slot : ∃ pc, s.writer = .normal pc ∧ pc.Slot s.link
  ordered : Ordered s.link

theorem FlushMove.topicsOf {link link' : Link} {record : Option Nat} {pc : FlushPc}
    {control : Control FlushPc (PendingWriteStatus × Topic)}
    (moved : FlushMove link record pc link' control) : link'.topicsOf = link.topicsOf := by
  cases moved with
  | business => exact updateSequence_topicsOf link _ _ _
  | _ => rfl

theorem WriterMove.topicsOf {d : Deployment} {s s' : State} (moved : WriterMove d s s') :
    s'.link.topicsOf = s.link.topicsOf := by
  cases moved with
  | flush _ moved link_eq => exact link_eq ▸ moved.topicsOf
  | deliver _ _ moved link_eq =>
    rw [link_eq]
    cases moved with
    | initializeTopic => exact initializeTopic_topicsOf s.link _ _ _
    | updateEmpty => exact updateSequence_topicsOf s.link _ _ _
    | flush moved => exact moved.topicsOf
    | _ => rfl
  | test _ link_eq | cache _ link_eq | other _ link_eq | close _ link_eq => rw [link_eq]

/-- The reading thread changes no record's topics, or makes a record. -/
theorem readerStep_topicsOf {d : Deployment} {s s' : State} {input : ReaderInput}
    (taken : readerStep d s input = some s') : (s'.link.topicsOf = s.link.topicsOf ∧
        ∀ r t, (s'.link.getMeta r t).isSome = (s.link.getMeta r t).isSome) ∨
      ∃ topics order, order.Perm topics.dedup ∧ s'.link = s.link.createRecord topics order := by
  have same : (s.link.topicsOf = s.link.topicsOf ∧
      ∀ r t, (s.link.getMeta r t).isSome = (s.link.getMeta r t).isSome) := ⟨rfl, fun _ _ => rfl⟩
  unfold readerStep at taken
  split at taken
  case h_7 =>
    split at taken <;> cases taken
    · exact .inl same
    · rename_i pushed
      exact .inl (by rw [Link.enqueueControlFrame_some pushed]; exact same)
  case h_10 topics order at_ =>
    split at taken
    · rename_i perm
      split at taken <;> cases taken
      · exact .inl same
      · exact .inr ⟨topics, order, perm, rfl⟩
    · cases taken
  case h_15 =>
    cases taken
    exact .inl ⟨initializeTopic_topicsOf s.link _ _ _, initializeTopic_present s.link _ _ _⟩
  all_goals
    first
      | (cases taken <;> exact .inl same)
      | (split at taken <;> cases taken <;> exact .inl same)

theorem ReaderMove.unseen {s s' : State} (moved : ReaderMove s s') :
    s'.link.sent = s.link.sent ∧ s'.link.emptied = s.link.emptied ∧
      s'.link.output.pendingFrame = s.link.output.pendingFrame ∧
      s'.link.history.parked = s.link.history.parked := by
  cases moved with
  | same link_eq =>
    rw [link_eq]
    exact ⟨rfl, rfl, rfl, rfl⟩
  | enqueue at_ pushed link_eq =>
    rw [link_eq, Link.enqueueControlFrame_some pushed]
    exact ⟨rfl, rfl, rfl, rfl⟩
  | create at_ link_eq =>
    rw [link_eq]
    exact ⟨rfl, rfl, rfl, rfl⟩
  | initializeTopic at_ link_eq =>
    have history := s.link.initializeTopic_history
    rw [link_eq]
    refine ⟨funext fun t => ?_, funext fun t => ?_, rfl, by rw [history]⟩
    · rw [Link.sent, history]
      rfl
    · rw [Link.emptied, history]
      rfl

theorem createRecord_topicsOf (link : Link) (topics order : List Topic) (r : Nat) :
    (link.createRecord topics order).topicsOf r =
      if r = link.records.length then some order else link.topicsOf r := by
  unfold Link.topicsOf Link.createRecord
  rcases Nat.lt_trichotomy r link.records.length with lt | eq | gt
  · rw [List.getElem?_append_left lt, if_neg (by omega)]
  · simp [eq, ConsumeRecord.new]
  · rw [List.getElem?_eq_none (by simp; omega), List.getElem?_eq_none (by omega), if_neg (by omega)]

theorem createRecord_ordered {link : Link} {topics order : List Topic} (ordered : Ordered link)
    (perm : order.Perm topics.dedup) : Ordered (link.createRecord topics order) := by
  constructor
  · intro r t known
    rw [createRecord_topicsOf] at known
    split at known
    · cases known
      exact perm.nodup_iff.mpr (List.nodup_dedup topics)
    · exact ordered.distinct r t known
  · intro r t held
    rw [Link.createRecord_getMeta] at held
    rw [createRecord_topicsOf]
    split
    · rename_i here
      rw [if_pos here] at held
      by_cases member : t ∈ topics
      · exact ⟨order, rfl, perm.mem_iff.mpr (List.mem_dedup.mpr member)⟩
      · rw [if_neg member] at held
        cases held
    · rename_i other
      rw [if_neg other] at held
      exact ordered.listed r t held

theorem slot_congr {s s' : State} (writer : s'.writer = s.writer)
    (pending : s'.link.output.pendingFrame = s.link.output.pendingFrame)
    (parked : s'.link.history.parked = s.link.history.parked)
    (slot : ∃ pc, s.writer = .normal pc ∧ pc.Slot s.link) :
    ∃ pc, s'.writer = .normal pc ∧ pc.Slot s'.link := by
  obtain ⟨pc, at_, slot⟩ := slot
  refine ⟨pc, writer.trans at_, ?_⟩
  unfold NormalPc.Slot at *
  rwa [Link.pendingTopic, parked, ← Link.pendingTopic, pending]

theorem phase_congr {s s' : State} (writer : s'.writer = s.writer)
    (parked : s'.link.history.parked = s.link.history.parked) : s'.phase = s.phase := by
  rw [State.phase, State.phase, writer, Link.pendingTopic, parked]
  rfl

theorem setting_congr {s s' : State} (writer : s'.writer = s.writer) : s'.setting = s.setting := by
  rw [State.setting, writer, State.setting]

theorem other_scan {s s' : State} {action : Action} (turns : NormalTurns s) (writer : s'.writer = s.writer)
    (link : s'.link = s.link) (record : s'.record = s.record) :
    ScanStep s s' action ∧ NormalTurns s' := by
  have slot := slot_congr writer (by rw [link]) (by rw [link]) turns.slot
  exact ⟨.aside slot (.inl (setting_congr writer)) (phase_congr writer (by rw [link])) (by rw [link])
    (by rw [link]) (.inl (by rw [State.order, State.order, link, record])), slot, link ▸ turns.ordered⟩

theorem reader_scan {d : Deployment} {s s' : State} {input : ReaderInput} (turns : NormalTurns s)
    (taken : readerStep d s input = some s') : ScanStep s s' (.reader input) ∧ NormalTurns s' := by
  obtain ⟨moved, record, writer, _⟩ := readerStep_move taken
  obtain ⟨sent, emptied, pending, parked⟩ := moved.unseen
  have slot := slot_congr writer pending parked turns.slot
  have aside : s'.order = s.order ∨ s.order = none ∧ (∀ topics, s'.order = some topics → topics.Nodup) →
      ScanStep s s' (.reader input) := fun order =>
    .aside slot (.inl (setting_congr writer)) (phase_congr writer parked) sent emptied order
  rcases readerStep_topicsOf taken with ⟨same, present⟩ | ⟨topics, order, perm, created⟩
  · exact ⟨aside (.inl (by rw [State.order, State.order, same, record])), slot,
      turns.ordered.congr same present⟩
  · have ordered : Ordered s'.link := created ▸ createRecord_ordered turns.ordered perm
    refine ⟨aside ?_, slot, ordered⟩
    cases cached : s.record with
    | none => exact .inl (by rw [State.order, State.order, record, cached]; rfl)
    | some r =>
      have after : s'.order = (s.link.createRecord topics order).topicsOf r := by
        rw [State.order, record, cached, created]
        rfl
      have before : s.order = s.link.topicsOf r := by
        rw [State.order, cached]
        rfl
      rw [createRecord_topicsOf] at after
      split at after
      · rename_i fresh
        refine .inr ⟨?_, fun t => order_nodup ordered⟩
        rw [before, Link.topicsOf, fresh, List.getElem?_eq_none (Nat.le_refl _)]
        rfl
      · exact .inl (after.trans before.symm)

theorem step_scan {d : Deployment} {s s' : State} {action : Action} (turns : NormalTurns s)
    (delivering : Delivering d.config s) (taken : step d s action = some s') :
    ScanStep s s' action ∧ NormalTurns s' := by
  cases action with
  | writer outcome =>
    obtain ⟨pc, at_, slot⟩ := turns.slot
    have moved := writerStep_move taken
    simp only [step, writerStep, at_] at taken
    have scan := normalStep_scan at_ slot delivering turns.ordered taken
    exact ⟨scan, scan.slot, turns.ordered.congr moved.topicsOf moved.present⟩
  | reader input => exact reader_scan turns taken
  | writable =>
    obtain ⟨pc, at_, _⟩ := turns.slot
    cases at_.symm.trans (writableStep_same taken).1
  | _ =>
    obtain ⟨writer, record⟩ := step_writer (by simp) (by simp) taken
    exact other_scan turns writer (step_frame (by simp) (by simp) taken).link record

theorem run_turns {d : Deployment} {s : State} (normal : d.config.subscriberEnableEventLoop = false)
    (run : Run (step d) Free (initial d) s) : NormalTurns s := by
  refine run.keeps_under (fun _ => reachable_delivering) ⟨⟨.top, ?_, trivial⟩, ?_⟩
    fun _ _ _ delivering turns _ taken => (step_scan turns delivering taken).2
  · show (if d.config.subscriberEnableEventLoop = true then WriterPc.loop .waiting else .normal .top) = _
    rw [normal]
    rfl
  · exact ⟨nofun, nofun⟩

end MessageRepeater.Subscriber
