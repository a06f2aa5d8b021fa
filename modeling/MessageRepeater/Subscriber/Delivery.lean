import MessageRepeater.Foundation.Cursor
import MessageRepeater.Subscriber.Store

/-!
# Ordered delivery

The cursor is read, the ring is read, the frame is parked and the cursor is written back in separate
steps, while producers append. Between the steps only the writer moves an initialized cursor, so what
it has read stays due: `Due` carries a message from the read to the end of its frame.
-/

namespace MessageRepeater.Subscriber
open Foundation Combiner Config Connection

/-! ### Cursors of the records -/

theorem getMeta_modify {link link' : Link} {record : Nat} {change : ConsumeRecord → ConsumeRecord}
    (changed : link'.records = link.records.modify record change) (r : Nat) (t : Topic) :
    link'.getMeta r t =
      if r = record then (link.records[r]?).bind fun held => (change held).getMeta t
      else link.getMeta r t := by
  unfold Link.getMeta
  rw [changed, List.getElem?_modify]
  by_cases same : r = record
  · subst same
    cases link.records[r]? <;> simp
  · have apart : record ≠ r := fun eq => same eq.symm
    cases link.records[r]? <;> simp [same, apart]

theorem Link.initializeTopic_getMeta (link : Link) (record : Nat) (topic : Topic) (sequence r : Nat)
    (t : Topic) :
    (link.initializeTopic record topic sequence).getMeta r t =
      if r = record ∧ t = topic ∧
          (link.getMeta record topic).map ConsumeMeta.initialized = some false then
        some { nextSequence := sequence, initialized := true }
      else link.getMeta r t := by
  rw [getMeta_modify rfl]
  by_cases same : r = record
  · subst same
    unfold Link.getMeta
    cases found : link.records[r]? with
    | none => simp
    | some held =>
      by_cases topic_eq : t = topic
      · subst topic_eq
        simp [ConsumeRecord.initializeTopic_getMeta]
      · simp [ConsumeRecord.initializeTopic_getMeta, topic_eq]
  · simp [same]

theorem Link.updateSequence_getMeta (link : Link) (record : Nat) (topic : Topic) (next r : Nat)
    (t : Topic) :
    (link.updateSequence record topic next).getMeta r t =
      if r = record ∧ t = topic then
        (link.getMeta r t).map fun _ => { nextSequence := next, initialized := true }
      else link.getMeta r t := by
  rw [getMeta_modify rfl]
  by_cases same : r = record
  · subst same
    unfold Link.getMeta
    cases found : link.records[r]? with
    | none => simp
    | some held => by_cases topic_eq : t = topic <;> simp [ConsumeRecord.updateSequence_getMeta, topic_eq]
  · simp [same]

theorem Link.createRecord_getMeta (link : Link) (topics order : List Topic) (r : Nat) (t : Topic) :
    (link.createRecord topics order).getMeta r t =
      if r = link.records.length then if t ∈ topics then some {} else none
      else link.getMeta r t := by
  unfold Link.getMeta Link.createRecord
  rcases Nat.lt_trichotomy r link.records.length with lt | eq | gt
  · rw [List.getElem?_append_left lt, if_neg (by omega)]
  · rw [if_pos eq, eq, List.getElem?_concat_length]
    exact ConsumeRecord.new_getMeta topics order t
  · rw [List.getElem?_eq_none (by simp; omega), List.getElem?_eq_none (by omega), if_neg (by omega)]

/-- `initialize` notes a start exactly where it sets a cursor. -/
theorem Link.initializeTopic_history (link : Link) (record : Nat) (topic : Topic) (sequence : Nat) :
    (link.initializeTopic record topic sequence).history =
      { link.history with
        starts :=
          if (link.getMeta record topic).map ConsumeMeta.initialized = some false then
            link.history.starts ++ [(record, topic, sequence)]
          else link.history.starts } := by
  unfold Link.initializeTopic
  dsimp only
  split <;> rfl

/-! ### What the frames of a topic say -/

def WireFrame.entry? (topic : Topic) : WireFrame → Option (Nat × Bytes)
  | .control _ => none
  | .business t sequence body => if t = topic then some (sequence, body) else none

/-- The messages of a topic whose frames are complete, oldest first. -/
def Link.sent (link : Link) (topic : Topic) : List (Nat × Bytes) :=
  link.history.frames.filterMap (WireFrame.entry? topic)

/-- The read delivered a later message than the one at the consumer's cursor, having reported an
overrun or reading the latest only. -/
structure ReadEvent.Skips (config : RepeaterConfig) (event : ReadEvent) (sequence : Nat) : Prop where
  message : event.result.status = .message
  le : event.consumerSequence ≤ sequence
  lt : sequence < event.result.messageSequence
  cause : config.subscriberAlwaysSendLatest = true ∨
    event.result.overrun = true ∧ config.subscriberOverrunPolicy ≠ .disconnect

/-- A message that need not be sent: its body is empty, or a read has skipped it. -/
def State.Excused (config : RepeaterConfig) (s : State) (topic : Topic) (sequence : Nat) : Prop :=
  (s.logs topic)[sequence]? = some [] ∨
    ∃ event ∈ s.link.history.reads, event.topic = topic ∧ event.Skips config sequence

/-- The writer may send message `sequence` of the topic next. -/
structure Due (config : RepeaterConfig) (s : State) (topic : Topic) (sequence : Nat) (body : Bytes) :
    Prop where
  entry : ∃ record entry, s.record = some record ∧ s.link.getMeta record topic = some entry ∧
    entry.initialized = true ∧ entry.nextSequence ≤ sequence ∧
    ∀ q, entry.nextSequence ≤ q → q < sequence → s.Excused config topic q
  body : (s.logs topic)[sequence]? = some body

/-- What the pending slot holds. -/
inductive Slot (Due : Topic → Nat → Bytes → Prop) :
    Option PendingSubscriberFrame → Option WireFrame → Prop where
  | empty : Slot Due none none
  | control {frame data} (stays : frame.advancesSequence = false) :
      Slot Due (some frame) (some (.control data))
  | business {frame sequence body} (advances : frame.advancesSequence = true)
      (next : frame.nextSequence = sequence + 1) (due : Due frame.topic sequence body) :
      Slot Due (some frame) (some (.business frame.topic sequence body))

theorem Slot.mono {Due Due' : Topic → Nat → Bytes → Prop} {pending : Option PendingSubscriberFrame}
    {parked : Option WireFrame} (slot : Slot Due pending parked)
    (imp : ∀ t q body, Due t q body → Due' t q body) : Slot Due' pending parked := by
  cases slot with
  | empty => exact .empty
  | control stays => exact .control stays
  | business advances next due => exact .business advances next (imp _ _ _ due)

/-- A pending frame that moves a cursor was parked with the message it carries. -/
theorem Slot.advancing {Due : Topic → Nat → Bytes → Prop} {frame : PendingSubscriberFrame}
    {parked : Option WireFrame} (slot : Slot Due (some frame) parked)
    (advances : frame.advancesSequence = true) :
    ∃ sequence body, parked = some (.business frame.topic sequence body) ∧
      frame.nextSequence = sequence + 1 ∧ Due frame.topic sequence body := by
  cases slot with
  | control stays => cases advances.symm.trans stays
  | business _ next due => exact ⟨_, _, rfl, next, due⟩

theorem Slot.staying {Due : Topic → Nat → Bytes → Prop} {frame : PendingSubscriberFrame}
    {parked : Option WireFrame} (slot : Slot Due (some frame) parked)
    (stays : frame.advancesSequence = false) : ∃ data, parked = some (.control data) := by
  cases slot with
  | control => exact ⟨_, rfl⟩
  | business advances => cases advances.symm.trans stays

/-- The local data of a `deliverTopic` in progress. -/
def CallDue (config : RepeaterConfig) (s : State) : Call → Prop
  | .deliver topic (.read entry) =>
    ∃ record, s.record = some record ∧ s.link.getMeta record topic = some entry ∧
      entry.initialized = true
  | .deliver topic (.updateEmpty next) => ∃ sequence, next = sequence + 1 ∧ Due config s topic sequence []
  | .cache => s.record = none
  | _ => True

/-- What the writer has sent of a record's topic: everything if it is the writer's record. -/
def State.sentBy (s : State) (record : Nat) (topic : Topic) : List (Nat × Bytes) :=
  if s.record = some record then s.link.sent topic else []

structure Delivering (config : RepeaterConfig) (s : State) : Prop where
  rings : Rings s
  started : ∀ r t, (∃ start, (r, t, start) ∈ s.link.history.starts) ↔
    ∃ entry, s.link.getMeta r t = some entry ∧ entry.initialized = true
  consumed : ∀ r t start entry, (r, t, start) ∈ s.link.history.starts →
    s.link.getMeta r t = some entry →
    Consumed (s.logs t) (s.Excused config t) (s.sentBy r t) start entry.nextSequence
  idle : ∀ t, s.link.sent t ≠ [] → ∃ r entry, s.record = some r ∧
    s.link.getMeta r t = some entry ∧ entry.initialized = true
  slot : Slot (Due config s) s.link.output.pendingFrame s.link.history.parked
  call : CallDue config s s.writer.call

/-! ### What changes nothing for the writer -/

/-- Initialized cursors, the writer's record, and its reads and frames survive the step. -/
structure Persists (s s' : State) : Prop where
  logs : ∀ t, s.logs t <+: s'.logs t
  reads : s.link.history.reads ⊆ s'.link.history.reads
  record : s.record ≠ none → s'.record = s.record
  cursor : ∀ r t entry, s.link.getMeta r t = some entry → entry.initialized = true →
    s'.link.getMeta r t = some entry

theorem State.Excused.mono {config : RepeaterConfig} {s s' : State} {t : Topic} {q : Nat}
    (excused : s.Excused config t q) (logs : s.logs t <+: s'.logs t)
    (reads : s.link.history.reads ⊆ s'.link.history.reads) : s'.Excused config t q := by
  rcases excused with empty | ⟨event, read, at_, skips⟩
  · exact .inl (entry_kept logs empty)
  · exact .inr ⟨event, reads read, at_, skips⟩

theorem Persists.excused {config : RepeaterConfig} {s s' : State} (persists : Persists s s')
    {t : Topic} {q : Nat} (excused : s.Excused config t q) : s'.Excused config t q :=
  excused.mono (persists.logs t) persists.reads

theorem Persists.due {config : RepeaterConfig} {s s' : State} (persists : Persists s s')
    {t : Topic} {q : Nat} {body : Bytes} (due : Due config s t q body) : Due config s' t q body := by
  obtain ⟨record, entry, cached, found, initialized, le, between⟩ := due.entry
  refine ⟨⟨record, entry, ?_, persists.cursor _ _ _ found initialized, initialized, le, ?_⟩, ?_⟩
  · rw [persists.record (by rw [cached]; nofun), cached]
  · exact fun q le lt => persists.excused (between q le lt)
  · exact entry_kept (persists.logs t) due.body

theorem Persists.callDue {config : RepeaterConfig} {s s' : State} (persists : Persists s s')
    (uncached : s'.record = s.record) {call : Call} (due : CallDue config s call) :
    CallDue config s' call := by
  unfold CallDue at *
  split
  · obtain ⟨record, cached, found, initialized⟩ := due
    exact ⟨record, uncached.trans cached, persists.cursor _ _ _ found initialized, initialized⟩
  · obtain ⟨q, next, held⟩ := due
    exact ⟨q, next, persists.due held⟩
  · exact uncached.trans due
  · trivial

theorem Call.Fresh.due {config : RepeaterConfig} {s : State} {call : Call} (fresh : call.Fresh) :
    CallDue config s call := by
  cases fresh <;> trivial

/-- A step that leaves cursors, starts, frames and the slot as they are. -/
theorem Delivering.same {config : RepeaterConfig} {s s' : State} (delivering : Delivering config s)
    (rings : Rings s') (persists : Persists s s')
    (cursors : ∀ r t, s'.link.getMeta r t = s.link.getMeta r t)
    (starts : s'.link.history.starts = s.link.history.starts)
    (frames : s'.link.history.frames = s.link.history.frames)
    (record : s'.record = s.record)
    (slot : Slot (Due config s') s'.link.output.pendingFrame s'.link.history.parked)
    (call : CallDue config s' s'.writer.call) : Delivering config s' := by
  have sent : ∀ t, s'.link.sent t = s.link.sent t := fun t => by unfold Link.sent; rw [frames]
  refine ⟨rings, ?_, ?_, ?_, slot, call⟩
  · intro r t
    rw [starts, cursors]
    exact delivering.started r t
  · intro r t start entry started found
    rw [starts] at started
    rw [cursors] at found
    have consumed := delivering.consumed r t start entry started found
    have sentBy : s'.sentBy r t = s.sentBy r t := by unfold State.sentBy; rw [record, sent]
    rw [sentBy]
    exact consumed.mono (persists.logs t) fun q => persists.excused
  · intro t some_
    rw [sent] at some_
    rw [record]
    simp only [cursors]
    exact delivering.idle t some_

/-- `initialize` sets a cursor that nothing has been sent from. -/
theorem Delivering.initializeTopic {config : RepeaterConfig} {s s' : State} {record : Nat}
    {topic : Topic} {sequence : Nat} (delivering : Delivering config s) (rings : Rings s')
    (logs : s'.logs = s.logs) (record_eq : s'.record = s.record)
    (link_eq : s'.link = s.link.initializeTopic record topic sequence)
    (call : Persists s s' → CallDue config s' s'.writer.call) : Delivering config s' := by
  have history := s.link.initializeTopic_history record topic sequence
  rw [← link_eq] at history
  have starts := congrArg History.starts history
  have frames : s'.link.history.frames = s.link.history.frames := by rw [history]
  have reads : s'.link.history.reads = s.link.history.reads := by rw [history]
  have parked : s'.link.history.parked = s.link.history.parked := by rw [history]
  dsimp only at starts
  have cursors := s.link.initializeTopic_getMeta record topic sequence
  rw [← link_eq] at cursors
  have sent : ∀ t, s'.link.sent t = s.link.sent t := fun t => by unfold Link.sent; rw [frames]
  have persists : Persists s s' := by
    refine ⟨fun t => by rw [logs], fun _ read => by rwa [reads], fun _ => record_eq, ?_⟩
    intro r t entry found initialized
    rw [cursors, if_neg, found]
    rintro ⟨rfl, rfl, fresh⟩
    rw [found, Option.map_some, initialized] at fresh
    cases fresh
  refine ⟨rings, ?_, ?_, ?_, ?_, call persists⟩
  · intro r t
    rw [starts, cursors]
    by_cases fresh : (s.link.getMeta record topic).map ConsumeMeta.initialized = some false
    · by_cases here : r = record ∧ t = topic
      · obtain ⟨rfl, rfl⟩ := here
        simp [fresh]
      · have apart : ¬ (r = record ∧ t = topic ∧
            (s.link.getMeta record topic).map ConsumeMeta.initialized = some false) :=
          fun held => here ⟨held.1, held.2.1⟩
        rw [if_neg apart, ← delivering.started r t]
        simp only [if_pos fresh, List.mem_append, List.mem_singleton, Prod.mk.injEq]
        constructor
        · rintro ⟨start, old | ⟨rfl, rfl, _⟩⟩
          · exact ⟨start, old⟩
          · exact absurd ⟨rfl, rfl⟩ here
        · rintro ⟨start, old⟩
          exact ⟨start, .inl old⟩
    · have apart : ¬ (r = record ∧ t = topic ∧
          (s.link.getMeta record topic).map ConsumeMeta.initialized = some false) :=
        fun held => fresh held.2.2
      rw [if_neg apart, ← delivering.started r t, if_neg fresh]
  · intro r t start entry started found
    have sentBy : s'.sentBy r t = s.sentBy r t := by unfold State.sentBy; rw [record_eq, sent]
    rw [starts] at started
    rw [cursors] at found
    rw [sentBy, logs]
    have grow : ∀ q, s.Excused config t q → s'.Excused config t q := fun q => persists.excused
    by_cases fresh : r = record ∧ t = topic ∧
        (s.link.getMeta record topic).map ConsumeMeta.initialized = some false
    · obtain ⟨rfl, rfl, unset⟩ := fresh
      -- A cursor that was not set yet has no start, and nothing was sent from it.
      have none_set : ¬ ∃ entry, s.link.getMeta r t = some entry ∧ entry.initialized = true := by
        rintro ⟨old, at_, initialized⟩
        rw [at_, Option.map_some, initialized] at unset
        cases unset
      simp only [if_pos unset, List.mem_append, List.mem_singleton, Prod.mk.injEq, true_and]
        at started
      simp only [unset, and_self, if_true, Option.some.injEq] at found
      rcases started with old | rfl
      · exact absurd ((delivering.started r t).mp ⟨start, old⟩) none_set
      · have unsent : s.sentBy r t = [] := by
          unfold State.sentBy
          split
          · rename_i cached
            by_contra sent
            obtain ⟨r', entry', cached', at_, initialized⟩ := delivering.idle t sent
            rw [cached] at cached'
            cases cached'
            exact none_set ⟨entry', at_, initialized⟩
          · rfl
        rw [unsent, ← found]
        exact .nil _ _ start
    · rw [if_neg fresh] at found
      refine (delivering.consumed r t start entry ?_ found).mono List.prefix_rfl grow
      split at started
      · rename_i unset
        rcases List.mem_append.mp started with old | new
        · exact old
        · obtain ⟨rfl, rfl, _⟩ : r = record ∧ t = topic ∧ start = sequence := by simpa using new
          exact absurd ⟨rfl, rfl, unset⟩ fresh
      · exact started
  · intro t some_
    rw [sent] at some_
    obtain ⟨r, entry, cached, found, initialized⟩ := delivering.idle t some_
    exact ⟨r, entry, record_eq.trans cached, persists.cursor r t entry found initialized, initialized⟩
  · have pending : s'.link.output.pendingFrame = s.link.output.pendingFrame := by rw [link_eq]; rfl
    rw [pending, parked]
    exact delivering.slot.mono fun _ _ _ => persists.due

/-- The writer moves the cursor of one topic of its record. -/
theorem Delivering.advance {config : RepeaterConfig} {s s' : State} (record : Nat) (topic : Topic)
    (next : Nat) (delivering : Delivering config s) (rings : Rings s') (logs : s'.logs = s.logs)
    (reads : s'.link.history.reads = s.link.history.reads)
    (starts : s'.link.history.starts = s.link.history.starts) (cached : s.record = some record)
    (record_eq : s'.record = s.record)
    (cursors : ∀ r t, s'.link.getMeta r t =
      if r = record ∧ t = topic then
        (s.link.getMeta r t).map fun _ => { nextSequence := next, initialized := true }
      else s.link.getMeta r t)
    (sent : ∀ t, t ≠ topic → s'.link.sent t = s.link.sent t)
    (was : ∃ entry, s.link.getMeta record topic = some entry ∧ entry.initialized = true)
    (moved : ∀ start entry, (record, topic, start) ∈ s.link.history.starts →
      s.link.getMeta record topic = some entry →
      Consumed (s.logs topic) (s.Excused config topic) (s'.link.sent topic) start next)
    (slot : Slot (Due config s') s'.link.output.pendingFrame s'.link.history.parked)
    (call : CallDue config s' s'.writer.call) : Delivering config s' := by
  obtain ⟨before, at_, initialized⟩ := was
  have here : s'.link.getMeta record topic = some { nextSequence := next, initialized := true } := by
    rw [cursors, if_pos ⟨rfl, rfl⟩, at_, Option.map_some]
  have grow : ∀ t q, s.Excused config t q → s'.Excused config t q := fun t q excused =>
    excused.mono (by rw [logs]) (fun _ read => by rwa [reads])
  refine ⟨rings, ?_, ?_, ?_, slot, call⟩
  · intro r t
    rw [starts]
    by_cases same : r = record ∧ t = topic
    · obtain ⟨rfl, rfl⟩ := same
      rw [here]
      exact ⟨fun _ => ⟨_, rfl, rfl⟩, fun _ => (delivering.started r t).mpr ⟨before, at_, initialized⟩⟩
    · rw [cursors, if_neg same]
      exact delivering.started r t
  · intro r t start entry started found
    rw [starts] at started
    rw [logs]
    by_cases same : r = record ∧ t = topic
    · obtain ⟨rfl, rfl⟩ := same
      rw [here, Option.some.injEq] at found
      rw [State.sentBy, record_eq, if_pos cached, ← found]
      exact (moved start before started at_).mono List.prefix_rfl (grow t)
    · rw [cursors, if_neg same] at found
      have sentBy : s'.sentBy r t = s.sentBy r t := by
        unfold State.sentBy
        rw [record_eq, cached]
        by_cases mine : r = record
        · rw [sent t fun topic_eq => same ⟨mine, topic_eq⟩]
        · rw [if_neg fun eq => mine (Option.some.inj eq).symm,
            if_neg fun eq => mine (Option.some.inj eq).symm]
      rw [sentBy]
      exact (delivering.consumed r t start entry started found).mono List.prefix_rfl (grow t)
  · intro t some_
    by_cases same : t = topic
    · subst same
      exact ⟨record, _, record_eq.trans cached, here, rfl⟩
    · rw [sent t same] at some_
      obtain ⟨r, entry, mine, found, set_⟩ := delivering.idle t some_
      exact ⟨r, entry, record_eq.trans mine, by rw [cursors, if_neg fun eq => same eq.2]; exact found, set_⟩

end MessageRepeater.Subscriber
