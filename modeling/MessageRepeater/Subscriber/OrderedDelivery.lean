import MessageRepeater.Subscriber.Delivery
import MessageRepeater.Subscriber.Framing

/-!
# Ordered delivery along a run

Every step keeps `Delivering`, and the answer to a subscribe request bounds the first cursor of each
of its topics. Together they give the delivery law of a connection with one accepted request.
-/

namespace MessageRepeater.Subscriber
open Foundation Combiner Config Connection

/-! ### The writer's steps -/

/-- What a read of the ring finds is due from then on. -/
theorem read_due {config : RepeaterConfig} {s s' : State} {record : Nat} {topic : Topic}
    {entry : ConsumeMeta} {ring : MessageCircle} {result : MessageReadResult} {body : Bytes}
    (rings : Rings s) (cached : s.record = some record)
    (found : s.link.getMeta record topic = some entry) (initialized : entry.initialized = true)
    (made : s.store.getCircle topic = some ring)
    (read : ring.read entry.nextSequence config.subscriberAlwaysSendLatest
      config.subscriberOverrunPolicy = result)
    (status : result.status = .message) (message : result.message = some body)
    (persists : Persists s s')
    (noted : { topic, consumerSequence := entry.nextSequence, result : ReadEvent } ∈
      s'.link.history.reads) :
    result.nextSequence = result.messageSequence + 1 ∧
      Due config s' topic result.messageSequence body := by
  have outcome := read_outcome (rings.holds made) entry.nextSequence
    config.subscriberAlwaysSendLatest config.subscriberOverrunPolicy
  rw [read] at outcome
  cases outcome with
  | idle => cases status
  | disconnect => cases status
  | message q overrun le _ _ _ skips _ =>
    refine ⟨rfl, ⟨record, entry, ?_, persists.cursor _ _ _ found initialized, initialized, le, ?_⟩,
      entry_kept (persists.logs topic) message⟩
    · rw [persists.record (by rw [cached]; nofun), cached]
    · intro p from_ lt
      have skipped : q ≠ entry.nextSequence := (Nat.lt_of_le_of_lt from_ lt).ne'
      exact .inr ⟨_, noted, rfl, rfl, from_, lt, skips skipped⟩

theorem Link.sent_append {link link' : Link} {more : List WireFrame}
    (frames : link'.history.frames = link.history.frames ++ more) (topic : Topic) :
    link'.sent topic = link.sent topic ++ more.filterMap (WireFrame.entry? topic) := by
  unfold Link.sent
  rw [frames, List.filterMap_append]

/-- The steps of a writer that neither move a cursor nor complete a frame. -/
theorem Delivering.still {config : RepeaterConfig} {s s' : State} (delivering : Delivering config s)
    (frame : WriterFrame s s') (record_eq : s'.record = s.record)
    (records : s'.link.records = s.link.records)
    (starts : s'.link.history.starts = s.link.history.starts)
    (frames : s'.link.history.frames = s.link.history.frames)
    (reads : s.link.history.reads ⊆ s'.link.history.reads)
    (slot : Persists s s' →
      Slot (Due config s') s'.link.output.pendingFrame s'.link.history.parked)
    (call : Persists s s' → CallDue config s' s'.writer.call) : Delivering config s' := by
  have cursors : ∀ r t, s'.link.getMeta r t = s.link.getMeta r t := fun r t => by
    unfold Link.getMeta
    rw [records]
  have persists : Persists s s' :=
    ⟨fun t => by rw [frame.logs], reads, fun _ => record_eq,
      fun r t entry found _ => (cursors r t).trans found⟩
  exact delivering.same (delivering.rings.congr frame.store frame.logs) persists cursors starts frames
    record_eq (slot persists) (call persists)

theorem Delivering.sameSlot {config : RepeaterConfig} {s s' : State} (delivering : Delivering config s)
    (frame : WriterFrame s s') (record_eq : s'.record = s.record)
    (records : s'.link.records = s.link.records)
    (starts : s'.link.history.starts = s.link.history.starts)
    (frames : s'.link.history.frames = s.link.history.frames)
    (reads : s.link.history.reads ⊆ s'.link.history.reads)
    (pending : s'.link.output.pendingFrame = s.link.output.pendingFrame)
    (parked : s'.link.history.parked = s.link.history.parked)
    (call : Persists s s' → CallDue config s' s'.writer.call) : Delivering config s' := by
  refine delivering.still frame record_eq records starts frames reads (fun persists => ?_) call
  rw [pending, parked]
  exact delivering.slot.mono fun _ _ _ => persists.due

theorem Delivering.sameLink {config : RepeaterConfig} {s s' : State} (delivering : Delivering config s)
    (frame : WriterFrame s s') (record_eq : s'.record = s.record) (link_eq : s'.link = s.link)
    (call : CallDue config s' s'.writer.call) : Delivering config s' := by
  refine delivering.sameSlot frame record_eq ?_ ?_ ?_ (fun _ read => by rwa [link_eq]) ?_ ?_ fun _ => call
  all_goals rw [link_eq]

/-- The cursor of the writer's record passes a message that is due. -/
theorem Delivering.consume {config : RepeaterConfig} {s s' : State} {record : Nat} {topic : Topic}
    {sequence : Nat} {body : Bytes} (more : List WireFrame) (delivering : Delivering config s)
    (frame : WriterFrame s s') (cached : s.record = some record) (record_eq : s'.record = s.record)
    (due : Due config s topic sequence body)
    (records : s'.link.records = (s.link.updateSequence record topic (sequence + 1)).records)
    (reads : s'.link.history.reads = s.link.history.reads)
    (starts : s'.link.history.starts = s.link.history.starts)
    (frames : s'.link.history.frames = s.link.history.frames ++ more)
    (sends : more = [.business topic sequence body] ∨ more = [] ∧ body = [])
    (slot : Slot (Due config s') s'.link.output.pendingFrame s'.link.history.parked)
    (call : CallDue config s' s'.writer.call) : Delivering config s' := by
  obtain ⟨r, entry, mine, found, initialized, le, between⟩ := due.entry
  obtain rfl : record = r := Option.some.inj (cached.symm.trans mine)
  have sent := Link.sent_append frames
  refine delivering.advance record topic (sequence + 1)
    (delivering.rings.congr frame.store frame.logs) frame.logs reads starts cached record_eq ?_ ?_
    ⟨entry, found, initialized⟩ ?_ slot call
  · intro r t
    rw [← s.link.updateSequence_getMeta record topic (sequence + 1) r t]
    unfold Link.getMeta
    rw [records]
  · intro t other
    rw [sent]
    rcases sends with rfl | ⟨rfl, _⟩
    · simp [WireFrame.entry?, Ne.symm other]
    · simp
  · intro start before started at_
    obtain rfl : entry = before := Option.some.inj (found.symm.trans at_)
    have consumed := delivering.consumed record topic start entry started found
    rw [State.sentBy, if_pos cached] at consumed
    have reached := consumed.skip le between
    rw [sent]
    rcases sends with rfl | ⟨rfl, rfl⟩
    · simpa [WireFrame.entry?] using reached.send due.body
    · simp only [List.filterMap_nil, List.append_nil]
      refine reached.skip (Nat.le_succ sequence) ?_
      intro q from_ lt
      obtain rfl : q = sequence := by omega
      exact .inl due.body

theorem Slot.of_none {Due Due' : Topic → Nat → Bytes → Prop} {pending : Option PendingSubscriberFrame}
    {parked : Option WireFrame} (slot : Slot Due pending parked) (none_ : pending = none) :
    Slot Due' pending parked := by
  cases slot with
  | empty => exact .empty
  | control | business => cases none_

theorem FlushMove.delivering {config : RepeaterConfig} {s s' : State} {pc : FlushPc} {link : Link}
    {control : Control FlushPc (PendingWriteStatus × Topic)}
    (moved : FlushMove s.link s.record pc link control) (delivering : Delivering config s)
    (frame : WriterFrame s s') (link_eq : s'.link = link) (record_eq : s'.record = s.record)
    (call : CallDue config s' s'.writer.call) : Delivering config s' := by
  cases moved with
  | resume | idle | sent | again | blocked | orphan =>
    exact delivering.sameLink frame record_eq link_eq call
  | failed =>
    exact delivering.sameSlot frame record_eq (by rw [link_eq]; rfl) (by rw [link_eq]; rfl)
      (by rw [link_eq]; rfl) (fun _ read => by rwa [link_eq]) (by rw [link_eq]; rfl)
      (by rw [link_eq]; rfl) fun _ => call
  | next pending queue =>
    refine delivering.still frame record_eq (by rw [link_eq]; rfl) (by rw [link_eq]; rfl)
      (by rw [link_eq]; rfl) (fun _ read => by rwa [link_eq]) (fun _ => ?_) fun _ => call
    rw [link_eq]
    exact .control rfl
  | @accept held count pending within =>
    refine delivering.still frame record_eq (by rw [link_eq]; rfl) (by rw [link_eq]; rfl)
      (by rw [link_eq]; rfl) (fun _ read => by rwa [link_eq]) (fun persists => ?_) fun _ => call
    rw [link_eq]
    have slot := delivering.slot.mono fun _ _ _ => persists.due
    rw [pending] at slot
    show Slot (Due config s') (some { held with offset := held.offset + count }) s.link.history.parked
    generalize s.link.history.parked = parked at slot
    cases slot with
    | control stays => exact .control stays
    | business advances next due =>
      exact @Slot.business _ { held with offset := held.offset + count } _ _ advances next due
  | @business held r pending advances cached =>
    have slot := delivering.slot
    rw [pending] at slot
    obtain ⟨sequence, body, parked, next, due⟩ := slot.advancing advances
    refine delivering.consume [.business held.topic sequence body] frame cached record_eq
      due ?_ ?_ ?_ ?_ (.inl rfl) ?_ call
    · rw [link_eq, ← next]; rfl
    · rw [link_eq]; rfl
    · rw [link_eq]; rfl
    · rw [link_eq]
      simp [Link.reset, parked]
    · rw [link_eq]
      exact .empty
  | @control held pending stays =>
    have slot := delivering.slot
    rw [pending] at slot
    obtain ⟨data, parked⟩ := slot.staying stays
    have frames : s'.link.history.frames = s.link.history.frames ++ [.control data] := by
      rw [link_eq]
      simp [Link.reset, parked]
    have sent : ∀ t, s'.link.sent t = s.link.sent t := fun t => by
      rw [Link.sent_append frames]
      simp [WireFrame.entry?]
    refine ⟨delivering.rings.congr frame.store frame.logs, ?_, ?_, ?_, ?_, call⟩
    · rw [link_eq]
      exact delivering.started
    · intro r t start entry started found
      rw [link_eq] at started found
      have consumed := delivering.consumed r t start entry started found
      have sentBy : s'.sentBy r t = s.sentBy r t := by unfold State.sentBy; rw [record_eq, sent]
      rw [sentBy, frame.logs]
      exact consumed.mono List.prefix_rfl fun q excused =>
        excused.mono (by rw [frame.logs]) (fun _ read => by rwa [link_eq])
    · intro t some_
      rw [sent] at some_
      rw [record_eq, link_eq]
      exact delivering.idle t some_
    · rw [link_eq]
      exact .empty

theorem afterFlush_due {config : RepeaterConfig} {s : State}
    {control : Control FlushPc (PendingWriteStatus × Topic)} {call : Call}
    (next : call.AfterFlush control) : CallDue config s call := by
  rcases control with pc | ⟨status, completed⟩
  · simp only [Call.AfterFlush] at next
    rw [next]
    trivial
  · exact next.1.due

theorem afterDeliver_flush_due {config : RepeaterConfig} {s : State} {topic : Topic}
    {control : Control FlushPc (PendingWriteStatus × Topic)} {call : Call}
    (next : call.AfterDeliver topic (DeliverPc.afterFlush control)) : CallDue config s call := by
  rcases control with pc | ⟨status, completed⟩
  · simp only [DeliverPc.afterFlush, Call.AfterDeliver] at next
    rw [next]
    trivial
  · cases status <;> exact next.1.due

theorem DeliverMove.delivering {config : RepeaterConfig} {s s' : State} {record : Nat}
    {topic : Topic} {pc : DeliverPc} {link : Link} {control : Control DeliverPc TopicDeliveryStatus}
    (moved : DeliverMove config s.store s.link record topic pc link control)
    (delivering : Delivering config s) (at_ : s.writer.call = .deliver topic pc)
    (slotAt : SlotAt s.link s.writer.call) (cached : s.record = some record)
    (frame : WriterFrame s s') (link_eq : s'.link = link) (record_eq : s'.record = s.record)
    (next : s'.writer.call.AfterDeliver topic control) : Delivering config s' := by
  have call := delivering.call
  rw [at_] at call slotAt
  cases moved with
  | busy | absent =>
    exact delivering.sameLink frame record_eq link_eq next.1.due
  | entry pending found initialized =>
    refine delivering.sameLink frame record_eq link_eq ?_
    simp only [Call.AfterDeliver] at next
    rw [next]
    exact ⟨record, record_eq.trans cached, by rw [link_eq]; exact found, initialized⟩
  | fresh | circleMeta =>
    refine delivering.sameLink frame record_eq link_eq ?_
    simp only [Call.AfterDeliver] at next
    rw [next]
    trivial
  | initializeTopic sequence =>
    exact delivering.initializeTopic (delivering.rings.congr frame.store frame.logs) frame.logs
      record_eq link_eq fun _ => next.1.due
  | disconnect | nothing =>
    exact delivering.sameSlot frame record_eq (by rw [link_eq]; rfl) (by rw [link_eq]; rfl)
      (by rw [link_eq]; rfl) (fun _ read => by rw [link_eq]; exact List.mem_append_left _ read)
      (by rw [link_eq]; rfl) (by rw [link_eq]; rfl) fun _ => next.1.due
  | @empty entry ring result made read status body =>
    obtain ⟨r, mine, found, initialized⟩ := call
    obtain rfl : record = r := Option.some.inj (cached.symm.trans mine)
    have noted : { topic, consumerSequence := entry.nextSequence, result : ReadEvent } ∈
        s'.link.history.reads := by
      rw [link_eq]
      exact List.mem_append_right _ (List.mem_singleton_self _)
    refine delivering.sameSlot frame record_eq (by rw [link_eq]; rfl) (by rw [link_eq]; rfl)
      (by rw [link_eq]; rfl) (fun _ read => by rw [link_eq]; exact List.mem_append_left _ read)
      (by rw [link_eq]; rfl) (by rw [link_eq]; rfl) fun persists => ?_
    simp only [Call.AfterDeliver] at next
    rw [next]
    obtain ⟨follows, due⟩ := read_due delivering.rings cached found initialized made read status body
      persists noted
    exact ⟨result.messageSequence, follows, due⟩
  | @park entry ring result body made read status message nonempty =>
    obtain ⟨r, mine, found, initialized⟩ := call
    obtain rfl : record = r := Option.some.inj (cached.symm.trans mine)
    have noted : { topic, consumerSequence := entry.nextSequence, result : ReadEvent } ∈
        s'.link.history.reads := by
      rw [link_eq]
      exact List.mem_append_right _ (List.mem_singleton_self _)
    refine delivering.still frame record_eq (by rw [link_eq]; rfl) (by rw [link_eq]; rfl)
      (by rw [link_eq]; rfl) (fun _ read => by rw [link_eq]; exact List.mem_append_left _ read)
      (fun persists => ?_) fun _ => ?_
    · obtain ⟨follows, due⟩ := read_due delivering.rings cached found initialized made read status
        message persists noted
      rw [link_eq]
      let frame : PendingSubscriberFrame :=
        { data := encodeSocketFrame topic body
          advancesSequence := true
          topic
          nextSequence := result.nextSequence }
      exact @Slot.business _ frame _ _ rfl follows due
    · simp only [Call.AfterDeliver] at next
      rw [next]
      trivial
  | updateEmpty sequence =>
    obtain ⟨q, follows, due⟩ := call
    refine delivering.consume [] frame cached record_eq due ?_ ?_ ?_ ?_ (.inr ⟨rfl, rfl⟩) ?_
      next.1.due
    · rw [link_eq, follows]
    · rw [link_eq]; rfl
    · rw [link_eq]; rfl
    · rw [link_eq, List.append_nil]; rfl
    · rw [link_eq]
      exact delivering.slot.of_none slotAt
  | flush moved =>
    rw [← cached] at moved
    exact moved.delivering delivering frame link_eq record_eq (afterDeliver_flush_due next)

theorem WriterMove.delivering {d : Deployment} {s s' : State} (moved : WriterMove d s s')
    (frame : WriterFrame s s') (sound : Sound s) (delivering : Delivering d.config s) :
    Delivering d.config s' := by
  have slotAt := sound.slot
  cases moved with
  | flush at_ move link_eq record_eq next =>
    exact move.delivering delivering frame link_eq record_eq (afterFlush_due next)
  | deliver at_ cached move link_eq record_eq next =>
    exact move.delivering delivering at_ slotAt cached frame link_eq record_eq next
  | test at_ link_eq uncached _ record_eq next =>
    refine delivering.sameLink frame record_eq link_eq ?_
    rw [next]
    exact record_eq.trans uncached
  | cache at_ link_eq record_eq next =>
    have uncached := delivering.call
    rw [at_] at uncached
    have unsent : ∀ t, s.link.sent t = [] := by
      intro t
      by_contra sent
      obtain ⟨r, _, cached, _⟩ := delivering.idle t sent
      cases uncached.symm.trans cached
    have persists : Persists s s' :=
      ⟨fun t => by rw [frame.logs], fun _ read => by rwa [link_eq], fun held => absurd uncached held,
        fun r t entry found _ => by rw [link_eq]; exact found⟩
    refine ⟨delivering.rings.congr frame.store frame.logs, ?_, ?_, ?_, ?_, next.due⟩
    · rw [link_eq]
      exact delivering.started
    · intro r t start entry started found
      rw [link_eq] at started found
      have consumed := delivering.consumed r t start entry started found
      have mine : s.sentBy r t = [] := by unfold State.sentBy; rw [unsent]; split <;> rfl
      have later : s'.sentBy r t = [] := by unfold State.sentBy; rw [link_eq, unsent]; split <;> rfl
      rw [later, ← mine]
      exact consumed.mono (persists.logs t) fun q => persists.excused
    · intro t some_
      rw [link_eq] at some_
      exact absurd (unsent t) some_
    · rw [link_eq]
      exact delivering.slot.mono fun _ _ _ => persists.due
  | other at_ link_eq record_eq next =>
    exact delivering.sameLink frame record_eq link_eq next.due
  | close at_ link_eq record_eq next =>
    refine delivering.sameLink frame record_eq link_eq ?_
    rw [next]
    trivial

/-! ### The other threads' steps -/

theorem Link.getMeta_fresh (link : Link) (t : Topic) : link.getMeta link.records.length t = none := by
  unfold Link.getMeta
  rw [List.getElem?_eq_none (Nat.le_refl _)]
  rfl

theorem ReaderMove.delivering {config : RepeaterConfig} {s s' : State} (moved : ReaderMove s s')
    (record_eq : s'.record = s.record) (writer_eq : s'.writer = s.writer)
    (store : s'.store = s.store) (logs : s'.logs = s.logs) (delivering : Delivering config s) :
    Delivering config s' := by
  have rings := delivering.rings.congr store logs
  cases moved with
  | same link_eq =>
    have persists : Persists s s' :=
      ⟨fun t => by rw [logs], fun _ read => by rwa [link_eq], fun _ => record_eq,
        fun r t entry found _ => by rw [link_eq]; exact found⟩
    refine delivering.same rings persists (fun r t => by rw [link_eq]) (by rw [link_eq])
      (by rw [link_eq]) record_eq ?_ ?_
    · rw [link_eq]
      exact delivering.slot.mono fun _ _ _ => persists.due
    · rw [writer_eq]
      exact persists.callDue record_eq delivering.call
  | enqueue at_ pushed link_eq =>
    cases Link.enqueueControlFrame_some pushed
    have persists : Persists s s' :=
      ⟨fun t => by rw [logs], fun _ read => by rw [link_eq]; exact read, fun _ => record_eq,
        fun r t entry found _ => by rw [link_eq]; exact found⟩
    refine delivering.same rings persists (fun r t => by rw [link_eq]; rfl) (by rw [link_eq]; rfl)
      (by rw [link_eq]; rfl) record_eq ?_ ?_
    · rw [link_eq]
      exact delivering.slot.mono fun _ _ _ => persists.due
    · rw [writer_eq]
      exact persists.callDue record_eq delivering.call
  | @create topics order at_ link_eq =>
    have old : ∀ r t entry, s.link.getMeta r t = some entry → s'.link.getMeta r t = some entry := by
      intro r t entry found
      rw [link_eq, Link.createRecord_getMeta, if_neg, found]
      rintro rfl
      rw [Link.getMeta_fresh] at found
      cases found
    have fresh : ∀ r t entry, s'.link.getMeta r t = some entry →
        entry.initialized = true ∨ (∃ start, (r, t, start) ∈ s.link.history.starts) →
        s.link.getMeta r t = some entry := by
      intro r t entry found set_
      rw [link_eq, Link.createRecord_getMeta] at found
      split at found
      · rename_i last
        subst last
        rcases set_ with initialized | started
        · split at found <;> cases found
          cases initialized
        · obtain ⟨held, at_, _⟩ := (delivering.started _ _).mp started
          rw [Link.getMeta_fresh] at at_
          cases at_
      · exact found
    have persists : Persists s s' :=
      ⟨fun t => by rw [logs], fun _ read => by rw [link_eq]; exact read, fun _ => record_eq,
        fun r t entry found _ => old r t entry found⟩
    have starts : s'.link.history.starts = s.link.history.starts := by rw [link_eq]; rfl
    have sent : ∀ t, s'.link.sent t = s.link.sent t := fun t => by rw [link_eq]; rfl
    refine ⟨rings, ?_, ?_, ?_, ?_, ?_⟩
    · intro r t
      rw [starts, delivering.started r t]
      constructor
      · rintro ⟨entry, found, initialized⟩
        exact ⟨entry, old r t entry found, initialized⟩
      · rintro ⟨entry, found, initialized⟩
        exact ⟨entry, fresh r t entry found (.inl initialized), initialized⟩
    · intro r t start entry started found
      rw [starts] at started
      have sentBy : s'.sentBy r t = s.sentBy r t := by unfold State.sentBy; rw [record_eq, sent]
      have consumed := delivering.consumed r t start entry started
        (fresh r t entry found (.inr ⟨start, started⟩))
      rw [sentBy]
      exact consumed.mono (persists.logs t) fun q => persists.excused
    · intro t some_
      rw [sent] at some_
      obtain ⟨r, entry, cached, found, initialized⟩ := delivering.idle t some_
      exact ⟨r, entry, record_eq.trans cached, old r t entry found, initialized⟩
    · rw [link_eq]
      exact delivering.slot.mono fun _ _ _ => persists.due
    · rw [writer_eq]
      exact persists.callDue record_eq delivering.call
  | initializeTopic at_ link_eq =>
    refine delivering.initializeTopic rings logs record_eq link_eq fun persists => ?_
    rw [writer_eq]
    exact persists.callDue record_eq delivering.call

theorem OutputFrame.delivering {config : RepeaterConfig} {s s' : State} (frame : OutputFrame s s')
    (rings : Rings s') (logs : ∀ t, s.logs t <+: s'.logs t) (delivering : Delivering config s) :
    Delivering config s' := by
  have persists : Persists s s' :=
    ⟨logs, fun _ read => by rwa [frame.link], fun _ => frame.record,
      fun r t entry found _ => by rw [frame.link]; exact found⟩
  refine delivering.same rings persists (fun r t => by rw [frame.link]) (by rw [frame.link])
    (by rw [frame.link]) frame.record ?_ ?_
  · rw [frame.link]
    exact delivering.slot.mono fun _ _ _ => persists.due
  · rw [frame.call]
    exact persists.callDue frame.record delivering.call

theorem step_delivering {d : Deployment} {s s' : State} {action : Action} (sound : Sound s)
    (delivering : Delivering d.config s) (taken : step d s action = some s') :
    Delivering d.config s' := by
  obtain ⟨rings, logs⟩ := step_rings delivering.rings taken
  cases action with
  | writer outcome =>
    exact (writerStep_move taken).delivering (writerStep_frame taken) sound delivering
  | reader input =>
    obtain ⟨move, record_eq, writer_eq, store, same⟩ := readerStep_move taken
    exact move.delivering record_eq writer_eq store same delivering
  | _ =>
    have frame := step_frame (by simp) (by simp) taken
    exact frame.delivering rings logs delivering

theorem initial_delivering (d : Deployment) : Delivering d.config (initial d) := by
  refine ⟨initial_rings d, ?_, nofun, ?_, .empty, ?_⟩
  · simp [initial, Link.getMeta]
  · simp [initial, Link.sent]
  · unfold initial
    dsimp only
    split <;> trivial

theorem reachable_delivering {d : Deployment} {s : State} (run : Run (step d) Free (initial d) s) :
    Delivering d.config s :=
  run.keeps_under (fun _ => reachable_sound) (initial_delivering d)
    fun _ _ _ sound delivering _ taken => step_delivering sound delivering taken

end MessageRepeater.Subscriber
