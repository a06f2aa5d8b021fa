import MessageRepeater.Subscriber.Framing
import MessageRepeater.Subscriber.Delivery

/-!
# Cursors move with the last byte

`deliverTopic` and `flushPendingFrame` as calls on one connection, in any order and with any outcome
of `send`, while other threads append messages, queue control frames and set first cursors.
-/

namespace MessageRepeater.Subscriber
open Foundation Combiner Config Connection

/-- What a call has returned. -/
inductive CallResult where
  | flush (status : PendingWriteStatus)
  | deliver (status : TopicDeliveryStatus)
  deriving DecidableEq, Repr

/-- The connection with at most one call in progress. `entered` is the link as the last call found it,
and `record` is the writer's, which it caches once and then gives to every call. -/
structure Calls where
  store : MessageCircleComposite
  link : Link := {}
  record : Option Nat := none
  call : Call := .outside
  entered : Link := {}
  returned : Option CallResult := none

/-- `run` is the next step of the call in progress; the actions from `create` on are other threads'. -/
inductive CallAction where
  | flush
  | deliver (topic : Topic)
  | run (outcome : CallOutcome)
  | cache (record : Nat)
  | create (topic : Topic) (circleMaxSize : Int)
  | append (topic : Topic) (message : Bytes)
  | enqueueControlFrame (topic message : Bytes)
  | createRecord (topics order : List Topic)
  | initializeTopic (record : Nat) (topic : Topic) (sequence : Nat)
  deriving DecidableEq, Repr

def Calls.enter (s : Calls) (call : Call) : Calls :=
  { s with call, entered := s.link, returned := none }

def Calls.afterFlush (s : Calls) : Control FlushPc (PendingWriteStatus × Topic) → Calls
  | .goto pc => { s with call := .flush pc }
  | .ret (status, _) => { s with call := .outside, returned := some (.flush status) }

def Calls.afterDeliver (s : Calls) (topic : Topic) : Control DeliverPc TopicDeliveryStatus → Calls
  | .goto pc => { s with call := .deliver topic pc }
  | .ret status => { s with call := .outside, returned := some (.deliver status) }

/-- Both writers call `deliverTopic` only with a record and with the ring of the topic. -/
def Calls.step (config : RepeaterConfig) (s : Calls) : CallAction → Option Calls
  | .flush => if s.call = .outside then some (s.enter (.flush .take)) else none
  | .deliver topic =>
    if s.call = .outside ∧ s.record.isSome ∧ (s.store.getCircle topic).isSome then
      some (s.enter (.deliver topic .getMeta))
    else none
  | .run outcome =>
    match s.call with
    | .flush pc =>
      match flushStep s.link s.record outcome pc with
      | none => none
      | some (link, control) => some ({ s with link }.afterFlush control)
    | .deliver topic pc =>
      match s.record with
      | none => none
      | some record =>
        match deliverStep config s.store s.link record topic outcome pc with
        | none => none
        | some (link, control) => some ({ s with link }.afterDeliver topic control)
    | _ => none
  | .cache record =>
    if s.call = .outside ∧ s.record = none then some { s with record := some record } else none
  | .create topic circleMaxSize =>
    match s.store.createCircleIfAbsent topic circleMaxSize with
    | .error _ => none
    | .ok (_, store) => some { s with store }
  | .append topic message =>
    match s.store.appendMessageToCircle topic message with
    | .error _ => none
    | .ok (_, store) => some { s with store }
  | .enqueueControlFrame topic message =>
    match s.link.enqueueControlFrame topic message with
    | none => none
    | some link => some { s with link }
  | .createRecord topics order => some { s with link := s.link.createRecord topics order }
  | .initializeTopic record topic sequence =>
    some { s with link := s.link.initializeTopic record topic sequence }

/-- A step inside a call is one of `flushPendingFrame`'s or one of `deliverTopic`'s. -/
theorem Calls.step_run {config : RepeaterConfig} {s s' : Calls} {outcome : CallOutcome}
    (taken : s.step config (.run outcome) = some s') :
    (∃ pc link control, s.call = .flush pc ∧
      flushStep s.link s.record outcome pc = some (link, control) ∧
      s' = { s with link }.afterFlush control) ∨
    ∃ topic pc record link control, s.call = .deliver topic pc ∧ s.record = some record ∧
      deliverStep config s.store s.link record topic outcome pc = some (link, control) ∧
      s' = { s with link }.afterDeliver topic control := by
  simp only [Calls.step] at taken
  split at taken
  · rename_i pc at_
    split at taken <;> cases taken
    exact .inl ⟨pc, _, _, at_, ‹_›, rfl⟩
  · rename_i topic pc at_
    split at taken
    · cases taken
    · rename_i record cached
      split at taken <;> cases taken
      exact .inr ⟨topic, pc, record, _, _, at_, cached, ‹_›, rfl⟩
  · cases taken

/-! ### When a cursor may move -/

/-- The last read was one of `topic`, found `body` and computed `nextSequence`. -/
def Link.LastRead (link : Link) (topic : Topic) (body : Bytes) (nextSequence : Nat) : Prop :=
  ∃ event, link.history.reads.getLast? = some event ∧ event.topic = topic ∧
    event.result.message = some body ∧ event.result.nextSequence = nextSequence

/-- Why the cursor of `t` in record `r` moves from `entry` to `entry'`. -/
inductive CursorMove (s s' : Calls) (r : Nat) (t : Topic) (entry entry' : ConsumeMeta) : Prop where
  /-- The frame that the last read parked is complete, and its last byte was accepted in this call. -/
  | commit {frame body}
      (at_ : s.call = .flush .commit ∨ ∃ topic, s.call = .deliver topic (.flush .commit))
      (mine : s.record = some r) (pending : s.link.output.pendingFrame = some frame)
      (advances : frame.advancesSequence = true) (same : frame.topic = t)
      (data : frame.data = encodeSocketFrame t body)
      (read : s.link.LastRead t body frame.nextSequence)
      (wire : s.link.history.wire = (s.link.history.frames.map WireFrame.image).flatten ++ frame.data)
      (here : s.entered.history.wire.length < s.link.history.wire.length)
      (moved : entry' = { nextSequence := frame.nextSequence, initialized := true })
      (done : s'.returned = some (.flush .complete) ∨ s'.returned = some (.deliver .delivered))
  | empty {nextSequence} (at_ : s.call = .deliver t (.updateEmpty nextSequence))
      (mine : s.record = some r) (read : s.link.LastRead t [] nextSequence)
      (moved : entry' = { nextSequence, initialized := true })
      (done : s'.returned = some (.deliver .delivered))
  | first (uninitialized : entry.initialized = false) (set : entry'.initialized = true)
      (done : s'.call = s.call ∨ s'.returned = some (.deliver .noMessage))

/-- The call has returned `WouldBlock`, a write error or a `Disconnect`. -/
def CallResult.Stopped : CallResult → Prop
  | .flush .wouldBlock | .flush .error | .deliver .wouldBlock | .deliver .disconnect => True
  | _ => False

/-- Every cursor that was set is where it was. -/
def Unmoved (link link' : Link) : Prop :=
  ∀ r t entry, link.getMeta r t = some entry → entry.initialized = true →
    link'.getMeta r t = some entry

/-- The frame is still pending, with its data and no less of it sent, or it went out whole; the wire
goes on from the frame's offset either way. -/
def Resumed (link link' : Link) (frame : PendingSubscriberFrame) : Prop :=
  (∃ offset, frame.offset ≤ offset ∧ link'.output.pendingFrame = some { frame with offset } ∧
    link'.history.frames = link.history.frames ∧ link'.history.parked = link.history.parked ∧
    link'.history.wire = link.history.wire ++ (frame.data.drop frame.offset).take (offset - frame.offset)) ∨
  ∃ more, link'.history.wire = link.history.wire ++ frame.data.drop frame.offset ++ more ∧
    link.history.frames ++ link.history.parked.toList <+: link'.history.frames

/-! ### The invariant -/

/-- The next instruction of the call is in the loop of `sendSocketFrameNonBlocking` or behind it. -/
def Call.Sending : Call → Prop
  | .flush .send | .flush .commit | .deliver _ (.flush .send) | .deliver _ (.flush .commit) => True
  | _ => False

/-- A pending business frame is what the last read has parked. -/
structure Sourced (link : Link) (record : Option Nat) : Prop where
  owned : ∀ frame, link.output.pendingFrame = some frame → frame.advancesSequence = true → record ≠ none
  read : ∀ frame, link.output.pendingFrame = some frame → frame.advancesSequence = true →
    ∃ body, frame.data = encodeSocketFrame frame.topic body ∧
      link.LastRead frame.topic body frame.nextSequence

/-- A frame whose bytes are all sent is pending only in the call that has sent the last of them. -/
structure Progress (link entered : Link) (call : Call) : Prop where
  grown : entered.history.wire.length ≤ link.history.wire.length
  sent : ∀ frame, link.output.pendingFrame = some frame → frame.data.length ≤ frame.offset →
    call.Sending ∧ entered.history.wire.length < link.history.wire.length

structure CallsSound (s : Calls) : Prop where
  framed : Framed s.link
  slot : SlotAt s.link s.call
  sourced : Sourced s.link s.record
  empty : ∀ t nextSequence, s.call = .deliver t (.updateEmpty nextSequence) →
    s.link.LastRead t [] nextSequence
  progress : Progress s.link s.entered s.call
  kept : s.call ≠ .outside ∨ (∃ result, s.returned = some result ∧ result.Stopped) →
    Unmoved s.entered s.link

theorem Unmoved.refl (link : Link) : Unmoved link link := fun _ _ _ found _ => found

theorem Unmoved.trans {link middle last : Link} (first : Unmoved link middle)
    (second : Unmoved middle last) : Unmoved link last :=
  fun r t entry found set => second r t entry (first r t entry found set) set

theorem Unmoved.of_records {link link' : Link} (records : link'.records = link.records) :
    Unmoved link link' := by
  intro r t entry found _
  rw [Link.getMeta, records]
  exact found

theorem Unmoved.initializeTopic (link : Link) (record : Nat) (topic : Topic) (sequence : Nat) :
    Unmoved link (link.initializeTopic record topic sequence) := by
  intro r t entry found set
  rw [Link.initializeTopic_getMeta]
  split
  · rename_i here
    obtain ⟨rfl, rfl, fresh⟩ := here
    rw [found, Option.map_some, set] at fresh
    cases fresh
  · exact found

theorem Sourced.congr {link link' : Link} {record : Option Nat} (sourced : Sourced link record)
    (pending : link'.output.pendingFrame = link.output.pendingFrame)
    (reads : link'.history.reads = link.history.reads) : Sourced link' record := by
  refine ⟨by rw [pending]; exact sourced.owned, fun frame held advances => ?_⟩
  obtain ⟨body, data, event, last, rest⟩ := sourced.read frame (pending ▸ held) advances
  exact ⟨body, data, event, reads ▸ last, rest⟩

theorem Sourced.of_none {link : Link} {record : Option Nat} (pending : link.output.pendingFrame = none) :
    Sourced link record := by
  constructor <;> rw [pending] <;> nofun

theorem Progress.congr {link link' entered : Link} {call : Call} (progress : Progress link entered call)
    (pending : link'.output.pendingFrame = link.output.pendingFrame)
    (wire : link'.history.wire = link.history.wire) : Progress link' entered call := by
  constructor
  · rw [wire]
    exact progress.grown
  · rw [pending, wire]
    exact progress.sent

theorem encoded_unsent {topic message : Bytes} : ¬ (encodeSocketFrame topic message).length ≤ 0 := by
  rw [encodeSocketFrame_length]
  omega

/-! ### flushPendingFrame -/

/-- `send` leaves the function early only with bytes still to send. -/
theorem flushStep_unsent {link link' : Link} {record : Option Nat} {outcome : CallOutcome}
    {status : PendingWriteStatus} {topic : Topic}
    (taken : flushStep link record outcome .send = some (link', .ret (status, topic))) :
    ∃ frame, link.output.pendingFrame = some frame ∧ frame.offset < frame.data.length := by
  simp only [flushStep] at taken
  split at taken
  · cases taken
  · rename_i frame pending
    refine ⟨frame, pending, ?_⟩
    split at taken
    · cases taken
    · omega

/-- What a step of `flushPendingFrame` keeps of the account of the pending frame. -/
structure FlushKeeps (link link' entered : Link) (record : Option Nat)
    (control : Control FlushPc (PendingWriteStatus × Topic)) (call : FlushPc → Call) : Prop where
  sourced : Sourced link' record
  going : ∀ pc, control = .goto pc → Progress link' entered (call pc)
  back : ∀ result, control = .ret result → Progress link' entered .outside

theorem Progress.unsent {link entered : Link} {call : Call}
    (grown : entered.history.wire.length ≤ link.history.wire.length)
    (unsent : ∀ frame, link.output.pendingFrame = some frame → frame.offset < frame.data.length) :
    Progress link entered call :=
  ⟨grown, fun frame pending full => absurd (unsent frame pending) (by omega)⟩

theorem flushStep_keeps {link link' entered : Link} {record : Option Nat} {outcome : CallOutcome}
    {pc : FlushPc} {control : Control FlushPc (PendingWriteStatus × Topic)} (call : FlushPc → Call)
    (sending : ∀ inner, (call inner).Sending ↔ inner ≠ .take) (framed : Framed link)
    (sourced : Sourced link record) (progress : Progress link entered (call pc))
    (taken : flushStep link record outcome pc = some (link', control)) :
    FlushKeeps link link' entered record control call := by
  have moved := flushStep_move taken
  cases moved with
  | @resume frame pending =>
    have unsent : ∀ frame, link.output.pendingFrame = some frame → frame.offset < frame.data.length := by
      intro frame pending
      by_contra full
      exact (sending .take).mp (progress.sent frame pending (by omega)).1 rfl
    exact ⟨sourced, fun _ _ => .unsent progress.grown unsent, by simp⟩
  | idle pending =>
    exact ⟨sourced, by simp, fun _ _ => .unsent progress.grown (by rw [pending]; simp)⟩
  | @next data rest pending queue =>
    obtain ⟨topic, message, image⟩ := framed.encoded data (by
      rw [← framed.controls, queue]
      simp)
    refine ⟨⟨?_, ?_⟩, fun _ _ => .unsent progress.grown ?_, by simp⟩
    · rintro frame ⟨⟩
      rintro ⟨⟩
    · rintro frame ⟨⟩
      rintro ⟨⟩
    · rintro frame ⟨⟩
      subst image
      exact Nat.lt_of_not_le encoded_unsent
  | @sent frame pending whole =>
    refine ⟨sourced, ?_, by simp⟩
    rintro inner ⟨⟩
    exact ⟨progress.grown, fun frame held full =>
      ⟨(sending .commit).mpr (by simp), (progress.sent frame held full).2⟩⟩
  | @accept frame count pending within =>
    refine ⟨⟨?_, ?_⟩, ?_, by simp⟩
    · rintro frame' ⟨⟩
      exact sourced.owned frame pending
    · rintro frame' ⟨⟩
      exact sourced.read frame pending
    · rintro inner ⟨⟩
      have more : (link.accept frame count).history.wire.length = link.history.wire.length + count := by
        simp only [Link.accept, List.length_append, List.length_take, List.length_drop]
        omega
      have grown := progress.grown
      refine ⟨by omega, ?_⟩
      rintro frame' ⟨⟩ full
      refine ⟨(sending .send).mpr (by simp), ?_⟩
      by_cases before : frame.data.length ≤ frame.offset
      · have := (progress.sent frame pending before).2
        omega
      · dsimp only at full
        omega
  | again =>
    refine ⟨sourced, ?_, by simp⟩
    rintro inner ⟨⟩
    exact progress
  | blocked =>
    refine ⟨sourced, by simp, fun _ _ => .unsent progress.grown ?_⟩
    obtain ⟨frame, pending, short⟩ := flushStep_unsent taken
    rw [pending]
    rintro _ ⟨⟩
    exact short
  | failed =>
    refine ⟨sourced.congr rfl rfl, by simp, fun _ _ => .unsent progress.grown ?_⟩
    obtain ⟨frame, pending, short⟩ := flushStep_unsent taken
    change ∀ frame, link.output.pendingFrame = some frame → _
    rw [pending]
    rintro _ ⟨⟩
    exact short
  | orphan pending advances uncached =>
    exact absurd uncached (sourced.owned _ pending advances)
  | business pending | control pending =>
    exact ⟨.of_none rfl, by rintro _ ⟨⟩, fun _ _ => .unsent progress.grown (by rintro _ ⟨⟩)⟩

/-- `flushPendingFrame` changes a record only where it returns `Complete`. -/
theorem FlushMove.records {link link' : Link} {record : Option Nat} {pc : FlushPc}
    {control : Control FlushPc (PendingWriteStatus × Topic)}
    (moved : FlushMove link record pc link' control) :
    link'.records = link.records ∨ ∃ topic, control = .ret (.complete, topic) := by
  cases moved with
  | business => exact .inr ⟨_, rfl⟩
  | _ => exact .inl rfl

theorem FlushMove.cursor {link link' : Link} {record : Option Nat} {pc : FlushPc}
    {control : Control FlushPc (PendingWriteStatus × Topic)}
    (moved : FlushMove link record pc link' control) {r : Nat} {t : Topic} {entry : ConsumeMeta}
    (found : link.getMeta r t = some entry) :
    link'.getMeta r t = some entry ∨ ∃ frame, pc = .commit ∧ record = some r ∧
      link.output.pendingFrame = some frame ∧ frame.advancesSequence = true ∧ frame.topic = t ∧
      link'.getMeta r t = some { nextSequence := frame.nextSequence, initialized := true } ∧
      control = .ret (.complete, t) := by
  cases moved with
  | @business frame r' pending advances cached =>
    have after := link.updateSequence_getMeta r' frame.topic frame.nextSequence r t
    split at after
    · rename_i here
      obtain ⟨rfl, rfl⟩ := here
      rw [found, Option.map_some] at after
      exact .inr ⟨frame, rfl, cached, pending, advances, rfl, after, rfl⟩
    · exact .inl (after.trans found)
  | _ => exact .inl found

/-! ### deliverTopic -/

/-- What a step of `deliverTopic` keeps of the account of the pending frame. -/
structure DeliverKeeps (link link' entered : Link) (record : Nat) (topic : Topic)
    (control : Control DeliverPc TopicDeliveryStatus) : Prop where
  sourced : Sourced link' (some record)
  empty : ∀ nextSequence, control = .goto (.updateEmpty nextSequence) →
    link'.LastRead topic [] nextSequence
  going : ∀ pc, control = .goto pc → Progress link' entered (.deliver topic pc)
  back : ∀ result, control = .ret result → Progress link' entered .outside

/-- A step outside the loop of `send` that leaves the pending frame and the wire alone. -/
theorem DeliverKeeps.still {link link' entered : Link} {record : Nat} {topic : Topic} {call : Call}
    {control : Control DeliverPc TopicDeliveryStatus} (early : ¬ call.Sending)
    (sourced : Sourced link' (some record)) (progress : Progress link entered call)
    (pending : link'.output.pendingFrame = link.output.pendingFrame)
    (wire : link'.history.wire = link.history.wire)
    (empty : ∀ nextSequence, control = .goto (.updateEmpty nextSequence) →
      link'.LastRead topic [] nextSequence) :
    DeliverKeeps link link' entered record topic control := by
  have unsent : ∀ frame, link'.output.pendingFrame = some frame → frame.offset < frame.data.length := by
    intro frame held
    by_contra full
    exact early (progress.sent frame (pending ▸ held) (by omega)).1
  have grown : entered.history.wire.length ≤ link'.history.wire.length := by
    rw [wire]
    exact progress.grown
  exact ⟨sourced, empty, fun _ _ => .unsent grown unsent, fun _ _ => .unsent grown unsent⟩

theorem Link.lastRead_noteRead (link : Link) (event : ReadEvent) {body : Bytes}
    (message : event.result.message = some body) :
    (link.noteRead event).LastRead event.topic body event.result.nextSequence :=
  ⟨event, by simp [Link.noteRead], rfl, message, rfl⟩

theorem deliverStep_keeps {config : RepeaterConfig} {store : MessageCircleComposite}
    {link link' entered : Link} {record : Nat} {topic : Topic} {outcome : CallOutcome} {pc : DeliverPc}
    {control : Control DeliverPc TopicDeliveryStatus} (framed : Framed link)
    (slot : SlotAt link (.deliver topic pc)) (sourced : Sourced link (some record))
    (progress : Progress link entered (.deliver topic pc))
    (taken : deliverStep config store link record topic outcome pc = some (link', control)) :
    DeliverKeeps link link' entered record topic control := by
  cases pc with
  | flush inner =>
    simp only [deliverStep] at taken
    split at taken
    · cases taken
    · rename_i flushed flushControl moved
      cases taken
      have keeps := flushStep_keeps (fun inner => .deliver topic (.flush inner))
        (fun inner => by cases inner <;> simp [Call.Sending]) framed sourced progress moved
      rcases flushControl with next | ⟨status, completed⟩
      · refine ⟨keeps.sourced, by rintro _ ⟨⟩, ?_, by rintro _ ⟨⟩⟩
        rintro pc ⟨⟩
        exact keeps.going next rfl
      · have back := keeps.back _ rfl
        cases status <;> exact ⟨keeps.sourced, by rintro _ ⟨⟩, by rintro _ ⟨⟩, fun _ _ => back⟩
  | initializeTopic sequence =>
    cases taken
    refine .still id (sourced.congr rfl ?_) progress rfl ?_ (by simp)
    all_goals rw [link.initializeTopic_history]
  | updateEmpty nextSequence =>
    cases taken
    exact .still id (sourced.congr rfl rfl) progress rfl rfl (by simp)
  | getMeta | circleMeta =>
    have moved := deliverStep_move taken
    cases moved with
    | _ => exact .still id (sourced.congr rfl rfl) progress rfl rfl (by simp)
  | read entry =>
    have moved := deliverStep_move taken
    have none_ : link.output.pendingFrame = none := slot
    cases moved with
    | empty made read status message =>
      refine .still id (.of_none none_) progress rfl rfl ?_
      rintro nextSequence ⟨⟩
      exact link.lastRead_noteRead _ message
    | @park _ ring result body made read status message nonempty =>
      refine ⟨⟨?_, ?_⟩, by simp, ?_, by simp⟩
      · rintro frame ⟨⟩ _ ⟨⟩
      · rintro frame ⟨⟩ _
        exact ⟨body, rfl, link.lastRead_noteRead _ message⟩
      · rintro pc ⟨⟩
        refine .unsent progress.grown ?_
        rintro frame ⟨⟩
        exact Nat.lt_of_not_le encoded_unsent
    | _ => exact .still id (.of_none none_) progress rfl rfl (by simp)

/-- `deliverTopic` changes a record only where it returns `Delivered` or `NoMessage`. -/
theorem DeliverMove.records {config : RepeaterConfig} {store : MessageCircleComposite}
    {link link' : Link} {record : Nat} {topic : Topic} {pc : DeliverPc}
    {control : Control DeliverPc TopicDeliveryStatus}
    (moved : DeliverMove config store link record topic pc link' control) :
    link'.records = link.records ∨ control = .ret .delivered ∨ control = .ret .noMessage := by
  cases moved with
  | initializeTopic => exact .inr (.inr rfl)
  | updateEmpty => exact .inr (.inl rfl)
  | flush moved =>
    rcases moved.records with same | ⟨topic, rfl⟩
    · exact .inl same
    · exact .inr (.inl rfl)
  | _ => exact .inl rfl

/-! ### Every step keeps the invariant -/

theorem Calls.enter_sound {s : Calls} (sound : CallsSound s) {call : Call} (outside : s.call = .outside)
    (fresh : call.Fresh) : CallsSound (s.enter call) where
  framed := sound.framed
  slot := fresh.slot
  sourced := sound.sourced
  empty := by
    rintro t nextSequence (rfl : call = _)
    cases fresh
  progress := by
    refine .unsent (Nat.le_refl _) fun frame pending => ?_
    by_contra full
    have sending := (sound.progress.sent frame pending (by omega)).1
    rw [outside] at sending
    exact sending
  kept _ := .refl _

/-- A step of another thread, which leaves the pending frame, the wire and the reads alone. -/
theorem CallsSound.other {s s' : Calls} (sound : CallsSound s) (framed : Framed s'.link)
    (call : s'.call = s.call) (returned : s'.returned = s.returned) (entered : s'.entered = s.entered)
    (record : s.record ≠ none → s'.record ≠ none)
    (pending : s'.link.output.pendingFrame = s.link.output.pendingFrame)
    (wire : s'.link.history.wire = s.link.history.wire)
    (reads : s'.link.history.reads = s.link.history.reads) (unmoved : Unmoved s.link s'.link) :
    CallsSound s' where
  framed := framed
  slot := by
    rw [call]
    exact sound.slot.congr pending
  sourced := by
    have sourced := sound.sourced.congr pending reads
    exact ⟨fun frame held advances => record (sourced.owned frame held advances), sourced.read⟩
  empty t nextSequence at_ := by
    obtain ⟨event, last, rest⟩ := sound.empty t nextSequence (call ▸ at_)
    exact ⟨event, reads ▸ last, rest⟩
  progress := by
    rw [call, entered]
    exact sound.progress.congr pending wire
  kept := by
    rw [call, returned, entered]
    exact fun going => (sound.kept going).trans unmoved

theorem Unmoved.createRecord (link : Link) (topics order : List Topic) :
    Unmoved link (link.createRecord topics order) := by
  intro r t entry found _
  rw [Link.createRecord_getMeta, if_neg, found]
  rintro rfl
  simp [Link.getMeta] at found

theorem run_flush_sound {s : Calls} {link : Link} {outcome : CallOutcome} {pc : FlushPc}
    {control : Control FlushPc (PendingWriteStatus × Topic)} (sound : CallsSound s)
    (at_ : s.call = .flush pc) (taken : flushStep s.link s.record outcome pc = some (link, control)) :
    CallsSound ({ s with link }.afterFlush control) := by
  have moved := flushStep_move taken
  have slot := sound.slot
  have progress := sound.progress
  have before := sound.kept (.inl (by rw [at_]; nofun))
  rw [at_] at slot progress
  obtain ⟨framed, whole⟩ := moved.framed sound.framed (by rintro rfl; exact slot)
  have keeps := flushStep_keeps .flush (fun inner => by cases inner <;> simp [Call.Sending])
    sound.framed sound.sourced progress taken
  have unmoved : link.records = s.link.records → Unmoved s.entered link :=
    fun same => before.trans (.of_records same)
  rcases control with inner | ⟨status, completed⟩
  · refine ⟨framed, ?_, keeps.sourced, nofun, keeps.going inner rfl, fun _ => ?_⟩
    · cases inner with
      | take | send => trivial
      | commit => exact whole rfl
    · rcases moved.records with same | ⟨_, ended⟩
      · exact unmoved same
      · cases ended
  · refine ⟨framed, trivial, keeps.sourced, nofun, keeps.back _ rfl, ?_⟩
    rintro (inside | ⟨_, ⟨⟩, stopped⟩)
    · exact absurd rfl inside
    · rcases moved.records with same | ⟨_, ended⟩
      · exact unmoved same
      · cases ended
        exact stopped.elim

theorem run_deliver_sound {config : RepeaterConfig} {s : Calls} {link : Link} {outcome : CallOutcome}
    {topic : Topic} {record : Nat} {pc : DeliverPc} {control : Control DeliverPc TopicDeliveryStatus}
    (sound : CallsSound s) (at_ : s.call = .deliver topic pc) (cached : s.record = some record)
    (taken : deliverStep config s.store s.link record topic outcome pc = some (link, control)) :
    CallsSound ({ s with link }.afterDeliver topic control) := by
  have moved := deliverStep_move taken
  have slot := sound.slot
  have progress := sound.progress
  have sourced := sound.sourced
  have before := sound.kept (.inl (by rw [at_]; nofun))
  rw [at_] at slot progress
  rw [cached] at sourced
  obtain ⟨framed, slots⟩ := moved.framed sound.framed slot
  have keeps := deliverStep_keeps sound.framed slot sourced progress taken
  have unmoved : link.records = s.link.records → Unmoved s.entered link :=
    fun same => before.trans (.of_records same)
  rcases control with inner | status
  · refine ⟨framed, slots inner rfl, cached ▸ keeps.sourced, ?_, keeps.going inner rfl, fun _ => ?_⟩
    · rintro t nextSequence ⟨⟩
      exact keeps.empty nextSequence rfl
    · rcases moved.records with same | ended | ended
      · exact unmoved same
      · cases ended
      · cases ended
  · refine ⟨framed, trivial, cached ▸ keeps.sourced, nofun, keeps.back _ rfl, ?_⟩
    rintro (inside | ⟨_, ⟨⟩, stopped⟩)
    · exact absurd rfl inside
    · rcases moved.records with same | ended | ended
      · exact unmoved same
      · cases ended
        exact stopped.elim
      · cases ended
        exact stopped.elim

theorem step_callsSound {config : RepeaterConfig} {s s' : Calls} {action : CallAction}
    (sound : CallsSound s) (taken : s.step config action = some s') : CallsSound s' := by
  cases action with
  | flush =>
    simp only [Calls.step] at taken
    split at taken <;> cases taken
    exact Calls.enter_sound sound ‹_› .flush
  | deliver topic =>
    simp only [Calls.step] at taken
    split at taken <;> cases taken
    rename_i ready
    exact Calls.enter_sound sound ready.1 (.deliver topic)
  | run outcome =>
    rcases Calls.step_run taken with ⟨pc, link, control, at_, flushed, rfl⟩ |
      ⟨topic, pc, record, link, control, at_, cached, delivered, rfl⟩
    · exact run_flush_sound sound at_ flushed
    · exact run_deliver_sound sound at_ cached delivered
  | cache record =>
    simp only [Calls.step] at taken
    split at taken <;> cases taken
    exact sound.other sound.framed rfl rfl rfl (fun _ => nofun) rfl rfl rfl (.refl _)
  | create topic circleMaxSize | append topic message =>
    simp only [Calls.step] at taken
    split at taken <;> cases taken
    exact sound.other sound.framed rfl rfl rfl id rfl rfl rfl (.refl _)
  | enqueueControlFrame topic message =>
    simp only [Calls.step] at taken
    split at taken <;> cases taken
    rename_i link pushed
    have framed := sound.framed.enqueue pushed
    cases Link.enqueueControlFrame_some pushed
    exact sound.other framed rfl rfl rfl id rfl rfl rfl (.of_records rfl)
  | createRecord topics order =>
    cases taken
    exact sound.other (sound.framed.congr rfl rfl rfl rfl rfl) rfl rfl rfl id rfl rfl rfl
      (.createRecord _ _ _)
  | initializeTopic record topic sequence =>
    cases taken
    refine sound.other (Link.initializeTopic_framed sound.framed) rfl rfl rfl id rfl ?_ ?_
      (.initializeTopic _ _ _ _)
    all_goals rw [s.link.initializeTopic_history]

theorem initial_callsSound (store : MessageCircleComposite) : CallsSound { store } where
  framed := ⟨rfl, ⟨rfl, nofun⟩, rfl, nofun⟩
  slot := trivial
  sourced := .of_none rfl
  empty := nofun
  progress := ⟨Nat.le_refl _, nofun⟩
  kept _ := .refl _

theorem reachable_callsSound {config : RepeaterConfig} {store : MessageCircleComposite} {s : Calls}
    (run : Run (Calls.step config) Free { store } s) : CallsSound s :=
  run.keeps (initial_callsSound store) fun _ _ _ sound _ taken => step_callsSound sound taken

/-! ### The cursors -/

/-- The commit of a pending business frame, at either of the two places where it can happen. -/
theorem CallsSound.commit {s s' : Calls} (sound : CallsSound s) {r : Nat} {entry : ConsumeMeta}
    {frame : PendingSubscriberFrame}
    (at_ : s.call = .flush .commit ∨ ∃ topic, s.call = .deliver topic (.flush .commit))
    (mine : s.record = some r) (pending : s.link.output.pendingFrame = some frame)
    (advances : frame.advancesSequence = true)
    (done : s'.returned = some (.flush .complete) ∨ s'.returned = some (.deliver .delivered)) :
    CursorMove s s' r frame.topic entry { nextSequence := frame.nextSequence, initialized := true } := by
  have whole : Whole s.link := by
    have slot := sound.slot
    rcases at_ with at_ | ⟨topic, at_⟩
    all_goals
      rw [at_] at slot
      exact slot
  obtain ⟨_, held, full⟩ := whole
  obtain rfl := Option.some.inj (held.symm.trans pending)
  obtain ⟨body, data, read⟩ := sound.sourced.read _ pending advances
  refine .commit at_ mine pending advances rfl data read ?_ (sound.progress.sent _ pending full).2 rfl done
  rw [sound.framed.wire, Link.sentPart, pending]
  dsimp only
  rw [List.take_of_length_le full]

theorem Calls.afterFlush_link (s : Calls) (control : Control FlushPc (PendingWriteStatus × Topic)) :
    (s.afterFlush control).link = s.link := by
  cases control <;> rfl

theorem Calls.afterDeliver_link (s : Calls) (topic : Topic)
    (control : Control DeliverPc TopicDeliveryStatus) : (s.afterDeliver topic control).link = s.link := by
  cases control <;> rfl

theorem run_deliver_cursor {config : RepeaterConfig} {s : Calls} {link : Link} {topic : Topic}
    {record : Nat} {pc : DeliverPc} {control : Control DeliverPc TopicDeliveryStatus}
    (sound : CallsSound s) (at_ : s.call = .deliver topic pc) (cached : s.record = some record)
    (moved : DeliverMove config s.store s.link record topic pc link control) {r : Nat} {t : Topic}
    {entry : ConsumeMeta} (found : s.link.getMeta r t = some entry) :
    link.getMeta r t = some entry ∨ ∃ entry', link.getMeta r t = some entry' ∧
      CursorMove s ({ s with link }.afterDeliver topic control) r t entry entry' := by
  cases moved with
  | initializeTopic sequence =>
    rw [Link.initializeTopic_getMeta]
    split
    · rename_i here
      obtain ⟨rfl, rfl, fresh⟩ := here
      rw [found, Option.map_some, Option.some.injEq] at fresh
      exact .inr ⟨_, rfl, .first fresh rfl (.inr rfl)⟩
    · exact .inl found
  | updateEmpty nextSequence =>
    rw [Link.updateSequence_getMeta]
    split
    · rename_i here
      obtain ⟨rfl, rfl⟩ := here
      rw [found]
      exact .inr ⟨_, rfl, .empty at_ cached (sound.empty _ _ at_) rfl rfl⟩
    · exact .inl found
  | flush moved =>
    rcases moved.cursor found with same | ⟨frame, rfl, mine, pending, advances, rfl, after, rfl⟩
    · exact .inl same
    · exact .inr
        ⟨_, after, sound.commit (.inr ⟨topic, at_⟩) (cached.trans mine) pending advances (.inr rfl)⟩
  | _ => exact .inl found

theorem step_cursor {config : RepeaterConfig} {s s' : Calls} {action : CallAction} (sound : CallsSound s)
    (taken : s.step config action = some s') {r : Nat} {t : Topic} {entry : ConsumeMeta}
    (found : s.link.getMeta r t = some entry) :
    s'.link.getMeta r t = some entry ∨
      ∃ entry', s'.link.getMeta r t = some entry' ∧ CursorMove s s' r t entry entry' := by
  cases action with
  | flush | deliver | cache | create | append =>
    simp only [Calls.step] at taken
    split at taken <;> cases taken
    exact .inl found
  | enqueueControlFrame topic message =>
    simp only [Calls.step] at taken
    split at taken <;> cases taken
    cases Link.enqueueControlFrame_some ‹_›
    exact .inl found
  | createRecord topics order =>
    cases taken
    left
    change (s.link.createRecord topics order).getMeta r t = _
    rw [Link.createRecord_getMeta, if_neg, found]
    rintro rfl
    simp [Link.getMeta] at found
  | initializeTopic record topic sequence =>
    cases taken
    change (s.link.initializeTopic record topic sequence).getMeta r t = _ ∨
      ∃ entry', (s.link.initializeTopic record topic sequence).getMeta r t = _ ∧ _
    rw [Link.initializeTopic_getMeta]
    split
    · rename_i here
      obtain ⟨rfl, rfl, fresh⟩ := here
      rw [found, Option.map_some, Option.some.injEq] at fresh
      exact .inr ⟨_, rfl, .first fresh rfl (.inl rfl)⟩
    · exact .inl found
  | run outcome =>
    rcases Calls.step_run taken with ⟨pc, link, control, at_, flushed, rfl⟩ |
      ⟨topic, pc, record, link, control, at_, cached, delivered, rfl⟩
    · rcases (flushStep_move flushed).cursor found with same |
        ⟨frame, rfl, mine, pending, advances, rfl, after, rfl⟩
      · exact .inl (by rw [Calls.afterFlush_link]; exact same)
      · exact .inr ⟨_, after, sound.commit (.inl at_) mine pending advances (.inl rfl)⟩
    · rw [Calls.afterDeliver_link]
      exact run_deliver_cursor sound at_ cached (deliverStep_move delivered) found

/-! ### Completed calls -/

/-- The step ends a call with `Complete` or `Delivered`. -/
def Calls.Completes (s s' : Calls) : Prop :=
  s.call ≠ .outside ∧ s'.call = .outside ∧
    (s'.returned = some (.flush .complete) ∨ s'.returned = some (.deliver .delivered))

/-- What a call has done that ends with `Complete` or `Delivered`. -/
inductive Completed (s s' : Calls) : Prop where
  /-- A control frame is out, and no cursor has moved. -/
  | control {frame} (at_ : s.call = .flush .commit) (pending : s.link.output.pendingFrame = some frame)
      (stays : frame.advancesSequence = false) (same : s'.link.records = s.link.records)
  /-- A business frame is out: its topic's cursor, and no other, is at the next sequence of its read. -/
  | business {frame body r}
      (at_ : s.call = .flush .commit ∨ s.call = .deliver frame.topic (.flush .commit))
      (mine : s.record = some r) (pending : s.link.output.pendingFrame = some frame)
      (data : frame.data = encodeSocketFrame frame.topic body)
      (read : s.link.LastRead frame.topic body frame.nextSequence)
      (moved : s'.link.getMeta r frame.topic = some { nextSequence := frame.nextSequence, initialized := true })
      (others : ∀ r' t, ¬ (r' = r ∧ t = frame.topic) → s'.link.getMeta r' t = s.link.getMeta r' t)
  /-- An empty message is consumed: the cursor is at the next sequence of its read. -/
  | empty {topic nextSequence r} (at_ : s.call = .deliver topic (.updateEmpty nextSequence))
      (mine : s.record = some r) (read : s.link.LastRead topic [] nextSequence)
      (moved : s'.link.getMeta r topic = some { nextSequence, initialized := true })
      (others : ∀ r' t, ¬ (r' = r ∧ t = topic) → s'.link.getMeta r' t = s.link.getMeta r' t)

/-- The writer's record has the topic whose cursor is to move. -/
structure CursorReady (s : Calls) : Prop where
  pending : ∀ frame, s.link.output.pendingFrame = some frame → frame.advancesSequence = true →
    ∃ r entry, s.record = some r ∧ s.link.getMeta r frame.topic = some entry
  inside : ∀ topic pc, s.call = .deliver topic pc → pc ≠ .getMeta →
    ∃ r entry, s.record = some r ∧ s.link.getMeta r topic = some entry
  own : ∀ topic pc, s.call = .deliver topic (.flush pc) →
    ∃ frame, s.link.output.pendingFrame = some frame ∧ frame.advancesSequence = true ∧ frame.topic = topic

theorem step_record {config : RepeaterConfig} {s s' : Calls} {action : CallAction}
    (taken : s.step config action = some s') {r : Nat} (cached : s.record = some r) : s'.record = some r := by
  cases action with
  | run outcome =>
    rcases Calls.step_run taken with ⟨_, _, control, _, _, rfl⟩ | ⟨_, _, _, _, control, _, _, _, rfl⟩
    · cases control <;> exact cached
    · cases control <;> exact cached
  | cache record =>
    simp only [Calls.step] at taken
    split at taken <;> cases taken
    rename_i uncached
    cases cached.symm.trans uncached.2
  | createRecord | initializeTopic =>
    cases taken
    exact cached
  | _ =>
    simp only [Calls.step] at taken
    split at taken <;> cases taken
    exact cached

/-- A topic that the record has stays in it. -/
theorem step_entry {config : RepeaterConfig} {s s' : Calls} {action : CallAction} (sound : CallsSound s)
    (taken : s.step config action = some s') {t : Topic}
    (held : ∃ r entry, s.record = some r ∧ s.link.getMeta r t = some entry) :
    ∃ r entry, s'.record = some r ∧ s'.link.getMeta r t = some entry := by
  obtain ⟨r, entry, cached, found⟩ := held
  have cached' := step_record taken cached
  rcases step_cursor sound taken found with same | ⟨entry', moved, _⟩
  · exact ⟨r, entry, cached', same⟩
  · exact ⟨r, entry', cached', moved⟩

theorem FlushMove.business_was {link link' : Link} {record : Option Nat} {pc : FlushPc}
    {control : Control FlushPc (PendingWriteStatus × Topic)}
    (moved : FlushMove link record pc link' control) {frame : PendingSubscriberFrame}
    (pending : link'.output.pendingFrame = some frame) (advances : frame.advancesSequence = true) :
    ∃ before, link.output.pendingFrame = some before ∧ before.advancesSequence = true ∧
      before.topic = frame.topic := by
  cases moved with
  | next =>
    cases pending
    cases advances
  | @accept held =>
    cases pending
    exact ⟨held, ‹_›, advances, rfl⟩
  | business | control => cases pending
  | _ => exact ⟨frame, pending, advances, rfl⟩

/-- Inside the function the pending frame changes only its offset. -/
theorem FlushMove.going {link link' : Link} {record : Option Nat} {pc pc' : FlushPc}
    (moved : FlushMove link record pc link' (.goto pc')) {frame : PendingSubscriberFrame}
    (pending : link.output.pendingFrame = some frame) :
    ∃ offset, link'.output.pendingFrame = some { frame with offset } := by
  cases moved with
  | next none_ => cases pending.symm.trans none_
  | @accept held count at_ =>
    cases pending.symm.trans at_
    exact ⟨_, rfl⟩
  | _ => exact ⟨frame.offset, pending⟩

/-- A step that leaves the pending frame and the call alone. -/
theorem CursorReady.other {config : RepeaterConfig} {s s' : Calls} {action : CallAction} (ready : CursorReady s)
    (sound : CallsSound s) (taken : s.step config action = some s')
    (pending : s'.link.output.pendingFrame = s.link.output.pendingFrame) (call : s'.call = s.call) :
    CursorReady s' := by
  refine ⟨?_, ?_, ?_⟩
  · rw [pending]
    intro frame held advances
    exact step_entry sound taken (ready.pending frame held advances)
  · rw [call]
    intro topic pc at_ past
    exact step_entry sound taken (ready.inside topic pc at_ past)
  · rw [call, pending]
    exact ready.own

theorem run_deliver_ready {config : RepeaterConfig} {s : Calls} {outcome : CallOutcome} {topic : Topic}
    {record : Nat} {pc : DeliverPc} {link : Link} {control : Control DeliverPc TopicDeliveryStatus}
    (ready : CursorReady s) (sound : CallsSound s) (at_ : s.call = .deliver topic pc)
    (cached : s.record = some record)
    (taken : s.step config (.run outcome) = some ({ s with link }.afterDeliver topic control))
    (moved : DeliverMove config s.store s.link record topic pc link control) :
    CursorReady ({ s with link }.afterDeliver topic control) := by
  have kept := fun t => @step_entry _ _ _ _ sound taken t
  have quiet : link.output.pendingFrame = s.link.output.pendingFrame →
      ∀ frame, link.output.pendingFrame = some frame → frame.advancesSequence = true →
        ∃ r entry, ({ s with link }.afterDeliver topic control).record = some r ∧
          ({ s with link }.afterDeliver topic control).link.getMeta r frame.topic = some entry :=
    fun same frame held advances => kept _ (ready.pending frame (same ▸ held) advances)
  -- Behind the test for the entry the record has the topic.
  have later : pc ≠ .getMeta → ∃ r entry, ({ s with link }.afterDeliver topic control).record = some r ∧
      ({ s with link }.afterDeliver topic control).link.getMeta r topic = some entry :=
    fun past => kept topic (ready.inside topic pc at_ past)
  cases moved with
  | busy | absent | initializeTopic | disconnect | nothing | updateEmpty => exact ⟨quiet rfl, nofun, nofun⟩
  | entry _ found | fresh _ found =>
    refine ⟨quiet rfl, ?_, nofun⟩
    rintro _ _ ⟨⟩ _
    exact ⟨record, _, cached, found⟩
  | circleMeta | empty =>
    refine ⟨quiet rfl, ?_, nofun⟩
    rintro _ _ ⟨⟩ _
    exact later nofun
  | park =>
    refine ⟨?_, ?_, ?_⟩
    · rintro frame ⟨⟩ _
      exact later nofun
    · rintro _ _ ⟨⟩ _
      exact later nofun
    · rintro _ _ ⟨⟩
      exact ⟨_, rfl, rfl, rfl⟩
  | @flush inner _ flushControl moved =>
    have pending : ∀ frame, link.output.pendingFrame = some frame → frame.advancesSequence = true →
        ∃ r entry, ({ s with link }.afterDeliver topic (DeliverPc.afterFlush flushControl)).record = some r ∧
          ({ s with link }.afterDeliver topic (DeliverPc.afterFlush flushControl)).link.getMeta r frame.topic =
            some entry := by
      intro frame held advances
      obtain ⟨before, was, advanced, same⟩ := moved.business_was held advances
      exact same ▸ kept _ (ready.pending before was advanced)
    rcases flushControl with next | ⟨status, completed⟩
    · obtain ⟨frame, held, advances, mine⟩ := ready.own topic inner at_
      obtain ⟨offset, going⟩ := moved.going held
      refine ⟨pending, ?_, ?_⟩
      · rintro _ _ ⟨⟩ _
        exact later nofun
      · rintro _ _ ⟨⟩
        exact ⟨_, going, advances, mine⟩
    · cases status <;> exact ⟨pending, nofun, nofun⟩

theorem step_ready {config : RepeaterConfig} {s s' : Calls} {action : CallAction} (ready : CursorReady s)
    (sound : CallsSound s) (taken : s.step config action = some s') : CursorReady s' := by
  have step := taken
  cases action with
  | flush =>
    simp only [Calls.step] at taken
    split at taken <;> cases taken
    exact ⟨ready.pending, nofun, nofun⟩
  | deliver topic =>
    simp only [Calls.step] at taken
    split at taken <;> cases taken
    refine ⟨ready.pending, ?_, nofun⟩
    rintro _ _ ⟨⟩ past
    exact absurd rfl past
  | run outcome =>
    rcases Calls.step_run taken with ⟨pc, link, control, at_, flushed, rfl⟩ |
      ⟨topic, pc, record, link, control, at_, cached, delivered, rfl⟩
    · have moved := flushStep_move flushed
      refine ⟨?_, ?_, ?_⟩
      · intro frame held advances
        rw [Calls.afterFlush_link] at held
        obtain ⟨before, was, advanced, same⟩ := moved.business_was held advances
        exact same ▸ step_entry sound step (ready.pending before was advanced)
      · cases control <;> exact nofun
      · cases control <;> exact nofun
    · exact run_deliver_ready ready sound at_ cached step (deliverStep_move delivered)
  | createRecord | initializeTopic =>
    cases taken
    exact ready.other sound step rfl rfl
  | enqueueControlFrame topic message =>
    simp only [Calls.step] at taken
    split at taken <;> cases taken
    cases Link.enqueueControlFrame_some ‹_›
    exact ready.other sound step rfl rfl
  | cache | create | append =>
    simp only [Calls.step] at taken
    split at taken <;> cases taken
    exact ready.other sound step rfl rfl

theorem reachable_ready {config : RepeaterConfig} {store : MessageCircleComposite} {s : Calls}
    (run : Run (Calls.step config) Free { store } s) : CursorReady s := by
  induction run with
  | refl => exact ⟨nofun, nofun, nofun⟩
  | tail before _ _ taken ih => exact step_ready ih (reachable_callsSound before) taken

theorem updateSequence_moves {link : Link} {r : Nat} {topic : Topic} {entry : ConsumeMeta} (sequence : Nat)
    (found : link.getMeta r topic = some entry) :
    (link.updateSequence r topic sequence).getMeta r topic =
        some { nextSequence := sequence, initialized := true } ∧
      ∀ r' t, ¬ (r' = r ∧ t = topic) →
        (link.updateSequence r topic sequence).getMeta r' t = link.getMeta r' t := by
  constructor
  · rw [Link.updateSequence_getMeta, if_pos ⟨rfl, rfl⟩, found]
    rfl
  · intro r' t other
    rw [Link.updateSequence_getMeta, if_neg]
    rintro ⟨rfl, rfl⟩
    exact other ⟨rfl, rfl⟩

/-- The commit of a pending business frame moves the cursor of its topic. -/
theorem CursorReady.commits {s s' : Calls} (ready : CursorReady s) (sound : CallsSound s)
    {frame : PendingSubscriberFrame} {r : Nat}
    (at_ : s.call = .flush .commit ∨ s.call = .deliver frame.topic (.flush .commit))
    (pending : s.link.output.pendingFrame = some frame) (advances : frame.advancesSequence = true)
    (cached : s.record = some r)
    (link_eq : s'.link = (s.link.updateSequence r frame.topic frame.nextSequence).reset) : Completed s s' := by
  obtain ⟨_, entry, mine, found⟩ := ready.pending frame pending advances
  cases cached.symm.trans mine
  obtain ⟨body, data, read⟩ := sound.sourced.read frame pending advances
  obtain ⟨moved, others⟩ := updateSequence_moves frame.nextSequence found
  refine .business at_ cached pending data read ?_ ?_
  · rw [link_eq]
    exact moved
  · rw [link_eq]
    exact others

theorem step_completed {config : RepeaterConfig} {s s' : Calls} {action : CallAction} (ready : CursorReady s)
    (sound : CallsSound s) (taken : s.step config action = some s') (completes : s.Completes s') :
    Completed s s' := by
  obtain ⟨inside, outside, returned⟩ := completes
  cases action with
  | run outcome =>
    rcases Calls.step_run taken with ⟨pc, link, control, at_, flushed, rfl⟩ |
      ⟨topic, pc, record, link, control, at_, cached, delivered, rfl⟩
    · cases flushStep_move flushed with
      | business pending advances cached =>
        exact ready.commits sound (.inl at_) pending advances cached rfl
      | control pending stays => exact .control at_ pending stays rfl
      | resume | next | sent | accept | again => cases outside
      | idle | blocked | failed | orphan =>
        rcases returned with complete | delivered
        · cases complete
        · cases delivered
    · cases deliverStep_move delivered with
      | updateEmpty nextSequence =>
        obtain ⟨_, entry, mine, found⟩ := ready.inside _ _ at_ nofun
        cases cached.symm.trans mine
        obtain ⟨moved, others⟩ := updateSequence_moves nextSequence found
        exact .empty at_ cached (sound.empty _ _ at_) moved others
      | flush moved =>
        obtain ⟨frame, held, advances, rfl⟩ := ready.own _ _ at_
        cases moved with
        | business pending _ mine =>
          cases held.symm.trans pending
          cases mine
          exact ready.commits sound (.inr at_) pending advances cached rfl
        | control pending stays =>
          cases held.symm.trans pending
          cases advances.symm.trans stays
        | resume | next | sent | accept | again => cases outside
        | idle | blocked | failed | orphan =>
          rcases returned with complete | delivered
          · cases complete
          · cases delivered
      | entry | fresh | circleMeta | empty | park => cases outside
      | busy | absent | initializeTopic | disconnect | nothing =>
        rcases returned with complete | delivered
        · cases complete
        · cases delivered
  | flush | deliver =>
    simp only [Calls.step] at taken
    split at taken <;> cases taken
    cases outside
  | createRecord | initializeTopic =>
    cases taken
    exact absurd outside inside
  | _ =>
    simp only [Calls.step] at taken
    split at taken <;> cases taken
    exact absurd outside inside

/-- A frame leaves the slot only at the end of a call that reports it. -/
theorem step_settled {config : RepeaterConfig} {s s' : Calls} {action : CallAction}
    (taken : s.step config action = some s') {frame : PendingSubscriberFrame}
    (pending : s.link.output.pendingFrame = some frame) (gone : s'.link.output.pendingFrame = none) :
    s.Completes s' := by
  cases action with
  | run outcome =>
    rcases Calls.step_run taken with ⟨pc, link, control, at_, flushed, rfl⟩ |
      ⟨topic, pc, record, link, control, at_, cached, delivered, rfl⟩
    · have inside : s.call ≠ .outside := by
        rw [at_]
        nofun
      rw [Calls.afterFlush_link] at gone
      cases flushStep_move flushed with
      | business | control => exact ⟨inside, rfl, .inl rfl⟩
      | next | accept => cases gone
      | _ => cases pending.symm.trans gone
    · have inside : s.call ≠ .outside := by
        rw [at_]
        nofun
      rw [Calls.afterDeliver_link] at gone
      cases deliverStep_move delivered with
      | park => cases gone
      | flush moved =>
        cases moved with
        | business | control => exact ⟨inside, rfl, .inr rfl⟩
        | next | accept => cases gone
        | _ => cases pending.symm.trans gone
      | _ => cases pending.symm.trans gone
  | createRecord | initializeTopic =>
    cases taken
    cases pending.symm.trans gone
  | enqueueControlFrame topic message =>
    simp only [Calls.step] at taken
    split at taken <;> cases taken
    cases Link.enqueueControlFrame_some ‹_›
    cases pending.symm.trans gone
  | _ =>
    simp only [Calls.step] at taken
    split at taken <;> cases taken
    cases pending.symm.trans gone

/-! ### The parked frame -/

/-- What has gone out stays out. -/
structure Sends (link link' : Link) : Prop where
  wire : link.history.wire <+: link'.history.wire
  frames : link.history.frames <+: link'.history.frames

theorem Sends.of_same {link link' : Link} (wire : link'.history.wire = link.history.wire)
    (frames : link'.history.frames = link.history.frames) : Sends link link' :=
  ⟨wire ▸ List.prefix_refl _, frames ▸ List.prefix_refl _⟩

theorem FlushMove.sends {link link' : Link} {record : Option Nat} {pc : FlushPc}
    {control : Control FlushPc (PendingWriteStatus × Topic)}
    (moved : FlushMove link record pc link' control) : Sends link link' := by
  cases moved with
  | accept => exact ⟨List.prefix_append _ _, List.prefix_refl _⟩
  | business | control => exact ⟨List.prefix_refl _, List.prefix_append _ _⟩
  | _ => exact .of_same rfl rfl

theorem DeliverMove.sends {config : RepeaterConfig} {store : MessageCircleComposite}
    {link link' : Link} {record : Nat} {topic : Topic} {pc : DeliverPc}
    {control : Control DeliverPc TopicDeliveryStatus}
    (moved : DeliverMove config store link record topic pc link' control) : Sends link link' := by
  cases moved with
  | initializeTopic =>
    apply Sends.of_same
    all_goals rw [link.initializeTopic_history]
  | flush moved => exact moved.sends
  | _ => exact .of_same rfl rfl

theorem Resumed.still {link link' : Link} {frame : PendingSubscriberFrame}
    (pending : link.output.pendingFrame = some frame)
    (same : link'.output.pendingFrame = link.output.pendingFrame)
    (wire : link'.history.wire = link.history.wire) (frames : link'.history.frames = link.history.frames)
    (parked : link'.history.parked = link.history.parked) : Resumed link link' frame :=
  .inl ⟨frame.offset, Nat.le_refl _, same.trans pending, frames, parked, by simp [wire]⟩

theorem FlushMove.resumed {link link' : Link} {record : Option Nat} {pc : FlushPc}
    {control : Control FlushPc (PendingWriteStatus × Topic)}
    (moved : FlushMove link record pc link' control) (commit : pc = .commit → Whole link)
    {frame : PendingSubscriberFrame} (pending : link.output.pendingFrame = some frame) :
    Resumed link link' frame := by
  have finished : pc = .commit → Resumed link link.reset frame := by
    intro at_
    obtain ⟨_, held, full⟩ := commit at_
    obtain rfl := Option.some.inj (held.symm.trans pending)
    refine .inr ⟨[], ?_, List.prefix_refl _⟩
    rw [List.drop_eq_nil_of_le full, List.append_nil, List.append_nil]
    rfl
  cases moved with
  | idle none_ | next none_ => cases pending.symm.trans none_
  | @accept held count at_ within =>
    obtain rfl := Option.some.inj (at_.symm.trans pending)
    refine .inl ⟨_, Nat.le_add_right _ count, rfl, rfl, rfl, ?_⟩
    rw [Nat.add_sub_cancel_left]
    rfl
  | business | control => exact finished rfl
  | _ => exact .still pending rfl rfl rfl rfl

theorem DeliverMove.resumed {config : RepeaterConfig} {store : MessageCircleComposite}
    {link link' : Link} {record : Nat} {topic : Topic} {pc : DeliverPc}
    {control : Control DeliverPc TopicDeliveryStatus}
    (moved : DeliverMove config store link record topic pc link' control)
    (slot : SlotAt link (.deliver topic pc)) {frame : PendingSubscriberFrame}
    (pending : link.output.pendingFrame = some frame) : Resumed link link' frame := by
  cases moved with
  | park => cases pending.symm.trans slot
  | initializeTopic => cases pending.symm.trans slot
  | flush moved => exact moved.resumed (by rintro rfl; exact slot) pending
  | _ => exact .still pending rfl rfl rfl rfl

theorem step_sends {config : RepeaterConfig} {s s' : Calls} {action : CallAction} (sound : CallsSound s)
    (taken : s.step config action = some s') : Sends s.link s'.link ∧
      ∀ frame, s.link.output.pendingFrame = some frame → Resumed s.link s'.link frame := by
  have slot := sound.slot
  cases action with
  | flush | deliver | cache | create | append =>
    simp only [Calls.step] at taken
    split at taken <;> cases taken
    exact ⟨.of_same rfl rfl, fun _ pending => .still pending rfl rfl rfl rfl⟩
  | enqueueControlFrame topic message =>
    simp only [Calls.step] at taken
    split at taken <;> cases taken
    cases Link.enqueueControlFrame_some ‹_›
    exact ⟨.of_same rfl rfl, fun _ pending => .still pending rfl rfl rfl rfl⟩
  | createRecord topics order =>
    cases taken
    exact ⟨.of_same rfl rfl, fun _ pending => .still pending rfl rfl rfl rfl⟩
  | initializeTopic record topic sequence =>
    cases taken
    have history := s.link.initializeTopic_history record topic sequence
    exact ⟨.of_same (by rw [history]) (by rw [history]),
      fun _ pending => .still pending rfl (by rw [history]) (by rw [history]) (by rw [history])⟩
  | run outcome =>
    rcases Calls.step_run taken with ⟨pc, link, control, at_, flushed, rfl⟩ |
      ⟨topic, pc, record, link, control, at_, cached, delivered, rfl⟩
    · have moved := flushStep_move flushed
      rw [at_] at slot
      rw [Calls.afterFlush_link]
      exact ⟨moved.sends, fun _ pending => moved.resumed (by rintro rfl; exact slot) pending⟩
    · have moved := deliverStep_move delivered
      rw [at_] at slot
      rw [Calls.afterDeliver_link]
      exact ⟨moved.sends, fun _ pending => moved.resumed slot pending⟩

theorem take_drop_append (bytes : Bytes) {a b c : Nat} (ab : a ≤ b) (bc : b ≤ c) :
    (bytes.drop a).take (b - a) ++ (bytes.drop b).take (c - b) = (bytes.drop a).take (c - a) := by
  have split : c - a = (b - a) + (c - b) := by omega
  rw [split, List.take_add, List.drop_drop, Nat.add_sub_cancel' ab]

theorem Resumed.trans {link middle last : Link} {frame : PendingSubscriberFrame}
    (resumed : Resumed link middle frame) (sends : Sends middle last)
    (next : ∀ held, middle.output.pendingFrame = some held → Resumed middle last held) :
    Resumed link last frame := by
  rcases resumed with ⟨offset, le, pending, frames, parked, wire⟩ | ⟨more, wire, sent⟩
  · rcases next _ pending with ⟨offset', le', pending', frames', parked', wire'⟩ | ⟨more, wire', sent⟩
    · refine .inl ⟨offset', le.trans le', pending', frames'.trans frames, parked'.trans parked, ?_⟩
      rw [wire', wire, List.append_assoc]
      exact congrArg _ (take_drop_append frame.data le le')
    · refine .inr ⟨more, ?_, by rw [← frames, ← parked]; exact sent⟩
      have whole : (frame.data.drop frame.offset).take (offset - frame.offset) ++ frame.data.drop offset =
          frame.data.drop frame.offset := by
        have rest : frame.data.drop offset = (frame.data.drop frame.offset).drop (offset - frame.offset) := by
          rw [List.drop_drop, Nat.add_sub_cancel' le]
        rw [rest, List.take_append_drop]
      calc
        last.history.wire = link.history.wire ++
            ((frame.data.drop frame.offset).take (offset - frame.offset) ++ frame.data.drop offset) ++
              more := by
          rw [wire', wire, List.append_assoc link.history.wire]
        _ = link.history.wire ++ frame.data.drop frame.offset ++ more := by rw [whole]
  · obtain ⟨later, grown⟩ := sends.wire
    exact .inr ⟨more ++ later, by rw [← grown, wire]; simp, sent.trans sends.frames⟩

theorem run_resumed {config : RepeaterConfig} {s s' : Calls} (sound : CallsSound s)
    {frame : PendingSubscriberFrame} (pending : s.link.output.pendingFrame = some frame)
    (run : Run (Calls.step config) Free s s') : Resumed s.link s'.link frame := by
  suffices both : CallsSound s' ∧ Resumed s.link s'.link frame from both.2
  induction run with
  | refl => exact ⟨sound, .still pending rfl rfl rfl rfl⟩
  | tail _ action _ taken ih =>
    obtain ⟨kept, resumed⟩ := ih
    obtain ⟨sends, next⟩ := step_sends kept taken
    exact ⟨step_callsSound kept taken, resumed.trans sends next⟩

/-- In every run of calls, whatever `send` reports and whatever happens to the rings meanwhile: a cursor
moves with the last byte of its frame, past an empty message, or from unset to set; a frame leaves the slot
only in a call that reports it, and then the cursor of a business frame has moved; a call that returns
`WouldBlock`, an error or a `Disconnect` has moved none; and a parked frame goes out from its offset. -/
theorem cursor_moves_with_last_byte (config : RepeaterConfig) (store : MessageCircleComposite) {s : Calls}
    (run : Run (Calls.step config) Free { store } s) :
    (∀ action s', s.step config action = some s' → ∀ r t entry, s.link.getMeta r t = some entry →
      s'.link.getMeta r t = some entry ∨
        ∃ entry', s'.link.getMeta r t = some entry' ∧ CursorMove s s' r t entry entry') ∧
    (∀ action s', s.step config action = some s' → (s.Completes s' → Completed s s') ∧
      ∀ frame, s.link.output.pendingFrame = some frame → s'.link.output.pendingFrame = none → s.Completes s') ∧
    (∀ result, s.returned = some result → result.Stopped → Unmoved s.entered s.link) ∧
    (∀ frame, s.link.output.pendingFrame = some frame →
      ∀ s', Run (Calls.step config) Free s s' → Resumed s.link s'.link frame) := by
  have sound := reachable_callsSound run
  refine ⟨?_, ?_, ?_, ?_⟩
  · intro action s' taken r t entry found
    exact step_cursor sound taken found
  · intro action s' taken
    exact ⟨step_completed (reachable_ready run) sound taken, fun _ => step_settled taken⟩
  · intro result returned stopped
    exact sound.kept (.inr ⟨result, returned, stopped⟩)
  · intro frame pending s' later
    exact run_resumed sound pending later

/-- Three bytes of a message go out, and a second message comes, before the socket is full. -/
def parkedFrame : List CallAction :=
  [.create (ascii "T") 1, .createRecord [ascii "T"] [ascii "T"], .initializeTopic 0 (ascii "T") 0, .cache 0,
    .append (ascii "T") (ascii "m"), .deliver (ascii "T"), .run .interrupted, .run .interrupted,
    .run .interrupted, .run (.accepted 3), .append (ascii "T") (ascii "n"), .run .wouldBlock]

/-- A later call sends the rest, up to the commit. -/
def resumedFrame : List CallAction :=
  parkedFrame ++ [.flush, .run .interrupted, .run (.accepted 7), .run .interrupted]

/-- The cursor stays at the message while the frame is parked, and the call that completes it moves the cursor. -/
theorem cursor_moves_with_last_byte_resumed :
    (∃ s, Run (Calls.step {}) Free { store := .init 100 } s ∧
      s.returned = some (.deliver .wouldBlock) ∧ s.link.history.wire.length = 3 ∧
      (s.link.getMeta 0 (ascii "T")).map ConsumeMeta.nextSequence = some 0 ∧ Unmoved s.entered s.link) ∧
    ∃ s s', Run (Calls.step {}) Free { store := .init 100 } s ∧
      s.step {} (.run .interrupted) = some s' ∧ s.link.history.wire.length = 10 ∧
      (s.link.getMeta 0 (ascii "T")).map ConsumeMeta.nextSequence = some 0 ∧
      (s'.link.getMeta 0 (ascii "T")).map ConsumeMeta.nextSequence = some 1 ∧ Completed s s' := by
  constructor
  · obtain ⟨s, run, passed⟩ := Run.exists_of_replay (Calls.step {}) Free { store := .init 100 } parkedFrame
      (fun s => decide (s.returned = some (.deliver .wouldBlock) ∧ s.link.history.wire.length = 3 ∧
        (s.link.getMeta 0 (ascii "T")).map ConsumeMeta.nextSequence = some 0))
      (by decide +kernel)
    obtain ⟨returned, sent, cursor⟩ := of_decide_eq_true passed
    exact ⟨s, run, returned, sent, cursor,
      (cursor_moves_with_last_byte {} (.init 100) run).2.2.1 _ returned trivial⟩
  · obtain ⟨s, run, passed⟩ := Run.exists_of_replay (Calls.step {}) Free { store := .init 100 } resumedFrame
      (fun s => decide (s.call = .flush .commit ∧ s.link.history.wire.length = 10 ∧
        (s.link.getMeta 0 (ascii "T")).map ConsumeMeta.nextSequence = some 0) &&
          match s.step {} (.run .interrupted) with
          | none => false
          | some s' => decide (s'.call = .outside ∧ s'.returned = some (.flush .complete) ∧
            (s'.link.getMeta 0 (ascii "T")).map ConsumeMeta.nextSequence = some 1))
      (by decide +kernel)
    obtain ⟨here, next⟩ := Bool.and_eq_true_iff.mp passed
    obtain ⟨at_, sent, cursor⟩ := of_decide_eq_true here
    split at next
    · cases next
    · rename_i s' taken
      obtain ⟨outside, returned, moved⟩ := of_decide_eq_true next
      have inside : s.call ≠ .outside := by
        rw [at_]
        nofun
      exact ⟨s, s', run, taken, sent, cursor, moved,
        ((cursor_moves_with_last_byte {} (.init 100) run).2.1 _ _ taken).1 ⟨inside, outside, .inl returned⟩⟩

end MessageRepeater.Subscriber
