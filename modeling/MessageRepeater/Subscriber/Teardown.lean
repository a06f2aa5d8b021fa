import MessageRepeater.Subscriber.Scheduling

/-!
# The normal writing thread leaves its loop only for a cause

One turn of the normal writing thread asks twice whether the connection is subscribed, with a flush in
between, and takes the record only at the first time. A subscription that lands between the two, when
there is nothing to flush, is taken for a fatal state.
-/

namespace MessageRepeater.Subscriber
open Foundation Combiner Config Connection

/-- Nothing has happened so far that the writing thread must end for. -/
structure Healthy (s : State) : Prop where
  sent : s.link.history.failed = false
  present : s.exists_ = true
  /-- The reading thread, which alone ends when the peer disconnects, has not marked the connection. -/
  reading : s.reader.exited = false
  readable : ∀ event ∈ s.link.history.reads, event.result.status ≠ .disconnect

/-- The writer has passed the first test of its turn without a record, and will come to the second one
without having flushed anything. -/
def Exposed (s : State) : Prop :=
  s.record = none ∧ (s.writer = .normal .subscribedTest ∨
    s.writer = .normal (.flush .take) ∧ s.link.output.pendingFrame = none ∧
      s.link.output.controlFrames = [])

def ReaderPc.putting : ReaderPc → Bool
  | .putSubscribed _ => true
  | _ => false

/-- `putSubscribed` is not executed while the writer is exposed. -/
def Calm (s : State) (action : Action) : Prop :=
  action = .reader .run → s.reader.putting = true → ¬ Exposed s

instance (s : State) : Decidable (Exposed s) := inferInstanceAs (Decidable (_ ∧ _))

instance (s : State) (action : Action) : Decidable (Calm s action) :=
  inferInstanceAs (Decidable (_ → _ → _))

/-! ### Causes do not go away -/

structure Past (link link' : Link) : Prop where
  failed : link.history.failed = true → link'.history.failed = true
  reads : link.history.reads ⊆ link'.history.reads

theorem Past.refl (link : Link) : Past link link := ⟨id, List.Subset.refl _⟩

theorem FlushMove.past {link link' : Link} {record : Option Nat} {pc : FlushPc}
    {control : Control FlushPc (PendingWriteStatus × Topic)}
    (moved : FlushMove link record pc link' control) : Past link link' := by
  cases moved with
  | failed => exact ⟨fun _ => rfl, List.Subset.refl _⟩
  | _ => exact ⟨id, List.Subset.refl _⟩

theorem DeliverMove.past {config : RepeaterConfig} {store : MessageCircleComposite}
    {link link' : Link} {record : Nat} {topic : Topic} {pc : DeliverPc}
    {control : Control DeliverPc TopicDeliveryStatus}
    (moved : DeliverMove config store link record topic pc link' control) : Past link link' := by
  cases moved with
  | flush moved => exact moved.past
  | disconnect | nothing | empty | park => exact ⟨id, List.subset_append_left _ _⟩
  | initializeTopic =>
    constructor <;> rw [Link.initializeTopic_history]
    · exact id
    · exact List.Subset.refl _
  | _ => exact ⟨id, List.Subset.refl _⟩

theorem ReaderMove.past {s s' : State} (moved : ReaderMove s s') : Past s.link s'.link := by
  cases moved with
  | same link_eq =>
    rw [link_eq]
    exact .refl _
  | enqueue _ pushed link_eq =>
    rw [link_eq]
    cases Link.enqueueControlFrame_some pushed
    exact ⟨id, List.Subset.refl _⟩
  | create _ link_eq =>
    rw [link_eq]
    exact ⟨id, List.Subset.refl _⟩
  | initializeTopic _ link_eq =>
    rw [link_eq]
    constructor <;> rw [Link.initializeTopic_history]
    · exact id
    · exact List.Subset.refl _

theorem step_past {d : Deployment} {s s' : State} {action : Action}
    (taken : step d s action = some s') : Past s.link s'.link := by
  rcases step_output taken with moved | ⟨moved, _⟩ | frame
  · cases moved with
    | flush _ moved link_eq => exact link_eq ▸ moved.past
    | deliver _ _ moved link_eq => exact link_eq ▸ moved.past
    | test _ link_eq | cache _ link_eq | other _ link_eq | close _ link_eq => exact link_eq ▸ .refl _
  · exact moved.past
  · exact frame.link ▸ .refl _

theorem readerStep_exited {d : Deployment} {s s' : State} {input : ReaderInput}
    (ended : s.reader.exited = true) (taken : readerStep d s input = some s') :
    s'.reader.exited = true := by
  cases at_ : s.reader <;> rw [at_] at ended
  case exitKill =>
    cases input with
    | run =>
      simp only [readerStep, at_] at taken
      split at taken <;> cases taken
      rfl
    | _ => simp [readerStep, at_] at taken
  case exitShutdown | exitClose | done =>
    simp only [readerStep, at_] at taken
    cases input <;> cases taken <;> rfl
  all_goals cases ended

theorem Healthy.before {d : Deployment} {s s' : State} {action : Action} (healthy : Healthy s')
    (taken : step d s action = some s') : Healthy s := by
  have past := step_past taken
  refine ⟨?_, ?_, ?_, fun event read => healthy.readable event (past.reads read)⟩
  · by_contra failed
    have kept := past.failed (by simpa using failed)
    exact absurd (kept.symm.trans healthy.sent) nofun
  · have present := healthy.present
    cases action with
    | reclaimer =>
      simp only [step, reclaimerStep] at taken
      split at taken
      case h_2 =>
        cases taken
        cases present
      all_goals cases taken <;> exact present
    | _ => rwa [step_exists (by simp) taken] at present
  · by_contra ended
    have ended : s.reader.exited = true := by simpa using ended
    refine absurd (healthy.reading.symm.trans ?_) Bool.false_ne_true
    cases action with
    | reader input => exact readerStep_exited ended taken
    | _ => rwa [step_reader (by simp) taken]

/-! ### The writing thread's turn -/

/-- What the normal writing thread can count on at each of its program counters. -/
def NormalFacts (s : State) : NormalPc → Prop
  | .subscribedTest => s.subscribed = true → s.record ≠ none
  | .flush .take => s.subscribed = true → s.record = none →
    s.link.output.pendingFrame ≠ none ∨ s.link.output.controlFrames ≠ []
  | pc => pc.call ≠ .closing

structure Steady (s : State) : Prop where
  alive : s.alived = true
  reclaimer : s.reclaimer = .watch ∨ s.reclaimer = .erase
  detector : s.detector = .scan
  writer : ∃ pc, s.writer = .normal pc ∧ NormalFacts s pc

/-- A flush reports an error only for a failed `send`, or for a business frame without a record. -/
theorem FlushMove.cause {link link' : Link} {record : Option Nat} {pc : FlushPc} {topic : Topic}
    (moved : FlushMove link record pc link' (.ret (.error, topic))) :
    link'.history.failed = true ∨ record = none ∧
      ∃ frame, link.output.pendingFrame = some frame ∧ frame.advancesSequence = true := by
  cases moved with
  | failed => exact .inl rfl
  | orphan pending advances uncached => exact .inr ⟨uncached, _, pending, advances⟩

theorem DeliverMove.cause {config : RepeaterConfig} {store : MessageCircleComposite}
    {link link' : Link} {record : Nat} {topic : Topic} {pc : DeliverPc}
    {control : Control DeliverPc TopicDeliveryStatus}
    (moved : DeliverMove config store link record topic pc link' control)
    (ended : control = .ret .disconnect) : link'.history.failed = true ∨
      ∃ event ∈ link'.history.reads, event.result.status = .disconnect := by
  cases moved with
  | disconnect _ _ status =>
    exact .inr ⟨_, List.mem_append_right _ (List.mem_singleton_self _), status⟩
  | @flush pc link' flushed moved =>
    rcases flushed with pc' | ⟨status, completed⟩
    · cases ended
    · cases status with
      | error => exact .inl (moved.cause.resolve_right fun orphan => nomatch orphan.1)
      | idle | complete | wouldBlock => cases ended
  | busy | absent | entry | fresh | circleMeta | initializeTopic | nothing | empty | park
  | updateEmpty => cases ended

/-- A frame that advances a cursor is pending only while the writer has its record. -/
theorem Delivering.cached {config : RepeaterConfig} {s : State} (delivering : Delivering config s)
    {frame : PendingSubscriberFrame} (pending : s.link.output.pendingFrame = some frame)
    (advances : frame.advancesSequence = true) : s.record ≠ none := by
  have slot := delivering.slot
  rw [pending] at slot
  obtain ⟨_, _, _, _, due⟩ := slot.advancing advances
  obtain ⟨r, _, cached, _⟩ := due.entry
  rw [cached]
  nofun

theorem scan_facts (s : State) (todo : List Topic) : NormalFacts s (.scan todo) := by
  cases todo <;> exact nofun

theorem normalStep_steady {d : Deployment} {s s' : State} {outcome : CallOutcome} {pc : NormalPc}
    (delivering : Delivering d.config s) (answered : Answered d s) (held : Held d s)
    (healthy : Healthy s') (at_ : s.writer = .normal pc) (alive : s.alived = true)
    (facts : NormalFacts s pc) (taken : normalStep d s outcome pc = some s') :
    ∃ pc', s'.writer = .normal pc' ∧ NormalFacts s' pc' ∧ s'.alived = true := by
  have present : s.exists_ = true := (normalStep_frame taken).present ▸ healthy.present
  cases pc <;> simp only [normalStep] at taken
  case top =>
    rw [alive] at taken
    cases taken
    exact ⟨_, rfl, by rintro ⟨⟩, alive⟩
  case existsTest =>
    rw [present] at taken
    split at taken <;> cases taken
    exact ⟨_, rfl, by rintro ⟨⟩, alive⟩
  case cacheTest =>
    cases taken
    split
    · exact ⟨_, rfl, by rintro ⟨⟩, alive⟩
    · rename_i untaken
      exact ⟨_, rfl, fun subscribed none_ => absurd ⟨none_, subscribed⟩ untaken, alive⟩
  case cacheGet =>
    cases taken
    obtain ⟨answer, member⟩ := List.exists_mem_of_ne_nil _ (answered.caching (by rw [at_]; rfl))
    have lt := (answered.answers answer member).record
    have some_record := held fun none_ => by rw [none_] at lt; exact absurd lt (by simp)
    exact ⟨_, rfl, fun _ none_ => absurd none_ some_record, alive⟩
  case flush pc =>
    split at taken
    · cases taken
    · rename_i link control flushed
      cases taken
      have moved := flushStep_move flushed
      rcases control with pc' | ⟨status, topic⟩
      · cases moved <;> exact ⟨_, rfl, by rintro ⟨⟩, alive⟩
      · cases status with
        | idle =>
          cases moved with
          | idle pending control =>
            refine ⟨_, rfl, fun subscribed uncached => ?_, alive⟩
            exact (facts subscribed uncached).elim (absurd pending) (absurd control)
        | complete | wouldBlock => exact ⟨_, rfl, by rintro ⟨⟩, alive⟩
        | error =>
          rcases moved.cause with failed | ⟨uncached, frame, pending, advances⟩
          · cases failed.symm.trans healthy.sent
          · exact absurd uncached (delivering.cached pending advances)
  case subscribedTest =>
    cases taken
    split
    · exact ⟨_, rfl, by rintro ⟨⟩, alive⟩
    · rename_i subscribed
      rw [if_neg (facts (by simpa using subscribed))]
      exact ⟨_, rfl, by rintro ⟨⟩, alive⟩
  case getTopics =>
    split at taken <;> cases taken
    exact ⟨_, rfl, scan_facts _ _, alive⟩
  case getCircle =>
    split at taken <;> cases taken
    · exact ⟨_, rfl, scan_facts _ _, alive⟩
    · exact ⟨_, rfl, by rintro ⟨⟩, alive⟩
  case deliver topic todo pc =>
    split at taken
    · cases taken
    · split at taken
      · cases taken
      · rename_i link control delivered
        cases taken
        rcases control with pc' | status
        · exact ⟨_, rfl, by rintro ⟨⟩, alive⟩
        · cases status with
          | disconnect =>
            rcases (deliverStep_move delivered).cause rfl with failed | ⟨event, read, status⟩
            · cases failed.symm.trans healthy.sent
            · exact absurd status (healthy.readable event read)
          | wouldBlock => exact ⟨_, rfl, by rintro ⟨⟩, alive⟩
          | noMessage | delivered => exact ⟨_, rfl, scan_facts _ _, alive⟩
  all_goals exact absurd rfl facts

/-- The subscription that a step of another thread makes is one that finds the writer unexposed. -/
theorem NormalFacts.kept {s s' : State} {pc : NormalPc} (facts : NormalFacts s pc)
    (record : s'.record = s.record)
    (pending : s'.link.output.pendingFrame = s.link.output.pendingFrame)
    (controls : s'.link.output.controlFrames = [] → s.link.output.controlFrames = [])
    (subscribed : s'.subscribed = true → s.subscribed = true ∨
      (s.writer = .normal pc → ¬ Exposed s))
    (at_ : s.writer = .normal pc) : NormalFacts s' pc := by
  cases pc with
  | subscribedTest =>
    intro put
    rw [record]
    rcases subscribed put with before | unexposed
    · exact facts before
    · exact fun uncached => unexposed at_ ⟨uncached, .inl at_⟩
  | flush pc =>
    cases pc with
    | take =>
      intro put uncached
      rw [record] at uncached
      rw [pending]
      rcases subscribed put with before | unexposed
      · exact (facts before uncached).imp_right fun some_ none_ => some_ (controls none_)
      · by_contra nothing
        obtain ⟨empty, idle⟩ := not_or.mp nothing
        exact unexposed at_ ⟨uncached, .inr ⟨at_, not_not.mp empty, controls (not_not.mp idle)⟩⟩
    | send | commit => exact facts
  | _ => exact facts

/-- The reading thread marks the connection dead only where it ends, and subscribed only where it
puts the subscription. -/
theorem readerStep_marks {d : Deployment} {s s' : State} {input : ReaderInput}
    (taken : readerStep d s input = some s') : s'.reader.exited = true ∨
      s'.alived = s.alived ∧
        (s'.subscribed = s.subscribed ∨ input = .run ∧ s.reader.putting = true) := by
  unfold readerStep at taken
  split at taken
  case h_16 at_ =>
    cases taken
    exact .inr ⟨rfl, .inr ⟨rfl, by rw [at_]; rfl⟩⟩
  case h_22 =>
    cases taken
    exact .inl rfl
  case h_26 => cases taken
  case h_7 | h_9 | h_11 | h_13 | h_25 => split at taken <;> cases taken <;> exact .inr ⟨rfl, .inl rfl⟩
  case h_10 =>
    split at taken
    · split at taken <;> cases taken <;> exact .inr ⟨rfl, .inl rfl⟩
    · cases taken
  all_goals
    cases taken
    exact .inr ⟨rfl, .inl rfl⟩

theorem ReaderMove.controls {s s' : State} (moved : ReaderMove s s')
    (empty : s'.link.output.controlFrames = []) : s.link.output.controlFrames = [] := by
  cases moved with
  | same link_eq => rwa [link_eq] at empty
  | enqueue _ pushed link_eq =>
    rw [link_eq] at empty
    cases Link.enqueueControlFrame_some pushed
    exact absurd empty (List.append_ne_nil_of_right_ne_nil _ nofun)
  | create _ link_eq | initializeTopic _ link_eq => rwa [link_eq] at empty

theorem readerStep_steady {d : Deployment} {s s' : State} {input : ReaderInput}
    (sound : Sound s) (calm : Calm s (.reader input)) (healthy : Healthy s') (steady : Steady s)
    (taken : readerStep d s input = some s') : Steady s' := by
  obtain ⟨alive, reclaimer, detector, pc, at_, facts⟩ := steady
  obtain ⟨move, record, writer, _⟩ := readerStep_move taken
  have same := readerStep_same taken
  rcases readerStep_marks taken with ended | ⟨alived, subscribed⟩
  · exact absurd (ended.symm.trans healthy.reading) nofun
  · refine ⟨alived.trans alive, by rw [same]; exact reclaimer, by rw [same]; exact detector, pc,
      writer.trans at_, facts.kept record (move.framed sound.framed).2.1 move.controls ?_ at_⟩
    intro put
    rcases subscribed with kept | ⟨rfl, putting⟩
    · exact .inl (kept ▸ put)
    · exact .inr fun _ => calm rfl putting

theorem step_steady {d : Deployment} {s s' : State} {action : Action}
    (normal : d.config.subscriberEnableEventLoop = false) (sound : Sound s)
    (delivering : Delivering d.config s) (answered : Answered d s) (held : Held d s) (calm : Calm s action)
    (healthy : Healthy s') (steady : Steady s) (taken : step d s action = some s') : Steady s' := by
  obtain ⟨alive, reclaimer, detector, pc, at_, facts⟩ := steady
  cases action with
  | writer outcome =>
    have frame := writerStep_frame taken
    simp only [step, writerStep, at_] at taken
    obtain ⟨pc', at', facts', alive'⟩ :=
      normalStep_steady delivering answered held healthy at_ alive facts taken
    exact ⟨alive', frame.reclaimer ▸ reclaimer, frame.detector.trans detector, pc', at', facts'⟩
  | publisher id input =>
    rw [publisherStep_same taken]
    exact ⟨alive, reclaimer, detector, pc, at_, facts.kept rfl rfl (fun held => held) .inl at_⟩
  | dispatcher =>
    rw [dispatcherStep_same taken]
    exact ⟨alive, reclaimer, detector, pc, at_, facts.kept rfl rfl id .inl at_⟩
  | reader input =>
    exact readerStep_steady sound calm healthy ⟨alive, reclaimer, detector, pc, at_, facts⟩ taken
  | writable =>
    obtain ⟨waiting, _⟩ := writableStep_same taken
    cases at_.symm.trans waiting
  | detector =>
    simp only [step, detectorStep, detector, normal] at taken
    cases taken
  | reclaimer =>
    have present := healthy.present
    simp only [step, reclaimerStep] at taken
    rcases reclaimer with watching | erasing
    · rw [watching] at taken
      cases taken
      exact ⟨alive, .inr rfl, detector, pc, at_, facts.kept rfl rfl id .inl at_⟩
    · rw [erasing] at taken
      cases taken
      cases present
  | other key record =>
    rw [otherStep_same taken]
    exact ⟨alive, reclaimer, detector, pc, at_, facts.kept rfl rfl id .inl at_⟩

theorem NormalFacts.going {s : State} {pc : NormalPc} (facts : NormalFacts s pc) :
    pc.call ≠ .closing := by
  cases pc with
  | subscribedTest => nofun
  | flush pc => cases pc <;> nofun
  | _ => exact facts

theorem initial_steady {d : Deployment} (normal : d.config.subscriberEnableEventLoop = false) :
    Steady (initial d) :=
  ⟨rfl, .inl rfl, rfl, .top, by simp [initial, normal], nofun⟩

/-- A healthy connection's entry has not been erased, so its record has not been removed. -/
theorem Steady.held {d : Deployment} {s s' : State} {action : Action} (steady : Steady s)
    (held : Held d s) (healthy : Healthy s') (taken : step d s action = some s') : Held d s' := by
  by_cases reclaimer : action = .reclaimer
  · subst reclaimer
    have present := healthy.present
    simp only [step, reclaimerStep] at taken
    rcases steady.reclaimer with watching | erasing
    · rw [watching] at taken
      cases taken
      exact held
    · rw [erasing] at taken
      cases taken
      cases present
  · exact step_held reclaimer held taken

theorem reachable_steady {d : Deployment} {s : State}
    (normal : d.config.subscriberEnableEventLoop = false) (run : Run (step d) Calm (initial d) s)
    (healthy : Healthy s) : Steady s ∧ Held d s := by
  induction run with
  | refl => exact ⟨initial_steady normal, initial_held d⟩
  | tail before action calm taken ih =>
    obtain ⟨steady, held⟩ := ih (healthy.before taken)
    have free : Run (step d) Free (initial d) _ := before.weaken fun _ _ _ => trivial
    exact ⟨step_steady normal (reachable_sound free) (reachable_delivering free)
      (reachable_answered free) held calm healthy steady taken, steady.held held healthy taken⟩

/-- In every run in which no subscription lands between the two tests of an idle writer without a
record, the normal writing thread is in its loop until there is a cause to leave it. -/
theorem no_teardown_without_cause (d : Deployment)
    (normal : d.config.subscriberEnableEventLoop = false) {s : State}
    (run : Run (step d) Calm (initial d) s) (healthy : Healthy s) : s.writer.call ≠ .closing := by
  obtain ⟨pc, at_, facts⟩ := (reachable_steady normal run healthy).1.writer
  rw [at_]
  exact facts.going

/-- A client's first request, for `T`, up to the end of its handling. -/
def firstRequest : List Action :=
  [Action.reader .run, .reader (.request (.subscribe [ascii "T"])), .reader (.order [ascii "T"])] ++
    List.replicate 6 (Action.reader .run)

def Healthy.test (s : State) : Prop :=
  s.link.history.failed = false ∧ s.exists_ = true ∧ s.reader.exited = false ∧
    s.link.history.reads = []

theorem Healthy.of_test {s : State} (test : Healthy.test s) : Healthy s := by
  obtain ⟨sent, present, reading, unread⟩ := test
  exact ⟨sent, present, reading, by rw [unread]; nofun⟩

instance (s : State) : Decidable (Healthy.test s) := inferInstanceAs (Decidable (_ ∧ _))

/-- The request is handled before the writer's first turn, which takes the record. -/
theorem no_teardown_without_cause_in_order : ∃ s, Run (step (sample false)) Calm
    (initial (sample false)) s ∧ s.subscribed = true ∧ s.record = some 0 ∧ s.writer.call ≠ .closing := by
  obtain ⟨s, run, passed⟩ := Run.exists_of_replay (step (sample false)) Calm (initial (sample false))
    (firstRequest ++ List.replicate 5 (Action.writer .interrupted))
    (fun s => decide (Healthy.test s ∧ s.subscribed = true ∧ s.record = some 0)) (by decide)
  obtain ⟨healthy, subscribed, cached⟩ := of_decide_eq_true passed
  exact ⟨s, run, subscribed, cached, no_teardown_without_cause (sample false) rfl run (.of_test healthy)⟩

/-- The request is handled between the writer's two tests: it shuts down a connection that has just
subscribed. -/
theorem teardown_between_tests : ¬ ∀ (d : Deployment) (s : State),
    d.config.subscriberEnableEventLoop = false → Run (step d) Free (initial d) s →
    s.link.records.length ≤ 1 → Healthy s → s.writer.call ≠ .closing := by
  intro always
  obtain ⟨s, run, passed⟩ := Run.exists_of_replay (step (sample false)) Free (initial (sample false))
    (List.replicate 4 (Action.writer .interrupted) ++ firstRequest ++ [Action.writer .interrupted])
    (fun s => decide (Healthy.test s ∧ s.link.records.length ≤ 1 ∧ s.writer = .normal .exitShutdown))
    (by decide)
  obtain ⟨healthy, sole, ended⟩ := of_decide_eq_true passed
  exact always (sample false) s rfl run sole (.of_test healthy) (by rw [ended]; rfl)

end MessageRepeater.Subscriber
