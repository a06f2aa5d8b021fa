import MessageRepeater.Lifecycle.Descriptors

/-!
# Who may still act by a key

Everything a server keeps about a connection is found by its `ip:port` key. A connection acts by its key as
long as one of its threads, or the connection-detecting thread for it, may still look the key up to change
what it finds.
-/

namespace MessageRepeater.Lifecycle
open Foundation Combiner Config Connection

/-! ### Actors -/

def HandlerPc.acts : HandlerPc → Bool
  | .absent => false
  | .accepting => false
  | .publisher .done => false
  | .publisher _ => true
  | .subscriber .done => false
  | .subscriber _ => true

/-- The normal writing thread ends with `killAlive`, the event loop acts only by `removeSubscribed`. -/
def Threads.writerActs (eventLoop : Bool) (t : Threads) : Bool :=
  match t.writer with
  | .notStarted => false
  | .exitAlive => false
  | .done => false
  | .waiting => !eventLoop || t.alived
  | .entry => !eventLoop || t.alived
  | .dropAlive => !eventLoop
  | .shutdown => !eventLoop
  | _ => true

def Threads.acts (eventLoop : Bool) (t : Threads) : Bool := t.handler.acts || t.writerActs eventLoop

/-- The connection-detecting thread may call `killAlive` for the arguments that it has copied. -/
def DetectorPc.acts (pc : DetectorPc) (threads : ConnId → Threads) (c : ConnId) : Prop :=
  match pc with
  | .scan todo => AwaitsVisit threads todo c
  | .visit stage conn todo =>
    (c = conn ∧ (stage = .existsTest ∨ stage = .shutdown ∨ stage = .kill)) ∨ AwaitsVisit threads todo c

def State.Acts (config : RepeaterConfig) (s : State) (c : ConnId) : Prop :=
  (s.threads c).acts config.subscriberEnableEventLoop = true ∨
    (s.detectingArgs.lookup (s.sockets c).key = some c ∧ (s.threads c).detectingFinished = false) ∨
    s.detector.acts s.threads c

/-- The writer is still to be started. -/
def HandlerPc.starts : HandlerPc → Bool
  | .accepting => true
  | .subscriber .start => true
  | .subscriber .putDetectingArgs => true
  | _ => false

def Threads.writerSends (t : Threads) : Bool :=
  match t.writer with
  | .waiting => t.alived
  | .existsTest => true
  | .entry => t.alived
  | .cacheTest => true
  | .cacheGet => true
  | .flush => true
  | .subscribedTest => true
  | .deliver => true
  | .sending => true
  | _ => false

/-- The writer may still send a frame. -/
def Threads.sends (t : Threads) : Bool := t.handler.starts || t.writerSends

/-- A subscriber connection whose writer may still send to the number. -/
def State.Sends (s : State) (n : Nat) (c : ConnId) : Prop :=
  (s.sockets c).role = .subscriber ∧ (s.sockets c).clientFd = n ∧ (s.threads c).sends = true

instance (pc : DetectorPc) (threads : ConnId → Threads) (c : ConnId) :
    Decidable (pc.acts threads c) :=
  match pc with
  | .scan todo => inferInstanceAs (Decidable (AwaitsVisit threads todo c))
  | .visit _ _ _ => inferInstanceAs (Decidable (_ ∨ AwaitsVisit threads _ c))

instance (config : RepeaterConfig) (s : State) (c : ConnId) : Decidable (s.Acts config c) :=
  inferInstanceAs (Decidable (_ ∨ _ ∨ _))

instance (s : State) (n : Nat) (c : ConnId) : Decidable (s.Sends n c) :=
  inferInstanceAs (Decidable (_ ∧ _ ∧ _))

/-! ### What an unanswered connection has -/

/-- Without an answered subscribe request a connection has no record, no business frame and is not
about to get one. -/
structure Threads.Bare (t : Threads) : Prop where
  record : t.record = none
  frame : t.pendingBusiness = false
  writer : t.writer ≠ .cacheGet ∧ t.writer ≠ .deliver ∧ t.writer ≠ .sending
  flag : ∀ topics, t.handler ≠ .subscriber (.putSubscribed topics)

def Threads.Entitled (t : Threads) : Prop := t.answered = false → t.Bare

/-- What a thread's step needs of its connection. -/
structure Needs (eventLoop : Bool) (t : Threads) (operation : Operation) (t' : Threads) : Prop where
  acts : t'.acts eventLoop = true → t.acts eventLoop = true
  keyed : operation = .killAlive ∨ operation = .removeSubscribed ∨ operation = .putSubscribed ∨
    operation = .putDetectingArgs → t.acts eventLoop = true
  sends : t'.sends = true → t.sends = true
  answered : t.answered = true → t'.answered = true
  entitled : t'.Entitled
  frame : operation = .use (.send true) → t.answered = true ∧ t.sends = true
  flag : operation = .putSubscribed → t.answered = true

@[simp] theorem afterSent_ne (armed : Bool) (status : NonBlockingSendStatus) :
    WriterPc.afterSent armed status ≠ .cacheGet ∧ WriterPc.afterSent armed status ≠ .deliver ∧
      WriterPc.afterSent armed status ≠ .sending := by
  cases armed <;> cases status <;> exact ⟨nofun, nofun, nofun⟩

theorem publisherStep_needs {s : State} {t t' : Threads} {pc : PublisherPc} {input : Input}
    {operation : Operation} {eventLoop : Bool} (here : t.handler = .publisher pc)
    (entitled : t.Entitled) (moved : publisherStep s t pc input = some (operation, t')) :
    Needs eventLoop t operation t' := by
  unfold publisherStep at moved
  split at moved
  all_goals try split at moved
  all_goals cases moved
  all_goals
    constructor
    case entitled =>
      intro unanswered
      have bare := entitled unanswered
      exact ⟨bare.record, bare.frame, bare.writer, by simp_all⟩
    all_goals
      simp_all [Threads.acts, HandlerPc.acts, Threads.writerActs, Threads.sends, HandlerPc.starts,
        Threads.writerSends]

theorem afterEnqueue_needs {t : Threads} {after : AfterEnqueue} {eventLoop : Bool}
    (here : t.handler = .subscriber (.enqueue after)) (entitled : t.Entitled) :
    Needs eventLoop t .nothing (t.afterEnqueue after) := by
  cases after with
  | answered topics =>
    constructor
    case entitled => exact fun unanswered => by cases unanswered
    all_goals
      simp_all [Threads.acts, HandlerPc.acts, Threads.afterEnqueue, Threads.read, Threads.sends,
        HandlerPc.starts, Threads.writerSends]
  | _ =>
    constructor
    case entitled =>
      intro unanswered
      have bare := entitled unanswered
      exact ⟨bare.record, bare.frame, bare.writer, by rintro _ ⟨⟩⟩
    all_goals
      simp_all [Threads.acts, HandlerPc.acts, Threads.afterEnqueue, Threads.read, Threads.sends,
        HandlerPc.starts, Threads.writerSends]

theorem readerStep_needs {config : RepeaterConfig} {s : State} {c : ConnId} {t t' : Threads}
    {pc : ReaderPc} {input : Input} {operation : Operation} {eventLoop : Bool}
    (here : t.handler = .subscriber pc) (entitled : t.Entitled)
    (moved : readerStep config s c t pc input = some (operation, t')) :
    Needs eventLoop t operation t' := by
  have flagged : (∃ topics, pc = .putSubscribed topics) → t.answered = true := by
    rintro ⟨topics, rfl⟩
    by_contra unanswered
    exact (entitled (by simpa using unanswered)).flag topics here
  unfold readerStep at moved
  split at moved
  case h_10 after succeeds =>
    cases succeeds with
    | true =>
      cases moved
      exact afterEnqueue_needs here entitled
    | false =>
      cases moved
      constructor
      case entitled =>
        intro unanswered
        have bare := entitled unanswered
        exact ⟨bare.record, bare.frame, bare.writer, by rintro _ ⟨⟩⟩
      all_goals
        simp_all [Threads.acts, HandlerPc.acts, Threads.read, Threads.sends, HandlerPc.starts,
          Threads.writerSends]
  all_goals try split at moved
  all_goals cases moved
  all_goals
    constructor
    case entitled =>
      intro unanswered
      obtain ⟨record, frame, writer, _⟩ := entitled unanswered
      refine ⟨record, frame, ?_, ?_⟩ <;> simp_all [Threads.read]
    all_goals
      simp_all [Threads.acts, HandlerPc.acts, Threads.writerActs, Threads.sends, HandlerPc.starts,
        Threads.writerSends, Threads.read]
  · cases config.subscriberEnableEventLoop <;> simp
  · cases t.writer <;> simp

theorem Threads.Entitled.framed {t : Threads} (entitled : t.Entitled)
    (has : t.pendingBusiness = true ∨ t.writer = .sending) : t.answered = true := by
  by_contra unanswered
  have bare := entitled (by simpa using unanswered)
  rcases has with frame | sending
  · simp [bare.frame] at frame
  · exact bare.writer.2.2 sending

theorem normalStep_needs {s : State} {c : ConnId} {t t' : Threads} {input : Input}
    {operation : Operation} (entitled : t.Entitled)
    (subscribed : t.acts false = true → s.isSubscribed c = true → t.answered = true)
    (moved : normalStep s c t input = some (operation, t')) : Needs false t operation t' := by
  have framed := entitled.framed
  unfold normalStep at moved
  split at moved
  all_goals try split at moved
  all_goals cases moved
  all_goals
    constructor
    case entitled =>
      intro unanswered
      obtain ⟨record, frame, ⟨_, _, _⟩, flag⟩ := entitled unanswered
      constructor <;> simp_all [Threads.acts, Threads.writerActs, Threads.write, Threads.sent]
      all_goals split_ifs <;> simp
    all_goals
      simp_all [Threads.acts, Threads.writerActs, Threads.sends, Threads.writerSends, Threads.write,
        Threads.sent]

theorem loopStep_needs {s : State} {c : ConnId} {t t' : Threads} {input : Input}
    {operation : Operation} (entitled : t.Entitled)
    (subscribed : t.acts true = true → s.isSubscribed c = true → t.answered = true)
    (moved : loopStep s c t input = some (operation, t')) : Needs true t operation t' := by
  have framed := entitled.framed
  unfold loopStep at moved
  split at moved
  all_goals try split at moved
  all_goals cases moved
  all_goals
    constructor
    case entitled =>
      intro unanswered
      obtain ⟨record, frame, ⟨_, _, _⟩, flag⟩ := entitled unanswered
      constructor <;> simp_all [Threads.acts, Threads.writerActs, Threads.write, Threads.sent]
    all_goals
      simp_all [Threads.acts, Threads.writerActs, Threads.sends, Threads.writerSends, Threads.write,
        Threads.sent]

theorem threadMove_needs {config : RepeaterConfig} {s : State} {c : ConnId} {operation : Operation}
    {t : Threads} (keyed : Keyed s) (entitled : (s.threads c).Entitled)
    (subscribed : s.server c = some .subscriber → s.Acts config c → s.isSubscribed c = true →
      (s.threads c).answered = true)
    (moved : ThreadMove config s c operation t) :
    Needs config.subscriberEnableEventLoop (s.threads c) operation t := by
  cases moved with
  | publisher here moved => exact publisherStep_needs here entitled moved
  | reader here moved => exact readerStep_needs here entitled moved
  | normal mode moved =>
    have server := keyed.started c (normalStep_served moved).2
    exact mode ▸ normalStep_needs entitled
      (fun acts => subscribed server (.inl (by rw [mode]; exact acts))) moved
  | loop mode moved =>
    have server := keyed.started c (loopStep_served moved).2
    exact mode ▸ loopStep_needs entitled
      (fun acts => subscribed server (.inl (by rw [mode]; exact acts))) moved

theorem acts_dropAlive {eventLoop : Bool} {t : Threads}
    (acts : { t with alived := false }.acts eventLoop = true) : t.acts eventLoop = true := by
  simp only [Threads.acts, Bool.or_eq_true] at acts ⊢
  refine acts.imp_right fun writer => ?_
  unfold Threads.writerActs at writer ⊢
  cases here : t.writer <;> simp_all

theorem sends_dropAlive {t : Threads} (sends : { t with alived := false }.sends = true) :
    t.sends = true := by
  simp only [Threads.sends, Bool.or_eq_true] at sends ⊢
  refine sends.imp_right fun writer => ?_
  unfold Threads.writerSends at writer ⊢
  cases here : t.writer <;> simp_all

/-! ### Steps leave actors alone -/

theorem DetectorPc.acts_congr {threads threads' : ConnId → Threads} {pc : DetectorPc} {c : ConnId}
    (acts : pc.acts threads' c)
    (unfinished : (threads' c).detectingFinished = false → (threads c).detectingFinished = false) :
    pc.acts threads c := by
  cases pc with
  | scan todo => exact ⟨acts.1, unfinished acts.2⟩
  | visit stage conn todo => exact acts.imp_right fun awaits => ⟨awaits.1, unfinished awaits.2⟩

theorem move_acts {config : RepeaterConfig} {s : State} {c : ConnId} {operation : Operation}
    {t : Threads} {pc : DetectorPc}
    (threads : t.acts config.subscriberEnableEventLoop = true → s.Acts config c)
    (arguments : operation = .putDetectingArgs → s.Acts config c)
    (finished : (s.threads c).detectingFinished = true → t.detectingFinished = true)
    (detector : ∀ conn, pc.acts (Function.update s.threads c t) conn → s.detector.acts s.threads conn)
    {conn : ConnId} (acts : ((s.move c operation t).goDetector pc).Acts config conn) :
    s.Acts config conn := by
  rcases acts with uses | ⟨found, unfinished⟩ | visits
  · simp only [State.goDetector, State.move] at uses
    by_cases same : conn = c
    · subst same
      rw [Function.update_self] at uses
      exact threads uses
    · rw [Function.update_of_ne same] at uses
      exact .inl uses
  · have awaits : AwaitsVisit (Function.update s.threads c t) [conn] conn :=
      ⟨List.mem_singleton_self conn, unfinished⟩
    have before := (awaits.before finished).2
    simp only [State.goDetector, State.move, (perform_maps s c operation).detectingArgs] at found
    rw [(perform_same s c operation).2.1] at found
    split at found
    · rcases lookup_insert_cases found with ⟨_, rfl⟩ | found
      · exact arguments rfl
      · exact .inr (.inl ⟨found, before⟩)
    · exact .inr (.inl ⟨found, before⟩)
  · exact .inr (.inr (detector conn visits))

/-- Behind its `killAlive` a visit only waits for the next one. -/
theorem DetectorPc.acts_before {threads : ConnId → Threads} {c conn : ConnId} {t : Threads}
    {stage next : DetectStage} {todo : List ConnId}
    (acts : (DetectorPc.visit next c todo).acts (Function.update threads c t) conn)
    (late : next ≠ .existsTest ∧ next ≠ .shutdown ∧ next ≠ .kill)
    (finished : (threads c).detectingFinished = true → t.detectingFinished = true) :
    (DetectorPc.visit stage c todo).acts threads conn := by
  rcases acts with ⟨_, early | early | early⟩ | awaits
  · exact absurd early late.1
  · exact absurd early late.2.1
  · exact absurd early late.2.2
  · exact .inr (awaits.before finished)

theorem Marked.acts {t t' : Threads} (marked : Marked t t') {eventLoop : Bool}
    (acts : t'.acts eventLoop = true) : t.acts eventLoop = true := by
  cases marked with
  | dead => exact acts_dropAlive acts
  | _ => exact acts

theorem Marked.sends {t t' : Threads} (marked : Marked t t') (sends : t'.sends = true) :
    t.sends = true := by
  cases marked with
  | dead => exact sends_dropAlive sends
  | _ => exact sends

theorem Marked.entitled {t t' : Threads} (marked : Marked t t') (entitled : t.Entitled) :
    t'.Entitled := by
  intro unanswered
  cases marked <;> exact ⟨(entitled unanswered).record, (entitled unanswered).frame,
    (entitled unanswered).writer, (entitled unanswered).flag⟩

theorem Marked.same_fields {t t' : Threads} (marked : Marked t t') :
    t'.handler = t.handler ∧ t'.answered = t.answered ∧
      (t.detectingFinished = true → t'.detectingFinished = true) := by
  cases marked with
  | finished => exact ⟨rfl, rfl, fun _ => rfl⟩
  | _ => exact ⟨rfl, rfl, id⟩

theorem detectorStep_acts {s : State} {pc : DetectorPc} {c : ConnId} {operation : Operation}
    {t : Threads} (moved : detectorStep s = some (pc, c, operation, t)) :
    (∀ conn, pc.acts (Function.update s.threads c t) conn → s.detector.acts s.threads conn) ∧
      (operation = .killAlive → s.detector.acts s.threads c) ∧ operation.subscriberOnly = false := by
  cases detectorStep_cases moved with
  | skip here =>
    rw [here]
    exact ⟨fun other acts => (AwaitsVisit.before acts id).cons, nofun, rfl⟩
  | enter here unfinished =>
    rw [here]
    refine ⟨fun other acts => ?_, nofun, rfl⟩
    rcases acts with ⟨rfl, _⟩ | awaits
    · exact ⟨List.mem_cons_self, unfinished⟩
    · exact (awaits.before id).cons
  | found here =>
    rw [here]
    exact ⟨fun other acts => .inr (AwaitsVisit.before acts id), nofun, rfl⟩
  | lost here =>
    rw [here]
    refine ⟨fun other acts => ?_, nofun, rfl⟩
    rcases acts with ⟨rfl, _⟩ | awaits
    · exact .inl ⟨rfl, .inl rfl⟩
    · exact .inr (awaits.before id)
  | shutdown here =>
    rw [here]
    refine ⟨fun other acts => ?_, nofun, rfl⟩
    rcases acts with ⟨rfl, _⟩ | awaits
    · exact .inl ⟨rfl, .inr (.inl rfl)⟩
    · exact .inr (awaits.before id)
  | kill here =>
    rw [here]
    exact ⟨fun other acts => DetectorPc.acts_before acts ⟨nofun, nofun, nofun⟩ id,
      fun _ => .inl ⟨rfl, .inr (.inr rfl)⟩, rfl⟩
  | notifyStop here | dropAlive here =>
    rw [here]
    exact ⟨fun other acts => DetectorPc.acts_before acts ⟨nofun, nofun, nofun⟩ id, nofun, rfl⟩
  | finish here =>
    rw [here]
    exact ⟨fun other acts => .inr (AwaitsVisit.before acts fun _ => rfl), nofun, rfl⟩

end MessageRepeater.Lifecycle
