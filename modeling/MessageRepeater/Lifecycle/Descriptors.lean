import MessageRepeater.Foundation.Leases
import MessageRepeater.Lifecycle.Known

/-!
# Who may still use a descriptor number

A connection holds its number as long as one of its threads, its entry, its detecting arguments or the
connection-detecting thread may still pass the number to a system call. Holders only let go, so if
`accept` never returns a held number, no call meets another connection's socket.
-/

namespace MessageRepeater.Lifecycle
open Foundation Combiner Config Connection

/-! ### Holders -/

def HandlerPc.usesFd : HandlerPc → Bool
  | .absent => false
  | .accepting => true
  | .publisher .exitKill => false
  | .publisher .done => false
  | .publisher _ => true
  | .subscriber .exitKill => false
  | .subscriber .done => false
  | .subscriber _ => true

/-- An event loop that waits on a dead connection will only stop. -/
def Threads.writerUsesFd (eventLoop : Bool) (t : Threads) : Bool :=
  match t.writer with
  | .notStarted => false
  | .exitKill => false
  | .exitAlive => false
  | .done => false
  | .waiting => !eventLoop || t.alived
  | .entry => !eventLoop || t.alived
  | _ => true

def Threads.usesFd (eventLoop : Bool) (t : Threads) : Bool :=
  t.handler.usesFd || t.writerUsesFd eventLoop

/-- The entries that this pass has closed and will only erase. -/
def PassPc.toErase : PassPc → List (Key × ConnId)
  | .idle => []
  | .closing _ expired => expired
  | .erase expired => expired
  | .clear _ _ _ expired => expired

/-- Alive detection will close the number. -/
def State.entryUsesFd (s : State) (c : ConnId) : Prop :=
  s.owned (s.sockets c).role (s.sockets c).key = some ((s.sockets c).clientFd, c) ∧
    (s.sockets c).key ∉ (s.passes (s.sockets c).role).toErase.map Prod.fst

/-- The arguments are among those still to be visited. -/
def AwaitsVisit (threads : ConnId → Threads) (todo : List ConnId) (c : ConnId) : Prop :=
  c ∈ todo ∧ (threads c).detectingFinished = false

/-- The connection-detecting thread may shut the number down for the arguments that it has copied. -/
def DetectorPc.usesFd (pc : DetectorPc) (threads : ConnId → Threads) (c : ConnId) : Prop :=
  match pc with
  | .scan todo => AwaitsVisit threads todo c
  | .visit stage conn todo =>
    (c = conn ∧ (stage = .existsTest ∨ stage = .shutdown)) ∨ AwaitsVisit threads todo c

def State.Holds (config : RepeaterConfig) (s : State) (n : Nat) (c : ConnId) : Prop :=
  (s.sockets c).clientFd = n ∧
    ((s.threads c).usesFd config.subscriberEnableEventLoop = true ∨ s.entryUsesFd c ∨
      s.detectingArgs.lookup (s.sockets c).key = some c ∨ s.detector.usesFd s.threads c)

instance (threads : ConnId → Threads) (todo : List ConnId) (c : ConnId) :
    Decidable (AwaitsVisit threads todo c) :=
  inferInstanceAs (Decidable (_ ∧ _))

instance (pc : DetectorPc) (threads : ConnId → Threads) (c : ConnId) :
    Decidable (pc.usesFd threads c) :=
  match pc with
  | .scan todo => inferInstanceAs (Decidable (AwaitsVisit threads todo c))
  | .visit _ _ _ => inferInstanceAs (Decidable (_ ∨ AwaitsVisit threads _ c))

instance (s : State) (c : ConnId) : Decidable (s.entryUsesFd c) :=
  inferInstanceAs (Decidable (_ ∧ _))

instance (config : RepeaterConfig) (s : State) (n : Nat) (c : ConnId) :
    Decidable (s.Holds config n c) := by
  unfold State.Holds
  infer_instance

/-- `accept` returns a number that no earlier connection holds. -/
def Unheld (config : RepeaterConfig) (s : State) : Action → Prop
  | .accept _ _ fd => ∀ c, c < s.count → ¬ s.Holds config fd c
  | _ => True

instance (config : RepeaterConfig) (s : State) (action : Action) :
    Decidable (Unheld config s action) :=
  match action with
  | .accept _ _ fd => Nat.decidableBallLT s.count fun c _ => ¬ s.Holds config fd c
  | .tick _ | .refuse _ | .enroll _ | .handler _ _ | .writer _ _ | .detectorCopy _ | .detector
  | .pass _ _ => .isTrue trivial

theorem State.Holds.lt_count {config : RepeaterConfig} {s : State} {n : Nat} {c : ConnId}
    (holds : s.Holds config n c) (keyed : Keyed s) : c < s.count := by
  obtain ⟨_, threads | entry | arguments | detector⟩ := holds
  · by_contra beyond
    rw [keyed.fresh c (Nat.le_of_not_lt beyond)] at threads
    cases threads
  · exact keyed.lt_count (keyed.entry _ _ _ _ entry.1).1.server
  · exact keyed.lt_count (keyed.arguments _ _ arguments).server
  · apply keyed.lt_count (keyed.visited c _)
    cases here : s.detector with
    | scan todo =>
      rw [here] at detector
      exact detector.1
    | visit stage conn todo =>
      rw [here] at detector
      rcases detector with ⟨rfl, _⟩ | ⟨listed, _⟩
      · exact List.mem_cons_self
      · exact List.mem_cons_of_mem _ listed

/-! ### Threads only let go -/

/-- What a thread's step does to its hold on the number. -/
structure Releases (eventLoop : Bool) (t : Threads) (operation : Operation) (t' : Threads) : Prop where
  threads : t'.usesFd eventLoop = true → t.usesFd eventLoop = true
  uses : (∃ op, operation = .use op) ∨ operation = .putDetectingArgs → t.usesFd eventLoop = true
  finished : t'.detectingFinished = t.detectingFinished

theorem publisherStep_releases {s : State} {t t' : Threads} {pc : PublisherPc} {input : Input}
    {operation : Operation} {eventLoop : Bool} (here : t.handler = .publisher pc)
    (moved : publisherStep s t pc input = some (operation, t')) :
    Releases eventLoop t operation t' := by
  unfold publisherStep at moved
  split at moved
  all_goals try split at moved
  all_goals cases moved
  all_goals
    constructor <;>
      simp_all [Threads.usesFd, HandlerPc.usesFd, Threads.writerUsesFd]

theorem readerStep_releases {config : RepeaterConfig} {s : State} {c : ConnId} {t t' : Threads}
    {pc : ReaderPc} {input : Input} {operation : Operation} {eventLoop : Bool}
    (here : t.handler = .subscriber pc)
    (moved : readerStep config s c t pc input = some (operation, t')) :
    Releases eventLoop t operation t' := by
  unfold readerStep at moved
  split at moved
  all_goals try split at moved
  all_goals cases moved
  all_goals
    constructor <;>
      simp_all [Threads.usesFd, HandlerPc.usesFd, Threads.writerUsesFd, Threads.read]

theorem normalStep_releases {s : State} {c : ConnId} {t t' : Threads} {input : Input}
    {operation : Operation} (moved : normalStep s c t input = some (operation, t')) :
    Releases false t operation t' := by
  unfold normalStep at moved
  split at moved
  all_goals try split at moved
  all_goals cases moved
  all_goals
    constructor <;>
      simp_all [Threads.usesFd, Threads.writerUsesFd, Threads.write, Threads.sent]

theorem loopStep_releases {s : State} {c : ConnId} {t t' : Threads} {input : Input}
    {operation : Operation} (moved : loopStep s c t input = some (operation, t')) :
    Releases true t operation t' := by
  unfold loopStep at moved
  split at moved
  all_goals try split at moved
  all_goals cases moved
  all_goals
    constructor <;>
      simp_all [Threads.usesFd, Threads.writerUsesFd, Threads.write, Threads.sent]

theorem threadMove_releases {config : RepeaterConfig} {s : State} {c : ConnId} {operation : Operation}
    {t : Threads} (moved : ThreadMove config s c operation t) :
    Releases config.subscriberEnableEventLoop (s.threads c) operation t := by
  cases moved with
  | publisher here moved => exact publisherStep_releases here moved
  | reader here moved => exact readerStep_releases here moved
  | normal mode moved => exact mode ▸ normalStep_releases moved
  | loop mode moved => exact mode ▸ loopStep_releases moved

theorem usesFd_dropAlive {eventLoop : Bool} {t : Threads}
    (uses : { t with alived := false }.usesFd eventLoop = true) : t.usesFd eventLoop = true := by
  simp only [Threads.usesFd, Bool.or_eq_true] at uses ⊢
  refine uses.imp_right fun writer => ?_
  unfold Threads.writerUsesFd at writer ⊢
  cases here : t.writer <;> simp_all

/-! ### Steps only let go -/

section Fewer
variable {config : RepeaterConfig} {s s' : State} {c : ConnId}

theorem State.Holds.ofThreads (uses : (s.threads c).usesFd config.subscriberEnableEventLoop = true) :
    s.Holds config (s.sockets c).clientFd c := ⟨rfl, .inl uses⟩

theorem State.Holds.ofEntry (entry : s.entryUsesFd c) : s.Holds config (s.sockets c).clientFd c :=
  ⟨rfl, .inr (.inl entry)⟩

theorem State.Holds.ofArguments (arguments : s.detectingArgs.lookup (s.sockets c).key = some c) :
    s.Holds config (s.sockets c).clientFd c := ⟨rfl, .inr (.inr (.inl arguments))⟩

theorem State.Holds.ofDetector (detector : s.detector.usesFd s.threads c) :
    s.Holds config (s.sockets c).clientFd c :=
  ⟨rfl, .inr (.inr (.inr detector))⟩

/-- Nobody takes hold of a number. Each field is about one kind of holder. -/
structure Fewer (config : RepeaterConfig) (s s' : State) : Prop where
  sockets : s'.sockets = s.sockets
  threads : ∀ c, (s'.threads c).usesFd config.subscriberEnableEventLoop = true →
    s.Holds config (s.sockets c).clientFd c
  entries : ∀ c, s'.entryUsesFd c → s.Holds config (s.sockets c).clientFd c
  arguments : ∀ c, s'.detectingArgs.lookup (s.sockets c).key = some c →
    s.Holds config (s.sockets c).clientFd c
  detector : ∀ c, s'.detector.usesFd s'.threads c → s.Holds config (s.sockets c).clientFd c

theorem Fewer.holds (fewer : Fewer config s s') (n : Nat) (c : ConnId) (holds : s'.Holds config n c) :
    s.Holds config n c := by
  obtain ⟨number, holder⟩ := holds
  rw [fewer.sockets] at number holder
  subst number
  rcases holder with threads | entry | arguments | detector
  · exact fewer.threads c threads
  · exact fewer.entries c entry
  · exact fewer.arguments c arguments
  · exact fewer.detector c detector

theorem Fewer.refl (config : RepeaterConfig) (s : State) : Fewer config s s where
  sockets := rfl
  threads _ := .ofThreads
  entries _ := .ofEntry
  arguments _ := .ofArguments
  detector _ := .ofDetector

end Fewer

theorem move_fewer {config : RepeaterConfig} {s : State} {c : ConnId} {operation : Operation}
    {t : Threads} {pc : DetectorPc}
    (threads : t.usesFd config.subscriberEnableEventLoop = true →
      (s.threads c).usesFd config.subscriberEnableEventLoop = true)
    (arguments : operation = .putDetectingArgs →
      (s.threads c).usesFd config.subscriberEnableEventLoop = true)
    (detector : ∀ conn, pc.usesFd (Function.update s.threads c t) conn →
      s.detector.usesFd s.threads conn) :
    Fewer config s ((s.move c operation t).goDetector pc) where
  sockets := by simp [State.goDetector, State.move]
  threads conn uses := by
    simp only [State.goDetector, State.move] at uses
    apply State.Holds.ofThreads
    by_cases same : conn = c
    · subst same
      rw [Function.update_self] at uses
      exact threads uses
    · rw [Function.update_of_ne same] at uses
      exact uses
  entries conn entry := by
    apply State.Holds.ofEntry
    unfold State.entryUsesFd at entry ⊢
    simp only [State.goDetector, State.move, perform_same] at entry
    have owned := perform_owned s c operation (s.sockets conn).role (s.sockets conn).key
    exact ⟨owned ▸ entry.1, entry.2⟩
  arguments conn found := by
    simp only [State.goDetector, State.move, (perform_maps s c operation).detectingArgs] at found
    split at found
    · rcases lookup_insert_cases found with ⟨_, rfl⟩ | before
      · exact .ofThreads (arguments rfl)
      · exact .ofArguments before
    · exact .ofArguments found
  detector conn uses := .ofDetector (detector conn uses)

theorem AwaitsVisit.cons {threads : ConnId → Threads} {todo : List ConnId} {c conn : ConnId}
    (awaits : AwaitsVisit threads todo c) : AwaitsVisit threads (conn :: todo) c :=
  ⟨List.mem_cons_of_mem _ awaits.1, awaits.2⟩

theorem AwaitsVisit.before {threads : ConnId → Threads} {c conn : ConnId} {t : Threads}
    {todo : List ConnId} (awaits : AwaitsVisit (Function.update threads c t) todo conn)
    (finished : (threads c).detectingFinished = true → t.detectingFinished = true) :
    AwaitsVisit threads todo conn := by
  obtain ⟨listed, unfinished⟩ := awaits
  refine ⟨listed, ?_⟩
  by_cases same : conn = c
  · subst same
    rw [Function.update_self] at unfinished
    by_contra done
    rw [finished (by simpa using done)] at unfinished
    cases unfinished
  · rw [Function.update_of_ne same] at unfinished
    exact unfinished

theorem DetectorPc.usesFd_congr {threads threads' : ConnId → Threads} {pc : DetectorPc} {c : ConnId}
    (uses : pc.usesFd threads' c)
    (same : (threads' c).detectingFinished = (threads c).detectingFinished) : pc.usesFd threads c := by
  cases pc with
  | scan todo => exact ⟨uses.1, same ▸ uses.2⟩
  | visit stage conn todo => exact uses.imp_right fun awaits => ⟨awaits.1, same ▸ awaits.2⟩

/-- Behind its `shutdown` a visit only waits for the next one. -/
theorem DetectorPc.usesFd_before {threads : ConnId → Threads} {c conn : ConnId} {t : Threads}
    {stage next : DetectStage} {todo : List ConnId}
    (uses : (DetectorPc.visit next c todo).usesFd (Function.update threads c t) conn)
    (late : next ≠ .existsTest ∧ next ≠ .shutdown)
    (finished : (threads c).detectingFinished = true → t.detectingFinished = true) :
    (DetectorPc.visit stage c todo).usesFd threads conn := by
  rcases uses with ⟨_, early | early⟩ | awaits
  · exact absurd early late.1
  · exact absurd early late.2
  · exact .inr (awaits.before finished)

theorem ThreadMove.fewer {config : RepeaterConfig} {s : State} {c : ConnId} {operation : Operation}
    {t : Threads} (moved : ThreadMove config s c operation t) :
    Fewer config s (s.move c operation t) := by
  have releases := threadMove_releases moved
  have finished : (s.threads c).detectingFinished = true → t.detectingFinished = true :=
    fun done => releases.finished.trans done
  have detector : ∀ conn, s.detector.usesFd (Function.update s.threads c t) conn →
      s.detector.usesFd s.threads conn := by
    intro conn uses
    cases here : s.detector with
    | scan todo =>
      rw [here] at uses
      exact AwaitsVisit.before uses finished
    | visit stage visited todo =>
      rw [here] at uses
      exact uses.imp_right fun awaits => awaits.before finished
  rw [← move_goDetector]
  exact move_fewer releases.threads (fun put => releases.uses (.inr put)) detector

/-- The connection-detecting thread calls `shutdown` only for arguments that it has found broken. -/
theorem detectorStep_uses {s : State} {pc : DetectorPc} {c : ConnId} {operation : Operation}
    {t : Threads} (moved : detectorStep s = some (pc, c, operation, t)) :
    (∀ conn, pc.usesFd (Function.update s.threads c t) conn → s.detector.usesFd s.threads conn) ∧
      ((∃ op, operation = .use op) → s.detector.usesFd s.threads c) := by
  cases detectorStep_cases moved with
  | skip here =>
    rw [here]
    exact ⟨fun other uses => (AwaitsVisit.before uses id).cons, nofun⟩
  | enter here unfinished =>
    rw [here]
    refine ⟨fun other uses => ?_, nofun⟩
    rcases uses with ⟨rfl, _⟩ | awaits
    · exact ⟨List.mem_cons_self, unfinished⟩
    · exact (awaits.before id).cons
  | found here =>
    rw [here]
    exact ⟨fun other uses => .inr (AwaitsVisit.before uses id), nofun⟩
  | lost here =>
    rw [here]
    refine ⟨fun other uses => ?_, nofun⟩
    rcases uses with ⟨rfl, _⟩ | awaits
    · exact .inl ⟨rfl, .inl rfl⟩
    · exact .inr (awaits.before id)
  | shutdown here =>
    rw [here]
    exact ⟨fun other uses => DetectorPc.usesFd_before uses ⟨nofun, nofun⟩ id,
      fun _ => .inl ⟨rfl, .inr rfl⟩⟩
  | kill here | notifyStop here | dropAlive here =>
    rw [here]
    exact ⟨fun other uses => DetectorPc.usesFd_before uses ⟨nofun, nofun⟩ id, nofun⟩
  | finish here =>
    rw [here]
    exact ⟨fun other uses => .inr (AwaitsVisit.before uses fun _ => rfl), nofun⟩

theorem detectorStep_fewer {config : RepeaterConfig} {s : State} {pc : DetectorPc} {c : ConnId}
    {operation : Operation} {t : Threads} (moved : detectorStep s = some (pc, c, operation, t)) :
    Fewer config s ((s.move c operation t).goDetector pc) ∧
      ((∃ op, operation = .use op) → s.detector.usesFd s.threads c) := by
  obtain ⟨detector, uses⟩ := detectorStep_uses moved
  have move := detectorStep_cases moved
  refine ⟨move_fewer (fun threads => ?_) (fun put => by cases put; cases move) detector, uses⟩
  cases move with
  | dropAlive => exact usesFd_dropAlive threads
  | _ => exact threads

end MessageRepeater.Lifecycle
