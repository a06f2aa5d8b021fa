import MessageRepeater.Lifecycle.Moves

/-!
# Whose data the maps hold

Everything that the process keeps by key, by descriptor or in a list belongs to a connection that has been
admitted with that key and that descriptor.
-/

namespace MessageRepeater.Lifecycle
open Foundation Combiner Config Connection

/-- The server that has admitted the connection. -/
def HandlerPc.server : HandlerPc → Option Role
  | .publisher _ => some .publisher
  | .subscriber _ => some .subscriber
  | _ => none

def State.server (s : State) (c : ConnId) : Option Role := (s.threads c).handler.server

def DetectorPc.conns : DetectorPc → List ConnId
  | .scan todo => todo
  | .visit _ c todo => c :: todo

def PassPc.expired : PassPc → List (Key × ConnId)
  | .idle => []
  | .closing _ expired => expired
  | .erase expired => expired
  | .clear _ key owner expired => (key, owner) :: expired

/-- A connection that the role's server has admitted with the key. -/
structure State.Known (s : State) (role : Role) (key : Key) (c : ConnId) : Prop where
  server : s.server c = some role
  key : (s.sockets c).key = key

structure Keyed (s : State) : Prop where
  fresh : ∀ c, s.count ≤ c → s.threads c = {}
  issued : ∀ n c, s.fds n = some c → c < s.count ∧ (s.sockets c).clientFd = n
  inHand : ∀ role c, s.acceptors role = some c →
    c < s.count ∧ (s.sockets c).role = role ∧ (s.threads c).handler = .accepting
  served : ∀ c role, s.server c = some role → (s.sockets c).role = role
  started : ∀ c, (s.threads c).writer ≠ .notStarted → s.server c = some .subscriber
  entry : ∀ role key fd c, s.owned role key = some (fd, c) →
    s.Known role key c ∧ (s.sockets c).clientFd = fd
  arguments : ∀ key c, s.detectingArgs.lookup key = some c → s.Known .subscriber key c
  loops : ∀ key c, s.eventLoops.lookup key = some c → s.Known .subscriber key c
  subscribers : ∀ key c, s.subscribed.lookup key = some c → s.Known .subscriber key c
  visited : ∀ c ∈ s.detector.conns, s.server c = some .subscriber
  expired : ∀ role key c, (key, c) ∈ (s.passes role).expired → s.Known role key c

theorem keyed_initial (config : RepeaterConfig) (now : Nat) : Keyed (initial config now) where
  fresh _ _ := rfl
  issued _ _ found := by cases found
  inHand _ _ found := by cases found
  served _ _ found := by cases found
  started _ started := absurd rfl started
  entry _ _ _ _ found := by cases found
  arguments _ _ found := by cases found
  loops _ _ found := by cases found
  subscribers _ _ found := by cases found
  visited _ listed := by cases listed
  expired _ _ _ listed := by cases listed

theorem Keyed.lt_count {s : State} (keyed : Keyed s) {c : ConnId} {role : Role}
    (server : s.server c = some role) : c < s.count := by
  by_contra beyond
  unfold State.server at server
  rw [keyed.fresh c (Nat.le_of_not_lt beyond)] at server
  cases server

theorem Keyed.ofEntry {s : State} (keyed : Keyed s) {role : Role} {key : Key}
    {entity : ConnectionEntity} (found : (s.clientConnections role).lookup key = some entity) :
    s.Known role key entity.owner ∧ (s.sockets entity.owner).clientFd = entity.clientFd := by
  apply keyed.entry role key
  unfold State.owned
  rw [found]
  rfl

/-! ### Growing -/

/-- No connection is forgotten, renamed or handed to another server. -/
structure Grows (s s' : State) : Prop where
  sockets : ∀ c, c < s.count → s'.sockets c = s.sockets c
  server : ∀ c role, s.server c = some role → s'.server c = some role

theorem State.Known.grow {s s' : State} {role : Role} {key : Key} {c : ConnId}
    (known : s.Known role key c) (keyed : Keyed s) (grows : Grows s s') : s'.Known role key c where
  server := grows.server c role known.server
  key := by rw [grows.sockets c (keyed.lt_count known.server), known.key]

/-- What no thread of a publisher connection does. -/
def Operation.subscriberOnly : Operation → Bool
  | .nothing => false
  | .use op => op == .send true
  | .refreshKeepAlive => false
  | .killAlive => false
  | _ => true

/-- What a thread of an admitted connection keeps. -/
structure Served (s : State) (c : ConnId) (operation : Operation) (t : Threads) (role : Role) : Prop
    where
  before : s.server c = some role
  after : t.handler.server = some role
  started : t.writer ≠ .notStarted → role = .subscriber
  subscriber : operation.subscriberOnly = true → role = .subscriber

theorem publisherStep_served {s : State} {t t' : Threads} {pc : PublisherPc} {input : Input}
    {operation : Operation} (moved : publisherStep s t pc input = some (operation, t')) :
    (t.handler = .publisher pc → t'.handler.server = some .publisher) ∧ t'.writer = t.writer ∧
      operation.subscriberOnly = false := by
  unfold publisherStep at moved
  split at moved
  all_goals try split at moved
  all_goals cases moved
  all_goals simp +contextual [HandlerPc.server, Operation.subscriberOnly]

theorem readerStep_served {config : RepeaterConfig} {s : State} {c : ConnId} {t t' : Threads}
    {pc : ReaderPc} {input : Input} {operation : Operation}
    (moved : readerStep config s c t pc input = some (operation, t')) :
    t'.handler.server = some .subscriber := by
  unfold readerStep at moved
  split at moved
  all_goals try split at moved
  all_goals cases moved
  all_goals try rfl
  rename_i after _ _
  cases after <;> rfl

theorem normalStep_served {s : State} {c : ConnId} {t t' : Threads} {input : Input}
    {operation : Operation} (moved : normalStep s c t input = some (operation, t')) :
    t'.handler = t.handler ∧ t.writer ≠ .notStarted := by
  unfold normalStep at moved
  split at moved
  all_goals try split at moved
  all_goals cases moved
  all_goals simp_all [Threads.write, Threads.sent]

theorem loopStep_served {s : State} {c : ConnId} {t t' : Threads} {input : Input}
    {operation : Operation} (moved : loopStep s c t input = some (operation, t')) :
    t'.handler = t.handler ∧ t.writer ≠ .notStarted := by
  unfold loopStep at moved
  split at moved
  all_goals try split at moved
  all_goals cases moved
  all_goals simp_all [Threads.write, Threads.sent]

theorem threadMove_served {config : RepeaterConfig} {s : State} {c : ConnId} {operation : Operation}
    {t : Threads} (keyed : Keyed s) (moved : ThreadMove config s c operation t) :
    ∃ role, Served s c operation t role := by
  cases moved with
  | publisher here moved =>
    obtain ⟨after, writer, plain⟩ := publisherStep_served moved
    have before : s.server c = some .publisher := by rw [State.server, here]; rfl
    refine ⟨.publisher, before, after here, fun started => ?_, fun only => by simp [plain] at only⟩
    rw [writer] at started
    have other := keyed.started c started
    rw [before] at other
    cases other
  | reader here moved =>
    have before : s.server c = some .subscriber := by rw [State.server, here]; rfl
    exact ⟨.subscriber, before, readerStep_served moved, fun _ => rfl, fun _ => rfl⟩
  | normal _ moved =>
    obtain ⟨handler, started⟩ := normalStep_served moved
    have before := keyed.started c started
    exact ⟨.subscriber, before, by rw [handler]; exact before, fun _ => rfl, fun _ => rfl⟩
  | loop _ moved =>
    obtain ⟨handler, started⟩ := loopStep_served moved
    have before := keyed.started c started
    exact ⟨.subscriber, before, by rw [handler]; exact before, fun _ => rfl, fun _ => rfl⟩

theorem detectorStep_served {s : State} {pc : DetectorPc} {c : ConnId} {operation : Operation}
    {t : Threads} (keyed : Keyed s) (moved : detectorStep s = some (pc, c, operation, t)) :
    Served s c operation t .subscriber ∧ ∀ conn ∈ pc.conns, conn ∈ s.detector.conns := by
  have move := detectorStep_cases moved
  have server : s.server c = some .subscriber :=
    keyed.visited c (by cases move <;> simp [DetectorPc.conns, *])
  have handler : t.handler = (s.threads c).handler := by cases move <;> rfl
  refine ⟨⟨server, by rw [handler]; exact server, fun _ => rfl, fun _ => rfl⟩, fun conn listed => ?_⟩
  cases move with
  | skip here | found here | finish here =>
    rw [here]
    exact List.mem_cons_of_mem _ listed
  | enter here | lost here | shutdown here | kill here | notifyStop here | dropAlive here =>
    rw [here]
    exact listed

/-! ### Every step keeps it -/

theorem Served.grows {s : State} {c : ConnId} {operation : Operation} {t : Threads} {role : Role}
    (served : Served s c operation t role) (pc : DetectorPc) :
    Grows s ((s.move c operation t).goDetector pc) where
  sockets _ _ := by simp [State.goDetector, State.move]
  server conn r server := by
    simp only [State.server, State.goDetector, State.move]
    by_cases same : conn = c
    · subst same
      rw [Function.update_self, served.after, ← served.before, server]
    · rw [Function.update_of_ne same]
      exact server

theorem Keyed.move {s : State} (keyed : Keyed s) {c : ConnId} {operation : Operation} {t : Threads}
    {role : Role} (served : Served s c operation t role) {pc : DetectorPc}
    (listed : ∀ conn ∈ pc.conns, conn ∈ s.detector.conns) :
    Keyed ((s.move c operation t).goDetector pc) := by
  have grows := served.grows pc
  have maps := perform_maps s c operation
  have accepted := keyed.lt_count served.before
  have self : operation.subscriberOnly = true → s.Known .subscriber (s.sockets c).key c :=
    fun only => ⟨served.subscriber only ▸ served.before, rfl⟩
  constructor
  case fresh =>
    intro conn beyond
    simp only [State.goDetector, State.move, perform_same] at beyond ⊢
    have other : conn ≠ c := Nat.ne_of_gt (Nat.lt_of_lt_of_le accepted beyond)
    rw [Function.update_of_ne other]
    exact keyed.fresh conn beyond
  case issued =>
    intro n conn found
    simp only [State.goDetector, State.move, perform_same, perform_fds] at found ⊢
    split at found
    · by_cases same : n = (s.sockets c).clientFd
      · rw [same, Function.update_self] at found
        cases found
      · rw [Function.update_of_ne same] at found
        exact keyed.issued n conn found
    · exact keyed.issued n conn found
  case inHand =>
    intro r conn found
    simp only [State.goDetector, State.move, perform_same] at found ⊢
    obtain ⟨lt, socket, accepting⟩ := keyed.inHand r conn found
    have other : conn ≠ c := by
      rintro rfl
      have before := served.before
      rw [State.server, accepting] at before
      cases before
    rw [Function.update_of_ne other]
    exact ⟨lt, socket, accepting⟩
  case served =>
    intro conn r server
    simp only [State.server, State.goDetector, State.move, perform_same] at server ⊢
    by_cases same : conn = c
    · subst same
      rw [Function.update_self, served.after, ← served.before] at server
      exact keyed.served conn r server
    · rw [Function.update_of_ne same] at server
      exact keyed.served conn r server
  case started =>
    intro conn started
    simp only [State.server, State.goDetector, State.move, perform_same] at started ⊢
    by_cases same : conn = c
    · subst same
      rw [Function.update_self] at started ⊢
      rw [served.after, served.started started]
    · rw [Function.update_of_ne same] at started ⊢
      exact keyed.started conn started
  case entry =>
    intro r key fd conn found
    have before : s.owned r key = some (fd, conn) := by
      rw [← perform_owned s c operation r key]
      exact found
    obtain ⟨known, socket⟩ := keyed.entry r key fd conn before
    refine ⟨known.grow keyed grows, ?_⟩
    rw [grows.sockets conn (keyed.lt_count known.server), socket]
  case arguments =>
    intro key conn found
    simp only [State.goDetector, State.move, maps.detectingArgs] at found
    split at found
    · rcases lookup_insert_cases found with ⟨rfl, rfl⟩ | before
      · exact (self rfl).grow keyed grows
      · exact (keyed.arguments key conn before).grow keyed grows
    · exact (keyed.arguments key conn found).grow keyed grows
  case loops =>
    intro key conn found
    simp only [State.goDetector, State.move, maps.eventLoops] at found
    split at found
    · rcases lookup_insert_cases found with ⟨rfl, rfl⟩ | before
      · exact (self rfl).grow keyed grows
      · exact (keyed.loops key conn before).grow keyed grows
    · exact (keyed.loops key conn found).grow keyed grows
  case subscribers =>
    intro key conn found
    simp only [State.goDetector, State.move, maps.subscribed] at found
    split at found
    · rcases lookup_insert_cases found with ⟨rfl, rfl⟩ | before
      · exact (self rfl).grow keyed grows
      · exact (keyed.subscribers key conn before).grow keyed grows
    · exact (keyed.subscribers key conn (lookup_erase_cases found).2).grow keyed grows
    · exact (keyed.subscribers key conn found).grow keyed grows
  case visited =>
    intro conn visited
    exact grows.server conn _ (keyed.visited conn (listed conn visited))
  case expired =>
    intro r key conn expired
    simp only [State.goDetector, State.move, perform_same] at expired
    exact (keyed.expired r key conn expired).grow keyed grows

/-- Nothing new is kept, except what is about admitted connections. -/
structure Shrinks (s s' : State) : Prop where
  same : s'.count = s.count ∧ s'.sockets = s.sockets ∧ s'.acceptors = s.acceptors
  threads : ∀ c, s'.threads c = s.threads c ∨
    (c < s.count ∧ (s'.threads c).handler = (s.threads c).handler ∧
      (s'.threads c).writer = (s.threads c).writer)
  fds : ∀ n c, s'.fds n = some c → s.fds n = some c
  owned : ∀ role key fd c, s'.owned role key = some (fd, c) → s.owned role key = some (fd, c)
  arguments : ∀ key c, s'.detectingArgs.lookup key = some c → s.detectingArgs.lookup key = some c
  loops : ∀ key c, s'.eventLoops.lookup key = some c → s.eventLoops.lookup key = some c
  subscribers : ∀ key c, s'.subscribed.lookup key = some c → s.subscribed.lookup key = some c
  visited : ∀ c ∈ s'.detector.conns, c ∈ s.detector.conns ∨ s.server c = some .subscriber
  expired : ∀ role key c, (key, c) ∈ (s'.passes role).expired →
    (key, c) ∈ (s.passes role).expired ∨ s.Known role key c

theorem Shrinks.handler {s s' : State} (shrinks : Shrinks s s') (c : ConnId) :
    (s'.threads c).handler = (s.threads c).handler ∧ (s'.threads c).writer = (s.threads c).writer := by
  rcases shrinks.threads c with same | ⟨_, same⟩
  · rw [same]
    exact ⟨rfl, rfl⟩
  · exact same

theorem Shrinks.server {s s' : State} (shrinks : Shrinks s s') (c : ConnId) :
    s'.server c = s.server c := by
  unfold State.server
  rw [(shrinks.handler c).1]

theorem Keyed.shrink {s s' : State} (keyed : Keyed s) (shrinks : Shrinks s s') : Keyed s' := by
  obtain ⟨count, sockets, acceptors⟩ := shrinks.same
  have known : ∀ {role key c}, s.Known role key c → s'.Known role key c := fun known =>
    ⟨(shrinks.server _).trans known.server, by rw [sockets, known.key]⟩
  constructor
  case fresh =>
    intro c beyond
    rw [count] at beyond
    rcases shrinks.threads c with same | ⟨accepted, _⟩
    · rw [same]
      exact keyed.fresh c beyond
    · exact absurd accepted (Nat.not_lt.mpr beyond)
  case issued =>
    intro n c found
    rw [count, sockets]
    exact keyed.issued n c (shrinks.fds n c found)
  case inHand =>
    intro role c found
    rw [acceptors] at found
    rw [count, sockets, (shrinks.handler c).1]
    exact keyed.inHand role c found
  case served =>
    intro c role server
    rw [shrinks.server] at server
    rw [sockets]
    exact keyed.served c role server
  case started =>
    intro c started
    rw [(shrinks.handler c).2] at started
    rw [shrinks.server]
    exact keyed.started c started
  case entry =>
    intro role key fd c found
    obtain ⟨before, socket⟩ := keyed.entry role key fd c (shrinks.owned role key fd c found)
    exact ⟨known before, by rw [sockets, socket]⟩
  case arguments => exact fun key c found => known (keyed.arguments key c (shrinks.arguments key c found))
  case loops => exact fun key c found => known (keyed.loops key c (shrinks.loops key c found))
  case subscribers =>
    exact fun key c found => known (keyed.subscribers key c (shrinks.subscribers key c found))
  case visited =>
    intro c visited
    rw [shrinks.server]
    rcases shrinks.visited c visited with before | server
    · exact keyed.visited c before
    · exact server
  case expired =>
    intro role key c expired
    rcases shrinks.expired role key c expired with before | fresh
    · exact known (keyed.expired role key c before)
    · exact known fresh

theorem Shrinks.refl (s : State) : Shrinks s s where
  same := ⟨rfl, rfl, rfl⟩
  threads _ := .inl rfl
  fds _ _ found := found
  owned _ _ _ _ found := found
  arguments _ _ found := found
  loops _ _ found := found
  subscribers _ _ found := found
  visited _ visited := .inl visited
  expired _ _ _ expired := .inl expired

/-- Alive detection goes on with what it had, or with an entry that has just expired. -/
theorem Shrinks.goPass {s s' : State} (shrinks : Shrinks s s') {role : Role} {pc : PassPc}
    (listed : ∀ key c, (key, c) ∈ pc.expired →
      (key, c) ∈ (s'.passes role).expired ∨ s.Known role key c) : Shrinks s (s'.goPass role pc) :=
  { shrinks with
    expired := by
      intro r key c expired
      simp only [State.goPass] at expired
      by_cases here : r = role
      · subst here
        rw [Function.update_self] at expired
        rcases listed key c expired with before | known
        · exact shrinks.expired r key c before
        · exact .inr known
      · rw [Function.update_of_ne here] at expired
        exact shrinks.expired r key c expired }

/-- A closed number stands for nobody. -/
theorem update_none_some {fds : Nat → Option ConnId} {fd n : Nat} {c : ConnId}
    (found : Function.update fds fd none n = some c) : fds n = some c := by
  by_cases same : n = fd
  · rw [same, Function.update_self] at found
    cases found
  · rw [Function.update_of_ne same] at found
    exact found

theorem Shrinks.close {s : State} {c : ConnId} {fd : Nat} : Shrinks s (s.use c fd .close) :=
  { Shrinks.refl s with fds := fun _ _ found => update_none_some found }

theorem passMove_shrinks {config : RepeaterConfig} {s s' : State} {role : Role} (keyed : Keyed s)
    (moved : PassMove config s role s') : Shrinks s s' := by
  cases moved with
  | start here => exact (Shrinks.refl s).goPass fun _ _ listed => by cases listed
  | @expire now expired key entity here found idle new =>
    refine Shrinks.close.goPass fun k c listed => ?_
    rw [(use_same s entity.owner entity.clientFd .close).2.2.2.2.2.1, here]
    rcases List.mem_append.mp listed with before | fresh
    · exact .inl before
    · cases List.mem_singleton.mp fresh
      exact .inr (keyed.ofEntry found).1
  | scanned here all => exact (Shrinks.refl s).goPass fun _ _ listed => .inl (by rw [here]; exact listed)
  | finish here => exact (Shrinks.refl s).goPass fun _ _ listed => by cases listed
  | @erase key owner expired here =>
    have erased : Shrinks s
        { s with
          clientConnections :=
            Function.update s.clientConnections role ((s.clientConnections role).erase key) } :=
      { Shrinks.refl s with
        owned := by
          intro r k fd c found
          unfold State.owned at found ⊢
          dsimp only at found
          by_cases same : r = role
          · subst same
            rw [Function.update_self] at found
            obtain ⟨entity, present, eq⟩ := Option.map_eq_some_iff.mp found
            rw [(lookup_erase_cases present).2]
            exact congrArg some eq
          · rw [Function.update_of_ne same] at found
            exact found }
    refine erased.goPass fun k c listed => .inl ?_
    rw [here]
    cases role with
    | publisher => exact List.mem_cons_of_mem _ listed
    | subscriber => exact listed
  | @record key owner expired here =>
    have removed : Shrinks s { s with composite := s.composite.removeRecord key } :=
      { Shrinks.refl s with }
    exact removed.goPass fun _ _ listed => .inl (by rw [here]; exact listed)
  | @subscribed key owner expired here =>
    rw [noteKeyed_spec]
    refine Shrinks.goPass ?_ fun _ _ listed => .inl (by rw [here]; exact listed)
    exact { Shrinks.refl s with
      subscribers := fun k c found => (lookup_erase_cases found).2 }
  | @alive key owner expired here =>
    rw [releaseAlive_eq]
    refine Shrinks.goPass ?_ fun _ _ listed => .inl (by rw [here]; exact listed)
    exact { Shrinks.refl s with
      threads := by
        intro c
        dsimp only
        split
        · rename_i found
          exact .inr ⟨keyed.lt_count (keyed.arguments key c found).server, rfl, rfl⟩
        · exact .inl rfl }
  | @maps key owner expired here =>
    rw [releaseMaps_eq]
    refine Shrinks.goPass ?_ fun _ _ listed => .inl ?_
    · exact { Shrinks.refl s with
        threads := by
          intro c
          dsimp only
          split
          · rename_i found
            exact .inr ⟨keyed.lt_count (keyed.loops key c found).server, rfl, rfl⟩
          · exact .inl rfl
        arguments := fun k c found => (lookup_erase_cases found).2
        loops := fun k c found => (lookup_erase_cases found).2 }
    · rw [here]
      exact List.mem_cons_of_mem _ listed

theorem Keyed.accept {s : State} (keyed : Keyed s) (socket : Socket) : Keyed (s.accept socket) := by
  have unserved : s.server s.count = none := by
    rw [State.server, keyed.fresh s.count (Nat.le_refl _)]
    rfl
  have grows : Grows s (s.accept socket) := by
    constructor
    · intro c accepted
      exact Function.update_of_ne (Nat.ne_of_lt accepted) _ _
    · intro c role server
      have other : c ≠ s.count := by
        rintro rfl
        rw [unserved] at server
        cases server
      simp only [State.server, State.accept]
      rw [Function.update_of_ne other]
      exact server
  have old : ∀ {c role}, (s.accept socket).server c = some role → s.server c = some role := by
    intro c role server
    simp only [State.server, State.accept] at server
    by_cases same : c = s.count
    · rw [same, Function.update_self] at server
      cases server
    · rw [Function.update_of_ne same] at server
      exact server
  constructor
  case fresh =>
    intro c beyond
    simp only [State.accept] at beyond ⊢
    rw [Function.update_of_ne (Nat.ne_of_gt (Nat.lt_of_succ_le beyond))]
    exact keyed.fresh c (Nat.le_of_succ_le beyond)
  case issued =>
    intro n c found
    simp only [State.accept] at found ⊢
    by_cases same : n = socket.clientFd
    · rw [same, Function.update_self] at found
      cases found
      rw [Function.update_self]
      exact ⟨Nat.lt_succ_self _, same.symm⟩
    · rw [Function.update_of_ne same] at found
      obtain ⟨accepted, number⟩ := keyed.issued n c found
      rw [Function.update_of_ne (Nat.ne_of_lt accepted)]
      exact ⟨Nat.lt_succ_of_lt accepted, number⟩
  case inHand =>
    intro role c found
    simp only [State.accept] at found ⊢
    by_cases same : role = socket.role
    · rw [same, Function.update_self] at found
      cases found
      rw [Function.update_self, Function.update_self]
      exact ⟨Nat.lt_succ_self _, same.symm, rfl⟩
    · rw [Function.update_of_ne same] at found
      obtain ⟨accepted, here, accepting⟩ := keyed.inHand role c found
      rw [Function.update_of_ne (Nat.ne_of_lt accepted), Function.update_of_ne (Nat.ne_of_lt accepted)]
      exact ⟨Nat.lt_succ_of_lt accepted, here, accepting⟩
  case served =>
    intro c role server
    rw [grows.sockets c (keyed.lt_count (old server))]
    exact keyed.served c role (old server)
  case started =>
    intro c started
    by_cases same : c = s.count
    · subst same
      simp only [State.accept, Function.update_self] at started
      exact absurd rfl started
    · simp only [State.accept, Function.update_of_ne same] at started
      exact grows.server c _ (keyed.started c started)
  case entry =>
    intro role key fd c found
    obtain ⟨known, number⟩ := keyed.entry role key fd c found
    refine ⟨known.grow keyed grows, ?_⟩
    rw [grows.sockets c (keyed.lt_count known.server), number]
  case arguments => exact fun key c found => (keyed.arguments key c found).grow keyed grows
  case loops => exact fun key c found => (keyed.loops key c found).grow keyed grows
  case subscribers => exact fun key c found => (keyed.subscribers key c found).grow keyed grows
  case visited => exact fun c visited => grows.server c _ (keyed.visited c visited)
  case expired => exact fun role key c expired => (keyed.expired role key c expired).grow keyed grows

/-- Nobody serves a connection that `startAccept` still has in hand. -/
theorem Keyed.served_ne {s : State} (keyed : Keyed s) {role r : Role} {c conn : ConnId}
    (inHand : s.acceptors role = some c) (served : s.server conn = some r) : conn ≠ c := by
  rintro rfl
  rw [State.server, (keyed.inHand role conn inHand).2.2] at served
  cases served

theorem handOver_threads {s : State} {role : Role} {c conn : ConnId} {pc : HandlerPc} (other : conn ≠ c) :
    (s.handOver role c pc).threads conn = s.threads conn := Function.update_of_ne other _ _

/-- A connection in hand has no server yet, so it can be given to the one whose `accept` returned it. -/
theorem Keyed.handOver {s : State} (keyed : Keyed s) {role : Role} {c : ConnId}
    (inHand : s.acceptors role = some c) {pc : HandlerPc}
    (server : pc.server = none ∨ pc.server = some role) :
    Keyed (s.handOver role c pc) ∧ Grows s (s.handOver role c pc) := by
  obtain ⟨accepted, here, _⟩ := keyed.inHand role c inHand
  have grows : Grows s (s.handOver role c pc) := by
    refine ⟨fun _ _ => rfl, fun conn r served => ?_⟩
    rw [State.server, handOver_threads (keyed.served_ne inHand served)]
    exact served
  refine ⟨?_, grows⟩
  constructor
  case fresh =>
    intro conn beyond
    rw [handOver_threads (Nat.ne_of_gt (Nat.lt_of_lt_of_le accepted beyond))]
    exact keyed.fresh conn beyond
  case issued => exact keyed.issued
  case inHand =>
    intro r conn found
    simp only [State.handOver] at found
    by_cases same : r = role
    · rw [same, Function.update_self] at found
      cases found
    · rw [Function.update_of_ne same] at found
      obtain ⟨lt, socket, held⟩ := keyed.inHand r conn found
      have ne : conn ≠ c := by
        rintro rfl
        exact same (socket.symm.trans here)
      rw [handOver_threads ne]
      exact ⟨lt, socket, held⟩
  case served =>
    intro conn r served
    by_cases same : conn = c
    · subst same
      simp only [State.server, State.handOver, Function.update_self] at served
      rcases server with nobody | mine
      · rw [nobody] at served
        cases served
      · rw [mine] at served
        cases served
        exact here
    · rw [State.server, handOver_threads same] at served
      exact keyed.served conn r served
  case started =>
    intro conn started
    by_cases same : conn = c
    · subst same
      simp only [State.handOver, Function.update_self] at started
      exact absurd rfl (keyed.served_ne inHand (keyed.started conn started))
    · rw [handOver_threads same] at started
      exact grows.server conn _ (keyed.started conn started)
  case entry =>
    intro r key fd conn found
    obtain ⟨known, number⟩ := keyed.entry r key fd conn found
    exact ⟨known.grow keyed grows, number⟩
  case arguments => exact fun key conn found => (keyed.arguments key conn found).grow keyed grows
  case loops => exact fun key conn found => (keyed.loops key conn found).grow keyed grows
  case subscribers => exact fun key conn found => (keyed.subscribers key conn found).grow keyed grows
  case visited => exact fun conn visited => grows.server conn _ (keyed.visited conn visited)
  case expired => exact fun r key conn expired => (keyed.expired r key conn expired).grow keyed grows

theorem owned_insert {s : State} {role r : Role} {key k : Key} {entity : ConnectionEntity} :
    { s with
      clientConnections :=
        Function.update s.clientConnections role ((s.clientConnections role).insert key entity) }.owned
        r k =
      if r = role ∧ k = key then some (entity.clientFd, entity.owner) else s.owned r k := by
  unfold State.owned
  dsimp only
  by_cases sameRole : r = role
  · subst sameRole
    rw [Function.update_self]
    by_cases sameKey : k = key
    · subst sameKey
      rw [AList.lookup_insert, if_pos ⟨rfl, rfl⟩]
      rfl
    · rw [AList.lookup_insert_ne sameKey, if_neg fun both => sameKey both.2]
  · rw [Function.update_of_ne sameRole, if_neg fun both => sameRole both.1]

theorem HandlerPc.first_server (role : Role) : (HandlerPc.first role).server = some role := by
  cases role <;> rfl

theorem Keyed.enroll {s : State} (keyed : Keyed s) {role : Role} {c : ConnId}
    (inHand : s.acceptors role = some c) : Keyed (s.enroll role c) ∧ Grows s (s.enroll role c) := by
  obtain ⟨handed, grows⟩ := keyed.handOver inHand (.inr (HandlerPc.first_server role))
  have mine : (s.handOver role c (.first role)).Known role (s.sockets c).key c := by
    refine ⟨?_, rfl⟩
    simp only [State.server, State.handOver, Function.update_self]
    exact HandlerPc.first_server role
  have known : ∀ {r key conn}, (s.handOver role c (.first role)).Known r key conn →
      (s.enroll role c).Known r key conn := fun known => ⟨known.server, known.key⟩
  refine ⟨{
    fresh := handed.fresh
    issued := handed.issued
    inHand := handed.inHand
    served := handed.served
    started := handed.started
    entry := ?_
    arguments := fun key conn found => known (handed.arguments key conn found)
    loops := fun key conn found => known (handed.loops key conn found)
    subscribers := fun key conn found => known (handed.subscribers key conn found)
    visited := handed.visited
    expired := fun r key conn expired => known (handed.expired r key conn expired) },
    ⟨grows.sockets, grows.server⟩⟩
  intro r key fd conn found
  have owned := (owned_insert (s := s.handOver role c (.first role))).symm.trans found
  split at owned
  · rename_i both
    cases owned
    exact ⟨⟨both.1 ▸ mine.server, both.2.symm⟩, rfl⟩
  · obtain ⟨known, number⟩ := handed.entry r key fd conn owned
    exact ⟨⟨known.server, known.key⟩, number⟩

theorem move_goDetector (s : State) (c : ConnId) (operation : Operation) (t : Threads) :
    (s.move c operation t).goDetector s.detector = s.move c operation t := by
  simp [State.move, State.goDetector]

theorem Keyed.thread {config : RepeaterConfig} {s : State} (keyed : Keyed s) {c : ConnId}
    {operation : Operation} {t : Threads} (moved : ThreadMove config s c operation t) :
    Keyed (s.move c operation t) := by
  obtain ⟨role, served⟩ := threadMove_served keyed moved
  rw [← move_goDetector]
  exact keyed.move served fun _ listed => listed

theorem step_keyed {config : RepeaterConfig} {s s' : State} {action : Action} (keyed : Keyed s)
    (taken : step config s action = some s') : Keyed s' := by
  cases step_cases taken with
  | tick seconds => exact keyed.shrink { Shrinks.refl s with }
  | accept => exact keyed.accept _
  | @refuse role c inHand free =>
    have closed : Keyed (s.use c (s.sockets c).clientFd .close) := keyed.shrink .close
    exact (closed.handOver inHand (.inl rfl)).1
  | enroll inHand => exact (keyed.enroll inHand).1
  | handler moved => exact keyed.thread (handlerStep_cases moved)
  | writer moved => exact keyed.thread (writerStep_cases moved)
  | @copy order idle free all =>
    refine keyed.shrink { Shrinks.refl s with visited := fun c visited => .inr ?_ }
    obtain ⟨entry, listed, rfl⟩ := List.mem_map.mp (all.mem_iff.mp visited)
    exact (keyed.arguments entry.1 entry.2 (AList.mem_lookup_iff.mpr listed)).server
  | detector moved =>
    obtain ⟨served, listed⟩ := detectorStep_served keyed moved
    exact keyed.move served listed
  | pass moved => exact keyed.shrink (passMove_shrinks keyed moved)

end MessageRepeater.Lifecycle
