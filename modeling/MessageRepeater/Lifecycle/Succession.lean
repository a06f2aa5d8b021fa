import MessageRepeater.Lifecycle.Isolation

/-!
# A key comes back

What `accept` and the insertion in `client_connections_` do to isolation, the law for whole runs, and a
key that comes back too early.
-/

namespace MessageRepeater.Lifecycle
open Foundation Combiner Config Connection

/-! ### Steps that accept and enroll -/

theorem Isolation.accept {config : RepeaterConfig} {s : State} (isolation : Isolation config s)
    (keyed : Keyed s) {socket : Socket} (unsent : ∀ c, c < s.count → ¬ s.Sends socket.clientFd c) :
    Isolation config (s.accept socket) := by
  have threads : ∀ c, c ≠ s.count → (s.accept socket).threads c = s.threads c :=
    fun c old => Function.update_of_ne old _ _
  have sockets : ∀ c, c ≠ s.count → (s.accept socket).sockets c = s.sockets c :=
    fun c old => Function.update_of_ne old _ _
  have unserved : (s.accept socket).server s.count = none := by
    simp only [State.server, State.accept, Function.update_self]
    rfl
  have servers : ∀ {c role}, (s.accept socket).server c = some role →
      c ≠ s.count ∧ s.server c = some role := by
    intro c role server
    have old : c ≠ s.count := by
      rintro rfl
      rw [unserved] at server
      cases server
    refine ⟨old, ?_⟩
    rw [State.server, threads c old] at server
    exact server
  have latest : ∀ {c}, s.Latest c → (s.accept socket).Latest c := by
    intro c latest other role server otherServer key
    obtain ⟨old, server⟩ := servers server
    obtain ⟨otherOld, otherServer⟩ := servers otherServer
    rw [sockets c old, sockets other otherOld] at key
    exact latest other role server otherServer key
  have answered : ∀ {c}, (s.threads c).answered = true →
      ((s.accept socket).threads c).answered = true := by
    intro c answered
    rw [threads c]
    · exact answered
    · rintro rfl
      rw [keyed.fresh s.count (Nat.le_refl _)] at answered
      cases answered
  constructor
  case acting =>
    intro c acts
    by_cases new : c = s.count
    · intro other role server
      rw [new, unserved] at server
      cases server
    · apply latest
      apply isolation.acting
      rcases acts with acts | ⟨found, unfinished⟩ | acts
      · exact .inl (threads c new ▸ acts)
      · rw [sockets c new] at found
        exact .inr (.inl ⟨found, threads c new ▸ unfinished⟩)
      · exact .inr (.inr (DetectorPc.acts_congr acts (by rw [threads c new]; exact id)))
  case entry => exact fun role key fd c found => latest (isolation.entry role key fd c found)
  case expired => exact fun role key c listed => latest (isolation.expired role key c listed)
  case flags =>
    intro key c found
    obtain ⟨before, mine⟩ := isolation.flags key c found
    exact ⟨latest before, answered mine⟩
  case entitled =>
    intro c
    by_cases new : c = s.count
    · simp only [new, State.accept, Function.update_self]
      exact fun _ => ⟨rfl, rfl, ⟨by simp, by simp, by simp⟩, by simp⟩
    · rw [threads c new]
      exact isolation.entitled c
  case sends =>
    refine isolation.sends.issue s.count (fun c sends => ?_) fun n c sends => ?_
    · by_cases known : c < s.count
      · exact unsent c known sends
      · have idle := sends.2.2
        rw [keyed.fresh c (Nat.le_of_not_lt known)] at idle
        cases idle
    · by_cases new : c = s.count
      · have number := sends.2.1
        rw [new] at number
        simp only [State.accept, Function.update_self] at number
        exact .inr ⟨number.symm, new⟩
      · unfold State.Sends at sends
        rw [sockets c new, threads c new] at sends
        exact .inl sends
  case inHand =>
    intro role c found other server
    obtain ⟨_, server⟩ := servers server
    simp only [State.accept] at found
    by_cases here : role = socket.role
    · rw [here, Function.update_self] at found
      cases found
      exact keyed.lt_count server
    · rw [Function.update_of_ne here] at found
      exact isolation.inHand role c found other server
  case publisher => exact isolation.publisher
  case frames => exact fun use used business c hit => answered (isolation.frames use used business c hit)
  case earlier => exact isolation.earlier

section
variable {s : State} {role : Role} {c : ConnId}

theorem enroll_threads {conn : ConnId} (other : conn ≠ c) :
    (s.enroll role c).threads conn = s.threads conn := handOver_threads other

theorem enroll_threads_self :
    (s.enroll role c).threads c = { s.threads c with handler := .first role } := Function.update_self _ _ _

theorem enroll_server_self : (s.enroll role c).server c = some role := by
  rw [State.server, enroll_threads_self]
  exact HandlerPc.first_server role

theorem enroll_server {conn : ConnId} {r : Role} (server : (s.enroll role c).server conn = some r) :
    (conn = c ∧ r = role) ∨ (conn ≠ c ∧ s.server conn = some r) := by
  by_cases here : conn = c
  · rw [here, enroll_server_self] at server
    exact .inl ⟨here, (Option.some.inj server).symm⟩
  · rw [State.server, enroll_threads here] at server
    exact .inr ⟨here, server⟩

/-- A connection of another server or with another key is still the latest. -/
theorem enroll_latest {conn : ConnId} (latest : s.Latest conn)
    (apart : ∀ r, s.server conn = some r → r = role → (s.sockets conn).key ≠ (s.sockets c).key)
    (notNew : conn ≠ c) : (s.enroll role c).Latest conn := by
  intro other r server otherServer key
  rcases enroll_server server with ⟨new, _⟩ | ⟨_, before⟩
  · exact absurd new notNew
  · rcases enroll_server otherServer with ⟨new, same⟩ | ⟨_, otherBefore⟩
    · exact absurd (new ▸ key.symm) (apart r before same)
    · exact latest other r before otherBefore key

theorem enroll_newest {config : RepeaterConfig} (isolation : Isolation config s)
    (inHand : s.acceptors role = some c) : (s.enroll role c).Latest c := by
  intro other r server otherServer _
  rw [enroll_server_self] at server
  cases server
  rcases enroll_server otherServer with ⟨rfl, _⟩ | ⟨_, otherServer⟩
  · exact Nat.le_refl _
  · exact Nat.le_of_lt (isolation.inHand role c inHand other otherServer)

theorem enroll_answered (conn : ConnId) :
    ((s.enroll role c).threads conn).answered = (s.threads conn).answered := by
  by_cases here : conn = c
  · rw [here, enroll_threads_self]
  · rw [enroll_threads here]

theorem enroll_unfinished (conn : ConnId) :
    ((s.enroll role c).threads conn).detectingFinished = (s.threads conn).detectingFinished := by
  by_cases here : conn = c
  · rw [here, enroll_threads_self]
  · rw [enroll_threads here]

end

theorem Isolation.enroll {config : RepeaterConfig} {s : State} (isolation : Isolation config s)
    (keyed : Keyed s) {role : Role} {c : ConnId} (inHand : s.acceptors role = some c)
    (free : s.baseFree role) (vacant : s.Vacant config role (s.sockets c).key) :
    Isolation config (s.enroll role c) := by
  have newest : (s.enroll role c).Latest c := enroll_newest isolation inHand
  constructor
  case acting =>
    intro conn acts
    by_cases here : conn = c
    · exact here ▸ newest
    · have before : s.Acts config conn := by
        rcases acts with acts | ⟨found, later⟩ | acts
        · exact .inl (enroll_threads here ▸ acts)
        · exact .inr (.inl ⟨found, enroll_unfinished conn ▸ later⟩)
        · exact .inr (.inr (DetectorPc.acts_congr acts (enroll_unfinished conn).symm.trans))
      refine enroll_latest (isolation.acting conn before) (fun r server same key => ?_) here
      subst same
      exact vacant.1 conn (keyed.lt_count server) ⟨server, key⟩ before
  case entry =>
    intro r key fd conn found
    have owned := (owned_insert (s := s.handOver role c (.first role))).symm.trans found
    split at owned
    · simp only [Option.some.injEq, Prod.mk.injEq] at owned
      exact owned.2 ▸ newest
    · rename_i apart
      have known := (keyed.entry r key fd conn owned).1
      refine enroll_latest (isolation.entry r key fd conn owned)
        (fun r' server same sameKey => apart ?_) (keyed.served_ne inHand known.server)
      rw [known.server] at server
      cases server
      exact ⟨same, known.key.symm.trans sameKey⟩
  case expired =>
    intro r key conn listed
    have known := keyed.expired r key conn listed
    refine enroll_latest (isolation.expired r key conn listed) (fun r' server same _ => ?_)
      (keyed.served_ne inHand known.server)
    rw [known.server] at server
    cases server
    subst same
    have idle : s.passes r = .idle := free
    change (key, conn) ∈ (s.passes r).expired at listed
    rw [idle] at listed
    cases listed
  case flags =>
    intro key conn found
    obtain ⟨before, mine⟩ := isolation.flags key conn found
    have known := keyed.subscribers key conn found
    refine ⟨enroll_latest before (fun r server same sameKey => ?_) (keyed.served_ne inHand known.server),
      (enroll_answered conn).trans mine⟩
    rw [known.server] at server
    cases server
    have none := vacant.2 same.symm
    rw [← sameKey, known.key] at none
    change s.subscribed.lookup key = some conn at found
    rw [none] at found
    cases found
  case entitled =>
    intro conn unanswered
    by_cases here : conn = c
    · rw [here, enroll_threads_self] at unanswered ⊢
      have bare := isolation.entitled c unanswered
      exact ⟨bare.record, bare.frame, bare.writer, by cases role <;> nofun⟩
    · rw [enroll_threads here] at unanswered ⊢
      exact isolation.entitled conn unanswered
  case sends =>
    refine isolation.sends.fewer fun n conn sends => ?_
    obtain ⟨socketRole, number, sending⟩ := sends
    refine ⟨socketRole, number, ?_⟩
    by_cases here : conn = c
    · rw [here, Threads.sends, (keyed.inHand role c inHand).2.2]
      rfl
    · rw [enroll_threads here] at sending
      exact sending
  case inHand =>
    intro r conn found other server
    simp only [State.enroll, State.handOver] at found
    by_cases here : r = role
    · rw [here, Function.update_self] at found
      cases found
    · rw [Function.update_of_ne here] at found
      rcases enroll_server server with ⟨_, same⟩ | ⟨_, server⟩
      · exact absurd same here
      · exact isolation.inHand r conn found other server
  case publisher => exact isolation.publisher
  case frames =>
    exact fun use used business conn hit =>
      (enroll_answered conn).trans (isolation.frames use used business conn hit)
  case earlier => exact isolation.earlier

theorem step_isolation {config : RepeaterConfig} {s s' : State} {action : Action} (keyed : Keyed s)
    (isolation : Isolation config s) (free : KeyFree config s action)
    (taken : step config s action = some s') : Isolation config s' := by
  cases step_cases taken with
  | tick seconds => exact isolation.calm { Calm.refl isolation with }
  | accept vacant closed => exact isolation.accept keyed free
  | @refuse role c inHand lock =>
    have closed := isolation.calm (@Calm.use _ _ isolation c (s.sockets c).clientFd .close nofun)
    exact closed.calm (refuse_calm closed (keyed.inHand role c inHand).2.2)
  | @enroll role c inHand lock => exact isolation.enroll keyed inHand lock (free c inHand)
  | handler moved => exact isolation.calm (threadMove_calm keyed isolation (handlerStep_cases moved))
  | writer moved => exact isolation.calm (threadMove_calm keyed isolation (writerStep_cases moved))
  | @copy order idle lock all =>
    refine isolation.calm { Calm.refl isolation with acts := ?_ }
    rintro c (acts | acts | ⟨listed, unfinished⟩)
    · exact .inl acts
    · exact .inr (.inl acts)
    · obtain ⟨entry, present, rfl⟩ := List.mem_map.mp (all.mem_iff.mp listed)
      have found : s.detectingArgs.lookup entry.1 = some entry.2 := AList.mem_lookup_iff.mpr present
      refine .inr (.inl ⟨?_, unfinished⟩)
      rw [(keyed.arguments entry.1 entry.2 found).key, found]
  | detector moved => exact isolation.calm (detectorStep_calm keyed isolation moved)
  | pass moved => exact isolation.calm (passMove_calm keyed isolation moved)

/-- While keys come back only when they are vacant, every connection starts clean: before its own subscribe
request is answered it is not subscribed, has no record and gets no business frame, and no connection's
threads ever hit a later one by its key. -/
theorem successors_isolated {config : RepeaterConfig} {now : Nat} {s : State}
    (run : Run (step config) (KeyFree config) (initial config now) s) : Isolated s := by
  have both : Keyed s ∧ Isolation config s := by
    induction run with
    | refl => exact ⟨keyed_initial config now, isolation_initial config now⟩
    | tail _ action free taken ih =>
      exact ⟨step_keyed ih.1 taken, step_isolation ih.1 ih.2 free taken⟩
  exact both.2.isolated both.1

/-- A first connection that subscribes to the topic `T` in normal mode, and whose threads then end. -/
def subscribedAndGone (key : Key) : List Action :=
  [.accept .subscriber key 5, .enroll .subscriber, .handler 0 .run, .handler 0 .run,
    .handler 0 (.frame (.subscribe [ascii "T"])), .handler 0 .run, .handler 0 .run,
    .handler 0 (.enqueued true), .handler 0 .run, .handler 0 .run, .handler 0 .broken, .handler 0 .run,
    .handler 0 .run, .handler 0 .run, .handler 0 .run, .writer 0 .run, .writer 0 .run, .writer 0 .run,
    .writer 0 .run]

/-- The key comes back after alive detection has cleared it. -/
theorem successors_isolated_cleared :
    ∃ s, Run (step {}) (KeyFree {}) (initial {} 100000) s ∧ s.server 1 = some .subscriber ∧
      (s.threads 0).answered = true ∧ Isolated s := by
  let key := ascii "127.0.0.1:9000"
  obtain ⟨s, run, back⟩ := Run.exists_of_replay (step {}) (KeyFree {}) (initial {} 100000)
    (subscribedAndGone key ++
      [Action.pass .subscriber .run, .pass .subscriber (.expire key), .pass .subscriber .run,
        .pass .subscriber .run, .pass .subscriber .run, .pass .subscriber .run, .pass .subscriber .run,
        .pass .subscriber .run, .pass .subscriber .run, .accept .subscriber key 5, .enroll .subscriber])
    (fun s => s.server 1 == some .subscriber && (s.threads 0).answered) (by decide +kernel)
  simp only [Bool.and_eq_true, beq_iff_eq] at back
  exact ⟨s, run, back.1, back.2, successors_isolated run⟩

/-- The key comes back before alive detection has seen the end of the first connection: the second one
is taken for subscribed and gets a business frame without having asked for anything. -/
theorem successor_inherits_subscription :
    ∃ s, Run (step {}) Free (initial {} 100000) s ∧
      { op := .send true, issuer := 1, hit := some 1 } ∈ s.descriptorUses ∧
      (s.threads 1).answered = false ∧ ¬ Isolated s := by
  let key := ascii "127.0.0.1:9000"
  obtain ⟨s, run, sent⟩ := Run.exists_of_replay (step {}) Free (initial {} 100000)
    (subscribedAndGone key ++
      [Action.accept .subscriber key 5, .enroll .subscriber, .handler 1 .run, .writer 1 .run, .writer 1 .run,
        .writer 1 .run, .writer 1 .run, .writer 1 .noFrame, .writer 1 .run, .writer 1 .message,
        .writer 1 (.sent .complete true)])
    (fun s => s.descriptorUses.contains { op := .send true, issuer := 1, hit := some 1 } &&
      !(s.threads 1).answered) (by decide +kernel)
  simp only [Bool.and_eq_true, Bool.not_eq_eq_eq_not, Bool.not_true] at sent
  have listed := List.contains_iff_mem.mp sent.1
  refine ⟨s, run, listed, sent.2, fun isolated => ?_⟩
  have answered := isolated.frames _ listed rfl 1 rfl
  rw [sent.2] at answered
  cases answered

end MessageRepeater.Lifecycle
