import MessageRepeater.Lifecycle.KeyActors

/-!
# Successive connections with one key

When a key comes back, the server's maps may still hold what the old connection has left under it. The new
connection starts clean if the old one can no longer act by the key and has left no subscribed flag.
-/

namespace MessageRepeater.Lifecycle
open Foundation Combiner Config Connection

/-- No connection has been admitted by the same server with the same key since. -/
def State.Latest (s : State) (c : ConnId) : Prop :=
  ∀ other role, s.server c = some role → s.server other = some role →
    (s.sockets other).key = (s.sockets c).key → other ≤ c

/-- What a connection may expect of those that had its key before: until its own subscribe request has
been answered it is not taken for subscribed, has no record and gets no business frame, whoever sends it,
and no operation by key for an earlier connection finds what belongs to it. -/
structure Isolated (s : State) : Prop where
  subscribed : ∀ c, s.server c = some .subscriber → s.Latest c → s.isSubscribed c = true →
    (s.threads c).answered = true
  record : ∀ c, (s.threads c).record ≠ none → (s.threads c).answered = true
  frames : ∀ use ∈ s.descriptorUses, use.op = .send true → ∀ c, use.hit = some c →
    (s.threads c).answered = true
  earlier : ∀ use ∈ s.keyedUses, use.hit ≤ use.issuer

/-- No connection acts by the key any more, and the key is not flagged as subscribed. -/
def State.Vacant (config : RepeaterConfig) (s : State) (role : Role) (key : Key) : Prop :=
  (∀ c, c < s.count → s.server c = some role ∧ (s.sockets c).key = key → ¬ s.Acts config c) ∧
    (role = .subscriber → s.subscribed.lookup key = none)

instance (config : RepeaterConfig) (s : State) (role : Role) (key : Key) :
    Decidable (s.Vacant config role key) := by
  unfold State.Vacant
  exact instDecidableAnd

/-- `accept` returns no number that the writer of an earlier subscriber connection may still send to, and
an entry is stored only under a vacant key. -/
def KeyFree (config : RepeaterConfig) (s : State) : Action → Prop
  | .accept _ _ fd => ∀ c, c < s.count → ¬ s.Sends fd c
  | .enroll role => ∀ c ∈ s.acceptors role, s.Vacant config role (s.sockets c).key
  | _ => True

instance (config : RepeaterConfig) (s : State) (action : Action) :
    Decidable (KeyFree config s action) :=
  match action with
  | .accept _ _ fd => Nat.decidableBallLT s.count fun c _ => ¬ s.Sends fd c
  | .enroll role =>
    inferInstanceAs (Decidable (∀ c ∈ s.acceptors role, s.Vacant config role (s.sockets c).key))
  | .tick _ | .refuse _ | .handler _ _ | .writer _ _ | .detectorCopy _ | .detector | .pass _ _ =>
    .isTrue trivial

/-- With what carries it along: whoever acts by a key, and whatever is kept by it, is the latest. -/
structure Isolation (config : RepeaterConfig) (s : State) : Prop where
  acting : ∀ c, s.Acts config c → s.Latest c
  entry : ∀ role key fd c, s.owned role key = some (fd, c) → s.Latest c
  expired : ∀ role key c, (key, c) ∈ (s.passes role).expired → s.Latest c
  flags : ∀ key c, s.subscribed.lookup key = some c → s.Latest c ∧ (s.threads c).answered = true
  entitled : ∀ c, (s.threads c).Entitled
  sends : Unambiguous s.fds s.Sends
  inHand : ∀ role c, s.acceptors role = some c → ∀ other, s.server other = some role → other < c
  publisher : ∀ stage key owner expired, s.passes .publisher ≠ .clear stage key owner expired
  frames : ∀ use ∈ s.descriptorUses, use.op = .send true → ∀ c, use.hit = some c →
    (s.threads c).answered = true
  earlier : ∀ use ∈ s.keyedUses, use.hit ≤ use.issuer

theorem isolation_initial (config : RepeaterConfig) (now : Nat) :
    Isolation config (initial config now) where
  acting c acts := by
    rcases acts with threads | ⟨found, _⟩ | ⟨listed, _⟩
    · cases threads
    · cases found
    · cases listed
  entry _ _ _ _ found := by cases found
  expired _ _ _ listed := by cases listed
  flags _ _ found := by cases found
  entitled _ _ := ⟨rfl, rfl, ⟨nofun, nofun, nofun⟩, nofun⟩
  sends _ _ _ _ found := by cases found
  inHand _ _ found := by cases found
  publisher _ _ _ _ := nofun
  frames _ used := by cases used
  earlier _ used := by cases used

/-- An acting connection that is taken for subscribed has been answered. -/
theorem Isolation.answered {config : RepeaterConfig} {s : State} (isolation : Isolation config s)
    (keyed : Keyed s) {c : ConnId} (server : s.server c = some .subscriber) (latest : s.Latest c)
    (subscribed : s.isSubscribed c = true) : (s.threads c).answered = true := by
  unfold State.isSubscribed at subscribed
  obtain ⟨owner, found⟩ := Option.isSome_iff_exists.mp subscribed
  obtain ⟨ownerLatest, answered⟩ := isolation.flags _ _ found
  have known := keyed.subscribers _ _ found
  have below := latest owner .subscriber server known.server known.key
  have above := ownerLatest c .subscriber known.server server known.key.symm
  rw [Nat.le_antisymm above below]
  exact answered

theorem Isolation.isolated {config : RepeaterConfig} {s : State} (isolation : Isolation config s)
    (keyed : Keyed s) : Isolated s where
  subscribed _ server latest subscribed := isolation.answered keyed server latest subscribed
  record c cached := by
    by_contra unanswered
    exact cached (isolation.entitled c (by simpa using unanswered)).record
  frames := isolation.frames
  earlier := isolation.earlier

/-! ### Steps that enroll nobody -/

/-- Who is admitted stays as it is, and whatever comes up belongs to the latest connection. -/
structure Calm (config : RepeaterConfig) (s s' : State) : Prop where
  servers : ∀ c, s'.server c = s.server c
  sockets : s'.sockets = s.sockets
  acceptors : ∀ role c, s'.acceptors role = some c → s.acceptors role = some c
  acts : ∀ c, s'.Acts config c → s.Acts config c
  sends : ∀ n c, s'.Sends n c → s.Sends n c
  fds : s'.fds = s.fds ∨ ∃ n, s'.fds = Function.update s.fds n none
  owned : ∀ role key fd c, s'.owned role key = some (fd, c) → s.owned role key = some (fd, c)
  expired : ∀ role key c, (key, c) ∈ (s'.passes role).expired → s.Latest c
  flags : ∀ key c, s'.subscribed.lookup key = some c →
    s.subscribed.lookup key = some c ∨ (s.Latest c ∧ (s.threads c).answered = true)
  answered : ∀ c, (s.threads c).answered = true → (s'.threads c).answered = true
  entitled : ∀ c, (s'.threads c).Entitled
  publisher : ∀ stage key owner expired, s'.passes .publisher ≠ .clear stage key owner expired
  frames : ∀ use ∈ s'.descriptorUses, use ∈ s.descriptorUses ∨
    (use.op = .send true → ∀ c, use.hit = some c → (s.threads c).answered = true)
  earlier : ∀ use ∈ s'.keyedUses, use ∈ s.keyedUses ∨ use.hit ≤ use.issuer

theorem Calm.latest {config : RepeaterConfig} {s s' : State} (calm : Calm config s s') {c : ConnId}
    (latest : s.Latest c) : s'.Latest c := by
  intro other role server otherServer key
  rw [calm.servers] at server otherServer
  rw [calm.sockets] at key
  exact latest other role server otherServer key

theorem Isolation.calm {config : RepeaterConfig} {s s' : State} (isolation : Isolation config s)
    (calm : Calm config s s') : Isolation config s' where
  acting c acts := calm.latest (isolation.acting c (calm.acts c acts))
  entry role key fd c found := calm.latest (isolation.entry role key fd c (calm.owned role key fd c found))
  expired role key c listed := calm.latest (calm.expired role key c listed)
  flags key c found := by
    rcases calm.flags key c found with before | ⟨latest, answered⟩
    · obtain ⟨latest, answered⟩ := isolation.flags key c before
      exact ⟨calm.latest latest, calm.answered c answered⟩
    · exact ⟨calm.latest latest, calm.answered c answered⟩
  entitled := calm.entitled
  sends := by
    have less := isolation.sends.fewer calm.sends
    rcases calm.fds with same | ⟨n, closed⟩
    · exact same ▸ less
    · exact closed ▸ less.retire n
  inHand role c found other server := by
    rw [calm.servers] at server
    exact isolation.inHand role c (calm.acceptors role c found) other server
  publisher := calm.publisher
  frames use used business c hit := by
    rcases calm.frames use used with before | fresh
    · exact calm.answered c (isolation.frames use before business c hit)
    · exact calm.answered c (fresh business c hit)
  earlier use used := by
    rcases calm.earlier use used with before | fresh
    · exact isolation.earlier use before
    · exact fresh

theorem Calm.refl {config : RepeaterConfig} {s : State} (isolation : Isolation config s) :
    Calm config s s where
  servers _ := rfl
  sockets := rfl
  acceptors _ _ found := found
  acts _ acts := acts
  sends _ _ sends := sends
  fds := .inl rfl
  owned _ _ _ _ found := found
  expired := isolation.expired
  flags _ _ found := .inl found
  answered _ answered := answered
  entitled := isolation.entitled
  publisher := isolation.publisher
  frames _ used := .inl used
  earlier _ used := .inl used

theorem move_calm {config : RepeaterConfig} {s : State} (keyed : Keyed s)
    (isolation : Isolation config s) {c : ConnId} {operation : Operation} {t : Threads} {role : Role}
    {pc : DetectorPc} (served : Served s c operation t role)
    (acts : ∀ conn, ((s.move c operation t).goDetector pc).Acts config conn → s.Acts config conn)
    (keyedOp : operation = .killAlive ∨ operation = .removeSubscribed ∨ operation = .putSubscribed →
      s.Acts config c)
    (sends : t.sends = true → (s.threads c).sends = true)
    (answered : (s.threads c).answered = true → t.answered = true) (entitled : t.Entitled)
    (frame : operation = .use (.send true) → (s.threads c).answered = true ∧ (s.threads c).sends = true)
    (flag : operation = .putSubscribed → (s.threads c).answered = true) :
    Calm config s ((s.move c operation t).goDetector pc) := by
  have same := perform_same s c operation
  have threads : ∀ conn, ((s.move c operation t).goDetector pc).threads conn =
      if conn = c then t else s.threads conn := by
    intro conn
    simp only [State.goDetector, State.move, Function.update_apply]
  constructor
  case servers =>
    intro conn
    unfold State.server
    rw [threads]
    split
    · rename_i here
      subst here
      exact served.after.trans served.before.symm
    · rfl
  case sockets => exact same.2.1
  case acceptors => exact fun r conn found => same.2.2.2.1 ▸ found
  case acts => exact acts
  case sends =>
    rintro n conn ⟨socketRole, number, sending⟩
    simp only [State.goDetector, State.move, perform_same] at socketRole number
    refine ⟨socketRole, number, ?_⟩
    rw [threads] at sending
    split at sending
    · rename_i here
      subst here
      exact sends sending
    · exact sending
  case fds =>
    have fds := perform_fds s c operation
    by_cases closing : operation = .use .close
    · exact .inr ⟨_, fds.trans (if_pos closing)⟩
    · exact .inl (fds.trans (if_neg closing))
  case owned => exact fun r key fd conn found => (perform_owned s c operation r key).symm.trans found
  case expired =>
    intro r key conn listed
    simp only [State.goDetector, State.move, perform_same] at listed
    exact isolation.expired r key conn listed
  case flags =>
    intro key conn found
    simp only [State.goDetector, State.move, (perform_maps s c operation).subscribed] at found
    split at found
    · rcases lookup_insert_cases found with ⟨_, rfl⟩ | before
      · exact .inr ⟨isolation.acting conn (keyedOp (.inr (.inr rfl))), flag rfl⟩
      · exact .inl before
    · exact .inl (lookup_erase_cases found).2
    · exact .inl found
  case answered =>
    intro conn before
    rw [threads]
    split
    · rename_i here
      subst here
      exact answered before
    · exact before
  case entitled =>
    intro conn
    rw [threads]
    split
    · exact entitled
    · exact isolation.entitled conn
  case publisher =>
    intro stage key owner expired
    simp only [State.goDetector, State.move, perform_same]
    exact isolation.publisher stage key owner expired
  case frames =>
    intro use used
    simp only [State.goDetector, State.move, perform_descriptorUses] at used
    split at used
    · rename_i op
      rcases List.mem_cons.mp used with rfl | before
      · refine .inr fun business conn hit => ?_
        dsimp only at business hit
        subst business
        obtain ⟨entitledTo, sending⟩ := frame rfl
        have subscriber := served.subscriber rfl
        have holds : s.Sends (s.sockets c).clientFd c :=
          ⟨(keyed.served c _ served.before).trans subscriber, rfl, sending⟩
        rw [isolation.sends _ _ holds conn hit]
        exact entitledTo
      · exact .inl before
    · exact .inl used
  case earlier =>
    intro use used
    simp only [State.goDetector, State.move, perform_keyedUses] at used
    split at used
    · rcases List.mem_append.mp used with fresh | before
      · obtain ⟨entity, found, rfl⟩ := by simpa using fresh
        have mine := keyed.served c _ served.before
        have known := (keyed.ofEntry found).1
        rw [mine] at known
        exact .inr (isolation.acting c (keyedOp (.inl rfl)) entity.owner role served.before known.server
          known.key)
      · exact .inl before
    · rcases List.mem_append.mp used with fresh | before
      · obtain ⟨hit, found, rfl⟩ := by simpa using fresh
        have known := keyed.subscribers _ _ found
        have subscriber := served.subscriber rfl ▸ served.before
        exact .inr (isolation.acting c (keyedOp (.inr (.inl rfl))) hit .subscriber subscriber known.server
          known.key)
      · exact .inl before
    · exact .inl used

theorem threadMove_calm {config : RepeaterConfig} {s : State} (keyed : Keyed s)
    (isolation : Isolation config s) {c : ConnId} {operation : Operation} {t : Threads}
    (moved : ThreadMove config s c operation t) : Calm config s (s.move c operation t) := by
  obtain ⟨role, served⟩ := threadMove_served keyed moved
  have finished := (threadMove_releases moved).finished
  have needs := threadMove_needs keyed (isolation.entitled c)
    (fun server acts subscribed =>
      isolation.answered keyed server (isolation.acting c acts) subscribed) moved
  have detector : ∀ conn, s.detector.acts (Function.update s.threads c t) conn →
      s.detector.acts s.threads conn := by
    intro conn acts
    refine DetectorPc.acts_congr acts ?_
    rw [Function.update_apply]
    split
    · rename_i here
      exact here ▸ fun unfinished => finished.symm.trans unfinished
    · exact id
  rw [← move_goDetector]
  exact move_calm keyed isolation served
    (fun conn acts => move_acts (fun acts => .inl (needs.acts acts))
      (fun put => .inl (needs.keyed (.inr (.inr (.inr put))))) (fun done => finished.trans done) detector
      acts)
    (fun keyedOp => .inl (needs.keyed (by tauto))) needs.sends needs.answered needs.entitled needs.frame
    needs.flag

theorem detectorStep_calm {config : RepeaterConfig} {s : State} (keyed : Keyed s)
    (isolation : Isolation config s) {pc : DetectorPc} {c : ConnId} {operation : Operation}
    {t : Threads} (moved : detectorStep s = some (pc, c, operation, t)) :
    Calm config s ((s.move c operation t).goDetector pc) := by
  obtain ⟨detector, kills, plain⟩ := detectorStep_acts moved
  have marked := (detectorStep_cases moved).marked
  have only : operation.subscriberOnly ≠ true := by simp [plain]
  refine move_calm keyed isolation (detectorStep_served keyed moved).1
    (fun conn acts => move_acts ?_ (fun put => absurd (put ▸ rfl) only) ?_ detector acts) ?_ ?_ ?_ ?_
    (fun frame => absurd (frame ▸ rfl) only) (fun flag => absurd (flag ▸ rfl) only)
  · exact fun acts => .inl (marked.acts acts)
  · exact marked.same_fields.2.2
  · rintro (kill | remove | put)
    · exact .inr (.inr (kills kill))
    · exact absurd (remove ▸ rfl) only
    · exact absurd (put ▸ rfl) only
  · exact marked.sends
  · exact fun answered => marked.same_fields.2.1.trans answered
  · exact marked.entitled (isolation.entitled c)

theorem Calm.marked {config : RepeaterConfig} {s : State} (isolation : Isolation config s)
    {threads : ConnId → Threads} (marked : ∀ c, Marked (s.threads c) (threads c)) :
    Calm config s { s with threads } := by
  have unfinished : ∀ {c}, (threads c).detectingFinished = false →
      (s.threads c).detectingFinished = false := by
    intro c later
    by_contra done
    rw [(marked c).same_fields.2.2 (by simpa using done)] at later
    cases later
  exact { Calm.refl isolation with
    servers := by
      intro c
      unfold State.server
      rw [(marked c).same_fields.1]
    acts := by
      rintro c (acts | ⟨found, later⟩ | acts)
      · exact .inl ((marked c).acts acts)
      · exact .inr (.inl ⟨found, unfinished later⟩)
      · exact .inr (.inr (DetectorPc.acts_congr acts unfinished))
    sends := fun n c sends => ⟨sends.1, sends.2.1, (marked c).sends sends.2.2⟩
    answered := fun c answered => (marked c).same_fields.2.1.trans answered
    entitled := fun c => (marked c).entitled (isolation.entitled c) }

theorem Calm.goPass {config : RepeaterConfig} {s s' : State} (calm : Calm config s s') {role : Role}
    {pc : PassPc} (listed : ∀ key c, (key, c) ∈ pc.expired → s.Latest c)
    (publisher : role = .publisher → ∀ stage key owner expired, pc ≠ .clear stage key owner expired) :
    Calm config s (s'.goPass role pc) :=
  { calm with
    expired := by
      intro r key c expired
      simp only [State.goPass] at expired
      by_cases here : r = role
      · subst here
        rw [Function.update_self] at expired
        exact listed key c expired
      · rw [Function.update_of_ne here] at expired
        exact calm.expired r key c expired
    publisher := by
      intro stage key owner expired
      simp only [State.goPass]
      by_cases here : Role.publisher = role
      · rw [← here, Function.update_self]
        exact publisher here.symm stage key owner expired
      · rw [Function.update_of_ne here]
        exact calm.publisher stage key owner expired }

theorem Calm.use {config : RepeaterConfig} {s : State} (isolation : Isolation config s) (c : ConnId)
    (fd : Nat) {op : DescriptorOp} (plain : op ≠ .send true) : Calm config s (s.use c fd op) :=
  { Calm.refl isolation with
    fds := by
      unfold State.use
      by_cases closing : op = .close
      · exact .inr ⟨fd, if_pos closing⟩
      · exact .inl (if_neg closing)
    frames := by
      intro use used
      rcases List.mem_cons.mp used with rfl | before
      · exact .inr fun business => absurd business plain
      · exact .inl before }

theorem passMove_calm {config : RepeaterConfig} {s s' : State} {role : Role} (keyed : Keyed s)
    (isolation : Isolation config s) (moved : PassMove config s role s') : Calm config s s' := by
  have calm := Calm.refl isolation
  have latest : ∀ key c, (key, c) ∈ (s.passes role).expired → s.Latest c := isolation.expired role
  have subscriber : ∀ {stage key owner expired}, s.passes role = .clear stage key owner expired →
      role = .subscriber := by
    intro stage key owner expired here
    cases role with
    | publisher => exact absurd here (isolation.publisher stage key owner expired)
    | subscriber => rfl
  -- Whatever the pass finds by the key of a connection that it clears is that connection's or an earlier one's.
  have older : ∀ {stage key owner expired hit}, s.passes role = .clear stage key owner expired →
      s.Known .subscriber key hit → hit ≤ owner := by
    intro stage key owner expired hit here theirs
    have listed : (key, owner) ∈ (s.passes role).expired := by
      rw [here]
      exact List.mem_cons_self
    have mine := keyed.expired role key owner listed
    exact latest key owner listed hit .subscriber (subscriber here ▸ mine.server) theirs.server
      (theirs.key.trans mine.key.symm)
  cases moved with
  | start here => exact calm.goPass (fun _ _ listed => by cases listed) fun _ _ _ _ _ => nofun
  | @expire now expired key entity here found idle new =>
    have closed : Calm config s (s.use entity.owner entity.clientFd .close) :=
      Calm.use isolation _ _ nofun
    refine closed.goPass (fun k c listed => ?_) fun _ _ _ _ _ => nofun
    rcases List.mem_append.mp listed with before | fresh
    · exact latest k c (by rw [here]; exact before)
    · cases List.mem_singleton.mp fresh
      apply isolation.entry role key entity.clientFd
      unfold State.owned
      rw [found]
      rfl
  | scanned here all =>
    exact calm.goPass (fun k c listed => latest k c (by rw [here]; exact listed)) fun _ _ _ _ _ => nofun
  | finish here => exact calm.goPass (fun _ _ listed => by cases listed) fun _ _ _ _ _ => nofun
  | @erase key owner expired here =>
    have shrinks := passMove_shrinks keyed (@PassMove.erase config _ _ _ _ _ here)
    have erased : Calm config s
        { s with
          clientConnections :=
            Function.update s.clientConnections role ((s.clientConnections role).erase key) } :=
      { calm with owned := shrinks.owned }
    refine erased.goPass (fun k c listed => latest k c ?_) fun publisher stage k o e => ?_
    · rw [here]
      cases role with
      | publisher => exact List.mem_cons_of_mem _ listed
      | subscriber => exact listed
    · subst publisher
      nofun
  | @record key owner expired here =>
    refine Calm.goPass ?_ (fun k c listed => latest k c (by rw [here]; exact listed))
      fun publisher => by rw [subscriber here] at publisher; cases publisher
    exact { calm with }
  | @subscribed key owner expired here =>
    rw [noteKeyed_spec]
    refine Calm.goPass ?_ (fun k c listed => latest k c (by rw [here]; exact listed))
      fun publisher => by rw [subscriber here] at publisher; cases publisher
    refine { calm with
      flags := fun k c found => .inl (lookup_erase_cases found).2
      earlier := fun use used => ?_ }
    rcases List.mem_append.mp used with fresh | before
    · obtain ⟨hit, found, rfl⟩ := by simpa using fresh
      exact .inr (older here (keyed.subscribers key hit found))
    · exact .inl before
  | @alive key owner expired here =>
    rw [releaseAlive_eq]
    refine Calm.goPass ?_ (fun k c listed => latest k c (by rw [here]; exact listed))
      fun publisher => by rw [subscriber here] at publisher; cases publisher
    have marked : Calm config s
        { s with
          threads := fun c =>
            if s.detectingArgs.lookup key = some c then { s.threads c with alived := false }
            else s.threads c } := by
      refine Calm.marked isolation fun c => ?_
      dsimp only
      split
      · exact .dead
      · exact .same
    refine { marked with earlier := fun use used => ?_ }
    rcases List.mem_append.mp used with fresh | before
    · obtain ⟨hit, found, rfl⟩ := by simpa using fresh
      exact .inr (older here (keyed.arguments key hit found))
    · exact .inl before
  | @maps key owner expired here =>
    rw [releaseMaps_eq]
    refine Calm.goPass ?_ (fun k c listed => latest k c ?_)
      fun publisher => by rw [subscriber here] at publisher; cases publisher
    · have marked : Calm config s
          { s with
            threads := fun c =>
              if s.eventLoops.lookup key = some c then { s.threads c with stopRequested := true }
              else s.threads c } := by
        refine Calm.marked isolation fun c => ?_
        dsimp only
        split
        · exact .stop
        · exact .same
      refine { marked with acts := ?_, frames := ?_, earlier := ?_ }
      · rintro c (acts | ⟨found, unfinished⟩ | acts)
        · exact marked.acts c (.inl acts)
        · exact marked.acts c (.inr (.inl ⟨(lookup_erase_cases found).2, unfinished⟩))
        · exact marked.acts c (.inr (.inr acts))
      · intro use used
        rcases List.mem_append.mp used with fresh | before
        · obtain ⟨conn, found, rfl⟩ := by simpa using fresh
          exact .inr nofun
        · exact .inl before
      · intro use used
        rcases List.mem_append.mp used with fresh | before
        · obtain ⟨hit, found, rfl⟩ := by simpa using fresh
          exact .inr (older here (keyed.loops key hit found))
        · exact .inl before
    · rw [here]
      exact List.mem_cons_of_mem _ listed

theorem refuse_calm {config : RepeaterConfig} {s : State} (isolation : Isolation config s) {role : Role}
    {c : ConnId} (accepting : (s.threads c).handler = .accepting) :
    Calm config s (s.handOver role c .absent) := by
  have threads : ∀ conn, (s.handOver role c .absent).threads conn =
      if conn = c then { s.threads c with handler := .absent } else s.threads conn := by
    intro conn
    simp only [State.handOver, Function.update_apply]
  refine { Calm.refl isolation with
    servers := ?_, acceptors := ?_, acts := ?_, sends := ?_, answered := ?_, entitled := ?_ }
  · intro conn
    unfold State.server
    rw [threads]
    split
    · rename_i here
      rw [here, accepting]
      rfl
    · rfl
  · intro r conn found
    simp only [State.handOver] at found
    by_cases here : r = role
    · rw [here, Function.update_self] at found
      cases found
    · rw [Function.update_of_ne here] at found
      exact found
  · rintro conn (acts | ⟨found, unfinished⟩ | acts)
    · left
      rw [threads] at acts
      split at acts
      · rename_i here
        rw [here, Threads.acts, accepting]
        exact acts
      · exact acts
    · refine .inr (.inl ⟨found, ?_⟩)
      rw [threads] at unfinished
      split at unfinished
      · rename_i here
        exact here ▸ unfinished
      · exact unfinished
    · refine .inr (.inr (DetectorPc.acts_congr acts ?_))
      rw [threads]
      split
      · rename_i here
        exact here ▸ id
      · exact id
  · rintro n conn ⟨socketRole, number, sends⟩
    refine ⟨socketRole, number, ?_⟩
    rw [threads] at sends
    split at sends
    · rename_i here
      rw [here, Threads.sends, accepting]
      rfl
    · exact sends
  · intro conn answered
    rw [threads]
    split
    · rename_i here
      exact here ▸ answered
    · exact answered
  · intro conn unanswered
    rw [threads] at unanswered ⊢
    split at unanswered
    · rename_i here
      rw [if_pos here]
      have bare := isolation.entitled c unanswered
      exact ⟨bare.record, bare.frame, bare.writer, by simp⟩
    · rename_i here
      rw [if_neg here]
      exact isolation.entitled conn unanswered

end MessageRepeater.Lifecycle
