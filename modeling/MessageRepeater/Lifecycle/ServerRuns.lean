import MessageRepeater.Lifecycle.AliveDetection
import MessageRepeater.Lifecycle.Known

/-!
# The servers of the process

Each of the two servers of a run of the process goes through a run of its own, in which every locked
operation and every pass of alive detection is one call.
-/

namespace MessageRepeater.Lifecycle
open Foundation Combiner Config Connection

variable {config : RepeaterConfig} {role : Role} {s s' : State} {server : Server}

/-- What the table will have under a key when the pass in progress is through. -/
def State.standing (config : RepeaterConfig) (s : State) (role : Role) (key : Key) :
    Option ConnectionEntity :=
  match s.passes role with
  | .idle => (s.clientConnections role).lookup key
  | .closing now _ =>
    ((s.clientConnections role).lookup key).filter fun entity => !entity.idle config now
  | .erase expired | .clear _ _ _ expired =>
    if key ∈ expired.map Prod.fst then none else (s.clientConnections role).lookup key

structure Represents (config : RepeaterConfig) (role : Role) (s : State) (server : Server) : Prop where
  now : server.now = s.now
  connections : ∀ key, server.clientConnections.lookup key = s.standing config role key
  found : ∀ now expired, s.passes role = .closing now expired → ∀ key ∈ expired.map Prod.fst,
    ∃ entity, (s.clientConnections role).lookup key = some entity ∧ entity.idle config now = true

theorem Represents.same (rep : Represents config role s server) (now : s'.now = s.now)
    (connections : s'.clientConnections role = s.clientConnections role)
    (passes : s'.passes role = s.passes role) : Represents config role s' server where
  now := rep.now.trans now.symm
  connections key := by rw [rep.connections, State.standing, State.standing, connections, passes]
  found := by rw [connections, passes]; exact rep.found

/-! ### The lock -/

def Operation.beats : Operation → Bool
  | .refreshKeepAlive | .killAlive => true
  | _ => false

theorem publisherStep_locked {t t' : Threads} {pc : PublisherPc} {input : Input} {operation : Operation}
    (moved : publisherStep s t pc input = some (operation, t')) (beats : operation.beats = true) :
    s.baseFree .publisher := by
  unfold publisherStep at moved
  split at moved
  all_goals try split at moved
  all_goals cases moved
  all_goals first | assumption | cases beats

theorem readerStep_locked {c : ConnId} {t t' : Threads} {pc : ReaderPc} {input : Input}
    {operation : Operation} (moved : readerStep config s c t pc input = some (operation, t'))
    (beats : operation.beats = true) : s.baseFree .subscriber := by
  unfold readerStep at moved
  split at moved
  all_goals try split at moved
  all_goals cases moved
  all_goals first | assumption | cases beats

theorem normalStep_locked {c : ConnId} {t t' : Threads} {input : Input} {operation : Operation}
    (moved : normalStep s c t input = some (operation, t')) (beats : operation.beats = true) :
    s.baseFree .subscriber := by
  unfold normalStep at moved
  split at moved
  all_goals try split at moved
  all_goals cases moved
  all_goals first | assumption | cases beats

theorem loopStep_beatless {c : ConnId} {t t' : Threads} {input : Input} {operation : Operation}
    (moved : loopStep s c t input = some (operation, t')) : operation.beats = false := by
  unfold loopStep at moved
  split at moved
  all_goals try split at moved
  all_goals cases moved
  all_goals rfl

/-- A heartbeat is set under the lock of the connection's server. -/
theorem threadMove_locked {c : ConnId} {operation : Operation} {t : Threads} (keyed : Keyed s)
    (moved : ThreadMove config s c operation t) (beats : operation.beats = true) :
    s.baseFree (s.sockets c).role := by
  obtain ⟨role, served⟩ := threadMove_served keyed moved
  rw [keyed.served c role served.before]
  cases moved with
  | publisher here moved =>
    have mine : s.server c = some .publisher := by rw [State.server, here]; rfl
    cases served.before.symm.trans mine
    exact publisherStep_locked moved beats
  | reader here moved =>
    have mine : s.server c = some .subscriber := by rw [State.server, here]; rfl
    cases served.before.symm.trans mine
    exact readerStep_locked moved beats
  | normal _ moved =>
    have mine := keyed.started c (normalStep_served moved).2
    cases served.before.symm.trans mine
    exact normalStep_locked moved beats
  | loop _ moved =>
    rw [loopStep_beatless moved] at beats
    cases beats

theorem detectorStep_locked {pc : DetectorPc} {c : ConnId} {operation : Operation} {t : Threads}
    (keyed : Keyed s) (moved : detectorStep s = some (pc, c, operation, t))
    (beats : operation.beats = true) : s.baseFree (s.sockets c).role := by
  have server := (detectorStep_served keyed moved).1.before
  rw [keyed.served c .subscriber server]
  unfold detectorStep at moved
  split at moved
  all_goals try split at moved
  all_goals cases moved
  all_goals first | assumption | cases beats

/-! ### Heartbeats -/

theorem setHeartbeat_connections (s : State) (c : ConnId) (heartbeat : Nat) (role : Role) :
    (s.setHeartbeat c heartbeat).clientConnections role =
      match (if role = (s.sockets c).role then s.entry c else none) with
      | none => s.clientConnections role
      | some entity =>
        (s.clientConnections role).insert (s.sockets c).key { entity with latestHeartbeat := heartbeat } := by
  unfold State.setHeartbeat
  by_cases mine : role = (s.sockets c).role
  · subst mine
    rw [if_pos rfl]
    cases s.entry c with
    | none => rfl
    | some entity => exact Function.update_self ..
  · rw [if_neg mine]
    cases s.entry c with
    | none => rfl
    | some entity => exact Function.update_of_ne mine ..

theorem perform_connections (s : State) (c : ConnId) (operation : Operation) (role : Role) :
    (s.perform c operation).clientConnections role =
      match operation with
      | .refreshKeepAlive => (s.setHeartbeat c s.now).clientConnections role
      | .killAlive => (s.setHeartbeat c (sub64 s.now 86400)).clientConnections role
      | _ => s.clientConnections role := by
  cases operation <;> simp [State.perform, noteKeyed_spec]

theorem perform_now (s : State) (c : ConnId) (operation : Operation) :
    (s.perform c operation).now = s.now := by
  cases operation with
  | refreshKeepAlive =>
    obtain ⟨connections, changed, _⟩ := setHeartbeat_spec s c s.now
    simp [State.perform, changed]
  | killAlive =>
    obtain ⟨connections, changed, _⟩ := setHeartbeat_spec s c (sub64 s.now 86400)
    simp [State.perform, changed, noteKeyed_spec]
  | removeSubscribed => simp [State.perform, noteKeyed_spec]
  | _ => simp [State.perform, State.use]

theorem Represents.idle_lookup (rep : Represents config role s server) (free : s.baseFree role)
    (key : Key) : server.clientConnections.lookup key = (s.clientConnections role).lookup key := by
  rw [rep.connections, State.standing, free]

/-- An entry is stored while the server's lock is free. -/
theorem Represents.put (rep : Represents config role s server) (free : s.baseFree role) {key : Key}
    {entity : ConnectionEntity} (heartbeat : Heartbeat) (now : s'.now = s.now)
    (passes : s'.passes role = s.passes role)
    (connections : s'.clientConnections role = (s.clientConnections role).insert key entity) :
    Represents config role s' (server.put key entity heartbeat) where
  now := rep.now.trans now.symm
  connections k := by
    rw [State.standing, passes, free, connections]
    by_cases same : k = key
    · subst same
      simp [Server.put]
    · simp [Server.put, AList.lookup_insert_ne same, rep.idle_lookup free]
  found now expired here := by
    rw [passes, free] at here
    cases here

/-- What a thread of a connection or the detecting thread does is a call on the connection's server, or
none. -/
theorem Represents.move (rep : Represents config role s server) {c : ConnId} {operation : Operation}
    (t : Threads) (pc : DetectorPc)
    (locked : operation.beats = true → s.baseFree (s.sockets c).role) :
    ∃ server', Run (Server.perform config role) Free server server' ∧
      Represents config role ((s.move c operation t).goDetector pc) server' := by
  have now : ((s.move c operation t).goDetector pc).now = s.now := perform_now s c operation
  have passes : ((s.move c operation t).goDetector pc).passes role = s.passes role := by
    simp [State.move, State.goDetector]
  have connections : ((s.move c operation t).goDetector pc).clientConnections role =
      (s.perform c operation).clientConnections role := rfl
  rw [perform_connections] at connections
  -- Only `refreshKeepAlive` and `killAlive` change the table, and only where the entry is.
  have beat : ∀ (call : Server.Call) (heartbeat : Heartbeat) (value : Nat), operation.beats = true →
      ((s.move c operation t).goDetector pc).clientConnections role =
        (s.setHeartbeat c value).clientConnections role →
      (∀ entity, server.clientConnections.lookup (s.sockets c).key = some entity →
        server.perform config role call =
          some (server.put (s.sockets c).key { entity with latestHeartbeat := value } heartbeat)) →
      ∃ server', Run (Server.perform config role) Free server server' ∧
        Represents config role ((s.move c operation t).goDetector pc) server' := by
    intro call heartbeat value beats connections called
    rw [setHeartbeat_connections] at connections
    split at connections
    · exact ⟨server, .refl, rep.same now connections passes⟩
    · rename_i entity found
      split at found
      · rename_i mine
        have free : s.baseFree role := mine ▸ locked beats
        have there : server.clientConnections.lookup (s.sockets c).key = some entity := by
          rw [rep.idle_lookup free, mine]
          exact found
        exact ⟨_, .cons call trivial (called entity there) .refl,
          rep.put free heartbeat now passes connections⟩
      · cases found
  cases operation with
  | refreshKeepAlive =>
    refine beat (.refreshKeepAlive (s.sockets c).key) (.beat server.now) s.now rfl connections ?_
    intro entity there
    simp [Server.perform, Server.refreshKeepAlive, there, rep.now]
  | killAlive =>
    refine beat (.killAlive (s.sockets c).key) (.killed server.now) (sub64 s.now 86400) rfl connections ?_
    intro entity there
    simp [Server.perform, Server.killAlive, there, rep.now]
  | _ => exact ⟨server, .refl, rep.same now connections passes⟩

/-! ### Passes -/

/-- A pass of the other server. -/
theorem PassMove.other {r : Role} (moved : PassMove config s r s') (other : role ≠ r) :
    s'.now = s.now ∧ s'.clientConnections role = s.clientConnections role ∧
      s'.passes role = s.passes role := by
  cases moved <;>
    simp [State.goPass, State.use, noteKeyed_spec, releaseAlive_eq, releaseMaps_eq, other]

/-- The keys that are still to be erased, once the table has been scanned. -/
def PassPc.decided : PassPc → Option (List Key)
  | .idle => some []
  | .closing _ _ => none
  | .erase expired | .clear _ _ _ expired => some (expired.map Prod.fst)

theorem standing_decided {keys : List Key} (decided : (s.passes role).decided = some keys) (key : Key) :
    s.standing config role key = if key ∈ keys then none else (s.clientConnections role).lookup key := by
  unfold State.standing
  cases here : s.passes role with
  | closing now expired =>
    rw [here] at decided
    cases decided
  | _ =>
    rw [here] at decided
    cases decided
    simp

/-- Steps of a pass behind the scan. -/
theorem Represents.erasing (rep : Represents config role s server) {keys keys' : List Key}
    (before : (s.passes role).decided = some keys) (now : s'.now = s.now)
    (after : (s'.passes role).decided = some keys')
    (lookups : ∀ key, (if key ∈ keys' then none else (s'.clientConnections role).lookup key) =
      if key ∈ keys then none else (s.clientConnections role).lookup key) :
    Represents config role s' server where
  now := rep.now.trans now.symm
  connections key := by
    rw [rep.connections, standing_decided before, standing_decided after]
    exact (lookups key).symm
  found now expired closing := by
    rw [closing] at after
    cases after

theorem goPass_passes (s : State) (role : Role) (pc : PassPc) : (s.goPass role pc).passes role = pc :=
  Function.update_self ..

/-- A pass takes effect when it starts. -/
theorem Represents.pass (rep : Represents config role s server) (moved : PassMove config s role s') :
    ∃ server', Run (Server.perform config role) Free server server' ∧ Represents config role s' server' := by
  -- Behind the scan the erased key moves from one side of the test to the other, and nothing else does.
  have erasing : ∀ {keys keys' : List Key}, (s.passes role).decided = some keys → s'.now = s.now →
      (s'.passes role).decided = some keys' →
      (∀ key, (if key ∈ keys' then none else (s'.clientConnections role).lookup key) =
        if key ∈ keys then none else (s.clientConnections role).lookup key) →
      ∃ server', Run (Server.perform config role) Free server server' ∧
        Represents config role s' server' :=
    fun before now after lookups => ⟨server, .refl, rep.erasing before now after lookups⟩
  cases moved with
  | start here =>
    refine ⟨server.startAliveDetection config, .cons .startAliveDetection trivial rfl .refl, rep.now, ?_, ?_⟩
    · intro key
      have held := rep.idle_lookup here key
      have expired := @Server.mem_idleExpiredKeys config server key
      rw [held, rep.now] at expired
      rw [State.standing, goPass_passes]
      show (eraseAll _ _).lookup key = ((s.clientConnections role).lookup key).filter _
      rw [lookup_eraseAll, held]
      cases found : (s.clientConnections role).lookup key with
      | none => simp
      | some entity =>
        cases idle : entity.idle config s.now <;> simp [expired, found, idle, Option.filter]
    · intro now expired closing
      rw [goPass_passes] at closing
      cases closing
      nofun
  | @expire now expired key entity here found idle new =>
    refine ⟨server, .refl, rep.now, fun k => ?_, ?_⟩
    · rw [rep.connections, State.standing, State.standing, goPass_passes, here]
      rfl
    · intro now' expired' closing k member
      rw [goPass_passes] at closing
      cases closing
      rw [List.map_append, List.mem_append] at member
      rcases member with old | new
      · exact rep.found now expired here k old
      · obtain rfl := List.mem_singleton.mp new
        exact ⟨entity, found, idle⟩
  | @scanned now expired here all =>
    refine ⟨server, .refl, rep.now, fun key => ?_, fun now' expired' closing => ?_⟩
    · rw [rep.connections, State.standing, State.standing, goPass_passes, here]
      show ((s.clientConnections role).lookup key).filter _ = if _ then none else
        (s.clientConnections role).lookup key
      by_cases listed : key ∈ expired.map Prod.fst
      · obtain ⟨entity, held, idle⟩ := rep.found now expired here key listed
        rw [if_pos listed, held]
        simp [idle, Option.filter]
      · rw [if_neg listed]
        cases held : (s.clientConnections role).lookup key with
        | none => rfl
        | some entity =>
          have busy : ¬ entity.idle config now = true := fun idle =>
            listed (all ⟨key, entity⟩ (AList.mem_lookup_iff.mp held) idle)
          simp [busy, Option.filter]
    · rw [goPass_passes] at closing
      cases closing
  | finish here =>
    exact erasing (by rw [here]; rfl) rfl (by rw [goPass_passes]; rfl) fun _ => rfl
  | @erase first owner expired here =>
    refine @erasing _ (expired.map Prod.fst) (by rw [here]; rfl) rfl ?_ fun key => ?_
    · rw [goPass_passes]
      cases role <;> rfl
    · show (if _ then none else AList.lookup key (Function.update s.clientConnections role _ role)) = _
      rw [Function.update_self]
      exact lookup_erase_or
  | record here =>
    exact erasing (by rw [here]; rfl) rfl (by rw [goPass_passes]; rfl) fun _ => rfl
  | subscribed here =>
    refine erasing (by rw [here]; rfl) ?_ (by rw [goPass_passes]; rfl) fun _ => ?_
    · simp [State.goPass, noteKeyed_spec]
    · simp [State.goPass, noteKeyed_spec]
  | alive here =>
    refine erasing (by rw [here]; rfl) ?_ (by rw [goPass_passes]; rfl) fun _ => ?_
    · simp [State.goPass, releaseAlive_eq]
    · simp [State.goPass, releaseAlive_eq]
  | maps here =>
    refine erasing (by rw [here]; rfl) ?_ (by rw [goPass_passes]; rfl) fun _ => ?_
    · simp [State.goPass, releaseMaps_eq]
    · simp [State.goPass, releaseMaps_eq]

/-! ### Runs -/

/-- An entry is enrolled under the lock, where there is room. -/
theorem Represents.enroll (rep : Represents config role s server) {r : Role} {c : ConnId}
    (free : s.baseFree r)
    (room : ¬ (s.clientConnections r).keys.length ≥ toUnsigned64 (maxConnection config r)) :
    ∃ server', Run (Server.perform config role) Free server server' ∧
      Represents config role (s.enroll r c) server' := by
  by_cases mine : role = r
  · subst mine
    have sameKeys : server.clientConnections.keys.Perm (s.clientConnections role).keys := by
      rw [List.perm_ext_iff_of_nodup (AList.keys_nodup _) (AList.keys_nodup _)]
      intro key
      rw [← AList.mem_keys, ← AList.mem_keys, ← AList.lookup_isSome, ← AList.lookup_isSome,
        rep.idle_lookup free]
    have called : server.perform config role
        (.startAccept (s.sockets c).key (s.sockets c).clientFd c true) =
        some (server.put (s.sockets c).key
          { clientFd := (s.sockets c).clientFd, latestHeartbeat := s.now, owner := c }
          (.beat server.now)) := by
      simp only [Server.perform, Server.startAccept, sameKeys.length_eq, if_neg room, if_true, rep.now]
    refine ⟨_, .cons _ trivial called .refl, rep.put free _ rfl rfl ?_⟩
    exact Function.update_self ..
  · refine ⟨server, .refl, rep.same rfl ?_ rfl⟩
    exact Function.update_of_ne mine ..

theorem step_represents {action : Action} (keyed : Keyed s) (rep : Represents config role s server)
    (taken : step config s action = some s') :
    ∃ server', Run (Server.perform config role) Free server server' ∧ Represents config role s' server' := by
  cases step_cases taken with
  | tick seconds =>
    refine ⟨_, .cons (.tick seconds) trivial rfl .refl, congrArg (· + seconds) rep.now, ?_, rep.found⟩
    exact fun key => rep.connections key
  | accept vacant closed => exact ⟨server, .refl, rep.same rfl rfl rfl⟩
  | refuse inHand free => exact ⟨server, .refl, rep.same rfl rfl rfl⟩
  | @enroll r c inHand free =>
    simp only [step, inHand] at taken
    split at taken
    · rename_i both
      exact rep.enroll free both.2
    · cases taken
  | handler moved =>
    rw [← move_goDetector]
    exact rep.move _ _ (threadMove_locked keyed (handlerStep_cases moved))
  | writer moved =>
    rw [← move_goDetector]
    exact rep.move _ _ (threadMove_locked keyed (writerStep_cases moved))
  | copy idle free all => exact ⟨server, .refl, rep.same rfl rfl rfl⟩
  | detector moved => exact rep.move _ _ (detectorStep_locked keyed moved)
  | @pass r input _ moved =>
    by_cases mine : role = r
    · subst mine
      exact rep.pass moved
    · obtain ⟨now, connections, passes⟩ := moved.other mine
      exact ⟨server, .refl, rep.same now connections passes⟩

/-- Every run of the process is a run of each of its servers. -/
theorem run_server {start : Nat} (role : Role) (run : Run (step config) Free (initial config start) s) :
    ∃ server, Run (Server.perform config role) Free (.fresh start) server ∧
      Represents config role s server := by
  induction run with
  | refl => exact ⟨.fresh start, .refl, rfl, fun _ => rfl, nofun⟩
  | tail before action _ taken ih =>
    obtain ⟨server, calls, rep⟩ := ih
    have keyed := before.keeps (keyed_initial config start) fun _ _ _ keyed _ taken => step_keyed keyed taken
    obtain ⟨server', more, rep⟩ := step_represents keyed rep taken
    exact ⟨server', calls.trans more, rep⟩

end MessageRepeater.Lifecycle
