import MessageRepeater.Foundation.Maps
import MessageRepeater.Lifecycle.Process

/-!
# Alive detection

One server's connection table: what `startAccept`, `refreshKeepAlive`, `killAlive` and the pass of
`startAliveDetection` do to it while they have the lock of `AbstractBootstrap`.
-/

namespace MessageRepeater.Lifecycle
open Foundation Combiner Config Connection

/-- The last operation on a connection's heartbeat, and when. -/
inductive Heartbeat where
  /-- The accept or a `refreshKeepAlive`. -/
  | beat (time : Nat)
  | killed (time : Nat)
  deriving DecidableEq, Repr

/-- `heartbeats` is the history of each key. No operation reads it. -/
structure Server where
  now : Nat
  clientConnections : AList (fun _ : Key => ConnectionEntity) := ∅
  heartbeats : Key → Option Heartbeat := fun _ => none

namespace Server

/-- An entry is stored, and the history noted. -/
def put (s : Server) (key : Key) (entity : ConnectionEntity) (heartbeat : Heartbeat) : Server :=
  { s with
    clientConnections := s.clientConnections.insert key entity
    heartbeats := Function.update s.heartbeats key (some heartbeat) }

/-- `prepared` is whether all socket options can be set. -/
def startAccept (config : RepeaterConfig) (role : Role) (s : Server) (key : Key) (clientFd : Nat)
    (owner : ConnId) (prepared : Bool) : Server :=
  if s.clientConnections.keys.length ≥ toUnsigned64 (maxConnection config role) then s
  else if prepared then s.put key { clientFd, latestHeartbeat := s.now, owner } (.beat s.now)
  else s

def refreshKeepAlive (s : Server) (key : Key) : Server :=
  match s.clientConnections.lookup key with
  | none => s
  | some entity => s.put key { entity with latestHeartbeat := s.now } (.beat s.now)

def killAlive (s : Server) (key : Key) : Server :=
  match s.clientConnections.lookup key with
  | none => s
  | some entity => s.put key { entity with latestHeartbeat := sub64 s.now 86400 } (.killed s.now)

/-- The keys of the entries that are idle for too long. -/
def idleExpiredKeys (config : RepeaterConfig) (s : Server) : List Key :=
  (s.clientConnections.entries.filter fun entry => entry.2.idle config s.now).map (·.1)

/-- One pass. -/
def startAliveDetection (config : RepeaterConfig) (s : Server) : Server :=
  { s with clientConnections := eraseAll s.clientConnections (s.idleExpiredKeys config) }

inductive Call where
  | tick (seconds : Nat)
  | startAccept (key : Key) (clientFd : Nat) (owner : ConnId) (prepared : Bool)
  | refreshKeepAlive (key : Key)
  | killAlive (key : Key)
  | startAliveDetection
  deriving DecidableEq, Repr

def perform (config : RepeaterConfig) (role : Role) (s : Server) : Call → Option Server
  | .tick seconds => some { s with now := s.now + seconds }
  | .startAccept key clientFd owner prepared =>
    some (s.startAccept config role key clientFd owner prepared)
  | .refreshKeepAlive key => some (s.refreshKeepAlive key)
  | .killAlive key => some (s.killAlive key)
  | .startAliveDetection => some (s.startAliveDetection config)

/-- The pass removes the connection that has the key. -/
def Removes (config : RepeaterConfig) (s : Server) (key : Key) : Prop :=
  key ∈ s.clientConnections ∧ key ∉ (s.startAliveDetection config).clientConnections

/-- A pass now would be exact, and the table is within the limit. -/
structure Exact (config : RepeaterConfig) (role : Role) (s : Server) : Prop where
  known : ∀ key ∈ s.clientConnections, ∃ heartbeat, s.heartbeats key = some heartbeat
  killed : ∀ key ∈ s.clientConnections, ∀ time, s.heartbeats key = some (.killed time) →
    s.Removes config key
  beat : ∀ key ∈ s.clientConnections, ∀ time, s.heartbeats key = some (.beat time) →
    (s.Removes config key ↔ (time : Int) + config.maxConnectionIdleSecond < s.now)
  bounded : (s.clientConnections.keys.length : Int) ≤ maxConnection config role

def fresh (now : Nat) : Server := { now }

/-! ### One pass -/

variable {config : RepeaterConfig} {role : Role} {s s' : Server} {key k : Key}

theorem mem_idleExpiredKeys : key ∈ s.idleExpiredKeys config ↔
    ∃ entity, s.clientConnections.lookup key = some entity ∧ entity.idle config s.now = true := by
  unfold idleExpiredKeys
  constructor
  · intro member
    obtain ⟨⟨k, entity⟩, kept, rfl⟩ := List.mem_map.mp member
    obtain ⟨entry, idle⟩ := List.mem_filter.mp kept
    exact ⟨entity, AList.mem_lookup_iff.mpr entry, idle⟩
  · rintro ⟨entity, found, idle⟩
    exact List.mem_map.mpr
      ⟨⟨key, entity⟩, List.mem_filter.mpr ⟨AList.mem_lookup_iff.mp found, idle⟩, rfl⟩

/-- A pass removes the entries that the comparison finds idle, and no others. -/
theorem removes_iff : s.Removes config key ↔
    ∃ entity, s.clientConnections.lookup key = some entity ∧ entity.idle config s.now = true := by
  unfold Removes startAliveDetection
  rw [mem_eraseAll, mem_idleExpiredKeys]
  constructor
  · rintro ⟨there, gone⟩
    by_contra kept
    exact gone ⟨there, kept⟩
  · rintro ⟨entity, found, idle⟩
    exact ⟨mem_of_lookup found, fun kept => kept.2 ⟨entity, found, idle⟩⟩

/-- Below 2^63 the comparison does not wrap. -/
theorem idle_iff {entity : ConnectionEntity} {now : Nat} (nonneg : 0 ≤ config.maxConnectionIdleSecond)
    (int : config.maxConnectionIdleSecond < 2 ^ 31) (lt : entity.latestHeartbeat < 2 ^ 63) :
    entity.idle config now = true ↔
      (entity.latestHeartbeat : Int) + config.maxConnectionIdleSecond < now := by
  have seconds : (toUnsigned64 config.maxConnectionIdleSecond : Int) =
      config.maxConnectionIdleSecond := by
    unfold toUnsigned64
    omega
  unfold ConnectionEntity.idle
  rw [decide_eq_true_iff, add64_of_lt (by omega)]
  omega

/-! ### What the operations keep -/

end Server

def Heartbeat.time : Heartbeat → Nat
  | .beat time | .killed time => time

/-- What `latestHeartbeat` is set to. -/
def Heartbeat.value : Heartbeat → Nat
  | .beat time => time
  | .killed time => sub64 time 86400

namespace Server
variable {config : RepeaterConfig} {role : Role} {s s' : Server} {key k : Key} {start : Nat}

/-- An entry has the heartbeat that its last operation has set since the start. -/
structure Dated (start : Nat) (s : Server) (key : Key) (entity : ConnectionEntity)
    (heartbeat : Heartbeat) : Prop where
  noted : s.heartbeats key = some heartbeat
  since : start ≤ heartbeat.time
  until_ : heartbeat.time ≤ s.now
  value : entity.latestHeartbeat = heartbeat.value

structure Sound (start : Nat) (config : RepeaterConfig) (role : Role) (s : Server) : Prop where
  since : start ≤ s.now
  dated : ∀ key entity, s.clientConnections.lookup key = some entity →
    ∃ heartbeat, Dated start s key entity heartbeat
  bounded : s.clientConnections.keys.length ≤ toUnsigned64 (maxConnection config role)

theorem Sound.fresh (config : RepeaterConfig) (role : Role) (start : Nat) :
    Sound start config role (fresh start) where
  since := Nat.le_refl start
  dated := nofun
  bounded := Nat.zero_le _

/-- Storing an entry under a key that is there, or below the limit. -/
theorem Sound.put (sound : Sound start config role s) {entity : ConnectionEntity}
    {heartbeat : Heartbeat} (now : heartbeat.time = s.now)
    (value : entity.latestHeartbeat = heartbeat.value)
    (room : key ∈ s.clientConnections ∨
      s.clientConnections.keys.length < toUnsigned64 (maxConnection config role)) :
    Sound start config role (s.put key entity heartbeat) where
  since := sound.since
  dated k found held := by
    by_cases same : k = key
    · subst same
      simp only [Server.put, AList.lookup_insert, Option.some.injEq] at held
      subst held
      exact ⟨heartbeat, by simp [Server.put], now ▸ sound.since, Nat.le_of_eq now, value⟩
    · simp only [Server.put, AList.lookup_insert_ne same] at held
      obtain ⟨old, dated⟩ := sound.dated k found held
      exact ⟨old, by simpa [Server.put, same] using dated.noted, dated.since, dated.until_, dated.value⟩
  bounded := by
    have bounded := sound.bounded
    rcases room with there | room
    · exact (keys_length_insert_present there).trans_le bounded
    · exact keys_length_insert_le.trans room

/-- Removing entries. -/
theorem Sound.shrink (sound : Sound start config role s)
    {connections : AList (fun _ : Key => ConnectionEntity)}
    (kept : ∀ key entity, connections.lookup key = some entity →
      s.clientConnections.lookup key = some entity)
    (size : connections.keys.length ≤ s.clientConnections.keys.length) :
    Sound start config role { s with clientConnections := connections } where
  since := sound.since
  dated key entity held := by
    obtain ⟨heartbeat, dated⟩ := sound.dated key entity (kept key entity held)
    exact ⟨heartbeat, dated.noted, dated.since, dated.until_, dated.value⟩
  bounded := size.trans sound.bounded

theorem perform_sound (sound : Sound start config role s) {call : Call}
    (performed : s.perform config role call = some s') : Sound start config role s' := by
  cases call with
  | tick seconds =>
    cases performed
    refine ⟨Nat.le_add_right_of_le sound.since, fun key entity held => ?_, sound.bounded⟩
    obtain ⟨heartbeat, dated⟩ := sound.dated key entity held
    exact ⟨heartbeat, dated.noted, dated.since, Nat.le_add_right_of_le dated.until_, dated.value⟩
  | startAccept key clientFd owner prepared =>
    cases performed
    unfold startAccept
    split
    · exact sound
    · rename_i room
      split
      · exact sound.put rfl rfl (.inr (Nat.not_le.mp room))
      · exact sound
  | refreshKeepAlive key =>
    cases performed
    unfold refreshKeepAlive
    split
    · exact sound
    · rename_i entity found
      exact sound.put rfl rfl (.inl (mem_of_lookup found))
  | killAlive key =>
    cases performed
    unfold killAlive
    split
    · exact sound
    · rename_i entity found
      exact sound.put rfl rfl (.inl (mem_of_lookup found))
  | startAliveDetection =>
    cases performed
    refine sound.shrink (fun key entity held => ?_) keys_length_eraseAll_le
    rw [lookup_eraseAll] at held
    split at held
    · cases held
    · exact held

theorem run_sound (run : Run (perform config role) Free (fresh start) s) :
    Sound start config role s :=
  run.keeps (.fresh config role start) fun _ _ _ sound _ performed => perform_sound sound performed

/-! ### The law -/

/-- `int` values that are not negative. -/
structure Sane (config : RepeaterConfig) (role : Role) : Prop where
  idle_nonneg : 0 ≤ config.maxConnectionIdleSecond
  idle_lt : config.maxConnectionIdleSecond < 2 ^ 31
  max_nonneg : 0 ≤ maxConnection config role
  max_lt : maxConnection config role < 2 ^ 31

/-- A pass removes a connection when it is idle by the value of its last heartbeat operation. -/
theorem Sound.removes_iff (sound : Sound start config role s) (sane : Sane config role)
    (late : 86400 < start) (soon : s.now < 2 ^ 63) {heartbeat : Heartbeat}
    (there : key ∈ s.clientConnections) (last : s.heartbeats key = some heartbeat) :
    s.Removes config key ↔ (heartbeat.value : Int) + config.maxConnectionIdleSecond < s.now := by
  obtain ⟨entity, found⟩ := Option.isSome_iff_exists.mp (AList.lookup_isSome.mpr there)
  obtain ⟨heartbeat', dated⟩ := sound.dated key entity found
  obtain rfl : heartbeat' = heartbeat := Option.some.inj (dated.noted.symm.trans last)
  have since := dated.since
  have until_ := dated.until_
  have small : entity.latestHeartbeat < 2 ^ 63 := by
    rw [dated.value]
    cases heartbeat' with
    | beat time => exact until_.trans_lt soon
    | killed time =>
      simp only [Heartbeat.time] at since until_
      rw [Heartbeat.value, sub64_of_le (by omega) (by omega)]
      omega
  rw [Server.removes_iff, ← dated.value, ← idle_iff sane.idle_nonneg sane.idle_lt small]
  constructor
  · rintro ⟨other, held, idle⟩
    rw [found] at held
    cases held
    exact idle
  · exact fun idle => ⟨entity, found, idle⟩

/-- A killed connection has its heartbeat a day back. -/
theorem Sound.killed_iff (sound : Sound start config role s) (sane : Sane config role)
    (late : 86400 < start) (soon : s.now < 2 ^ 63) {time : Nat} (there : key ∈ s.clientConnections)
    (last : s.heartbeats key = some (.killed time)) :
    s.Removes config key ↔ (time : Int) + config.maxConnectionIdleSecond < s.now + 86400 := by
  obtain ⟨entity, found⟩ := Option.isSome_iff_exists.mp (AList.lookup_isSome.mpr there)
  obtain ⟨heartbeat, dated⟩ := sound.dated key entity found
  obtain rfl : heartbeat = .killed time := Option.some.inj (dated.noted.symm.trans last)
  have since := dated.since
  have until_ := dated.until_
  simp only [Heartbeat.time] at since until_
  rw [sound.removes_iff sane late soon there last, Heartbeat.value, sub64_of_le (by omega) (by omega)]
  omega

theorem Sound.exact (sound : Sound start config role s) (sane : Sane config role)
    (late : 86400 < start) (soon : s.now < 2 ^ 63) (short : config.maxConnectionIdleSecond < 86400) :
    Exact config role s where
  known key there := by
    obtain ⟨entity, found⟩ := Option.isSome_iff_exists.mp (AList.lookup_isSome.mpr there)
    obtain ⟨heartbeat, dated⟩ := sound.dated key entity found
    exact ⟨heartbeat, dated.noted⟩
  killed key there time last := by
    obtain ⟨entity, found⟩ := Option.isSome_iff_exists.mp (AList.lookup_isSome.mpr there)
    obtain ⟨heartbeat, dated⟩ := sound.dated key entity found
    obtain rfl : heartbeat = .killed time := Option.some.inj (dated.noted.symm.trans last)
    have until_ : time ≤ s.now := dated.until_
    rw [sound.killed_iff sane late soon there last]
    omega
  beat key there time last := sound.removes_iff sane late soon there last
  bounded := by
    have bounded := sound.bounded
    have limit : (toUnsigned64 (maxConnection config role) : Int) = maxConnection config role := by
      have nonneg := sane.max_nonneg
      have lt := sane.max_lt
      unfold toUnsigned64
      omega
    omega

/-- With no room for any connection there is none. -/
theorem Sound.exact_of_no_room (sound : Sound start config role s) (none_ : maxConnection config role = 0) :
    Exact config role s := by
  have empty : s.clientConnections.keys = [] := by
    have bounded := sound.bounded
    rw [none_] at bounded
    exact List.length_eq_zero_iff.mp (Nat.le_zero.mp bounded)
  have nobody : ∀ key ∈ s.clientConnections, False := by
    intro key there
    rw [AList.mem_keys, empty] at there
    cases there
  exact ⟨fun key there => (nobody key there).elim, fun key there => (nobody key there).elim,
    fun key there => (nobody key there).elim, by rw [empty, none_]; rfl⟩

/-- A connection is accepted and killed in the same second. -/
theorem accepted_killed (config : RepeaterConfig) (role : Role)
    (room : 0 < toUnsigned64 (maxConnection config role)) (start : Nat) :
    ∃ s, Run (perform config role) Free (fresh start) s ∧ s.now = start ∧ ascii "k" ∈ s.clientConnections ∧
      s.heartbeats (ascii "k") = some (.killed start) := by
  let entered := (fresh start).put (ascii "k") { clientFd := 5, latestHeartbeat := start, owner := 0 }
    (.beat start)
  let killed := entered.put (ascii "k")
    { clientFd := 5, latestHeartbeat := sub64 start 86400, owner := 0 } (.killed start)
  have accept : (fresh start).perform config role (.startAccept (ascii "k") 5 0 true) = some entered := by
    have free : ¬ (fresh start).clientConnections.keys.length ≥ toUnsigned64 (maxConnection config role) :=
      Nat.not_le.mpr room
    simp only [perform, startAccept, if_neg free, if_true]
    rfl
  have kill : entered.perform config role (.killAlive (ascii "k")) = some killed := by
    simp only [perform, killAlive, entered, put, AList.lookup_insert]
    rfl
  refine ⟨killed, .cons _ trivial accept (.cons _ trivial kill .refl), rfl, ?_, ?_⟩
  · simp [killed, put]
  · simp [killed, put]

/-- Alive detection is exact in every run of a server if and only if connections are taken for idle within a
day, the time that `killAlive` sets a heartbeat back, or none is ever let in. -/
theorem alive_detection_exact_iff (sane : Sane config role) (late : 86400 < start)
    (early : start < 2 ^ 63) :
    (∀ s, Run (perform config role) Free (fresh start) s → s.now < 2 ^ 63 → Exact config role s) ↔
      config.maxConnectionIdleSecond < 86400 ∨ maxConnection config role = 0 := by
  constructor
  · intro exact_
    by_contra long
    obtain ⟨day, some_⟩ := not_or.mp long
    have nonneg := sane.max_nonneg
    have lt := sane.max_lt
    obtain ⟨s, run, now, there, last⟩ :=
      accepted_killed config role (by unfold toUnsigned64; omega) start
    have soon : s.now < 2 ^ 63 := now ▸ early
    have removed := (exact_ s run soon).killed _ there start last
    rw [(run_sound run).killed_iff sane late soon there last, now] at removed
    omega
  · intro short s run soon
    have sound := run_sound run
    rcases short with short | none_
    · exact sound.exact sane late soon short
    · exact sound.exact_of_no_room none_

theorem alive_detection_exact_default : ∃ s,
    Run (perform {} .publisher) Free (fresh 1700000000) s ∧ ascii "k" ∈ s.clientConnections ∧
      Exact {} .publisher s := by
  obtain ⟨s, run, now, there, _⟩ := accepted_killed {} .publisher (by decide) 1700000000
  have soon : s.now < 2 ^ 63 := by
    rw [now]
    decide
  have sane : Sane {} .publisher := ⟨by decide, by decide, by decide, by decide⟩
  have late : 86400 < 1700000000 := by decide
  exact ⟨s, run, there, (alive_detection_exact_iff sane late (by decide)).mpr (.inl (by decide)) s run soon⟩

/-- Under an idle time of one day a killed connection stays in the table. -/
theorem killed_connection_stays : ¬ ∀ (config : RepeaterConfig) (role : Role) (start : Nat) (s : Server),
    Sane config role → 86400 < start → Run (perform config role) Free (fresh start) s →
      s.now < 2 ^ 63 → Exact config role s := by
  intro always
  have sane : Sane { maxConnectionIdleSecond := 86400 } .publisher :=
    ⟨by decide, by decide, by decide, by decide⟩
  obtain ⟨s, run, now, there, last⟩ :=
    accepted_killed { maxConnectionIdleSecond := 86400 } .publisher (by decide) 1700000000
  have soon : s.now < 2 ^ 63 := by
    rw [now]
    decide
  have removed := (always _ _ 1700000000 s sane (by decide) run soon).killed _ there _ last
  rw [(run_sound run).killed_iff sane (by decide) soon there last, now] at removed
  exact absurd removed (by decide)

end Server

end MessageRepeater.Lifecycle
