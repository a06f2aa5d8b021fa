import MessageRepeater.Combiner.ConcurrentStore
import MessageRepeater.Config.LoadRepeaterConfig
import MessageRepeater.Lifecycle.ServerRuns

/-!
# The watchdog

`src/combiner/risk_controller.cpp`, over the topic store, on which any threads work, and the two servers, whose
alive detections note in `GlobalContext` whether they are full. The watchdog takes one lock after the other, and
everything else goes on in between.
-/

namespace MessageRepeater.Lifecycle
open Foundation Combiner Config

def Role.name : Role → Bytes
  | .publisher => ascii "publisher"
  | .subscriber => ascii "subscriber"

/-! ### bootstrap_connections_full_status_ -/

def updateConnectionsFull (status : AList (fun _ : Role => Bool)) (role : Role) (fulled : Bool) :
    AList (fun _ : Role => Bool) := status.insert role fulled

def getConnectionsFullRoles (status : AList (fun _ : Role => Bool)) : List Role :=
  (status.entries.filter (·.2)).map (·.1)

/-- `client_connections_.size() >= max_connection_`, the test of `startAccept` as well. -/
def State.fulled (config : RepeaterConfig) (s : State) (role : Role) : Bool :=
  decide ((s.clientConnections role).keys.length ≥ toUnsigned64 (maxConnection config role))

/-- Alive detection notes whether its server is full at the end of a pass, before it gives the lock back. -/
def State.noteFull (config : RepeaterConfig) (s : State) (status : AList (fun _ : Role => Bool)) :
    Action → AList (fun _ : Role => Bool)
  | .pass role .run =>
    match s.passes role with
    | .erase [] => updateConnectionsFull status role (s.fulled config role)
    | _ => status
  | _ => status

/-! ### watch_connections_and_circles -/

/-- What the watchdog writes to its log. -/
inductive Notice where
  | circle (topic : Topic) (overlappingTurns indexOffset : Nat)
  | circleNotFound (topic : Topic)
  | topicLimit
  | connectionLimit (role : Role)
  deriving DecidableEq, Repr

/-- What is handed to `send_warning_message` besides. -/
def Notice.warning : Notice → Option Bytes
  | .topicLimit => some (ascii "topic number has reach max limit.")
  | .connectionLimit role => some (ascii "connection number of " ++ role.name ++ ascii " has reach max limit.")
  | _ => none

/-- The chat and the message that the bot gets, if any. What it answers is only logged. -/
def sendWarningMessage (config : LoadedConfig) (message : Bytes) : Option (Int × Bytes) :=
  if !config.tgSendMessage then none
  else some (config.tgChatId, ascii "[" ++ config.processNodeName ++ ascii "] " ++ message)

inductive WatchdogPc where
  | sleeping
  | circles (topics todo : List Topic)
  | circleMeta (topics : List Topic) (topic : Topic) (todo : List Topic)
  | fullRoles
  | warn (todo : List Role)
  deriving DecidableEq, Repr

structure Watched where
  topics : StoreState
  servers : State
  fullStatus : AList (fun _ : Role => Bool) := ∅
  watchdog : WatchdogPc := .sleeping
  notices : List Notice := []
  sent : List (Int × Bytes) := []

namespace Watched

def initial (config : LoadedConfig) (now : Nat) : Watched where
  topics := .initial config.maxTopicNumber
  servers := Lifecycle.initial config.toRepeaterConfig now

/-- The watchdog wakes up to the topics in the order of their set, and reads the full roles in the order of
their map. -/
inductive Event where
  | store (action : StoreAction)
  | server (action : Action)
  | wake (order : List Topic)
  | fullRoles (order : List Role)
  | watchdog
  deriving DecidableEq, Repr

def notify (config : LoadedConfig) (s : Watched) (notice : Notice) (pc : WatchdogPc) : Watched :=
  { s with
    watchdog := pc
    notices := s.notices ++ [notice]
    sent := s.sent ++ (notice.warning.bind (sendWarningMessage config)).toList }

def watchdogStep (config : LoadedConfig) (s : Watched) : Option Watched :=
  match s.watchdog with
  | .circles topics [] =>
    some
      (if topics.length ≥ toUnsigned64 config.maxTopicNumber then s.notify config .topicLimit .fullRoles
      else { s with watchdog := .fullRoles })
  | .circles topics (topic :: todo) =>
    match s.topics.store.getCircle topic with
    | none => some (s.notify config (.circleNotFound topic) (.circles topics todo))
    | some _ => some { s with watchdog := .circleMeta topics topic todo }
  | .circleMeta topics topic todo =>
    match s.topics.store.getCircle topic with
    | none => none
    | some ring =>
      some
        (s.notify config (.circle topic ring.getMeta.overlappingTurns ring.getMeta.indexOffset)
          (.circles topics todo))
  | .warn [] => some { s with watchdog := .sleeping }
  | .warn (role :: todo) => some (s.notify config (.connectionLimit role) (.warn todo))
  | .sleeping | .fullRoles => none

def step (config : LoadedConfig) (s : Watched) : Event → Option Watched
  | .store action => (s.topics.step action).map fun topics => { s with topics }
  | .server action =>
    (Lifecycle.step config.toRepeaterConfig s.servers action).map fun servers =>
      { s with servers, fullStatus := s.servers.noteFull config.toRepeaterConfig s.fullStatus action }
  | .wake order =>
    if s.watchdog = .sleeping ∧ order.Nodup ∧ order.toFinset = s.topics.store.topics then
      some { s with watchdog := .circles order order }
    else none
  | .fullRoles order =>
    if s.watchdog = .fullRoles ∧ order.Perm (getConnectionsFullRoles s.fullStatus) then
      some { s with watchdog := .warn order }
    else none
  | .watchdog => s.watchdogStep config

/-- The watchdog's own events. -/
def Event.own : Event → Bool
  | .store _ | .server _ => false
  | _ => true

end Watched

variable {config : LoadedConfig} {now : Nat} {s s' : Watched}

/-! ### What the store keeps -/

theorem extends_circles {s s' : StoreState} (later : Extends s s') {topic : Topic}
    (made : topic ∈ s.store.topicCircles) : topic ∈ s'.store.topicCircles := by
  obtain ⟨ring, held⟩ := Option.isSome_iff_exists.mp (AList.lookup_isSome.mpr made)
  obtain ⟨_, now, _⟩ := later.circles topic ring held
  exact mem_of_lookup now

theorem extends_keys_length {s s' : StoreState} (later : Extends s s') :
    s.store.topicCircles.keys.length ≤ s'.store.topicCircles.keys.length := by
  apply (List.subperm_of_subset s.store.topicCircles.keys_nodup _).length_le
  intro topic made
  exact extends_circles later made

theorem perform_keys_length (s : State) (c : ConnId) (operation : Operation) (role : Role) :
    (s.clientConnections role).keys.length ≤ ((s.perform c operation).clientConnections role).keys.length := by
  have beat (heartbeat : Nat) : (s.clientConnections role).keys.length ≤
      ((s.setHeartbeat c heartbeat).clientConnections role).keys.length := by
    rw [setHeartbeat_connections]
    split
    · exact le_rfl
    · exact keys_length_le_insert
  rw [perform_connections]
  cases operation with
  | refreshKeepAlive => exact beat s.now
  | killAlive => exact beat _
  | _ => exact le_rfl

/-- Only alive detection takes connections away, and it counts them once it is through. -/
theorem step_counts {config : RepeaterConfig} {s s' : State} {action : Action} {role : Role}
    (taken : step config s action = some s') (free : s'.baseFree role) :
    (s.passes role ≠ .erase [] ∧ s.baseFree role ∧
      (s.clientConnections role).keys.length ≤ (s'.clientConnections role).keys.length) ∨
    (s.passes role = .erase [] ∧ action = .pass role .run ∧ s'.clientConnections = s.clientConnections) := by
  have kept (passes : s'.passes role = s.passes role)
      (grown : (s.clientConnections role).keys.length ≤ (s'.clientConnections role).keys.length) :
      s.passes role ≠ .erase [] ∧ s.baseFree role ∧
        (s.clientConnections role).keys.length ≤ (s'.clientConnections role).keys.length := by
    have before : s.baseFree role := passes.symm.trans free
    exact ⟨before ▸ nofun, before, grown⟩
  cases step_cases taken with
  | tick | accept | copy => exact .inl (kept rfl le_rfl)
  | refuse => exact .inl (kept (by simp [State.handOver]) (by simp [State.handOver]))
  | @enroll r c =>
    refine .inl (kept rfl ?_)
    by_cases mine : role = r
    · subst mine
      simp only [State.enroll, State.handOver, Function.update_self]
      exact keys_length_le_insert
    · simp [State.enroll, State.handOver, mine]
  | @handler c _ operation | @writer c _ operation | @detector _ c operation =>
    exact .inl (kept (by simp [State.move, State.goDetector]) (perform_keys_length s c operation role))
  | @pass r input _ moved =>
    by_cases mine : role = r
    · subst mine
      cases moved with
      | finish here =>
        cases input with
        | run => exact .inr ⟨here, rfl, rfl⟩
        | expire key => simp [step, passStep, here] at taken
      | erase => cases role <;> simp [State.baseFree, State.goPass, PassPc.afterErase] at free
      | _ => simp [State.baseFree, State.goPass] at free
    · obtain ⟨_, connections, passes⟩ := moved.other mine
      exact .inl (kept passes (connections ▸ le_rfl))

/-- What `bootstrap_connections_full_status_` says of a server whose alive detection is not at work. -/
def FullKnown (config : RepeaterConfig) (s : State) (status : AList (fun _ : Role => Bool)) : Prop :=
  ∀ role, status.lookup role = some true → s.baseFree role → s.fulled config role = true

theorem FullKnown.step {config : RepeaterConfig} {s s' : State} {status : AList (fun _ : Role => Bool)}
    {action : Action} (known : FullKnown config s status) (taken : step config s action = some s') :
    FullKnown config s' (s.noteFull config status action) := by
  intro role noted free
  rcases step_counts taken free with ⟨going, before, grown⟩ | ⟨ended, rfl, same⟩
  · have unchanged : (s.noteFull config status action).lookup role = status.lookup role := by
      unfold State.noteFull updateConnectionsFull
      split
      · split
        · rename_i r _ ended
          apply AList.lookup_insert_ne
          rintro rfl
          exact going ended
        · rfl
      · rfl
    have full := known role (unchanged ▸ noted) before
    unfold State.fulled at full ⊢
    simp only [decide_eq_true_eq] at full ⊢
    omega
  · simp only [State.noteFull, ended, updateConnectionsFull, AList.lookup_insert, Option.some.injEq] at noted
    unfold State.fulled at noted ⊢
    rw [same]
    exact noted

/-! ### What the watchdog has said -/

/-- The topics of the watchdog's round are distinct and have circles. -/
structure Listed (store : MessageCircleComposite) (topics todo : List Topic) : Prop where
  distinct : topics.Nodup
  made : ∀ topic ∈ topics, topic ∈ store.topicCircles
  due : todo ⊆ topics

def WatchdogPc.Knows (store : MessageCircleComposite) : WatchdogPc → Prop
  | .circles topics todo => Listed store topics todo
  | .circleMeta topics topic todo => Listed store topics (topic :: todo)
  | .sleeping | .fullRoles | .warn _ => True

/-- What is left of a notice about the store once the store has gone on. -/
def Notice.Stands (s : StoreState) : Notice → Prop
  | .circle topic overlappingTurns indexOffset => ∃ ring, s.store.getCircle topic = some ring ∧
      indexOffset < ring.circle.length ∧
      overlappingTurns * ring.circle.length + indexOffset ≤ (s.log topic).length
  | .circleNotFound _ => False
  | .topicLimit => toUnsigned64 s.store.maxTopicNumbers ≤ s.store.topicCircles.keys.length
  | .connectionLimit _ => True

theorem WatchdogPc.Knows.later {s s' : StoreState} {pc : WatchdogPc} (knows : pc.Knows s.store)
    (later : Extends s s') : pc.Knows s'.store := by
  cases pc with
  | circles | circleMeta =>
    exact ⟨knows.distinct, fun topic member => extends_circles later (knows.made topic member), knows.due⟩
  | sleeping | fullRoles | warn => trivial

theorem Notice.Stands.later {s s' : StoreState} {notice : Notice} (stands : notice.Stands s)
    (later : Extends s s') (limit : s'.store.maxTopicNumbers = s.store.maxTopicNumbers) :
    notice.Stands s' := by
  cases notice with
  | circle topic turns offset =>
    obtain ⟨ring, held, short, told⟩ := stands
    obtain ⟨ring', now, capacity⟩ := later.circles topic ring held
    refine ⟨ring', now, capacity ▸ short, ?_⟩
    rw [capacity]
    exact told.trans (later.logs topic).length_le
  | circleNotFound => exact stands
  | topicLimit =>
    have grown := extends_keys_length later
    unfold Notice.Stands at stands ⊢
    rw [limit]
    omega
  | connectionLimit => trivial

/-- What holds along a run. -/
structure WatchInvariant (config : LoadedConfig) (s : Watched) : Prop where
  store : StoreInvariant config.maxTopicNumber s.topics
  knows : s.watchdog.Knows s.topics.store
  stands : ∀ notice ∈ s.notices, notice.Stands s.topics
  sent : s.sent = s.notices.filterMap fun notice => notice.warning.bind (sendWarningMessage config)
  full : FullKnown config.toRepeaterConfig s.servers s.fullStatus

theorem WatchInvariant.goto {pc : WatchdogPc} (invariant : WatchInvariant config s)
    (knows : pc.Knows s.topics.store) : WatchInvariant config { s with watchdog := pc } :=
  { invariant with knows }

theorem WatchInvariant.notify {notice : Notice} {pc : WatchdogPc} (invariant : WatchInvariant config s)
    (knows : pc.Knows s.topics.store) (stands : notice.Stands s.topics) :
    WatchInvariant config (s.notify config notice pc) where
  store := invariant.store
  knows := knows
  stands other member := by
    rcases List.mem_append.mp member with old | new
    · exact invariant.stands other old
    · obtain rfl := List.mem_singleton.mp new
      exact stands
  sent := by
    simp only [Watched.notify, List.filterMap_append, ← invariant.sent]
    congr 1
  full := invariant.full

/-- The watchdog always gets on. -/
theorem WatchInvariant.awake (invariant : WatchInvariant config s) :
    ∃ event s', event.own = true ∧ Watched.step config s event = some s' := by
  have knows := invariant.knows
  cases here : s.watchdog with
  | sleeping =>
    refine ⟨.wake s.topics.store.topics.toList, _, rfl, if_pos ⟨here, ?_, ?_⟩⟩
    · exact Finset.nodup_toList _
    · exact Finset.toList_toFinset _
  | circles topics todo =>
    cases todo with
    | nil =>
      refine ⟨.watchdog, ?_⟩
      simp only [Watched.step, Watched.watchdogStep, here]
      exact ⟨_, rfl, rfl⟩
    | cons topic todo =>
      refine ⟨.watchdog, ?_⟩
      simp only [Watched.step, Watched.watchdogStep, here]
      split <;> exact ⟨_, rfl, rfl⟩
  | circleMeta topics topic todo =>
    rw [here] at knows
    have made := knows.made topic (knows.due List.mem_cons_self)
    obtain ⟨ring, held⟩ := Option.isSome_iff_exists.mp (AList.lookup_isSome.mpr made)
    refine ⟨.watchdog, ?_⟩
    simp only [Watched.step, Watched.watchdogStep, here, MessageCircleComposite.getCircle, held]
    exact ⟨_, rfl, rfl⟩
  | fullRoles => exact ⟨.fullRoles _, _, rfl, if_pos ⟨here, .refl _⟩⟩
  | warn todo =>
    refine ⟨.watchdog, ?_⟩
    cases todo with
    | nil | cons =>
      simp only [Watched.step, Watched.watchdogStep, here]
      exact ⟨_, rfl, rfl⟩

/-! ### Full roles -/

end MessageRepeater.Lifecycle
