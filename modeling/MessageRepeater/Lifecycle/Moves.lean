import MessageRepeater.Foundation.Maps
import MessageRepeater.Lifecycle.Process

/-!
# What a step of the process can do

One inversion lemma for each kind of step, and what each operation on the shared state changes.
-/

namespace MessageRepeater.Lifecycle
open Foundation Combiner Config Connection

@[simp] theorem afterEnqueue_same (t : Threads) (after : AfterEnqueue) :
    (t.afterEnqueue after).writer = t.writer ∧ (t.afterEnqueue after).alived = t.alived ∧
      (t.afterEnqueue after).record = t.record ∧
      (t.afterEnqueue after).pendingBusiness = t.pendingBusiness ∧
      (t.afterEnqueue after).detectingFinished = t.detectingFinished := by
  cases after <;> exact ⟨rfl, rfl, rfl, rfl, rfl⟩

/-! ### Operations -/

/-- The descriptor and the owner in the entry of a key; heartbeats leave it alone. -/
def State.owned (s : State) (role : Role) (key : Key) : Option (Nat × ConnId) :=
  ((s.clientConnections role).lookup key).map fun entity => (entity.clientFd, entity.owner)

@[simp] theorem use_same (s : State) (c : ConnId) (fd : Nat) (op : DescriptorOp) :
    (s.use c fd op).count = s.count ∧ (s.use c fd op).sockets = s.sockets ∧
      (s.use c fd op).threads = s.threads ∧ (s.use c fd op).acceptors = s.acceptors ∧
      (s.use c fd op).clientConnections = s.clientConnections ∧ (s.use c fd op).passes = s.passes ∧
      (s.use c fd op).detector = s.detector ∧ (s.use c fd op).composite = s.composite ∧
      (s.use c fd op).subscribed = s.subscribed ∧ (s.use c fd op).eventLoops = s.eventLoops ∧
      (s.use c fd op).detectingArgs = s.detectingArgs ∧
      (s.use c fd op).topicConnections = s.topicConnections ∧
      (s.use c fd op).keyedUses = s.keyedUses := by
  unfold State.use
  exact ⟨rfl, rfl, rfl, rfl, rfl, rfl, rfl, rfl, rfl, rfl, rfl, rfl, rfl⟩

theorem setHeartbeat_spec (s : State) (c : ConnId) (heartbeat : Nat) :
    ∃ connections, s.setHeartbeat c heartbeat = { s with clientConnections := connections } ∧
      ∀ role key, (s.setHeartbeat c heartbeat).owned role key = s.owned role key := by
  unfold State.setHeartbeat
  cases found : s.entry c with
  | none => exact ⟨s.clientConnections, rfl, fun _ _ => rfl⟩
  | some entity =>
    refine ⟨_, rfl, fun role key => ?_⟩
    unfold State.owned
    dsimp only
    unfold State.entry at found
    by_cases here : role = (s.sockets c).role
    · subst here
      rw [Function.update_self]
      by_cases same : key = (s.sockets c).key
      · subst same
        rw [AList.lookup_insert, found]
        rfl
      · rw [AList.lookup_insert_ne same]
    · rw [Function.update_of_ne here]

theorem noteKeyed_spec (s : State) (op : KeyedOp) (c : ConnId) (hit : Option ConnId) :
    s.noteKeyed op c hit =
      { s with keyedUses := (hit.map fun hit => { op, issuer := c, hit }).toList ++ s.keyedUses } := by
  cases hit <;> rfl

@[simp] theorem perform_same (s : State) (c : ConnId) (operation : Operation) :
    (s.perform c operation).count = s.count ∧ (s.perform c operation).sockets = s.sockets ∧
      (s.perform c operation).threads = s.threads ∧
      (s.perform c operation).acceptors = s.acceptors ∧
      (s.perform c operation).passes = s.passes ∧
      (s.perform c operation).detector = s.detector := by
  cases operation with
  | refreshKeepAlive =>
    obtain ⟨connections, changed, _⟩ := setHeartbeat_spec s c s.now
    simp [State.perform, changed]
  | killAlive =>
    obtain ⟨connections, changed, _⟩ := setHeartbeat_spec s c (sub64 s.now 86400)
    simp [State.perform, changed, noteKeyed_spec]
  | removeSubscribed => simp [State.perform, noteKeyed_spec]
  | _ => simp [State.perform]

@[simp] theorem perform_owned (s : State) (c : ConnId) (operation : Operation) (role : Role)
    (key : Key) : (s.perform c operation).owned role key = s.owned role key := by
  cases operation with
  | refreshKeepAlive => exact (setHeartbeat_spec s c s.now).choose_spec.2 role key
  | killAlive =>
    rw [← (setHeartbeat_spec s c (sub64 s.now 86400)).choose_spec.2 role key]
    simp [State.perform, noteKeyed_spec, State.owned]
  | removeSubscribed => simp [State.perform, noteKeyed_spec, State.owned]
  | use op => simp [State.perform, State.owned]
  | _ => rfl

theorem perform_fds (s : State) (c : ConnId) (operation : Operation) :
    (s.perform c operation).fds =
      if operation = .use .close then Function.update s.fds (s.sockets c).clientFd none else s.fds := by
  cases operation with
  | refreshKeepAlive =>
    obtain ⟨connections, changed, _⟩ := setHeartbeat_spec s c s.now
    simp [State.perform, changed]
  | killAlive =>
    obtain ⟨connections, changed, _⟩ := setHeartbeat_spec s c (sub64 s.now 86400)
    simp [State.perform, changed, noteKeyed_spec]
  | removeSubscribed => simp [State.perform, noteKeyed_spec]
  | use op => cases op <;> simp [State.perform, State.use]
  | _ => simp [State.perform]

theorem perform_descriptorUses (s : State) (c : ConnId) (operation : Operation) :
    (s.perform c operation).descriptorUses =
      match operation with
      | .use op =>
        { op, issuer := c, hit := s.fds (s.sockets c).clientFd } :: s.descriptorUses
      | _ => s.descriptorUses := by
  cases operation with
  | refreshKeepAlive =>
    obtain ⟨connections, changed, _⟩ := setHeartbeat_spec s c s.now
    simp [State.perform, changed]
  | killAlive =>
    obtain ⟨connections, changed, _⟩ := setHeartbeat_spec s c (sub64 s.now 86400)
    simp [State.perform, changed, noteKeyed_spec]
  | removeSubscribed => simp [State.perform, noteKeyed_spec]
  | _ => simp [State.perform, State.use]

theorem perform_keyedUses (s : State) (c : ConnId) (operation : Operation) :
    (s.perform c operation).keyedUses =
      match operation with
      | .killAlive =>
        ((s.entry c).map fun entity => ⟨.killAlive, c, entity.owner⟩).toList ++ s.keyedUses
      | .removeSubscribed =>
        ((s.subscribed.lookup (s.sockets c).key).map fun hit => ⟨.removeSubscribed, c, hit⟩).toList ++
          s.keyedUses
      | _ => s.keyedUses := by
  cases operation with
  | refreshKeepAlive =>
    obtain ⟨connections, changed, _⟩ := setHeartbeat_spec s c s.now
    simp [State.perform, changed]
  | killAlive =>
    obtain ⟨connections, changed, _⟩ := setHeartbeat_spec s c (sub64 s.now 86400)
    simp [State.perform, changed, noteKeyed_spec, Function.comp_def]
  | removeSubscribed => simp [State.perform, noteKeyed_spec]
  | _ => simp [State.perform]

/-- The maps of the subscriber server after a thread's operation. -/
structure MapsAfter (s : State) (c : ConnId) (operation : Operation) (s' : State) : Prop where
  composite : s'.composite =
    match operation with
    | .createNewRecord topics =>
      (s.composite.createNewRecord (s.sockets c).key topics s.createdRecords).2
    | _ => s.composite
  subscribed : s'.subscribed =
    match operation with
    | .putSubscribed => s.subscribed.insert (s.sockets c).key c
    | .removeSubscribed => s.subscribed.erase (s.sockets c).key
    | _ => s.subscribed
  eventLoops : s'.eventLoops =
    match operation with
    | .putEventLoop => s.eventLoops.insert (s.sockets c).key c
    | _ => s.eventLoops
  detectingArgs : s'.detectingArgs =
    match operation with
    | .putDetectingArgs => s.detectingArgs.insert (s.sockets c).key c
    | _ => s.detectingArgs
  topicConnections : s'.topicConnections =
    match operation with
    | .putTopicConnection topic =>
      Function.update s.topicConnections topic (s.topicConnections topic ++ [(s.sockets c).key])
    | _ => s.topicConnections

theorem perform_maps (s : State) (c : ConnId) (operation : Operation) :
    MapsAfter s c operation (s.perform c operation) := by
  cases operation with
  | refreshKeepAlive =>
    obtain ⟨connections, changed, _⟩ := setHeartbeat_spec s c s.now
    constructor <;> simp [State.perform, changed]
  | killAlive =>
    obtain ⟨connections, changed, _⟩ := setHeartbeat_spec s c (sub64 s.now 86400)
    constructor <;> simp [State.perform, changed, noteKeyed_spec]
  | removeSubscribed => constructor <;> simp [State.perform, noteKeyed_spec]
  | _ => constructor <;> simp [State.perform]

theorem update_found (threads : ConnId → Threads) (conn : ConnId) (change : Threads → Threads) :
    Function.update threads conn (change (threads conn)) =
      fun c => if some conn = some c then change (threads c) else threads c := by
  funext c
  by_cases same : c = conn
  · subst same
    rw [Function.update_self, if_pos rfl]
  · have other : ¬ some conn = some c := fun found => same (Option.some.inj found).symm
    rw [Function.update_of_ne same, if_neg other]

theorem releaseAlive_eq (s : State) (key : Key) (owner : ConnId) :
    s.releaseAlive key owner =
      { s with
        threads := fun c =>
          if s.detectingArgs.lookup key = some c then { s.threads c with alived := false }
          else s.threads c
        keyedUses :=
          ((s.detectingArgs.lookup key).map fun c => ⟨.release, owner, c⟩).toList ++ s.keyedUses } := by
  unfold State.releaseAlive
  cases found : s.detectingArgs.lookup key with
  | none => simp
  | some conn =>
    have threads := update_found s.threads conn fun t => { t with alived := false }
    simp [noteKeyed_spec, threads]

theorem erase_of_lookup_none {map : AList (fun _ : Key => ConnId)} {key : Key}
    (absent : map.lookup key = none) : map.erase key = map := by
  apply AList.ext
  exact List.kerase_of_notMem_keys (AList.lookup_eq_none.mp absent)

/-- `releaseConnectionEventData` behind its first store. -/
theorem releaseMaps_eq (s : State) (key : Key) (owner : ConnId) :
    s.releaseMaps key owner =
      { s with
        threads := fun c =>
          if s.eventLoops.lookup key = some c then { s.threads c with stopRequested := true }
          else s.threads c
        eventLoops := s.eventLoops.erase key
        detectingArgs := s.detectingArgs.erase key
        topicConnections := fun topic => (s.topicConnections topic).filter (· ≠ key)
        descriptorUses :=
          ((s.detectingArgs.lookup key).map fun c =>
            ⟨.shutdown, c, s.fds (s.sockets c).clientFd⟩).toList ++ s.descriptorUses
        keyedUses :=
          ((s.eventLoops.lookup key).map fun c => ⟨.release, owner, c⟩).toList ++ s.keyedUses } := by
  have shut : s.releaseShutdown key =
      { s with
        descriptorUses :=
          ((s.detectingArgs.lookup key).map fun c =>
            ⟨.shutdown, c, s.fds (s.sockets c).clientFd⟩).toList ++ s.descriptorUses } := by
    unfold State.releaseShutdown
    cases s.detectingArgs.lookup key <;> rfl
  unfold State.releaseMaps State.releaseLoop
  rw [shut]
  dsimp only
  cases found : s.eventLoops.lookup key with
  | none => simp [erase_of_lookup_none found]
  | some conn =>
    have threads := update_found s.threads conn fun t => { t with stopRequested := true }
    simp [noteKeyed_spec, threads]

/-! ### Steps -/

/-- A step of a connection's handler or writer. -/
inductive ThreadMove (config : RepeaterConfig) (s : State) (c : ConnId) : Operation → Threads → Prop
    where
  | publisher {pc : PublisherPc} {input : Input} {operation : Operation} {t : Threads}
      (here : (s.threads c).handler = .publisher pc)
      (moved : publisherStep s (s.threads c) pc input = some (operation, t)) :
      ThreadMove config s c operation t
  | reader {pc : ReaderPc} {input : Input} {operation : Operation} {t : Threads}
      (here : (s.threads c).handler = .subscriber pc)
      (moved : readerStep config s c (s.threads c) pc input = some (operation, t)) :
      ThreadMove config s c operation t
  | normal {input : Input} {operation : Operation} {t : Threads}
      (mode : config.subscriberEnableEventLoop = false)
      (moved : normalStep s c (s.threads c) input = some (operation, t)) :
      ThreadMove config s c operation t
  | loop {input : Input} {operation : Operation} {t : Threads}
      (mode : config.subscriberEnableEventLoop = true)
      (moved : loopStep s c (s.threads c) input = some (operation, t)) :
      ThreadMove config s c operation t

/-- What the connection-detecting thread does to the threads of the connection that it visits. -/
inductive Marked (t : Threads) : Threads → Prop where
  | same : Marked t t
  | stop : Marked t { t with stopRequested := true }
  | dead : Marked t { t with alived := false }
  | finished : Marked t { t with detectingFinished := true }

/-- A step of the connection-detecting thread for the connection `c`. -/
inductive DetectorMove (s : State) (c : ConnId) : DetectorPc → Operation → Threads → Prop where
  | skip {todo : List ConnId} (here : s.detector = .scan (c :: todo))
      (finished : (s.threads c).detectingFinished = true) :
      DetectorMove s c (.scan todo) .nothing (s.threads c)
  | enter {todo : List ConnId} (here : s.detector = .scan (c :: todo))
      (unfinished : (s.threads c).detectingFinished = false) :
      DetectorMove s c (.visit (if (s.threads c).alived then .existsTest else .shutdown) c todo) .nothing
        (s.threads c)
  | found {todo : List ConnId} (here : s.detector = .visit .existsTest c todo)
      (present : s.isConnectionExists c = true) :
      DetectorMove s c (.scan todo) .nothing (s.threads c)
  | lost {todo : List ConnId} (here : s.detector = .visit .existsTest c todo)
      (absent : s.isConnectionExists c = false) :
      DetectorMove s c (.visit .shutdown c todo) .nothing (s.threads c)
  | shutdown {todo : List ConnId} (here : s.detector = .visit .shutdown c todo) :
      DetectorMove s c (.visit .kill c todo) (.use .shutdown) (s.threads c)
  | kill {todo : List ConnId} (here : s.detector = .visit .kill c todo) :
      DetectorMove s c (.visit .notifyStop c todo) .killAlive (s.threads c)
  | notifyStop {todo : List ConnId} (here : s.detector = .visit .notifyStop c todo) :
      DetectorMove s c (.visit .dropAlive c todo) .nothing { s.threads c with stopRequested := true }
  | dropAlive {todo : List ConnId} (here : s.detector = .visit .dropAlive c todo) :
      DetectorMove s c (.visit .finish c todo) .nothing { s.threads c with alived := false }
  | finish {todo : List ConnId} (here : s.detector = .visit .finish c todo) :
      DetectorMove s c (.scan todo) .nothing { s.threads c with detectingFinished := true }

/-- Where alive detection goes on from an erased entry. -/
def PassPc.afterErase (key : Key) (owner : ConnId) (expired : List (Key × ConnId)) : Role → PassPc
  | .publisher => .erase expired
  | .subscriber => .clear .record key owner expired

inductive PassMove (config : RepeaterConfig) (s : State) (role : Role) : State → Prop where
  | start (here : s.passes role = .idle) : PassMove config s role (s.goPass role (.closing s.now []))
  | expire {now : Nat} {expired : List (Key × ConnId)} {key : Key} {entity : ConnectionEntity}
      (here : s.passes role = .closing now expired)
      (found : (s.clientConnections role).lookup key = some entity)
      (idle : entity.idle config now = true) (new : key ∉ expired.map Prod.fst) :
      PassMove config s role
        ((s.use entity.owner entity.clientFd .close).goPass role
          (.closing now (expired ++ [(key, entity.owner)])))
  | scanned {now : Nat} {expired : List (Key × ConnId)} (here : s.passes role = .closing now expired)
      (all : ∀ entry ∈ (s.clientConnections role).entries,
        entry.2.idle config now → entry.1 ∈ expired.map Prod.fst) :
      PassMove config s role (s.goPass role (.erase expired))
  | finish (here : s.passes role = .erase []) : PassMove config s role (s.goPass role .idle)
  | erase {key : Key} {owner : ConnId} {expired : List (Key × ConnId)}
      (here : s.passes role = .erase ((key, owner) :: expired)) :
      PassMove config s role
        ({ s with
          clientConnections :=
            Function.update s.clientConnections role ((s.clientConnections role).erase key) }.goPass
          role (.afterErase key owner expired role))
  | record {key : Key} {owner : ConnId} {expired : List (Key × ConnId)}
      (here : s.passes role = .clear .record key owner expired) :
      PassMove config s role
        ({ s with composite := s.composite.removeRecord key }.goPass role
          (.clear .subscribed key owner expired))
  | subscribed {key : Key} {owner : ConnId} {expired : List (Key × ConnId)}
      (here : s.passes role = .clear .subscribed key owner expired) :
      PassMove config s role
        (({ s with subscribed := s.subscribed.erase key }.noteKeyed .removeSubscribed owner
          (s.subscribed.lookup key)).goPass role (.clear .alive key owner expired))
  | alive {key : Key} {owner : ConnId} {expired : List (Key × ConnId)}
      (here : s.passes role = .clear .alive key owner expired) :
      PassMove config s role ((s.releaseAlive key owner).goPass role (.clear .maps key owner expired))
  | maps {key : Key} {owner : ConnId} {expired : List (Key × ConnId)}
      (here : s.passes role = .clear .maps key owner expired) :
      PassMove config s role ((s.releaseMaps key owner).goPass role (.erase expired))

/-- Everything that a step of the process can be. -/
inductive Move (config : RepeaterConfig) (s : State) : Action → State → Prop where
  | tick (seconds : Nat) : Move config s (.tick seconds) { s with now := s.now + seconds }
  | accept {role : Role} {key : Key} {fd : Nat} (vacant : s.acceptors role = none)
      (closed : s.fds fd = none) :
      Move config s (.accept role key fd) (s.accept { role, key, clientFd := fd })
  | refuse {role : Role} {c : ConnId} (inHand : s.acceptors role = some c) (free : s.baseFree role) :
      Move config s (.refuse role) ((s.use c (s.sockets c).clientFd .close).handOver role c .absent)
  | enroll {role : Role} {c : ConnId} (inHand : s.acceptors role = some c) (free : s.baseFree role) :
      Move config s (.enroll role) (s.enroll role c)
  | handler {c : ConnId} {input : Input} {operation : Operation} {t : Threads}
      (moved : handlerStep config s c input = some (operation, t)) :
      Move config s (.handler c input) (s.move c operation t)
  | writer {c : ConnId} {input : Input} {operation : Operation} {t : Threads}
      (moved : writerStep config s c input = some (operation, t)) :
      Move config s (.writer c input) (s.move c operation t)
  | copy {order : List ConnId} (idle : s.detector = .scan []) (free : s.mapsFree)
      (all : order.Perm (s.detectingArgs.entries.map (·.2))) :
      Move config s (.detectorCopy order) (s.goDetector (.scan order))
  | detector {pc : DetectorPc} {c : ConnId} {operation : Operation} {t : Threads}
      (moved : detectorStep s = some (pc, c, operation, t)) :
      Move config s .detector ((s.move c operation t).goDetector pc)
  | pass {role : Role} {input : PassInput} {s' : State} (moved : PassMove config s role s') :
      Move config s (.pass role input) s'

theorem passStep_cases {config : RepeaterConfig} {s s' : State} {role : Role} {input : PassInput}
    (taken : passStep config s role input = some s') : PassMove config s role s' := by
  unfold passStep at taken
  split at taken
  · rename_i here
    cases taken
    exact .start here
  · rename_i here
    split at taken
    · cases taken
    · rename_i found
      split at taken
      · rename_i both
        cases taken
        exact .expire here found both.1 both.2
      · cases taken
  · rename_i here
    split at taken
    · rename_i all
      cases taken
      exact .scanned here all
    · cases taken
  · rename_i here
    cases taken
    exact .finish here
  · rename_i here
    split at taken
    all_goals
      cases taken
      exact .erase here
  · rename_i here
    cases taken
    exact .record here
  · rename_i here
    cases taken
    exact .subscribed here
  · rename_i here
    cases taken
    exact .alive here
  · rename_i here
    cases taken
    exact .maps here
  · cases taken

theorem handlerStep_cases {config : RepeaterConfig} {s : State} {c : ConnId} {input : Input}
    {operation : Operation} {t : Threads} (taken : handlerStep config s c input = some (operation, t)) :
    ThreadMove config s c operation t := by
  unfold handlerStep at taken
  split at taken
  · rename_i here
    exact .publisher here taken
  · rename_i here
    exact .reader here taken
  · cases taken

theorem writerStep_cases {config : RepeaterConfig} {s : State} {c : ConnId} {input : Input}
    {operation : Operation} {t : Threads} (taken : writerStep config s c input = some (operation, t)) :
    ThreadMove config s c operation t := by
  unfold writerStep at taken
  split at taken
  · rename_i mode
    exact .loop mode taken
  · rename_i mode
    exact .normal (by simpa using mode) taken

theorem detectorStep_cases {s : State} {pc : DetectorPc} {c : ConnId} {operation : Operation}
    {t : Threads} (taken : detectorStep s = some (pc, c, operation, t)) :
    DetectorMove s c pc operation t := by
  cases here : s.detector with
  | scan todo =>
    rw [detectorStep, here] at taken
    cases todo with
    | nil => cases taken
    | cons conn todo =>
      cases taken
      split
      · rename_i finished
        exact .skip here finished
      · rename_i unfinished
        exact .enter here (by simpa using unfinished)
  | visit stage conn todo =>
    rw [detectorStep, here] at taken
    cases stage with
    | existsTest =>
      dsimp only at taken
      split at taken
      · cases taken
        split
        · rename_i present
          exact .found here present
        · rename_i absent
          exact .lost here (by simpa using absent)
      · cases taken
    | kill =>
      dsimp only at taken
      split at taken
      · cases taken
        exact .kill here
      · cases taken
    | shutdown =>
      cases taken
      exact .shutdown here
    | notifyStop =>
      cases taken
      exact .notifyStop here
    | dropAlive =>
      cases taken
      exact .dropAlive here
    | finish =>
      cases taken
      exact .finish here

theorem DetectorMove.marked {s : State} {c : ConnId} {pc : DetectorPc} {operation : Operation}
    {t : Threads} (moved : DetectorMove s c pc operation t) : Marked (s.threads c) t := by
  cases moved with
  | notifyStop => exact .stop
  | dropAlive => exact .dead
  | finish => exact .finished
  | _ => exact .same

theorem step_cases {config : RepeaterConfig} {s s' : State} {action : Action}
    (taken : step config s action = some s') : Move config s action s' := by
  cases action with
  | tick seconds =>
    cases taken
    exact .tick seconds
  | accept role key fd =>
    simp only [step] at taken
    split at taken
    · rename_i both
      cases taken
      exact .accept both.1 both.2
    · cases taken
  | refuse role =>
    simp only [step] at taken
    split at taken
    · cases taken
    · rename_i inHand
      split at taken
      · rename_i free
        cases taken
        exact .refuse inHand free
      · cases taken
  | enroll role =>
    simp only [step] at taken
    split at taken
    · cases taken
    · rename_i inHand
      split at taken
      · rename_i both
        cases taken
        exact .enroll inHand both.1
      · cases taken
  | handler c input =>
    obtain ⟨⟨operation, t⟩, moved, same⟩ := Option.map_eq_some_iff.mp taken
    exact same ▸ .handler moved
  | writer c input =>
    obtain ⟨⟨operation, t⟩, moved, same⟩ := Option.map_eq_some_iff.mp taken
    exact same ▸ .writer moved
  | detectorCopy order =>
    simp only [step] at taken
    split at taken
    · rename_i all
      cases taken
      exact .copy all.1 all.2.1 all.2.2
    · cases taken
  | detector =>
    obtain ⟨⟨pc, c, operation, t⟩, moved, same⟩ := Option.map_eq_some_iff.mp taken
    exact same ▸ .detector moved
  | pass role input => exact .pass (passStep_cases taken)

end MessageRepeater.Lifecycle
