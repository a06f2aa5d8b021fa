import MessageRepeater.Foundation.Maps
import MessageRepeater.Combiner.TopicStore
import MessageRepeater.Foundation.Runs

/-!
# Many writers on the topic store

`createCircleIfAbsent` runs under the exclusive lock of `MessageCircleComposite`. `appendMessageToCircle`
keeps the shared lock from its lookup to its return, and `MessageCircle::append` takes the lock of the one
circle in between, so appends of several threads interleave. An exception ends the process and has no step.
-/

namespace MessageRepeater.Combiner
open Foundation

abbrev ThreadId := Nat

/-- Where a thread is in `appendMessageToCircle`. -/
inductive AppendPc where
  | idle
  /-- The circle is found. -/
  | append (topic : Topic) (message : Bytes)
  /-- `MessageCircle::append` has returned. -/
  | appended (topic : Topic) (message : Bytes)
  deriving DecidableEq, Repr

/-- What an append has put into a circle. -/
structure LogEntry where
  sequence : Nat
  thread : ThreadId
  body : Bytes
  deriving DecidableEq, Repr

/-- A call that has returned. -/
inductive StoreCall where
  | create (thread : ThreadId) (topic : Topic) (result : Bool)
  | append (thread : ThreadId) (topic : Topic) (message : Bytes) (result : Bool)
  deriving DecidableEq, Repr

def StoreCall.result : StoreCall → Bool
  | .create _ _ result => result
  | .append _ _ _ result => result

structure StoreState where
  store : MessageCircleComposite
  /-- The threads that hold the shared lock. -/
  shared : List ThreadId := []
  pcs : ThreadId → AppendPc := fun _ => .idle
  /-- Every entry that a circle of the topic has ever got, oldest first. -/
  log : Topic → List LogEntry := fun _ => []
  returned : List StoreCall := []

def StoreState.initial (maxTopicNumbers : Int) : StoreState := { store := .init maxTopicNumbers }

inductive StoreAction where
  | create (thread : ThreadId) (topic : Topic) (circleMaxSize : Int)
  | append (thread : ThreadId) (topic : Topic) (message : Bytes)
  | run (thread : ThreadId)
  deriving DecidableEq, Repr

def StoreState.goto (s : StoreState) (thread : ThreadId) (pc : AppendPc) : StoreState :=
  { s with pcs := Function.update s.pcs thread pc }

def StoreState.finish (s : StoreState) (call : StoreCall) : StoreState :=
  { s with returned := s.returned ++ [call] }

/-- `MessageCircle::append` has given the message the circle's next sequence. -/
def StoreState.write (s : StoreState) (store : MessageCircleComposite) (thread : ThreadId)
    (topic : Topic) (message : Bytes) : StoreState :=
  let sequence := ((s.store.getCircle topic).map MessageCircle.nextSequence).getD 0
  { s with
    store
    log := Function.update s.log topic (s.log topic ++ [{ sequence, thread, body := message }]) }

def StoreState.step (s : StoreState) : StoreAction → Option StoreState
  | .create i topic circleMaxSize =>
    if s.pcs i = .idle ∧ s.shared = [] then
      match s.store.createCircleIfAbsent topic circleMaxSize with
      | .error _ => none
      | .ok (result, store) => some ({ s with store }.finish (.create i topic result))
    else none
  | .append i topic message =>
    if s.pcs i = .idle then
      match s.store.getCircle topic with
      | none => some (s.finish (.append i topic message false))
      | some _ => some ({ s with shared := i :: s.shared }.goto i (.append topic message))
    else none
  | .run i =>
    match s.pcs i with
    | .idle => none
    | .append topic message =>
      match s.store.appendMessageToCircle topic message with
      | .ok (true, store) => some ((s.write store i topic message).goto i (.appended topic message))
      | _ => none
    | .appended topic message =>
      some
        (({ s with shared := s.shared.erase i }.goto i .idle).finish (.append i topic message true))

/-- What a step of a thread does, with the guards under which it does it. -/
inductive StoreMove (s : StoreState) : StoreState → Prop where
  | create {i topic size result store} (idle : s.pcs i = .idle) (alone : s.shared = [])
      (created : s.store.createCircleIfAbsent topic size = .ok (result, store)) :
      StoreMove s ({ s with store }.finish (.create i topic result))
  | refuse {i topic message} (idle : s.pcs i = .idle) (absent : s.store.getCircle topic = none) :
      StoreMove s (s.finish (.append i topic message false))
  | enter {i topic message ring} (idle : s.pcs i = .idle) (found : s.store.getCircle topic = some ring) :
      StoreMove s ({ s with shared := i :: s.shared }.goto i (.append topic message))
  | write {i topic message store} (here : s.pcs i = .append topic message)
      (stored : s.store.appendMessageToCircle topic message = .ok (true, store)) :
      StoreMove s ((s.write store i topic message).goto i (.appended topic message))
  | leave {i topic message} (here : s.pcs i = .appended topic message) :
      StoreMove s
        (({ s with shared := s.shared.erase i }.goto i .idle).finish (.append i topic message true))

theorem step_storeMove {s s' : StoreState} {action : StoreAction} (taken : s.step action = some s') :
    StoreMove s s' := by
  cases action with
  | create i topic size =>
    simp only [StoreState.step] at taken
    split at taken
    · rename_i free
      split at taken <;> cases taken
      exact .create free.1 free.2 ‹_›
    · cases taken
  | append i topic message =>
    simp only [StoreState.step] at taken
    split at taken
    · rename_i idle
      split at taken <;> cases taken
      · exact .refuse idle ‹_›
      · exact .enter idle ‹_›
    · cases taken
  | run i =>
    simp only [StoreState.step] at taken
    split at taken
    · cases taken
    · rename_i here
      split at taken <;> cases taken
      exact .write here ‹_›
    · cases taken
      exact .leave ‹_›

/-! ### One operation on the store -/

/-- The set and the map have the same topics, no more of them than the limit. -/
structure Indexed (store : MessageCircleComposite) : Prop where
  topics : ∀ topic, topic ∈ store.topics ↔ topic ∈ store.topicCircles
  bounded : store.topicCircles.keys.length ≤ toUnsigned64 store.maxTopicNumbers

theorem indexed_init (maxTopicNumbers : Int) : Indexed (.init maxTopicNumbers) where
  topics topic := by simp [MessageCircleComposite.init]
  bounded := by simp [MessageCircleComposite.init]

theorem Indexed.create {store store' : MessageCircleComposite} (indexed : Indexed store)
    {topic : Topic} {size : Int} {result : Bool}
    (created : store.createCircleIfAbsent topic size = .ok (result, store')) :
    Indexed store' ∧ store'.maxTopicNumbers = store.maxTopicNumbers := by
  rcases createCircleIfAbsent_cases created with rfl | ⟨_, absent, room, ring, _, rfl⟩
  · exact ⟨indexed, rfl⟩
  · refine ⟨⟨fun t => ?_, ?_⟩, rfl⟩
    · simp only [Finset.mem_insert, AList.mem_insert, indexed.topics]
    · rw [keys_length_insert_absent absent]
      exact room

/-- An append that returns true has put the message into the circle of the topic. -/
theorem appendMessageToCircle_cases {store store' : MessageCircleComposite} {topic : Topic}
    {message : Bytes} (stored : store.appendMessageToCircle topic message = .ok (true, store')) :
    ∃ ring ring', store.topicCircles.lookup topic = some ring ∧
      ring.append message = (.appended, ring') ∧
      store' = { store with topicCircles := store.topicCircles.insert topic ring' } := by
  unfold MessageCircleComposite.appendMessageToCircle at stored
  split at stored
  · cases stored
  · rename_i ring found
    split at stored
    · cases stored
    · rename_i ring' appended
      cases stored
      exact ⟨ring, ring', found, appended, rfl⟩

theorem Indexed.append {store store' : MessageCircleComposite} (indexed : Indexed store)
    {topic : Topic} {message : Bytes}
    (stored : store.appendMessageToCircle topic message = .ok (true, store')) :
    Indexed store' ∧ store'.maxTopicNumbers = store.maxTopicNumbers := by
  obtain ⟨ring, ring', found, _, rfl⟩ := appendMessageToCircle_cases stored
  have present : topic ∈ store.topicCircles := AList.lookup_isSome.mp (by rw [found]; rfl)
  refine ⟨⟨fun t => ?_, ?_⟩, rfl⟩
  · rw [AList.mem_insert, indexed.topics]
    constructor
    · exact .inr
    · rintro (rfl | old)
      · exact present
      · exact old
  · rw [keys_length_insert_present present]
    exact indexed.bounded

/-! ### The map of logs -/

/-- The bodies that the thread has appended to the topic in calls that returned true, in its own order. -/
def StoreState.accepted (s : StoreState) (topic : Topic) (thread : ThreadId) : List Bytes :=
  s.returned.filterMap fun
    | .append i t message true => if i = thread ∧ t = topic then some message else none
    | _ => none

/-- The body of the thread's append that has not returned yet. -/
def StoreState.inFlight (s : StoreState) (topic : Topic) (thread : ThreadId) : List Bytes :=
  match s.pcs thread with
  | .appended t message => if t = topic then [message] else []
  | _ => []

/-- The store is a map from at most `limit` topics to logs. -/
structure AppendOnlyMap (limit : Int) (s : StoreState) : Prop where
  topics : ∀ topic, topic ∈ s.store.topics ↔ topic ∈ s.store.topicCircles
  bounded : 0 ≤ limit → (s.store.topicCircles.keys.length : Int) ≤ limit
  /-- Each circle holds the end of its topic's log; a topic without a circle has none. -/
  holding : Holding s.store fun topic => (s.log topic).map LogEntry.body
  sequences : ∀ topic, (s.log topic).map LogEntry.sequence = List.range (s.log topic).length
  ordered : ∀ topic thread,
    ((s.log topic).filter fun entry => entry.thread = thread).map LogEntry.body =
      s.accepted topic thread ++ s.inFlight topic thread

/-- What a step may do to the store: a call that returns false changes nothing, and a circle that exists
changes by an append only. -/
structure StepLaw (s s' : StoreState) : Prop where
  refused : ∀ call, s'.returned = s.returned ++ [call] → call.result = false → s'.store = s.store
  circles : ∀ topic ring, s.store.getCircle topic = some ring →
    s'.store.getCircle topic = some ring ∨
      ∃ message ring', ring.append message = (.appended, ring') ∧ s'.store.getCircle topic = some ring'

/-- Later states keep every circle, with its capacity, and every log. -/
structure Extends (s s' : StoreState) : Prop where
  circles : ∀ topic ring, s.store.getCircle topic = some ring → ∃ ring',
    s'.store.getCircle topic = some ring' ∧ ring'.circle.length = ring.circle.length
  logs : ∀ topic, s.log topic <+: s'.log topic

/-- No call throws while its circle has sequences left and the size of a new one is positive. -/
structure NoThrow (s : StoreState) : Prop where
  append : ∀ i topic message, s.pcs i = .append topic message → (s.log topic).length < maxSequence →
    (s.step (.run i)).isSome
  create : ∀ i topic size, s.pcs i = .idle → s.shared = [] → 0 < size →
    (s.step (.create i topic size)).isSome

/-- What holds along a run. -/
structure StoreInvariant (limit : Int) (s : StoreState) : Prop where
  map : AppendOnlyMap limit s
  indexed : Indexed s.store
  limit : s.store.maxTopicNumbers = limit
  found : ∀ i topic message, s.pcs i = .append topic message → s.store.getCircle topic ≠ none

theorem toUnsigned64_le {n : Int} (nonneg : 0 ≤ n) : (toUnsigned64 n : Int) ≤ n := by
  unfold toUnsigned64
  omega

theorem Indexed.within {store : MessageCircleComposite} (indexed : Indexed store)
    (nonneg : 0 ≤ store.maxTopicNumbers) :
    (store.topicCircles.keys.length : Int) ≤ store.maxTopicNumbers := by
  have bounded := indexed.bounded
  have limit := toUnsigned64_le nonneg
  omega

theorem storeInvariant_initial (limit : Int) : StoreInvariant limit (.initial limit) where
  map := {
    topics := (indexed_init limit).topics
    bounded := (indexed_init limit).within
    holding := holding_init limit
    sequences := fun _ => rfl
    ordered := fun _ _ => rfl }
  indexed := indexed_init limit
  limit := rfl
  found := nofun

/-! ### The steps -/

theorem accepted_finish (s : StoreState) (call : StoreCall) (topic : Topic) (thread : ThreadId) :
    (s.finish call).accepted topic thread = s.accepted topic thread ++
      match call with
      | .append i t message true => if i = thread ∧ t = topic then [message] else []
      | _ => [] := by
  unfold StoreState.accepted StoreState.finish
  rw [List.filterMap_append]
  congr 1
  rcases call with ⟨i, t, result⟩ | ⟨i, t, message, result⟩
  · rfl
  · cases result with
    | false => rfl
    | true => by_cases mine : i = thread ∧ t = topic <;> simp [mine]

theorem inFlight_goto (s : StoreState) (i : ThreadId) (pc : AppendPc) (topic : Topic)
    (thread : ThreadId) :
    (s.goto i pc).inFlight topic thread =
      if thread = i then
        match pc with
        | .appended t message => if t = topic then [message] else []
        | _ => []
      else s.inFlight topic thread := by
  unfold StoreState.inFlight StoreState.goto
  by_cases mine : thread = i
  · subst mine
    rw [if_pos rfl]
    simp only [Function.update_self]
  · rw [if_neg mine]
    simp only [Function.update_of_ne mine]

/-- The bodies of the logs after a write are the bodies with one more message. -/
theorem write_bodies (s : StoreState) (store : MessageCircleComposite) (i : ThreadId) (topic : Topic)
    (message : Bytes) :
    (fun t => ((s.write store i topic message).log t).map LogEntry.body) =
      appendLog (fun t => (s.log t).map LogEntry.body) topic message := by
  funext t
  unfold StoreState.write appendLog
  by_cases same : t = topic
  · subst same
    simp
  · simp [same]

theorem AppendOnlyMap.write {limit : Int} {s : StoreState} (map : AppendOnlyMap limit s)
    (indexed : Indexed s.store) (maximum : s.store.maxTopicNumbers = limit) {i : ThreadId}
    {topic : Topic} {message : Bytes} (here : s.pcs i = .append topic message)
    {store : MessageCircleComposite}
    (stored : s.store.appendMessageToCircle topic message = .ok (true, store)) :
    AppendOnlyMap limit ((s.write store i topic message).goto i (.appended topic message)) := by
  obtain ⟨later, kept⟩ := indexed.append stored
  obtain ⟨ring, _, found, _, _⟩ := appendMessageToCircle_cases stored
  have next : ring.nextSequence = (s.log topic).length := by
    simpa using (map.holding.holds found).next
  have sequence : ((s.store.getCircle topic).map MessageCircle.nextSequence).getD 0 =
      (s.log topic).length := by
    rw [MessageCircleComposite.getCircle, found]
    exact next
  constructor
  case topics => exact later.topics
  case bounded => exact fun nonneg => maximum ▸ kept ▸ later.within (by rw [kept, maximum]; exact nonneg)
  case holding =>
    have grown := map.holding.append stored
    rw [← write_bodies s store i] at grown
    exact grown
  case sequences =>
    intro t
    simp only [StoreState.write, StoreState.goto, sequence]
    by_cases same : t = topic
    · subst same
      simp [map.sequences, List.range_succ]
    · simp only [Function.update_of_ne same]
      exact map.sequences t
  case ordered =>
    intro t thread
    have before := map.ordered t thread
    rw [inFlight_goto]
    change _ = s.accepted t thread ++ _
    simp only [StoreState.write, StoreState.goto]
    by_cases same : t = topic
    · subst same
      rw [Function.update_self, List.filter_append, List.map_append, before]
      by_cases mine : thread = i
      · subst mine
        simp [StoreState.inFlight, here]
      · simp only [if_neg mine, Ne.symm mine, List.filter_cons, List.filter_nil, decide_false,
          Bool.false_eq_true, if_false, List.map_nil, List.append_nil]
        rfl
    · rw [Function.update_of_ne same, before]
      by_cases mine : thread = i
      · subst mine
        simp [StoreState.inFlight, here, Ne.symm same]
      · rw [if_neg mine]
        rfl

/-- A step that leaves the logs as they are, with the accounts of the threads balanced. -/
theorem AppendOnlyMap.same_log {limit : Int} {s s' : StoreState} (map : AppendOnlyMap limit s)
    (indexed : Indexed s'.store) (maximum : s'.store.maxTopicNumbers = limit) (log : s'.log = s.log)
    (holding : Holding s'.store fun topic => (s.log topic).map LogEntry.body)
    (accounts : ∀ topic thread, s'.accepted topic thread ++ s'.inFlight topic thread =
      s.accepted topic thread ++ s.inFlight topic thread) : AppendOnlyMap limit s' where
  topics := indexed.topics
  bounded nonneg := maximum ▸ indexed.within (by rw [maximum]; exact nonneg)
  holding := by
    rw [log]
    exact holding
  sequences topic := by
    rw [log]
    exact map.sequences topic
  ordered topic thread := by
    rw [log, accounts]
    exact map.ordered topic thread

theorem append_of_update {pcs : ThreadId → AppendPc} {i j : ThreadId} {pc : AppendPc} {topic : Topic}
    {message : Bytes} (pending : Function.update pcs i pc j = .append topic message) :
    pc = .append topic message ∨ pcs j = .append topic message := by
  by_cases mine : j = i
  · rw [mine, Function.update_self] at pending
    exact .inl pending
  · rw [Function.update_of_ne mine] at pending
    exact .inr pending

theorem step_storeInvariant {limit : Int} {s s' : StoreState} {action : StoreAction}
    (invariant : StoreInvariant limit s) (taken : s.step action = some s') : StoreInvariant limit s' := by
  cases step_storeMove taken with
  | @create i topic size result store idle alone created =>
    obtain ⟨indexed, kept⟩ := invariant.indexed.create created
    have maximum := kept.trans invariant.limit
    refine ⟨invariant.map.same_log indexed maximum rfl (invariant.map.holding.create created) ?_,
      indexed, maximum, fun j t message pending => ?_⟩
    · intro t thread
      rw [accepted_finish, List.append_nil]
      rfl
    · rcases createCircleIfAbsent_rings created t with same | ⟨_, ring, _, made⟩
      · exact same.symm ▸ invariant.found j t message pending
      · exact made.symm ▸ nofun
  | refuse idle absent =>
    refine ⟨invariant.map.same_log invariant.indexed invariant.limit rfl invariant.map.holding ?_,
      invariant.indexed, invariant.limit, invariant.found⟩
    intro t thread
    rw [accepted_finish, List.append_nil]
    rfl
  | @enter i topic message ring idle found =>
    refine ⟨invariant.map.same_log invariant.indexed invariant.limit rfl invariant.map.holding ?_,
      invariant.indexed, invariant.limit, fun j t m pending => ?_⟩
    · intro t thread
      rw [inFlight_goto]
      split
      · rename_i mine
        simp only [mine, StoreState.inFlight, idle]
        rfl
      · rfl
    · rcases append_of_update pending with mine | before
      · cases mine
        exact found ▸ nofun
      · exact invariant.found j t m before
  | @write i topic message store here stored =>
    obtain ⟨indexed, kept⟩ := invariant.indexed.append stored
    refine ⟨invariant.map.write invariant.indexed invariant.limit here stored, indexed,
      kept.trans invariant.limit, fun j t m pending => ?_⟩
    have before : s.store.getCircle t ≠ none :=
      (append_of_update pending).elim nofun (invariant.found j t m)
    obtain ⟨ring, ring', _, _, now, others⟩ := appendMessageToCircle_rings stored
    change store.getCircle t ≠ none
    by_cases same : t = topic
    · rw [same, now]
      nofun
    · rw [others t same]
      exact before
  | @leave i topic message here =>
    refine ⟨invariant.map.same_log invariant.indexed invariant.limit rfl invariant.map.holding ?_,
      invariant.indexed, invariant.limit, fun j t m pending => ?_⟩
    · intro t thread
      rw [accepted_finish]
      change _ ++ (StoreState.goto _ i .idle).inFlight t thread = _
      rw [inFlight_goto]
      by_cases mine : thread = i
      · subst mine
        simp [StoreState.inFlight, here, StoreState.accepted, StoreState.goto]
      · rw [if_neg mine]
        simp [Ne.symm mine, StoreState.accepted, StoreState.goto, StoreState.inFlight]
    · exact (append_of_update pending).elim nofun (invariant.found j t m)

theorem step_law {s s' : StoreState} {action : StoreAction} (taken : s.step action = some s') :
    StepLaw s s' := by
  cases step_storeMove taken with
  | @create i topic size result store idle alone created =>
    constructor
    · intro call returned refused
      obtain rfl : StoreCall.create i topic result = call := by
        simpa [StoreState.finish] using returned
      rcases createCircleIfAbsent_cases created with same | ⟨true_, _⟩
      · exact same
      · cases refused.symm.trans true_
    · intro t ring held
      rcases createCircleIfAbsent_rings created t with same | ⟨absent, _⟩
      · exact .inl (same.trans held)
      · cases absent.symm.trans held
  | @write i topic message store here stored =>
    constructor
    · intro call returned
      cases List.self_eq_append_right.mp returned
    · intro t ring held
      obtain ⟨old, new, found, appended, now, others⟩ := appendMessageToCircle_rings stored
      by_cases same : t = topic
      · subst same
        rw [held] at found
        cases found
        exact .inr ⟨message, new, appended, now⟩
      · exact .inl ((others t same).trans held)
  | refuse | enter | leave => exact ⟨fun _ _ _ => rfl, fun _ _ held => .inl held⟩

theorem append_capacity {ring ring' : MessageCircle} {message : Bytes}
    (appended : ring.append message = (.appended, ring')) :
    ring'.circle.length = ring.circle.length := by
  unfold MessageCircle.append at appended
  split at appended
  · cases appended
  · cases appended
    exact List.length_set

theorem step_logs {s s' : StoreState} {action : StoreAction} (taken : s.step action = some s')
    (topic : Topic) : s.log topic <+: s'.log topic := by
  cases step_storeMove taken with
  | @write i t message store here stored =>
    simp only [StoreState.write, StoreState.goto]
    by_cases same : topic = t
    · subst same
      rw [Function.update_self]
      exact List.prefix_append _ _
    · rw [Function.update_of_ne same]
  | create | refuse | enter | leave => exact List.prefix_rfl

theorem run_extends {s s' : StoreState} (run : Run StoreState.step Free s s') : Extends s s' := by
  induction run with
  | refl => exact ⟨fun _ ring held => ⟨ring, held, rfl⟩, fun _ => List.prefix_rfl⟩
  | tail _ action _ taken ih =>
    constructor
    · intro topic ring held
      obtain ⟨middle, now, capacity⟩ := ih.circles topic ring held
      rcases (step_law taken).circles topic middle now with same | ⟨_, last, appended, after⟩
      · exact ⟨middle, same, capacity⟩
      · exact ⟨last, after, (append_capacity appended).trans capacity⟩
    · exact fun topic => (ih.logs topic).trans (step_logs taken topic)

theorem StoreInvariant.noThrow {limit : Int} {s : StoreState} (invariant : StoreInvariant limit s) :
    NoThrow s where
  append i topic message here room := by
    obtain ⟨ring, found⟩ := Option.ne_none_iff_exists'.mp (invariant.found i topic message here)
    obtain ⟨ring', appended, _⟩ := append_holds (invariant.map.holding.holds found) (by simpa using room)
      message
    have stored : s.store.appendMessageToCircle topic message =
        .ok (true, { s.store with topicCircles := s.store.topicCircles.insert topic ring' }) := by
      rw [MessageCircleComposite.getCircle] at found
      simp only [MessageCircleComposite.appendMessageToCircle, found, appended]
    simp [StoreState.step, here, stored]
  create i topic size here alone positive := by
    obtain ⟨ring, made⟩ := new_of_pos topic positive
    have created : ∃ result store,
        s.store.createCircleIfAbsent topic size = .ok (result, store) := by
      unfold MessageCircleComposite.createCircleIfAbsent
      split
      · exact ⟨_, _, rfl⟩
      · split
        · exact ⟨_, _, rfl⟩
        · split
          · exact ⟨_, _, rfl⟩
          · rw [made]
            exact ⟨_, _, rfl⟩
    obtain ⟨result, store, created⟩ := created
    simp [StoreState.step, here, alone, created]

/-- Whatever threads create circles and append to them, in whatever order: the store is a map of at most
`limit` topics to logs without gaps, refused calls change nothing, circles are neither replaced nor reset,
and no call throws below the last sequence. -/
theorem topic_store_append_only (limit : Int) {s : StoreState}
    (run : Run StoreState.step Free (.initial limit) s) :
    AppendOnlyMap limit s ∧ NoThrow s ∧ (∀ action s', s.step action = some s' → StepLaw s s') ∧
      ∀ s', Run StoreState.step Free s s' → Extends s s' := by
  have invariant : StoreInvariant limit s :=
    run.keeps (storeInvariant_initial limit) fun _ _ _ before _ taken => step_storeInvariant before taken
  exact ⟨invariant.map, invariant.noThrow, fun _ _ taken => step_law taken, fun _ later => run_extends later⟩

/-- Two threads append to one topic at the same time, behind a refused topic at the limit of one. -/
theorem topic_store_append_only_two_threads : ∃ s, Run StoreState.step Free (.initial 1) s ∧
    (s.log (ascii "T")).map LogEntry.body = [ascii "b", ascii "a"] ∧
    .create 2 (ascii "U") false ∈ s.returned ∧ AppendOnlyMap 1 s := by
  obtain ⟨s, run, passed⟩ := Run.exists_of_replay StoreState.step Free (.initial 1)
    [.create 0 (ascii "T") 4, .create 2 (ascii "U") 4, .append 0 (ascii "T") (ascii "a"),
      .append 1 (ascii "T") (ascii "b"), .run 1, .run 0, .run 0, .run 1]
    (fun s => decide ((s.log (ascii "T")).map LogEntry.body = [ascii "b", ascii "a"] ∧
      .create 2 (ascii "U") false ∈ s.returned))
    (by decide)
  obtain ⟨bodies, refused⟩ := of_decide_eq_true passed
  exact ⟨s, run, bodies, refused, (topic_store_append_only 1 run).1⟩

end MessageRepeater.Combiner
