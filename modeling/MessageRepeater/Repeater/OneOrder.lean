import MessageRepeater.Combiner.ConcurrentStore
import MessageRepeater.Foundation.Broadcast
import MessageRepeater.Ingress.Authorization
import MessageRepeater.Repeater.Views

/-!
# One order for all subscribers

The repeater is a broadcast: whatever its threads do, what they store and what its connections carry are a run
of `Broadcast`. So all connections agree on the order of a topic, and the messages of a publisher connection
keep theirs.
-/

namespace MessageRepeater.Repeater
open Foundation Combiner Config Connection Subscriber Ingress

/-! ### What the publishers have stored -/

/-- Who has stored a message: the thread of a publisher connection, or one of a layer connection. -/
inductive Author where
  | publisher (id : Nat)
  | layer (id : Nat)
  deriving DecidableEq, Repr

/-- What the threads have stored, what each publisher has taken from its connection, and whether the message
that a thread stores is from a publisher connection. No step reads it. -/
structure Ledger where
  stored : List (Author × Topic × Bytes) := []
  published : Nat → List (Topic × Bytes) := fun _ => []
  creating : Nat → Bool := fun _ => false

def Ledger.author (ledger : Ledger) (id : Nat) : Author := if ledger.creating id then .publisher id else .layer id

/-- The ledger behind a step of a publisher or layer thread from `s` to `s'`. -/
def Ledger.note (ledger : Ledger) (id : Nat) (s s' : Subscriber.State) : PublisherInput → Ledger
  | .create topic message =>
    if s'.publishers id = .append topic message then
      { ledger with
        published := fun i => if i = id then ledger.published i ++ [(topic, message)] else ledger.published i
        creating := fun i => if i = id then true else ledger.creating i }
    else ledger
  | .relay _ _ => { ledger with creating := fun i => if i = id then false else ledger.creating i }
  | .prepare _ => ledger
  | .run =>
    match s.publishers id with
    | .append topic message =>
      if s'.logs topic = s.logs topic then ledger
      else { ledger with stored := ledger.stored ++ [(ledger.author id, topic, message)] }
    | _ => ledger

/-- The ledger behind a step of the process. -/
def Ledger.after (ledger : Ledger) (host : Host) (r r' : State) : Event → Ledger
  | .input k input =>
    match decode (host.siteOf k) input with
    | some (.publisher id input) => ledger.note id (r.view k).system (r'.view k).system input
    | _ => ledger
  | _ => ledger

/-- A step, with its ledger. -/
def recorded (host : Host) (s : State × Ledger) (event : Event) : Option (State × Ledger) :=
  (step host s.1 event).map fun r => (r, s.2.after host s.1 r event)

/-- What a publisher has taken from its connection and is storing. -/
def Ledger.inFlight (ledger : Ledger) (publishers : Nat → PublisherPc) (id : Nat) : List (Topic × Bytes) :=
  match publishers id with
  | .append topic message => if ledger.creating id then [(topic, message)] else []
  | _ => []

/-- What a publisher has stored. -/
def Ledger.storedBy (ledger : Ledger) (author : Author) : List (Topic × Bytes) :=
  (ledger.stored.filter fun entry => entry.1 = author).map Prod.snd

/-- The repeater as a broadcast: a connection has been handed what it carries. -/
def broadcast (s : State × Ledger) : Broadcast.State Author Topic Bytes Nat where
  log t := (s.2.stored.filter fun entry => entry.2.1 = t).map fun entry => (entry.1, entry.2.2)
  handed k t := ((s.1.clients k).link.carriedOf t).map Prod.fst

/-! ### Every step -/

/-- What a publisher or layer thread does to what it shares with the others, and to itself. -/
inductive PublisherMove (d : Deployment) (s : Subscriber.State) (id : Nat) :
    PublisherInput → Subscriber.State → Prop where
  | refuse {topic message} (idle : s.publishers id = .idle) : PublisherMove d s id (.create topic message) s
  | create {topic message store} (idle : s.publishers id = .idle)
      (created : s.store.createCircleIfAbsent topic d.config.maxTopicCircleSize = .ok (true, store)) :
      PublisherMove d s id (.create topic message) ({ s with store }.setPublisher id (.append topic message))
  | prepare {topic made store}
      (created : s.store.createCircleIfAbsent topic d.config.maxTopicCircleSize = .ok (made, store)) :
      PublisherMove d s id (.prepare topic) { s with store }
  | relay {topic message} (idle : s.publishers id = .idle) :
      PublisherMove d s id (.relay topic message) (s.setPublisher id (.append topic message))
  | append {topic message store} (here : s.publishers id = .append topic message)
      (stored : s.store.appendMessageToCircle topic message = .ok (true, store)) :
      PublisherMove d s id .run ({ s with store, logs := appendLog s.logs topic message }.setPublisher id
        (if d.config.subscriberEnableEventLoop then .submit topic else .idle))
  | drop {topic message store} (here : s.publishers id = .append topic message)
      (refused : s.store.appendMessageToCircle topic message = .ok (false, store)) :
      PublisherMove d s id .run (s.setPublisher id .idle)
  | submit {topic} (here : s.publishers id = .submit topic) :
      PublisherMove d s id .run ({ s with dispatch := (s.dispatch.submitWork topic).2 }.setPublisher id
        (if (s.dispatch.submitWork topic).1 then .notify else .idle))
  | notify (here : s.publishers id = .notify) :
      PublisherMove d s id .run
        ({ s with dispatch := s.dispatch.notifyStartWork d.pipeCapacity }.setPublisher id .idle)

theorem publisherStep_move {d : Deployment} {s s' : Subscriber.State} {id : Nat} {input : PublisherInput}
    (taken : publisherStep d s id input = some s') : PublisherMove d s id input s' := by
  unfold publisherStep at taken
  split at taken
  case h_1 idle =>
    split at taken <;> cases taken
    · exact .refuse idle
    · exact .create idle ‹_›
  case h_2 =>
    split at taken <;> cases taken
    exact .prepare ‹_›
  case h_3 idle =>
    cases taken
    exact .relay idle
  case h_4 here =>
    split at taken <;> cases taken
    · exact .drop here ‹_›
    · exact .append here ‹_›
  case h_5 here =>
    cases taken
    exact .submit here
  case h_6 here =>
    cases taken
    exact .notify here
  case h_7 => cases taken

/-- The logs hold what has been stored, and a publisher has stored what it has taken, in order, up to the
message that it is storing. -/
structure Authored (s : Subscriber.State) (ledger : Ledger) : Prop where
  logs : ∀ t, (ledger.stored.filter fun entry => entry.2.1 = t).map (fun entry => entry.2.2) = s.logs t
  published : ∀ id, ledger.published id = ledger.storedBy (.publisher id) ++ ledger.inFlight s.publishers id
  found : ∀ id topic message, ledger.creating id = true → s.publishers id = .append topic message →
    s.store.getCircle topic ≠ none
  indexed : Indexed s.store

section Moves
variable {s : Subscriber.State} {ledger : Ledger} {id : Nat}

theorem setPublisher_self (s : Subscriber.State) (id : Nat) (pc : PublisherPc) :
    (s.setPublisher id pc).publishers id = pc := if_pos rfl

theorem setPublisher_other {i : Nat} (other : i ≠ id) (pc : PublisherPc) :
    (s.setPublisher id pc).publishers i = s.publishers i := if_neg other

theorem createCircleIfAbsent_found {store store' : MessageCircleComposite} (indexed : Indexed store)
    {topic : Topic}
    {size : Int} (created : store.createCircleIfAbsent topic size = .ok (true, store')) :
    store'.getCircle topic ≠ none := by
  have indexed' := (indexed.create created).1
  have listed : topic ∈ store'.topics := by
    unfold MessageCircleComposite.createCircleIfAbsent at created
    split at created
    · rename_i member
      cases created
      exact member
    · split at created
      · cases created
      · split at created
        · rename_i absent _ _ _ held
          have member := (indexed.topics topic).mpr (AList.lookup_isSome.mp (by rw [held]; rfl))
          exact absurd member absent
        · split at created
          · cases created
          · cases created
            exact Finset.mem_insert_self _ _
  intro none_
  have member := AList.lookup_isSome.mpr ((indexed'.topics topic).mp listed)
  rw [show store'.topicCircles.lookup topic = none from none_] at member
  cases member

theorem PublisherMove.relayed {d : Deployment} {s' : Subscriber.State} {topic : Topic} {message : Bytes}
    (moved : PublisherMove d s id (.relay topic message) s') : s'.publishers id = .append topic message := by
  cases moved with
  | relay => exact setPublisher_self s id _

/-- What a thread has published stays so. -/
theorem note_published (ledger : Ledger) (id : Nat) (s s' : Subscriber.State) (input : PublisherInput) (i : Nat) :
    ledger.published i <+: (ledger.note id s s' input).published i := by
  cases input with
  | create topic message =>
    unfold Ledger.note
    dsimp only
    split
    · dsimp only
      split
      · exact List.prefix_append _ _
      · exact List.prefix_rfl
    · exact List.prefix_rfl
  | relay topic message => exact List.prefix_rfl
  | prepare topic => exact List.prefix_rfl
  | run =>
    unfold Ledger.note
    dsimp only
    split
    · split <;> exact List.prefix_rfl
    · exact List.prefix_rfl

/-- A circle that is there stays, whatever is created or appended. -/
theorem create_keeps {store store' : MessageCircleComposite} {topic t : Topic} {size : Int} {made : Bool}
    (created : store.createCircleIfAbsent topic size = .ok (made, store')) (found : store.getCircle t ≠ none) :
    store'.getCircle t ≠ none := by
  rcases createCircleIfAbsent_rings created t with same | ⟨absent, _⟩
  · rwa [same]
  · exact absurd absent found

theorem append_keeps {store store' : MessageCircleComposite} {topic t : Topic} {message : Bytes}
    (stored : store.appendMessageToCircle topic message = .ok (true, store')) (found : store.getCircle t ≠ none) :
    store'.getCircle t ≠ none := by
  obtain ⟨ring, ring', _, _, held, others⟩ := appendMessageToCircle_rings stored
  by_cases same : t = topic
  · rw [same, held]
    simp
  · rwa [others t same]

theorem refused_absent {store store' : MessageCircleComposite} {topic : Topic} {message : Bytes}
    (refused : store.appendMessageToCircle topic message = .ok (false, store')) :
    store.getCircle topic = none := by
  unfold MessageCircleComposite.appendMessageToCircle at refused
  split at refused
  · assumption
  · split at refused <;> cases refused

/-- A thread has moved, and no other thread. -/
theorem Authored.move {s' : Subscriber.State} {ledger' : Ledger} (authored : Authored s ledger)
    (logs : ∀ t, (ledger'.stored.filter fun entry => entry.2.1 = t).map (fun entry => entry.2.2) = s'.logs t)
    (others : ∀ i, i ≠ id → ledger'.published i = ledger.published i ∧ ledger'.creating i = ledger.creating i ∧
      s'.publishers i = s.publishers i ∧ ledger'.storedBy (.publisher i) = ledger.storedBy (.publisher i))
    (published : ledger'.published id = ledger'.storedBy (.publisher id) ++ ledger'.inFlight s'.publishers id)
    (keeps : ∀ t, s.store.getCircle t ≠ none → s'.store.getCircle t ≠ none)
    (found : ∀ topic message, ledger'.creating id = true → s'.publishers id = .append topic message →
      s'.store.getCircle topic ≠ none) (indexed : Indexed s'.store) : Authored s' ledger' := by
  refine ⟨logs, fun i => ?_, fun i topic message creating here => ?_, indexed⟩
  · by_cases own : i = id
    · rw [own]
      exact published
    · obtain ⟨same, creating, here, storedBy⟩ := others i own
      rw [same, storedBy, authored.published i]
      unfold Ledger.inFlight
      rw [creating, here]
  · by_cases own : i = id
    · rw [own] at creating here
      exact found topic message creating here
    · obtain ⟨_, same, publishers, _⟩ := others i own
      exact keeps topic (authored.found i topic message (same ▸ creating) (publishers ▸ here))

/-- A thread that stores nothing has nothing in flight. -/
theorem inFlight_none (idle : ∀ topic message, s.publishers id ≠ .append topic message) :
    ledger.inFlight s.publishers id = [] := by
  unfold Ledger.inFlight
  split
  · exact absurd ‹_› (idle _ _)
  · rfl

theorem inFlight_append {topic : Topic} {message : Bytes} (here : s.publishers id = .append topic message) :
    ledger.inFlight s.publishers id = if ledger.creating id then [(topic, message)] else [] := by
  unfold Ledger.inFlight
  rw [here]

/-- A thread that stores nothing has nothing noted. -/
theorem note_run {s' : Subscriber.State} (idle : ∀ topic message, s.publishers id ≠ .append topic message) :
    ledger.note id s s' .run = ledger := by
  unfold Ledger.note
  dsimp only
  split
  · exact absurd ‹_› (idle _ _)
  · rfl

theorem Authored.onward {dispatch : EventLoopWorker} {pc : PublisherPc} (authored : Authored s ledger)
    (idle : ∀ topic message, s.publishers id ≠ .append topic message)
    (idle' : ∀ topic message, pc ≠ .append topic message) :
    Authored ({ s with dispatch }.setPublisher id pc) ledger := by
  have own : ({ s with dispatch }.setPublisher id pc).publishers id = pc := setPublisher_self _ id _
  have before := authored.published id
  rw [inFlight_none idle] at before
  apply authored.move
  · exact authored.logs
  · exact fun i other => ⟨rfl, rfl, setPublisher_other other _, rfl⟩
  · rw [inFlight_none (by rw [own]; exact idle'), before]
  · exact fun t held => held
  · exact fun t m _ again => absurd (own.symm.trans again) (idle' t m)
  · exact authored.indexed

/-- One more message has been stored. -/
theorem storedBy_append (stored : List (Author × Topic × Bytes)) (author by_ : Author) (topic : Topic)
    (message : Bytes) :
    ({ ledger with stored := stored ++ [(by_, topic, message)] } : Ledger).storedBy author =
      ({ ledger with stored } : Ledger).storedBy author ++ if by_ = author then [(topic, message)] else [] := by
  unfold Ledger.storedBy
  rw [List.filter_append, List.map_append]
  by_cases same : by_ = author <;> simp [same]

variable (ledger) in
/-- What a thread does is not noted as another's. -/
theorem PublisherMove.others {d : Deployment} {s' : Subscriber.State} {input : PublisherInput} {i : Nat}
    (moved : PublisherMove d s id input s') (other : i ≠ id) :
    s'.publishers i = s.publishers i ∧ (ledger.note id s s' input).published i = ledger.published i ∧
      (ledger.note id s s' input).creating i = ledger.creating i ∧
      (ledger.note id s s' input).storedBy (.publisher i) = ledger.storedBy (.publisher i) ∧
      (ledger.note id s s' input).storedBy (.layer i) = ledger.storedBy (.layer i) := by
  have author : ledger.author id ≠ .publisher i ∧ ledger.author id ≠ .layer i := by
    unfold Ledger.author
    split <;> simp [Ne.symm other]
  have noted : (ledger.note id s s' input).published i = ledger.published i ∧
      (ledger.note id s s' input).creating i = ledger.creating i ∧
      (ledger.note id s s' input).storedBy (.publisher i) = ledger.storedBy (.publisher i) ∧
      (ledger.note id s s' input).storedBy (.layer i) = ledger.storedBy (.layer i) := by
    cases input with
    | create topic message =>
      unfold Ledger.note
      dsimp only
      split
      · exact ⟨if_neg other, if_neg other, rfl, rfl⟩
      · exact ⟨rfl, rfl, rfl, rfl⟩
    | relay topic message => exact ⟨rfl, if_neg other, rfl, rfl⟩
    | prepare topic => exact ⟨rfl, rfl, rfl, rfl⟩
    | run =>
      unfold Ledger.note
      dsimp only
      split
      · split
        · exact ⟨rfl, rfl, rfl, rfl⟩
        · refine ⟨rfl, rfl, ?_, ?_⟩
          · rw [storedBy_append, if_neg author.1, List.append_nil]
          · rw [storedBy_append, if_neg author.2, List.append_nil]
      · exact ⟨rfl, rfl, rfl, rfl⟩
  refine ⟨?_, noted⟩
  cases moved with
  | refuse | prepare => rfl
  | _ => exact setPublisher_other other _

theorem PublisherMove.authored {d : Deployment} {s' : Subscriber.State} {input : PublisherInput}
    (authored : Authored s ledger) (moved : PublisherMove d s id input s') :
    Authored s' (ledger.note id s s' input) := by
  have before := authored.published id
  have others : ∀ i, i ≠ id → (ledger.note id s s' input).published i = ledger.published i ∧
      (ledger.note id s s' input).creating i = ledger.creating i ∧ s'.publishers i = s.publishers i ∧
      (ledger.note id s s' input).storedBy (.publisher i) = ledger.storedBy (.publisher i) := by
    intro i other
    obtain ⟨publishers, published, creating, storedBy, _⟩ := moved.others ledger other
    exact ⟨published, creating, publishers, storedBy⟩
  cases moved with
  | @refuse topic message idle =>
    have noted : ledger.note id s s (.create topic message) = ledger := if_neg (by simp [idle])
    rwa [noted]
  | @create topic message store idle created =>
    rw [inFlight_none (by simp [idle]), List.append_nil] at before
    have self : ({ s with store }.setPublisher id (.append topic message)).publishers id = .append topic message :=
      setPublisher_self _ id _
    have noted : ledger.note id s ({ s with store }.setPublisher id (.append topic message)) (.create topic message) =
        { ledger with
          published := fun i => if i = id then ledger.published i ++ [(topic, message)] else ledger.published i
          creating := fun i => if i = id then true else ledger.creating i } := if_pos self
    rw [noted] at others ⊢
    apply authored.move
    · exact authored.logs
    · exact others
    · rw [inFlight_append self]
      simp only [if_pos]
      rw [before]
      rfl
    · exact fun t held => create_keeps created held
    · intro t m _ here
      cases self.symm.trans here
      exact createCircleIfAbsent_found authored.indexed created
    · exact (authored.indexed.create created).1
  | prepare created =>
    exact ⟨authored.logs, authored.published, fun i topic message made here =>
      create_keeps created (authored.found i topic message made here), (authored.indexed.create created).1⟩
  | @relay topic message idle =>
    rw [inFlight_none (by simp [idle])] at before
    apply authored.move
    · exact authored.logs
    · exact others
    · rw [inFlight_append (setPublisher_self _ id _)]
      simpa [Ledger.note, Ledger.storedBy] using before
    · exact fun t held => held
    · intro t m creating _
      simp [Ledger.note] at creating
    · exact authored.indexed
  | @append topic message store here stored =>
    have noted : ledger.note id s ({ s with store, logs := appendLog s.logs topic message }.setPublisher id
        (if d.config.subscriberEnableEventLoop then .submit topic else .idle)) .run =
        { ledger with stored := ledger.stored ++ [(ledger.author id, topic, message)] } := by
      simp [Ledger.note, here, State.setPublisher, appendLog]
    rw [noted] at others ⊢
    have idle : ∀ t m, ({ s with store, logs := appendLog s.logs topic message }.setPublisher id
        (if d.config.subscriberEnableEventLoop then .submit topic else .idle)).publishers id ≠ .append t m := by
      intro t m
      rw [setPublisher_self]
      split <;> simp
    apply authored.move
    · intro t
      rw [List.filter_append, List.map_append, authored.logs t]
      show _ = appendLog s.logs topic message t
      unfold appendLog
      by_cases same : t = topic
      · simp [same]
      · simp [same, Ne.symm same]
    · exact others
    · rw [inFlight_append here] at before
      rw [inFlight_none idle, storedBy_append, List.append_nil]
      show ledger.published id = _
      rw [before]
      unfold Ledger.author
      by_cases creating : ledger.creating id = true <;> simp [creating]
    · exact fun t held => append_keeps stored held
    · exact fun t m _ again => absurd again (idle t m)
    · exact (authored.indexed.append stored).1
  | @drop topic message store here refused =>
    have noted : ledger.note id s (s.setPublisher id .idle) .run = ledger := by
      simp [Ledger.note, here, State.setPublisher]
    rw [noted] at others ⊢
    -- The circle of a publisher's message is there, so it was a layer thread's message.
    have relayed : ¬ ledger.creating id = true := fun creating =>
      authored.found id topic message creating here (refused_absent refused)
    rw [inFlight_append here, if_neg relayed] at before
    apply authored.move
    · exact authored.logs
    · exact others
    · rw [inFlight_none (by simp [setPublisher_self]), before]
    · exact fun t held => held
    · intro t m _ again
      cases (setPublisher_self s id _).symm.trans again
    · exact authored.indexed
  | @submit topic here =>
    rw [note_run (by simp [here])]
    apply authored.onward (by simp [here])
    intro t m
    split <;> simp
  | notify here =>
    rw [note_run (by simp [here])]
    exact authored.onward (by simp [here]) (by simp)

end Moves

/-! ### Every step of the process -/

theorem Authored.shared {r : State} {j k : Nat} {ledger : Ledger} (authored : Authored (r.view j).system ledger) :
    Authored (r.view k).system ledger :=
  ⟨authored.logs, authored.published, authored.found, authored.indexed⟩

/-- A step that stores nothing hands something to one connection at most. -/
structure Quiet (host : Host) (r r' : State) (event : Event) : Prop where
  ledger : ∀ ledger : Ledger, ledger.after host r r' event = ledger
  store : r'.store = r.store
  logs : r'.logs = r.logs
  publishers : r'.publishers = r.publishers
  links : ∃ j, ∀ k, k ≠ j → (r'.clients k).link = (r.clients k).link

theorem setClient_link {r : State} {j : Nat} {client : Client} (same : client.link = (r.clients j).link)
    (k : Nat) :
    ((r.setClient j client).clients k).link = (r.clients k).link := by
  unfold State.setClient
  dsimp only
  split
  · rename_i here
    rw [same, here]
  · rfl

theorem dispatcherStep_quiet {host : Host} {r r' : State} (taken : dispatcherStep host r = some r') :
    Quiet host r r' .dispatcher := by
  unfold dispatcherStep at taken
  split at taken
  case h_1 | h_2 | h_6 => split at taken <;> cases taken <;> exact ⟨fun _ => rfl, rfl, rfl, rfl, 0, fun _ _ => rfl⟩
  case h_7 k _ _ _ _ =>
    cases taken
    exact ⟨fun _ => rfl, rfl, rfl, rfl, k, fun _ other => congrArg Client.link (if_neg other)⟩
  all_goals
    cases taken
    exact ⟨fun _ => rfl, rfl, rfl, rfl, 0, fun _ _ => rfl⟩

theorem visitStep_quiet {host : Host} {r r' : State} {j : Nat} (taken : visitStep r j = some r') :
    Quiet host r r' (.visit j) := by
  unfold visitStep at taken
  split at taken
  · split at taken
    · cases taken
    · dsimp only at taken
      split at taken <;> cases taken
      · exact ⟨fun _ => rfl, rfl, rfl, rfl, j, fun _ other => congrArg Client.link (if_neg other)⟩
      · exact ⟨fun _ => rfl, rfl, rfl, rfl, j, fun _ _ => rfl⟩
  · cases taken

/-- An input to a thread that stores messages. -/
theorem input_publisher {host : Host} {r r' : State} {j id : Nat} {input : Input} {published : PublisherInput}
    (decoded : decode (host.siteOf j) input = some (.publisher id published))
    (taken : step host r (.input j input) = some r') :
    PublisherMove (host.siteOf j).deployment (r.view j).system id published (r'.view j).system ∧
      ∀ k, (r'.clients k).link = (r.clients k).link := by
  obtain ⟨action, v, decoded', may, moved, rfl⟩ := input_cases taken
  obtain ⟨action'', decoded'', system, _⟩ := step_system moved
  obtain rfl := Option.some.inj (decoded.symm.trans decoded'')
  have same := publisherStep_same system
  have view : (r.put j v).view j = v := view_put (by rw [same])
  refine ⟨?_, fun k => ?_⟩
  · rw [view]
    exact publisherStep_move system
  · show ((r.setClient j (clientOf v)).clients k).link = _
    apply setClient_link
    show v.system.link = _
    rw [same]
    rfl

/-- A step moves a thread that stores messages, or it is quiet. -/
theorem step_kinds {host : Host} {r r' : State} {event : Event} (taken : step host r event = some r') :
    (∃ j input id published, event = .input j input ∧
      decode (host.siteOf j) input = some (.publisher id published)) ∨ Quiet host r r' event := by
  cases event with
  | accept =>
    cases taken
    exact .inr ⟨fun _ => rfl, rfl, rfl, rfl, 0, fun _ _ => rfl⟩
  | dispatcher => exact .inr (dispatcherStep_quiet taken)
  | visit j => exact .inr (visitStep_quiet taken)
  | input j input =>
    obtain ⟨action, v, decoded, may, moved, rfl⟩ := input_cases taken
    obtain ⟨action', decoded', system, _⟩ := step_system moved
    obtain rfl : action = action' := Option.some.inj (decoded.symm.trans decoded')
    rcases mayTake_own may with ⟨id, published, rfl⟩ | ⟨_, publisher, dispatch, other⟩
    · exact .inl ⟨j, input, id, published, rfl, decoded⟩
    · obtain ⟨store, logs, publishers⟩ := step_stores publisher system
      refine .inr ⟨fun ledger => ?_, store, logs, publishers, j, fun k other => congrArg Client.link (if_neg other)⟩
      show (match decode (host.siteOf j) input with
        | some (.publisher id input) => _
        | _ => ledger) = ledger
      rw [decoded]
      split
      · rename_i same
        cases same
        exact absurd rfl (publisher _ _)
      · rfl

theorem after_publisher {host : Host} {r r' : State} {j id : Nat} {input : Input} {published : PublisherInput}
    (decoded : decode (host.siteOf j) input = some (.publisher id published)) (ledger : Ledger) :
    ledger.after host r r' (.input j input) =
      ledger.note id (r.view j).system (r'.view j).system published := by
  simp only [Ledger.after, decoded]

theorem step_authored {host : Host} {s s' : State × Ledger} {event : Event}
    (authored : Authored (s.1.view 0).system s.2) (taken : recorded host s event = some s') :
    Authored (s'.1.view 0).system s'.2 := by
  obtain ⟨r', moved, rfl⟩ := Option.map_eq_some_iff.mp taken
  rcases step_kinds moved with ⟨j, input, id, published, rfl, decoded⟩ | quiet
  · show Authored (r'.view 0).system (s.2.after host s.1 r' (.input j input))
    rw [after_publisher decoded]
    exact ((input_publisher decoded moved).1.authored authored.shared).shared
  · show Authored (r'.view 0).system (s.2.after host s.1 r' event)
    rw [quiet.ledger]
    refine ⟨?_, ?_, ?_, ?_⟩
    · show ∀ t, _ = r'.logs t
      rw [quiet.logs]
      exact authored.logs
    · intro id
      rw [authored.published id]
      unfold Ledger.inFlight
      show _ ++ (match s.1.publishers id with | .append _ _ => _ | _ => _) =
        _ ++ (match r'.publishers id with | .append _ _ => _ | _ => _)
      rw [quiet.publishers]
    · show ∀ id topic message, _ → r'.publishers id = _ → r'.store.getCircle topic ≠ none
      rw [quiet.publishers, quiet.store]
      exact authored.found
    · show Indexed r'.store
      rw [quiet.store]
      exact authored.indexed

theorem run_authored {host : Host} {s : State × Ledger} (run : Run (recorded host) Free (initial host, {}) s) :
    Authored (s.1.view 0).system s.2 :=
  run.keeps
    ⟨fun _ => rfl, fun _ => rfl, fun _ _ _ creating => absurd creating Bool.false_ne_true, indexed_init _⟩
    fun _ _ _ authored _ taken => step_authored authored taken

/-! ### The ledger restricts no run -/

theorem recorded_step {host : Host} {s s' : State × Ledger} {event : Event}
    (taken : recorded host s event = some s') : step host s.1 event = some s'.1 := by
  obtain ⟨r', moved, rfl⟩ := Option.map_eq_some_iff.mp taken
  exact moved

theorem run_process {host : Host} {s : State × Ledger} (run : Run (recorded host) Free (initial host, {}) s) :
    Run (step host) Free (initial host) s.1 :=
  run.simulate fun _ event _ _ _ taken => .inr ⟨event, recorded_step taken⟩

theorem run_recorded {host : Host} {r : State} (run : Run (step host) Free (initial host) r) :
    ∃ ledger, Run (recorded host) Free (initial host, {}) (r, ledger) := by
  induction run with
  | refl => exact ⟨{}, .refl⟩
  | @tail r r' _ event _ taken ih =>
    obtain ⟨ledger, run⟩ := ih
    have moved : recorded host (r, ledger) event = some (r', ledger.after host r r' event) := by
      simp only [recorded, taken]
      rfl
    exact ⟨_, run.tail event trivial moved⟩

/-! ### What the connections carry -/

/-- All that a connection carries of a topic stands in its log, in order. -/
theorem reachable_carried {host : Host} {r : State} (run : Run (step host) Free (initial host) r) (k : Nat)
    (t : Topic) :
    ((r.clients k).link.carriedOf t).Pairwise (fun item later => item.1 < later.1) ∧
      ∀ item ∈ (r.clients k).link.carriedOf t, (r.logs t)[item.1]? = some item.2 := by
  have floored : Floored (fun _ => 0) (r.view k).system :=
    ⟨fun _ => Nat.zero_le _, fun _ _ _ _ => Nat.zero_le _, fun _ _ _ _ _ _ => Nat.zero_le _,
      fun _ _ _ => Nat.zero_le _⟩
  obtain ⟨ordered, inside⟩ := carried_ordered (reachable_delivering (run_threads run k)) floored t
  exact ⟨List.pairwise_map.mp ordered, fun item member => (inside item member).2⟩

/-- A step adds one frame at most to what a connection carries. -/
theorem step_adds {host : Host} {r r' : State} {event : Event} (run : Run (step host) Free (initial host) r)
    (taken : step host r event = some r') (k : Nat) :
    (r'.clients k).link.carried = (r.clients k).link.carried ∨
      ∃ frame, (r'.clients k).link.carried = (r.clients k).link.carried ++ [frame] := by
  rcases (step_sees (reachable_closed run) taken k).system with same | ⟨action, moved⟩
  · have link : (r'.clients k).link = (r.clients k).link := congrArg Subscriber.State.link same
    exact .inl (by rw [link])
  · rcases (step_carries (reachable_sound (run_threads run k)) moved).2 with same | ⟨_, more⟩ |
      ⟨_, _, frame, _, _, _, more⟩
    · exact .inl same
    · exact .inr ⟨_, more⟩
    · exact .inr ⟨frame, more⟩

/-- A step adds one message at most to what a connection carries. -/
theorem step_hands {host : Host} {r r' : State} {event : Event} (run : Run (step host) Free (initial host) r)
    (taken : step host r event = some r') (k : Nat) :
    (∀ t, (r'.clients k).link.carriedOf t = (r.clients k).link.carriedOf t) ∨
      ∃ topic sequence body, ∀ t, (r'.clients k).link.carriedOf t =
        (r.clients k).link.carriedOf t ++ if t = topic then [(sequence, body)] else [] := by
  rcases step_adds run taken k with same | ⟨frame, more⟩
  · refine .inl fun t => ?_
    unfold Link.carriedOf
    rw [same]
  · cases frame with
    | control data =>
      refine .inl fun t => ?_
      unfold Link.carriedOf
      rw [more, List.filterMap_append]
      simp [WireFrame.entry?]
    | business topic sequence body =>
      refine .inr ⟨topic, sequence, body, fun t => ?_⟩
      unfold Link.carriedOf
      rw [more, List.filterMap_append]
      by_cases here : topic = t
      · simp [WireFrame.entry?, here]
      · simp [WireFrame.entry?, here, Ne.symm here]

/-- What a thread notes as stored is one message more, or nothing. -/
theorem note_stored (ledger : Ledger) (id : Nat) (s s' : Subscriber.State) (input : PublisherInput) :
    (ledger.note id s s' input).stored = ledger.stored ∨
      ∃ entry, (ledger.note id s s' input).stored = ledger.stored ++ [entry] := by
  cases input with
  | create topic message =>
    unfold Ledger.note
    dsimp only
    split <;> exact .inl rfl
  | relay topic message => exact .inl rfl
  | prepare topic => exact .inl rfl
  | run =>
    unfold Ledger.note
    dsimp only
    split
    · split
      · exact .inl rfl
      · exact .inr ⟨_, rfl⟩
    · exact .inl rfl

/-- What the broadcast of a state is made of. -/
theorem broadcast_congr {s s' : State × Ledger} (stored : s'.2.stored = s.2.stored)
    (carried : ∀ k t, (s'.1.clients k).link.carriedOf t = (s.1.clients k).link.carriedOf t) :
    broadcast s' = broadcast s := by
  unfold broadcast
  rw [stored]
  congr
  funext k t
  rw [carried]

theorem broadcast_log {s : State × Ledger} (authored : Authored (s.1.view 0).system s.2) (t : Topic) :
    ((broadcast s).log t).map Prod.snd = s.1.logs t := by
  rw [← show _ = s.1.logs t from authored.logs t]
  exact List.map_map

theorem broadcast_step {host : Host} {s s' : State × Ledger} {event : Event}
    (run : Run (recorded host) Free (initial host, {}) s) (taken : recorded host s event = some s') :
    broadcast s' = broadcast s ∨ ∃ action, Broadcast.step (broadcast s) action = some (broadcast s') := by
  have before := run_process run
  have authored := run_authored run
  obtain ⟨r', moved, rfl⟩ := Option.map_eq_some_iff.mp taken
  have after : Run (step host) Free (initial host) r' := before.tail event trivial moved
  rcases step_kinds moved with ⟨j, input, id, published, rfl, decoded⟩ | quiet
  · have links := (input_publisher decoded moved).2
    have carried : ∀ k t, (r'.clients k).link.carriedOf t = (s.1.clients k).link.carriedOf t := fun k t => by
      rw [links]
    rw [after_publisher decoded]
    rcases note_stored s.2 id (s.1.view j).system (r'.view j).system published with kept | ⟨entry, more⟩
    · exact .inl (broadcast_congr kept carried)
    · refine .inr ⟨.publish entry.1 entry.2.1 entry.2.2, ?_⟩
      simp only [Broadcast.step, broadcast, more, carried, Option.some.injEq]
      congr
      funext t
      rw [List.filter_append, List.map_append]
      by_cases here : t = entry.2.1
      · simp [here]
      · simp [here, Ne.symm here]
  · obtain ⟨j, others⟩ := quiet.links
    rw [quiet.ledger]
    -- Only `j` can have been handed anything.
    have carried : ∀ k t, k ≠ j → (r'.clients k).link.carriedOf t = (s.1.clients k).link.carriedOf t :=
      fun k t other => by rw [others k other]
    rcases step_hands before moved j with same | ⟨topic, sequence, body, hands⟩
    · refine .inl (broadcast_congr rfl fun k t => ?_)
      by_cases own : k = j
      · rw [own]
        exact same t
      · exact carried k t own
    · obtain ⟨ordered, inside⟩ := reachable_carried after j topic
      rw [hands, if_pos rfl] at ordered inside
      have lt : sequence < ((broadcast s).log topic).length := by
        obtain ⟨found, _⟩ := List.getElem?_eq_some_iff.mp (inside (sequence, body) (by simp))
        rw [← List.length_map Prod.snd, broadcast_log authored, ← quiet.logs]
        exact found
      have behind : ∀ earlier ∈ (broadcast s).handed j topic, earlier < sequence := by
        intro earlier member
        obtain ⟨item, held, rfl⟩ := List.mem_map.mp member
        exact (List.pairwise_append.mp ordered).2.2 item held (sequence, body) (by simp)
      refine .inr ⟨.hand j topic sequence, ?_⟩
      simp only [Broadcast.step]
      rw [if_pos ⟨lt, behind⟩]
      simp only [broadcast, Option.some.injEq]
      congr
      funext k t
      by_cases own : k = j
      · rw [own, hands]
        by_cases here : t = topic <;> simp [here]
      · rw [carried k t own]
        simp [own]

theorem run_broadcast {host : Host} {s : State × Ledger} (run : Run (recorded host) Free (initial host, {}) s) :
    Run Broadcast.step Free Broadcast.initial (broadcast s) :=
  run.simulate fun _ _ _ before _ taken => broadcast_step before taken

/-- What a connection has been handed is what it carries. -/
theorem broadcast_entries {host : Host} {s : State × Ledger} (run : Run (recorded host) Free (initial host, {}) s)
    (k : Nat) (t : Topic) :
    ((broadcast s).entries k t).map Prod.snd = ((s.1.clients k).link.carriedOf t).map Prod.snd := by
  have log := broadcast_log (run_authored run) t
  obtain ⟨_, inside⟩ := reachable_carried (run_process run) k t
  rw [← log] at inside
  show (((((s.1.clients k).link.carriedOf t).map Prod.fst).filterMap _).map Prod.snd) = _
  rw [List.filterMap_map, List.map_filterMap, ← List.filterMap_eq_map]
  apply List.filterMap_congr
  intro item member
  have found := inside item member
  rw [List.getElem?_map] at found
  exact found

/-! ### Two publishers and two subscribers -/

/-- A host whose connections all have keys of different lengths. -/
def pairHost : Host where
  site := sampleSite
  keys k := List.replicate k 1
  fresh j k same := by
    have lengths := congrArg List.length same
    rwa [List.length_replicate, List.length_replicate] at lengths

/-- Connection `k` asks for `T`. -/
def asks (k : Nat) : List Event :=
  [.input k (.turn (.reader .run)), .input k (.clientFrame (encodeSocketFrame messageOpSubscribe requestText)),
    .input k (.turn (.reader (.order [ascii "T"])))] ++
  List.replicate 6 (.input k (.turn (.reader .run)))

/-- Publisher `id` sends a message of `T`, and its thread stores it. -/
def publishes (id : Nat) (body : Bytes) : List Event :=
  [.input 0 (.publisherFrame id (encodeSocketFrame (ascii "T") body)), .input 0 (.turn (.publisher id .run))]

/-- Connection `k` is sent its answer and a message. -/
def isSent (k : Nat) : List Event :=
  List.replicate 5 (.input k (.turn (.writer .interrupted))) ++ [.input k (.turn (.writer (.accepted 19)))] ++
  List.replicate 12 (.input k (.turn (.writer .interrupted))) ++ [.input k (.turn (.writer (.accepted 10)))]

/-- Publisher 0 sends `l`, publisher 1 `m`, and publisher 0 `n`, which its thread has yet to store. One connection
carries two messages, the other the first of them. -/
def twoOfEach : List Event :=
  [.accept, .accept] ++ asks 0 ++ asks 1 ++ publishes 0 (ascii "l") ++ publishes 1 (ascii "m") ++ isSent 0 ++
    List.replicate 11 (.input 0 (.turn (.writer .interrupted))) ++ isSent 1 ++
    [.input 1 (.publisherFrame 0 (encodeSocketFrame (ascii "T") (ascii "n")))]

/-! ### One order -/

/-- The repeater is a broadcast: every run of the process has a ledger with which it is a run of `Broadcast`,
whose logs are the process's and whose subscribers have what the connections carry. -/
theorem repeater_broadcasts {host : Host} {r : State} (run : Run (step host) Free (initial host) r) :
    ∃ ledger, Run (recorded host) Free (initial host, {}) (r, ledger) ∧
      Run Broadcast.step Free Broadcast.initial (broadcast (r, ledger)) ∧
      (∀ t, ((broadcast (r, ledger)).log t).map Prod.snd = r.logs t) ∧
      ∀ k t, ((broadcast (r, ledger)).entries k t).map Prod.snd =
        ((r.clients k).link.carriedOf t).map Prod.snd := by
  obtain ⟨ledger, recorded⟩ := run_recorded run
  exact ⟨ledger, recorded, run_broadcast recorded, broadcast_log (run_authored recorded), broadcast_entries recorded⟩

theorem repeater_broadcasts_two_of_each : ∃ r, Run (step pairHost) Free (initial pairHost) r ∧
    (r.clients 0).link.carriedOf (ascii "T") = [(0, ascii "l"), (1, ascii "m")] ∧
    ∃ ledger, Run (recorded pairHost) Free (initial pairHost, {}) (r, ledger) ∧
      Run Broadcast.step Free Broadcast.initial (broadcast (r, ledger)) ∧
      (∀ t, ((broadcast (r, ledger)).log t).map Prod.snd = r.logs t) ∧
      ∀ k t, ((broadcast (r, ledger)).entries k t).map Prod.snd =
        ((r.clients k).link.carriedOf t).map Prod.snd := by
  obtain ⟨r, run, passed⟩ := Run.exists_of_replay (step pairHost) Free (initial pairHost) twoOfEach
    (fun r => decide ((r.clients 0).link.carriedOf (ascii "T") = [(0, ascii "l"), (1, ascii "m")]))
    (by decide +kernel)
  exact ⟨r, run, of_decide_eq_true passed, repeater_broadcasts run⟩

/-- Any two connections carry the messages that both of them carry in the same order. -/
theorem connections_agree {host : Host} {r : State} (run : Run (step host) Free (initial host) r) (j k : Nat)
    (t : Topic) :
    ((r.clients j).link.carriedOf t).filter (· ∈ (r.clients k).link.carriedOf t) =
      ((r.clients k).link.carriedOf t).filter (· ∈ (r.clients j).link.carriedOf t) :=
  Broadcast.shared_of_pairwise (fun _ _ => Nat.lt_asymm) (reachable_carried run j t).1 (reachable_carried run k t).1

theorem connections_agree_two_of_each : ∃ r, Run (step pairHost) Free (initial pairHost) r ∧
    (r.clients 0).link.carriedOf (ascii "T") = [(0, ascii "l"), (1, ascii "m")] ∧
    (r.clients 1).link.carriedOf (ascii "T") = [(0, ascii "l")] ∧
    ((r.clients 0).link.carriedOf (ascii "T")).filter (· ∈ (r.clients 1).link.carriedOf (ascii "T")) =
      ((r.clients 1).link.carriedOf (ascii "T")).filter (· ∈ (r.clients 0).link.carriedOf (ascii "T")) := by
  obtain ⟨r, run, passed⟩ := Run.exists_of_replay (step pairHost) Free (initial pairHost) twoOfEach
    (fun r => decide ((r.clients 0).link.carriedOf (ascii "T") = [(0, ascii "l"), (1, ascii "m")] ∧
      (r.clients 1).link.carriedOf (ascii "T") = [(0, ascii "l")]))
    (by decide +kernel)
  obtain ⟨first, second⟩ := of_decide_eq_true passed
  exact ⟨r, run, first, second, connections_agree run 0 1 (ascii "T")⟩

/-- What an author has stored of a topic, in the log of the topic and in the ledger. -/
theorem broadcast_author (s : State × Ledger) (author : Author) (t : Topic) :
    (((broadcast s).log t).filter fun entry => entry.1 = author).map Prod.snd =
      ((s.2.storedBy author).filter fun message => message.1 = t).map Prod.snd := by
  unfold broadcast Ledger.storedBy
  dsimp only
  rw [List.filter_map, List.map_map, List.filter_filter, List.filter_map, List.map_map, List.filter_filter]
  apply congrArg
  apply List.filter_congr
  intro entry _
  exact Bool.and_comm _ _

/-- What a publisher connection has had accepted is stored in its order, up to the message that its thread is
storing, with nothing lost and nothing twice; and so it reaches every subscriber connection. -/
theorem publisher_ordered {host : Host} {s : State × Ledger}
    (run : Run (recorded host) Free (initial host, {}) s) (id : Nat) :
    s.2.published id = s.2.storedBy (.publisher id) ++ s.2.inFlight s.1.publishers id ∧
      ∀ k t, ((((broadcast s).entries k t).filter fun entry => entry.1 = .publisher id).map Prod.snd).Sublist
        (((s.2.published id).filter fun message => message.1 = t).map Prod.snd) := by
  have published := (run_authored run).published id
  refine ⟨published, fun k t => ?_⟩
  have sublist := Broadcast.entries_author (run_broadcast run) k t (.publisher id)
  have stored := sublist.map Prod.snd
  rw [broadcast_author] at stored
  rw [published, List.filter_append, List.map_append]
  exact stored.trans (List.sublist_append_left _ _)

theorem publisher_ordered_two_of_each : ∃ s, Run (recorded pairHost) Free (initial pairHost, {}) s ∧
    s.2.published 0 = [(ascii "T", ascii "l"), (ascii "T", ascii "n")] ∧
    s.2.inFlight s.1.publishers 0 = [(ascii "T", ascii "n")] ∧
    s.2.published 0 = s.2.storedBy (.publisher 0) ++ s.2.inFlight s.1.publishers 0 ∧
      ∀ k t, ((((broadcast s).entries k t).filter fun entry => entry.1 = .publisher 0).map Prod.snd).Sublist
        (((s.2.published 0).filter fun message => message.1 = t).map Prod.snd) := by
  obtain ⟨s, run, passed⟩ := Run.exists_of_replay (recorded pairHost) Free (initial pairHost, {}) twoOfEach
    (fun s => decide (s.2.published 0 = [(ascii "T", ascii "l"), (ascii "T", ascii "n")] ∧
      s.2.inFlight s.1.publishers 0 = [(ascii "T", ascii "n")]))
    (by decide +kernel)
  obtain ⟨published, inFlight⟩ := of_decide_eq_true passed
  exact ⟨s, run, published, inFlight, publisher_ordered run 0⟩

/-- A connection that is made after a state carries only what has been stored since. -/
theorem connection_newer {host : Host} {r r' : State} (run : Run (step host) Free (initial host) r)
    (later : Run (step host) Free r r') {k : Nat} (unopened : r.opened ≤ k) (t : Topic) :
    ∀ item ∈ (r'.clients k).link.carriedOf t, (r.logs t).length ≤ item.1 ∧ (r'.logs t)[item.1]? = some item.2 := by
  have floored : Floored (fun t => (r.logs t).length) (r'.view k).system := later.keeps_under
    (fun _ more => run.trans more) ((reachable_closed run).floored unopened)
    fun _ _ _ before floored _ taken => step_view_floored before taken floored
  exact (carried_ordered (reachable_delivering (run_threads (run.trans later) k)) floored t).2

theorem connection_newer_second : ∃ r r', Run (step pairHost) Free (initial pairHost) r ∧
    Run (step pairHost) Free r r' ∧ r.logs (ascii "T") = [ascii "l"] ∧
    (r'.clients 0).link.carriedOf (ascii "T") = [(1, ascii "m")] ∧
    ∀ item ∈ (r'.clients 0).link.carriedOf (ascii "T"),
      (r.logs (ascii "T")).length ≤ item.1 ∧ (r'.logs (ascii "T"))[item.1]? = some item.2 := by
  obtain ⟨r, _, r', before, taken, later, passed⟩ := Run.exists_around (step pairHost) Free Free (initial pairHost)
    (publishes 0 (ascii "l")) .accept
    (asks 0 ++ [.input 0 (.turn (.reader .run))] ++ publishes 0 (ascii "m") ++ isSent 0)
    (fun r _ r' => decide (r.opened ≤ 0 ∧ r.logs (ascii "T") = [ascii "l"] ∧
      (r'.clients 0).link.carriedOf (ascii "T") = [(1, ascii "m")]))
    (by decide +kernel)
  obtain ⟨unopened, log, carried⟩ := of_decide_eq_true passed
  have onward : Run (step pairHost) Free r r' := .cons .accept trivial taken later
  exact ⟨r, r', before, onward, log, carried, connection_newer before onward unopened (ascii "T")⟩

end MessageRepeater.Repeater
