import MessageRepeater.Combiner.CircleRefinement

/-!
# The topic store as a map of logs

`MessageCircleComposite` seen from outside: each topic has a log, whose end its ring holds. Making a
ring changes no log, and a successful append adds one message to the log of its topic.
-/

namespace MessageRepeater.Combiner
open Foundation

/-- A topic's ring holds the end of its log; a topic without a ring has no messages. -/
def Holding (store : MessageCircleComposite) (logs : Topic → List Bytes) : Prop :=
  ∀ topic,
    match store.getCircle topic with
    | none => logs topic = []
    | some ring => Holds ring (logs topic)

/-- The logs with one more message of a topic. -/
def appendLog (logs : Topic → List Bytes) (topic : Topic) (message : Bytes) : Topic → List Bytes :=
  fun t => if t = topic then logs t ++ [message] else logs t

theorem Holding.holds {store : MessageCircleComposite} {logs : Topic → List Bytes}
    (holding : Holding store logs) {topic : Topic} {ring : MessageCircle}
    (made : store.getCircle topic = some ring) : Holds ring (logs topic) := by
  have at_ := holding topic
  rw [made] at at_
  exact at_

theorem Holding.unmade {store : MessageCircleComposite} {logs : Topic → List Bytes}
    (holding : Holding store logs) {topic : Topic} (unmade : store.getCircle topic = none) :
    logs topic = [] := by
  have at_ := holding topic
  rw [unmade] at at_
  exact at_

theorem holding_init (maxTopicNumbers : Int) :
    Holding (MessageCircleComposite.init maxTopicNumbers) fun _ => [] := by
  intro topic
  simp [MessageCircleComposite.init, MessageCircleComposite.getCircle]

theorem createCircleIfAbsent_cases {store store' : MessageCircleComposite} {topic : Topic} {size : Int}
    {made : Bool} (created : store.createCircleIfAbsent topic size = .ok (made, store')) :
    store' = store ∨
      made = true ∧ store.topicCircles.lookup topic = none ∧
        store.topicCircles.keys.length < toUnsigned64 store.maxTopicNumbers ∧
        ∃ ring, MessageCircle.new topic size = .ok ring ∧ store' = { store with
          topicCircles := store.topicCircles.insert topic ring
          topics := insert topic store.topics } := by
  unfold MessageCircleComposite.createCircleIfAbsent at created
  split at created
  · cases created
    exact .inl rfl
  · split at created
    · cases created
      exact .inl rfl
    · rename_i room
      split at created
      · cases created
        exact .inl rfl
      · rename_i absent
        split at created
        · cases created
        · rename_i ring new
          cases created
          exact .inr ⟨rfl, absent, Nat.lt_of_not_le room, ring, new, rfl⟩

theorem createCircleIfAbsent_other {store store' : MessageCircleComposite} {topic t : Topic}
    {size : Int} {made : Bool} (created : store.createCircleIfAbsent topic size = .ok (made, store'))
    (other : t ≠ topic) : store'.getCircle t = store.getCircle t := by
  rcases createCircleIfAbsent_cases created with rfl | ⟨_, _, _, ring, _, rfl⟩
  · rfl
  · exact AList.lookup_insert_ne other

/-- `createCircleIfAbsent` makes at most one ring, and replaces none. -/
theorem createCircleIfAbsent_rings {store store' : MessageCircleComposite} {topic : Topic}
    {size : Int} {made : Bool} (created : store.createCircleIfAbsent topic size = .ok (made, store'))
    (t : Topic) :
    store'.getCircle t = store.getCircle t ∨
      (store.getCircle t = none ∧ ∃ ring, MessageCircle.new t size = .ok ring ∧
        store'.getCircle t = some ring) := by
  by_cases same : t = topic
  · subst same
    rcases createCircleIfAbsent_cases created with rfl | ⟨_, absent, _, ring, new, rfl⟩
    · exact .inl rfl
    · exact .inr ⟨absent, ring, new, AList.lookup_insert _⟩
  · exact .inl (createCircleIfAbsent_other created same)

theorem appendMessageToCircle_rings {store store' : MessageCircleComposite} {topic : Topic}
    {message : Bytes} (stored : store.appendMessageToCircle topic message = .ok (true, store')) :
    ∃ ring ring', store.getCircle topic = some ring ∧ ring.append message = (.appended, ring') ∧
      store'.getCircle topic = some ring' ∧ ∀ t, t ≠ topic → store'.getCircle t = store.getCircle t := by
  unfold MessageCircleComposite.appendMessageToCircle at stored
  split at stored
  · cases stored
  · rename_i ring held
    split at stored
    · cases stored
    · rename_i ring' appended
      cases stored
      exact ⟨ring, ring', held, appended, AList.lookup_insert _,
        fun t other => AList.lookup_insert_ne other⟩

theorem appendMessageToCircle_refused {store store' : MessageCircleComposite} {topic : Topic}
    {message : Bytes} (refused : store.appendMessageToCircle topic message = .ok (false, store')) :
    store' = store := by
  unfold MessageCircleComposite.appendMessageToCircle at refused
  split at refused
  · cases refused
    rfl
  · split at refused <;> cases refused

theorem Holding.create {store store' : MessageCircleComposite} {logs : Topic → List Bytes}
    {topic : Topic} {size : Int} {made : Bool} (holding : Holding store logs)
    (created : store.createCircleIfAbsent topic size = .ok (made, store')) : Holding store' logs := by
  intro t
  rcases createCircleIfAbsent_rings created t with same | ⟨absent, ring, new, held⟩
  · rw [same]
    exact holding t
  · rw [held, holding.unmade absent]
    exact (new_holds new).1

theorem Holding.append {store store' : MessageCircleComposite} {logs : Topic → List Bytes}
    {topic : Topic} {message : Bytes} (holding : Holding store logs)
    (stored : store.appendMessageToCircle topic message = .ok (true, store')) :
    Holding store' (appendLog logs topic message) := by
  obtain ⟨ring, ring', held, appended, held', others⟩ := appendMessageToCircle_rings stored
  intro t
  unfold appendLog
  by_cases same : t = topic
  · subst same
    rw [held', if_pos rfl]
    exact (append_appended (holding.holds held) appended).1
  · rw [others t same, if_neg same]
    exact holding t

theorem appendLog_prefix (logs : Topic → List Bytes) (topic : Topic) (message : Bytes) (t : Topic) :
    logs t <+: appendLog logs topic message t := by
  unfold appendLog
  split
  · exact List.prefix_append _ _
  · exact List.prefix_rfl

end MessageRepeater.Combiner
