import MessageRepeater.Combiner.MessageContainer
import MessageRepeater.Foundation.Runs

/-!
# The subscription index

`topic_connection_map_` of `src/subscriber/subscriber_acceptor.*` in event-loop mode, next to the records
that it should mirror, with one step for each subscribe request and each release of a connection.
-/

namespace MessageRepeater.Subscriber
open Foundation Combiner

/-! ### The map from topics to connections -/

abbrev TopicConnectionMap := AList fun _ : Topic => List Key

/-- The connections that `dispatchMessage` goes through for a topic. -/
def connectionsOf (map : TopicConnectionMap) (topic : Topic) : List Key := (map.lookup topic).getD []

def putTopicConnection (key : Key) (map : TopicConnectionMap) (topic : Topic) : TopicConnectionMap :=
  match map.lookup topic with
  | some connections => map.insert topic (connections ++ [key])
  | none => map.insert topic [key]

/-- One turn of the loop of `releaseConnectionEventData` over the topics. -/
def dropTopicConnection (key : Key) (map : TopicConnectionMap) (topic : Topic) : TopicConnectionMap :=
  match map.lookup topic with
  | some connections => map.insert topic (connections.filter (· ≠ key))
  | none => map

def releaseConnectionEventData (key : Key) (map : TopicConnectionMap) : TopicConnectionMap :=
  map.keys.foldl (dropTopicConnection key) map

structure SubscriptionIndex where
  composite : ConsumeRecordComposite
  /-- The records by identity. -/
  records : List ConsumeRecord := []
  topicConnectionMap : TopicConnectionMap := ∅

namespace SubscriptionIndex

def current (index : SubscriptionIndex) (key : Key) : Option ConsumeRecord :=
  (index.composite.getRecord key).bind fun id => index.records[id]?

end SubscriptionIndex

inductive IndexAction where
  /-- A request with topics that passed the filters: the order of the record's map, the next sequence of
  each topic's circle, and whether the `ok` could be put on the control queue. -/
  | subscribe (key : Key) (topics order : List Topic) (producer : Topic → Nat) (queued : Bool)
  | release (key : Key)

/-- A refused request changes nothing. If the `ok` is not queued, the reading thread ends before it comes
to the map. -/
def indexStep (index : SubscriptionIndex) : IndexAction → Option SubscriptionIndex
  | .subscribe key topics order producer queued =>
    if topics.Nodup ∧ order.Perm topics then
      match index.composite.createNewRecord key topics index.records.length with
      | (false, _) => some index
      | (true, composite) =>
        let record := topics.foldl (fun record topic => record.initializeTopic topic (producer topic))
          (ConsumeRecord.new topics order)
        some
          { composite
            records := index.records ++ [record]
            topicConnectionMap :=
              if queued then topics.foldl (putTopicConnection key) index.topicConnectionMap
              else index.topicConnectionMap }
    else none
  | .release key =>
    some
      { index with
        composite := index.composite.removeRecord key
        topicConnectionMap := releaseConnectionEventData key index.topicConnectionMap }

/-! ### What the operations do to a topic's list -/

theorem connectionsOf_insert (map : TopicConnectionMap) (topic t : Topic) (connections : List Key) :
    connectionsOf (map.insert topic connections) t =
      if t = topic then connections else connectionsOf map t := by
  unfold connectionsOf
  by_cases same : t = topic
  · subst same
    rw [AList.lookup_insert, if_pos rfl, Option.getD_some]
  · rw [AList.lookup_insert_ne same, if_neg same]

theorem connectionsOf_put (key : Key) (map : TopicConnectionMap) (topic t : Topic) :
    connectionsOf (putTopicConnection key map topic) t =
      if t = topic then connectionsOf map t ++ [key] else connectionsOf map t := by
  unfold putTopicConnection
  split
  · rename_i connections found
    rw [connectionsOf_insert]
    split
    · rename_i same
      rw [same, connectionsOf, found, Option.getD_some]
    · rfl
  · rename_i absent
    rw [connectionsOf_insert]
    split
    · rename_i same
      rw [same, connectionsOf, absent]
      rfl
    · rfl

theorem connectionsOf_putAll (key : Key) {topics : List Topic} (distinct : topics.Nodup)
    (map : TopicConnectionMap) (t : Topic) :
    connectionsOf (topics.foldl (putTopicConnection key) map) t =
      if t ∈ topics then connectionsOf map t ++ [key] else connectionsOf map t := by
  induction topics generalizing map with
  | nil => rfl
  | cons topic topics ih =>
    obtain ⟨fresh, distinct⟩ := List.nodup_cons.mp distinct
    rw [List.foldl_cons, ih distinct, connectionsOf_put]
    by_cases same : t = topic
    · subst same
      rw [if_neg fresh, if_pos rfl, if_pos List.mem_cons_self]
    · have still : t ∈ topic :: topics ↔ t ∈ topics := by simp [same]
      rw [if_neg same]
      simp only [still]

theorem connectionsOf_drop (key : Key) (map : TopicConnectionMap) (topic t : Topic) :
    connectionsOf (dropTopicConnection key map topic) t =
      if t = topic then (connectionsOf map t).filter (· ≠ key) else connectionsOf map t := by
  unfold dropTopicConnection
  split
  · rename_i connections found
    rw [connectionsOf_insert]
    split
    · rename_i same
      rw [same, connectionsOf, found, Option.getD_some]
    · rfl
  · rename_i absent
    split
    · rename_i same
      rw [same, connectionsOf, absent]
      rfl
    · rfl

theorem connectionsOf_dropAll (key : Key) (topics : List Topic) (map : TopicConnectionMap) (t : Topic) :
    connectionsOf (topics.foldl (dropTopicConnection key) map) t =
      if t ∈ topics then (connectionsOf map t).filter (· ≠ key) else connectionsOf map t := by
  induction topics generalizing map with
  | nil => rfl
  | cons topic topics ih =>
    rw [List.foldl_cons, ih, connectionsOf_drop]
    by_cases same : t = topic
    · subst same
      rw [if_pos rfl, if_pos List.mem_cons_self, List.filter_filter]
      split
      · simp only [Bool.and_self]
      · rfl
    · have still : t ∈ topic :: topics ↔ t ∈ topics := by simp [same]
      rw [if_neg same]
      simp only [still]

theorem connectionsOf_release (key : Key) (map : TopicConnectionMap) (t : Topic) :
    connectionsOf (releaseConnectionEventData key map) t = (connectionsOf map t).filter (· ≠ key) := by
  unfold releaseConnectionEventData
  rw [connectionsOf_dropAll]
  split
  · rfl
  · rename_i absent
    have none_ : map.lookup t = none := AList.lookup_eq_none.mpr absent
    rw [connectionsOf, none_]
    rfl

/-! ### Coherence -/

/-- The connection's current record has the topic. -/
def HasTopic (index : SubscriptionIndex) (key : Key) (topic : Topic) : Prop :=
  ∃ record, index.current key = some record ∧ (record.getMeta topic).isSome = true

/-- Each topic's list is without repetitions, and lists the connections whose record has the topic. -/
structure CoherentIndex (index : SubscriptionIndex) : Prop where
  once : ∀ topic, (connectionsOf index.topicConnectionMap topic).Nodup
  listed : ∀ topic key, key ∈ connectionsOf index.topicConnectionMap topic ↔ HasTopic index key topic

/-- What keeps a coherent index coherent: a request is refused, or it is the first of its connection and
its `ok` is queued. An `ok` that is not queued does no harm where the topics stay the same. -/
def KeepsIndex (index : SubscriptionIndex) : IndexAction → Prop
  | .subscribe key topics _ _ queued =>
    topics = [] ∨ toUnsigned64 index.composite.maxRecordsSize ≤ index.composite.consumeRecords.keys.length ∨
      if queued then index.current key = none
      else ∃ record, index.current key = some record ∧
        ∀ topic, (record.getMeta topic).isSome = true ↔ topic ∈ topics
  | .release _ => True

/-- Every entry of the map is a record with a topic. -/
structure Recorded (index : SubscriptionIndex) : Prop where
  known : ∀ key id, index.composite.getRecord key = some id → id < index.records.length
  topics : ∀ record ∈ index.records, ∃ topic, (record.getMeta topic).isSome = true

theorem initializeAll_getMeta (producer : Topic → Nat) (topics : List Topic) (record : ConsumeRecord)
    (t : Topic) :
    ((topics.foldl (fun record topic => record.initializeTopic topic (producer topic)) record).getMeta
      t).isSome = (record.getMeta t).isSome := by
  induction topics generalizing record with
  | nil => rfl
  | cons topic topics ih =>
    rw [List.foldl_cons, ih, ConsumeRecord.initializeTopic_getMeta]
    split
    · rename_i set_
      have present : (record.getMeta t).isSome = true := by
        cases found : record.getMeta t with
        | none =>
          rw [found] at set_
          cases set_.2
        | some entry => rfl
      rw [present]
      rfl
    · rfl

/-! ### One request -/

/-- The effect of an accepted request. -/
structure Accepted (index index' : SubscriptionIndex) (key : Key) (topics : List Topic) (queued : Bool) :
    Prop where
  distinct : topics.Nodup
  topic : topics ≠ []
  room : index.composite.consumeRecords.keys.length < toUnsigned64 index.composite.maxRecordsSize
  mine : ∃ record, index'.current key = some record ∧
    ∀ topic, (record.getMeta topic).isSome = true ↔ topic ∈ topics
  others : ∀ k, k ≠ key → index'.current k = index.current k
  lists : ∀ topic, connectionsOf index'.topicConnectionMap topic =
    if queued = true ∧ topic ∈ topics then connectionsOf index.topicConnectionMap topic ++ [key]
    else connectionsOf index.topicConnectionMap topic
  recorded : Recorded index'

/-- A request is refused and changes nothing, or it is accepted. -/
theorem subscribe_cases {index index' : SubscriptionIndex} (recorded : Recorded index) {key : Key}
    {topics order : List Topic} {producer : Topic → Nat} {queued : Bool}
    (taken : indexStep index (.subscribe key topics order producer queued) = some index') :
    index' = index ∧ (topics = [] ∨
        toUnsigned64 index.composite.maxRecordsSize ≤ index.composite.consumeRecords.keys.length) ∨
      Accepted index index' key topics queued := by
  simp only [indexStep] at taken
  split at taken
  swap
  · cases taken
  rename_i form
  unfold ConsumeRecordComposite.createNewRecord at taken
  by_cases none_ : topics.length = 0
  · rw [if_pos none_] at taken
    exact .inl ⟨(Option.some.inj taken).symm, .inl (List.length_eq_zero_iff.mp none_)⟩
  rw [if_neg none_] at taken
  by_cases full : index.composite.consumeRecords.keys.length ≥ toUnsigned64 index.composite.maxRecordsSize
  · rw [if_pos full] at taken
    exact .inl ⟨(Option.some.inj taken).symm, .inr full⟩
  rw [if_neg full] at taken
  obtain rfl := Option.some.inj taken
  have has : ∀ topic, ((topics.foldl (fun record topic => record.initializeTopic topic (producer topic))
      (ConsumeRecord.new topics order)).getMeta topic).isSome = true ↔ topic ∈ topics := by
    intro topic
    rw [initializeAll_getMeta, ConsumeRecord.new_getMeta]
    by_cases member : topic ∈ topics <;> simp [member]
  have nonempty : topics ≠ [] := fun empty => none_ (empty ▸ rfl)
  obtain ⟨first, firstIn⟩ := List.exists_mem_of_ne_nil topics nonempty
  refine .inr ⟨form.1, nonempty, Nat.lt_of_not_le full, ⟨_, ?_, has⟩, fun k other => ?_, fun topic => ?_,
    ⟨fun k id found => ?_, fun record member => ?_⟩⟩
  · simp [SubscriptionIndex.current, ConsumeRecordComposite.getRecord]
  · simp only [SubscriptionIndex.current, ConsumeRecordComposite.getRecord, AList.lookup_insert_ne other]
    cases found : index.composite.consumeRecords.lookup k with
    | none => rfl
    | some id => exact List.getElem?_append_left (recorded.known k id found)
  · cases queued with
    | false => simp
    | true =>
      simp only [if_true, true_and]
      exact connectionsOf_putAll key form.1 index.topicConnectionMap topic
  · rw [List.length_append]
    by_cases same : k = key
    · subst same
      simp only [ConsumeRecordComposite.getRecord, AList.lookup_insert, Option.some.injEq] at found
      rw [List.length_singleton]
      omega
    · simp only [ConsumeRecordComposite.getRecord, AList.lookup_insert_ne same] at found
      have := recorded.known k id found
      omega
  · rcases List.mem_append.mp member with old | new
    · exact recorded.topics record old
    · obtain rfl := List.mem_singleton.mp new
      exact ⟨first, (has first).mpr firstIn⟩

theorem Recorded.current_topic {index : SubscriptionIndex} (recorded : Recorded index) {key : Key}
    {record : ConsumeRecord} (held : index.current key = some record) :
    ∃ topic, HasTopic index key topic := by
  obtain ⟨id, _, at_⟩ := Option.bind_eq_some_iff.mp held
  obtain ⟨topic, has⟩ := recorded.topics record (List.mem_of_getElem? at_)
  exact ⟨topic, record, held, has⟩

section
variable {index index' : SubscriptionIndex} {key : Key} {topics : List Topic} {queued : Bool}

theorem hasTopic_some {record : ConsumeRecord} (held : index.current key = some record) (topic : Topic) :
    HasTopic index key topic ↔ (record.getMeta topic).isSome = true := by
  constructor
  · rintro ⟨record', held', some_⟩
    rw [held] at held'
    cases held'
    exact some_
  · exact fun some_ => ⟨record, held, some_⟩

theorem Accepted.hasTopic_mine (accepted : Accepted index index' key topics queued) (topic : Topic) :
    HasTopic index' key topic ↔ topic ∈ topics := by
  obtain ⟨record, held, has⟩ := accepted.mine
  exact (hasTopic_some held topic).trans (has topic)

theorem Accepted.hasTopic_other (accepted : Accepted index index' key topics queued) {k : Key}
    (other : k ≠ key) (topic : Topic) : HasTopic index' k topic ↔ HasTopic index k topic := by
  unfold HasTopic
  rw [accepted.others k other]

theorem hasTopic_none (fresh : index.current key = none) (topic : Topic) : ¬ HasTopic index key topic := by
  rintro ⟨record, held, _⟩
  rw [fresh] at held
  cases held

/-- A queued request keeps the index coherent exactly when it is the first of its connection. -/
theorem Accepted.coherent_queued (accepted : Accepted index index' key topics true)
    (coherent : CoherentIndex index) (recorded : Recorded index) :
    CoherentIndex index' ↔ index.current key = none := by
  have lists : ∀ topic, connectionsOf index'.topicConnectionMap topic =
      if topic ∈ topics then connectionsOf index.topicConnectionMap topic ++ [key]
      else connectionsOf index.topicConnectionMap topic := by
    intro topic
    rw [accepted.lists topic]
    simp only [true_and]
  constructor
  · intro coherent'
    cases held : index.current key with
    | none => rfl
    | some record =>
      obtain ⟨topic, has⟩ := recorded.current_topic held
      have listed := (coherent.listed topic key).mpr has
      have list := lists topic
      by_cases member : topic ∈ topics
      · rw [if_pos member] at list
        have once := coherent'.once topic
        rw [list] at once
        exact absurd List.mem_cons_self ((List.nodup_append.mp once).2.2 key listed key · rfl)
      · rw [if_neg member] at list
        rw [← list, coherent'.listed, accepted.hasTopic_mine] at listed
        exact absurd listed member
  · intro fresh
    have absent : ∀ topic, key ∉ connectionsOf index.topicConnectionMap topic := fun topic listed =>
      hasTopic_none fresh topic ((coherent.listed topic key).mp listed)
    constructor
    · intro topic
      rw [lists topic]
      split
      · refine List.nodup_append.mpr ⟨coherent.once topic, List.nodup_singleton key, ?_⟩
        rintro k listed last member rfl
        rw [List.mem_singleton.mp member] at listed
        exact absent topic listed
      · exact coherent.once topic
    · intro topic k
      rw [lists topic]
      by_cases same : k = key
      · subst same
        rw [accepted.hasTopic_mine]
        split
        · rename_i member
          exact iff_of_true (List.mem_append_right _ List.mem_cons_self) member
        · rename_i missing
          exact iff_of_false (absent topic) missing
      · rw [accepted.hasTopic_other same, ← coherent.listed]
        split
        · simp [same]
        · rfl

/-- A request whose `ok` is not queued keeps it exactly when the topics are those of the record before. -/
theorem Accepted.coherent_unqueued (accepted : Accepted index index' key topics false)
    (coherent : CoherentIndex index) :
    CoherentIndex index' ↔ ∃ record, index.current key = some record ∧
      ∀ topic, (record.getMeta topic).isSome = true ↔ topic ∈ topics := by
  have lists : ∀ topic, connectionsOf index'.topicConnectionMap topic =
      connectionsOf index.topicConnectionMap topic := by
    intro topic
    rw [accepted.lists topic, if_neg (fun both => nomatch both.1)]
  constructor
  · intro coherent'
    have same : ∀ topic, HasTopic index key topic ↔ topic ∈ topics := by
      intro topic
      rw [← coherent.listed, ← lists topic, coherent'.listed, accepted.hasTopic_mine]
    cases held : index.current key with
    | none =>
      obtain ⟨topic, member⟩ := List.exists_mem_of_ne_nil topics accepted.topic
      exact absurd ((same topic).mpr member) (hasTopic_none held topic)
    | some record =>
      exact ⟨record, rfl, fun topic => (hasTopic_some held topic).symm.trans (same topic)⟩
  · rintro ⟨record, held, same⟩
    constructor
    · intro topic
      rw [lists topic]
      exact coherent.once topic
    · intro topic k
      rw [lists topic, coherent.listed]
      by_cases mine : k = key
      · subst mine
        rw [accepted.hasTopic_mine, hasTopic_some held, same]
      · exact (accepted.hasTopic_other mine topic).symm

end

theorem release_coherent {index : SubscriptionIndex} (coherent : CoherentIndex index) (key : Key) :
    CoherentIndex { index with
      composite := index.composite.removeRecord key
      topicConnectionMap := releaseConnectionEventData key index.topicConnectionMap } := by
  constructor
  · intro topic
    show (connectionsOf (releaseConnectionEventData key index.topicConnectionMap) topic).Nodup
    rw [connectionsOf_release]
    exact (coherent.once topic).filter _
  · intro topic k
    show k ∈ connectionsOf (releaseConnectionEventData key index.topicConnectionMap) topic ↔ _
    rw [connectionsOf_release, List.mem_filter, coherent.listed]
    unfold HasTopic SubscriptionIndex.current ConsumeRecordComposite.getRecord
      ConsumeRecordComposite.removeRecord
    by_cases same : k = key
    · subst same
      simp [AList.lookup_erase]
    · rw [AList.lookup_erase_ne same]
      simp [same]

theorem release_recorded {index : SubscriptionIndex} (recorded : Recorded index) (key : Key) :
    Recorded { index with
      composite := index.composite.removeRecord key
      topicConnectionMap := releaseConnectionEventData key index.topicConnectionMap } := by
  refine ⟨fun k id found => ?_, recorded.topics⟩
  simp only [ConsumeRecordComposite.getRecord, ConsumeRecordComposite.removeRecord] at found
  by_cases same : k = key
  · subst same
    rw [AList.lookup_erase] at found
    cases found
  · rw [AList.lookup_erase_ne same] at found
    exact recorded.known k id found

/-- A step from a coherent index leads to a coherent one exactly when it meets the condition. -/
theorem indexStep_coherent {index index' : SubscriptionIndex} {action : IndexAction}
    (coherent : CoherentIndex index) (recorded : Recorded index)
    (taken : indexStep index action = some index') :
    (CoherentIndex index' ↔ KeepsIndex index action) ∧ Recorded index' := by
  cases action with
  | subscribe key topics order producer queued =>
    rcases subscribe_cases recorded taken with ⟨rfl, refused⟩ | accepted
    · exact ⟨iff_of_true coherent (refused.imp_right .inl), recorded⟩
    · refine ⟨?_, accepted.recorded⟩
      rw [KeepsIndex, or_iff_right accepted.topic, or_iff_right (Nat.not_le.mpr accepted.room)]
      cases queued with
      | true => exact accepted.coherent_queued coherent recorded
      | false => exact accepted.coherent_unqueued coherent
  | release key =>
    obtain rfl := Option.some.inj taken
    exact ⟨iff_of_true (release_coherent coherent key) trivial, release_recorded recorded key⟩

/-! ### Runs -/

theorem CoherentIndex.dispatch_le {index : SubscriptionIndex} (coherent : CoherentIndex index)
    (topic : Topic) : (connectionsOf index.topicConnectionMap topic).length ≤
      index.composite.consumeRecords.keys.length := by
  refine ((coherent.once topic).subperm fun key listed => ?_).length_le
  obtain ⟨record, held, _⟩ := (coherent.listed topic key).mp listed
  obtain ⟨id, found, _⟩ := Option.bind_eq_some_iff.mp held
  exact AList.mem_keys.mp (AList.lookup_isSome.mp (by
    rw [ConsumeRecordComposite.getRecord] at found
    rw [found]
    rfl))

/-- In every run whose requests all meet the condition the index mirrors the records, and a topic's list
is no longer than the record map; a next request breaks it exactly when it does not meet the condition. -/
theorem index_coherent (maxRecordsSize : Int) {index : SubscriptionIndex}
    (run : Run indexStep KeepsIndex { composite := { maxRecordsSize } } index) :
    CoherentIndex index ∧
    (∀ topic, (connectionsOf index.topicConnectionMap topic).length ≤
      index.composite.consumeRecords.keys.length) ∧
    ∀ action index', indexStep index action = some index' →
      (CoherentIndex index' ↔ KeepsIndex index action) := by
  have empty : CoherentIndex { composite := { maxRecordsSize } } ∧
      Recorded { composite := { maxRecordsSize } } := by
    refine ⟨⟨fun topic => .nil, fun topic key => iff_of_false nofun ?_⟩, nofun, nofun⟩
    exact hasTopic_none rfl topic
  have inv : CoherentIndex index ∧ Recorded index := by
    induction run with
    | refl => exact empty
    | tail _ action guard taken ih =>
      obtain ⟨law, recorded⟩ := indexStep_coherent ih.1 ih.2 taken
      exact ⟨law.mpr guard, recorded⟩
  exact ⟨inv.1, inv.1.dispatch_le, fun action index' taken => (indexStep_coherent inv.1 inv.2 taken).1⟩

/-- A first request and the release of its connection. -/
theorem index_coherent_first :
    ∃ index, Run indexStep KeepsIndex { composite := { maxRecordsSize := 5 } } index ∧
      connectionsOf index.topicConnectionMap (ascii "T") = [ascii "c"] ∧ CoherentIndex index := by
  have run : Run indexStep KeepsIndex { composite := { maxRecordsSize := 5 } } _ :=
    Run.refl.tail (.subscribe (ascii "c") [ascii "T"] [ascii "T"] (fun _ => 0) true)
      (.inr (.inr rfl)) rfl
  exact ⟨_, run, rfl, (index_coherent 5 run).1⟩

/-- Two requests for `T` from one connection list it twice. -/
theorem index_lists_twice :
    ∃ index, Run indexStep Free { composite := { maxRecordsSize := 5 } } index ∧
      connectionsOf index.topicConnectionMap (ascii "T") = [ascii "c", ascii "c"] ∧
      ¬ CoherentIndex index := by
  have run : Run indexStep Free { composite := { maxRecordsSize := 5 } } _ :=
    (Run.refl.tail (.subscribe (ascii "c") [ascii "T"] [ascii "T"] (fun _ => 0) true) trivial rfl).tail
      (.subscribe (ascii "c") [ascii "T"] [ascii "T"] (fun _ => 0) true) trivial rfl
  refine ⟨_, run, rfl, fun coherent => ?_⟩
  have once := coherent.once (ascii "T")
  revert once
  decide

end MessageRepeater.Subscriber
