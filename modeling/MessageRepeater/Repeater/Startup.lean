import MessageRepeater.Combiner.ConcurrentStore
import MessageRepeater.Config.LoadRepeaterConfig
import MessageRepeater.Layer.Addresses
import MessageRepeater.Layer.LayerConnector
import MessageRepeater.Publisher.AcceptHandle

/-!
# A repeater that has loaded its configuration

The main thread of `src/repeater_starter.cpp` up to the layer threads, and the threads that touch the
topic store, as far as they can throw. None of them has a handler, so an exception ends the process.
-/

namespace MessageRepeater.Repeater
open Foundation Combiner Config Layer Publisher

/-- `what()` of the exceptions of `std::stoi`. -/
def stoiWhat : StoiException → Bytes
  | .invalidArgument | .outOfRange => ascii "stoi"

structure Broker where
  store : MessageCircleComposite
  /-- The topics and the addresses that `start_layer_replay` has not come to yet. -/
  toPrepare : List Topic
  toStart : List Bytes
  /-- What publisher connections have made a circle for and not appended yet. -/
  created : List (Topic × Bytes) := []
  /-- The exception that has left a thread. -/
  escaped : Option Bytes := none

/-- One call of a thread. -/
inductive BrokerAction where
  /-- `start_layer_replay` makes the circle of its next topic. -/
  | prepare
  /-- A layer thread reads its address. -/
  | connect (address : Bytes)
  /-- A publisher connection handles a frame up to `createCircleIfAbsent`. -/
  | create (topicBuffer messageBuffer : Bytes)
  /-- One of them goes on to `appendMessageToCircle`. -/
  | append (n : Nat)
  /-- A layer thread appends a frame that it has read. -/
  | relay (topicName messageBody : Bytes)
  deriving DecidableEq, Repr

def LoadedConfig.context (config : LoadedConfig) : GlobalContext := .init config.toRepeaterConfig

/-- The process behind `GlobalContext::init`, which throws nothing. -/
def Broker.start (config : LoadedConfig) : Broker :=
  let topics := if config.enableLayerSubscribe then preparedTopics (LoadedConfig.context config) else []
  { store := .init config.maxTopicNumber
    toPrepare := topics
    toStart := if topics = [] then [] else (LoadedConfig.context config).layerSubscribeAddresses }

def Broker.throws (broker : Broker) (what : Bytes) : Broker := { broker with escaped := some what }

def Broker.appendTo (broker : Broker) (topic : Topic) (message : Bytes) : Broker :=
  match broker.store.appendMessageToCircle topic message with
  | .error what => broker.throws what
  | .ok (_, store) => { broker with store }

/-- A process that an exception has ended does nothing more. -/
def brokerStep (config : LoadedConfig) (broker : Broker) (action : BrokerAction) : Option Broker :=
  if broker.escaped ≠ none then none
  else
    match action with
    | .prepare =>
      match broker.toPrepare with
      | [] => none
      | topic :: rest =>
        match broker.store.createCircleIfAbsent topic config.maxTopicCircleSize with
        | .error what => some (broker.throws what)
        | .ok (_, store) => some { broker with store, toPrepare := rest }
    | .connect address =>
      if broker.toPrepare = [] ∧ address ∈ broker.toStart then
        match parseAddress address with
        | .thrown exception => some (broker.throws (stoiWhat exception))
        | _ => some { broker with toStart := broker.toStart.erase address }
      else none
    | .create topicBuffer messageBuffer =>
      if config.disableAcceptPublisher then none
      else
        match accepted config.toRepeaterConfig (LoadedConfig.context config) topicBuffer messageBuffer with
        | none => some broker
        | some (topic, message) =>
          match broker.store.createCircleIfAbsent topic config.maxTopicCircleSize with
          | .error what => some (broker.throws what)
          | .ok (made, store) =>
            some
              { broker with
                store
                created := if made then broker.created ++ [(topic, message)] else broker.created }
    | .append n =>
      match broker.created[n]? with
      | none => none
      | some (topic, message) =>
        some (Broker.appendTo { broker with created := broker.created.eraseIdx n } topic message)
    | .relay topicName messageBody =>
      if config.enableLayerSubscribe then
        (relayed (LoadedConfig.context config) topicName messageBody).map fun entry =>
          broker.appendTo entry.1 entry.2
      else none

/-! ### What each call needs -/

/-- A circle can be made, or the limit admits none. -/
def CircleSize (config : LoadedConfig) : Prop :=
  0 < config.maxTopicCircleSize ∨ toUnsigned64 config.maxTopicNumber = 0

/-- The topic's circle has a sequence left. -/
def Room (store : MessageCircleComposite) (topic : Topic) : Prop :=
  ∀ ring, store.getCircle topic = some ring → ring.nextSequence ≠ maxSequence

def Safe (config : LoadedConfig) (broker : Broker) : BrokerAction → Prop
  | .prepare => CircleSize config
  | .connect address => ∀ serverIp portText, splitStr address 58 = [serverIp, portText] → Readable portText
  | .create topicBuffer messageBuffer =>
    accepted config.toRepeaterConfig (LoadedConfig.context config) topicBuffer messageBuffer = none ∨
      CircleSize config
  | .append n => ∀ entry, broker.created[n]? = some entry → Room broker.store entry.1
  | .relay topicName _ => Room broker.store topicName

/-- The store keeps its limit, and has no circle where none can be made. -/
structure SoundStore (config : LoadedConfig) (store : MessageCircleComposite) : Prop where
  limit : store.maxTopicNumbers = config.maxTopicNumber
  empty : ¬ 0 < config.maxTopicCircleSize → store.topics = ∅ ∧ store.topicCircles = ∅

theorem sound_init (config : LoadedConfig) : SoundStore config (.init config.maxTopicNumber) :=
  ⟨rfl, fun _ => ⟨rfl, rfl⟩⟩

/-- `createCircleIfAbsent` throws exactly where the size is not positive and the limit lets it try. -/
theorem create_ok_iff {config : LoadedConfig} {store : MessageCircleComposite}
    (sound : SoundStore config store) (topic : Topic) :
    (∃ made store', store.createCircleIfAbsent topic config.maxTopicCircleSize = .ok (made, store')) ↔
      CircleSize config := by
  unfold MessageCircleComposite.createCircleIfAbsent CircleSize
  by_cases positive : 0 < config.maxTopicCircleSize
  · refine iff_of_true ?_ (.inl positive)
    split
    · exact ⟨_, _, rfl⟩
    split
    · exact ⟨_, _, rfl⟩
    split
    · exact ⟨_, _, rfl⟩
    obtain ⟨ring, made⟩ := new_of_pos topic positive
    rw [made]
    exact ⟨_, _, rfl⟩
  · obtain ⟨topics, circles⟩ := sound.empty positive
    rw [topics, circles, sound.limit, if_neg (Finset.notMem_empty topic)]
    have none_ : (∅ : AList fun _ : Topic => MessageCircle).keys.length = 0 := rfl
    rw [none_, or_iff_right positive]
    by_cases limit : toUnsigned64 config.maxTopicNumber = 0
    · rw [if_pos (by omega)]
      exact iff_of_true ⟨_, _, rfl⟩ limit
    · rw [if_neg (by omega), AList.lookup_empty]
      have refused : MessageCircle.new topic config.maxTopicCircleSize =
          .error (ascii "message circle size must be greater than zero") := dif_pos (by omega)
      rw [refused]
      exact iff_of_false (fun ⟨_, _, same⟩ => nomatch same) limit

theorem append_ok_iff (store : MessageCircleComposite) (topic : Topic) (message : Bytes) :
    (∃ stored store', store.appendMessageToCircle topic message = .ok (stored, store')) ↔
      Room store topic := by
  unfold MessageCircleComposite.appendMessageToCircle Room MessageCircleComposite.getCircle
  cases found : store.topicCircles.lookup topic with
  | none => exact iff_of_true ⟨_, _, rfl⟩ nofun
  | some ring =>
    dsimp only
    by_cases last : ring.nextSequence = maxSequence
    · rw [append_exhausted last]
      exact iff_of_false (fun ⟨_, _, same⟩ => nomatch same) fun room => room ring rfl last
    · refine iff_of_true ?_ fun other same => Option.some.inj same ▸ last
      rw [MessageCircle.append, if_neg last]
      exact ⟨_, _, rfl⟩

theorem parse_thrown_iff (address : Bytes) :
    (∃ exception, parseAddress address = .thrown exception) ↔
      ¬ ∀ serverIp portText, splitStr address 58 = [serverIp, portText] → Readable portText := by
  unfold parseAddress
  split
  · rename_i serverIp portText pieces
    have readable : (∀ ip text, splitStr address 58 = [ip, text] → Readable text) ↔ Readable portText := by
      constructor
      · exact fun all => all serverIp portText pieces
      · intro read ip text same
        rw [pieces] at same
        cases same
        exact read
    rw [readable, ← stoi_ok_iff]
    cases stoi portText with
    | error exception => exact iff_of_true ⟨_, rfl⟩ fun ⟨_, same⟩ => nomatch same
    | ok serverPort =>
      refine iff_of_false ?_ fun none_ => none_ ⟨_, rfl⟩
      rintro ⟨exception, same⟩
      revert same
      dsimp only
      split <;> nofun
  · rename_i other
    refine iff_of_false (fun ⟨_, same⟩ => nomatch same) fun none_ => none_ fun ip text pieces => ?_
    exact absurd pieces (other ip text)

/-! ### The calls keep the store sound -/

theorem SoundStore.create {config : LoadedConfig} {store store' : MessageCircleComposite} {topic : Topic}
    {made : Bool} (sound : SoundStore config store)
    (created : store.createCircleIfAbsent topic config.maxTopicCircleSize = .ok (made, store')) :
    SoundStore config store' := by
  rcases createCircleIfAbsent_cases created with rfl | ⟨_, _, _, ring, new, rfl⟩
  · exact sound
  · exact ⟨sound.limit, fun none_ => absurd (new_holds new).2.2 none_⟩

theorem SoundStore.append {config : LoadedConfig} {store store' : MessageCircleComposite} {topic : Topic}
    {message : Bytes} {stored : Bool} (sound : SoundStore config store)
    (appended : store.appendMessageToCircle topic message = .ok (stored, store')) :
    SoundStore config store' := by
  cases stored with
  | false => exact appendMessageToCircle_refused appended ▸ sound
  | true =>
    obtain ⟨ring, ring', found, _, rfl⟩ := appendMessageToCircle_cases appended
    refine ⟨sound.limit, fun none_ => ?_⟩
    rw [(sound.empty none_).2, AList.lookup_empty] at found
    cases found

/-- No exception has escaped, and the store is sound. -/
def Unescaped (config : LoadedConfig) (broker : Broker) : Prop :=
  broker.escaped = none ∧ SoundStore config broker.store

/-- A call lets an exception escape exactly where it is not safe; otherwise the store stays sound. -/
def Settles (config : LoadedConfig) (safe : Prop) (broker' : Broker) : Prop :=
  (broker'.escaped = none ↔ safe) ∧ (broker'.escaped = none → SoundStore config broker'.store)

theorem settles_append {config : LoadedConfig} {broker : Broker} (calm : broker.escaped = none)
    (sound : SoundStore config broker.store) (topic : Topic) (message : Bytes) :
    Settles config (Room broker.store topic) (broker.appendTo topic message) := by
  unfold Settles
  rw [← append_ok_iff broker.store topic message]
  unfold Broker.appendTo
  cases appended : broker.store.appendMessageToCircle topic message with
  | error what => exact ⟨iff_of_false nofun (fun ⟨_, _, same⟩ => nomatch same), nofun⟩
  | ok result =>
    obtain ⟨stored, store'⟩ := result
    exact ⟨iff_of_true calm ⟨stored, store', rfl⟩, fun _ => sound.append appended⟩

/-- What is done with a circle that is asked for: an exception escapes, or the broker goes on with the
new store. -/
theorem settles_create {config : LoadedConfig} {broker broker' : Broker} (calm : broker.escaped = none)
    (sound : SoundStore config broker.store) (topic : Topic) {goOn : Bool → MessageCircleComposite → Broker}
    (taken : (match broker.store.createCircleIfAbsent topic config.maxTopicCircleSize with
      | .error what => some (broker.throws what)
      | .ok (made, store) => some (goOn made store)) = some broker')
    (going : ∀ made store, (goOn made store).escaped = broker.escaped ∧ (goOn made store).store = store) :
    Settles config (CircleSize config) broker' := by
  have law := create_ok_iff sound topic
  split at taken
  · rename_i failed
    obtain rfl := Option.some.inj taken
    rw [failed] at law
    exact ⟨iff_of_false nofun (fun size => nomatch (law.mpr size)), nofun⟩
  · rename_i made store created
    obtain rfl := Option.some.inj taken
    obtain ⟨escaped, stored⟩ := going made store
    refine ⟨iff_of_true (escaped.trans calm) (law.mp ⟨made, store, created⟩), fun _ => ?_⟩
    rw [stored]
    exact sound.create created

/-- A step lets an exception escape exactly where its call is not safe. -/
theorem brokerStep_settles {config : LoadedConfig} {broker broker' : Broker} {action : BrokerAction}
    (sound : SoundStore config broker.store) (taken : brokerStep config broker action = some broker') :
    Settles config (Safe config broker action) broker' := by
  unfold brokerStep at taken
  split at taken
  · cases taken
  rename_i running
  have calm : broker.escaped = none := by simpa using running
  cases action with
  | prepare =>
    dsimp only at taken
    split at taken
    · cases taken
    rename_i topic rest _
    exact settles_create calm sound topic taken fun _ _ => ⟨rfl, rfl⟩
  | connect address =>
    dsimp only at taken
    split at taken
    swap
    · cases taken
    have law := parse_thrown_iff address
    split at taken
    · rename_i exception thrown
      obtain rfl := Option.some.inj taken
      exact ⟨iff_of_false nofun (law.mp ⟨exception, thrown⟩), nofun⟩
    · rename_i fine
      obtain rfl := Option.some.inj taken
      refine ⟨iff_of_true calm ?_, fun _ => sound⟩
      exact not_not.mp fun unsafe_ => (law.mpr unsafe_).elim fine
  | create topicBuffer messageBuffer =>
    dsimp only at taken
    split at taken
    · cases taken
    split at taken
    · rename_i dropped
      obtain rfl := Option.some.inj taken
      exact ⟨iff_of_true calm (.inl dropped), fun _ => sound⟩
    · rename_i topic message kept
      have size : Safe config broker (.create topicBuffer messageBuffer) ↔ CircleSize config :=
        or_iff_right fun dropped => nomatch kept.symm.trans dropped
      unfold Settles
      rw [size]
      exact settles_create calm sound topic taken fun _ _ => ⟨rfl, rfl⟩
  | append n =>
    dsimp only at taken
    split at taken
    · cases taken
    rename_i topic message pending
    obtain rfl := Option.some.inj taken
    have room : Safe config broker (.append n) ↔ Room broker.store topic := by
      constructor
      · exact fun all => all (topic, message) pending
      · intro left entry same
        rw [pending] at same
        cases same
        exact left
    unfold Settles
    rw [room]
    exact @settles_append config { broker with created := broker.created.eraseIdx n } calm sound
      topic message
  | relay topicName messageBody =>
    dsimp only at taken
    split at taken
    swap
    · cases taken
    obtain ⟨entry, kept, rfl⟩ := Option.map_eq_some_iff.mp taken
    obtain ⟨rfl, _⟩ := relayed_some kept
    exact settles_append calm sound topicName messageBody

/-- In every run whose calls are all safe no exception has escaped; a next call lets one escape exactly
where it is not safe. -/
theorem no_exception_escapes (config : LoadedConfig) {broker : Broker}
    (run : Run (brokerStep config) (Safe config) (Broker.start config) broker) :
    broker.escaped = none ∧ ∀ action broker', brokerStep config broker action = some broker' →
      (broker'.escaped = none ↔ Safe config broker action) := by
  have first : Unescaped config (Broker.start config) := ⟨rfl, sound_init config⟩
  have calm : Unescaped config broker := run.keeps first fun b action b' known safe taken => by
    obtain ⟨escapes, sound⟩ := brokerStep_settles known.2 taken
    exact ⟨escapes.mpr safe, sound (escapes.mpr safe)⟩
  exact ⟨calm.1, fun action broker' taken => (brokerStep_settles calm.2 taken).1⟩

/-- A publisher's message with circles of one message. -/
theorem no_exception_escapes_stored :
    ∃ broker, replay (brokerStep { allownTopics := [ascii "*"], maxTopicCircleSize := 1 })
        (Broker.start { allownTopics := [ascii "*"], maxTopicCircleSize := 1 })
        [.create (ascii "T" ++ [0]) (ascii "m" ++ [0]), .append 0] = some broker ∧
      broker.escaped = none := by
  refine ⟨_, rfl, ?_⟩
  refine (no_exception_escapes { allownTopics := [ascii "*"], maxTopicCircleSize := 1 }
    ((Run.refl.tail (.create (ascii "T" ++ [0]) (ascii "m" ++ [0])) ?_ rfl).tail (.append 0) ?_ rfl)).1
  · exact .inr (.inl (by decide))
  · rintro ⟨topic, message⟩ same ring held
    cases same
    cases held
    decide

/-- A configuration without `max_topic_circle_size` is accepted; the first message ends the process. -/
theorem accepted_config_escapes :
    ∃ config broker,
      loadRepeaterConfig (some (.object [(ascii "max_topic_number", .int 10),
        (ascii "max_message_body_size", .int 4096),
        (ascii "allown_topics", .array [.string (ascii "*")])])) = .ok (some config) ∧
      Run (brokerStep config) Free (Broker.start config) broker ∧
      broker.escaped = some (ascii "message circle size must be greater than zero") := by
  refine ⟨_, _, rfl, Run.refl.tail (.create (ascii "T" ++ [0]) (ascii "m" ++ [0])) trivial rfl, ?_⟩
  rfl

end MessageRepeater.Repeater
