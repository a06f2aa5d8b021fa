import MessageRepeater.Subscriber.SubscribeRequest

/-!
# Which subscribe requests are accepted

`parseSubscribeTopics` ignores what `Json::Reader::parse` reports and keeps what it has inserted before
an exception, so a malformed request can leave topics.
-/

namespace MessageRepeater.Subscriber
open Foundation Combiner Config

/-- What `Json::Reader::parse` does with a text: it throws, or it reports success or not and leaves the
values that it has read in the root. -/
inductive ParseOutcome where
  | threw
  | returned (successful : Bool) (root : JsonValue)

/-- The root as the handler goes on with it. Behind an exception there is none. -/
def ParseOutcome.root : ParseOutcome → JsonValue
  | .threw => .null
  | .returned _ root => root

/-- `asString` does not throw. -/
def JsonValue.convertible (value : JsonValue) : Bool := value.asString.isSome

/-- A request as it should be: the parser succeeds on an object with an array `topics` of strings. -/
structure WellFormed (outcome : ParseOutcome) (elements : List JsonValue) : Prop where
  parsed : ∃ members, outcome = .returned true (.object members) ∧
    members.lookup (ascii "topics") = some (.array elements)
  strings : ∀ element ∈ elements, element.convertible = true

/-- The result of a request: the distinct topics that pass the filters if it is well formed, and nothing
otherwise. -/
structure Accepts (context : GlobalContext) (outcome : ParseOutcome) (topics : List Topic) : Prop where
  wellFormed : ∀ elements, WellFormed outcome elements → topics.Nodup ∧
    ∀ topic, topic ∈ topics ↔
      (∃ element ∈ elements, element.asString = some topic) ∧ context.isAllownTopic topic = true ∧
        context.isEnabledSubscribeTopic topic = true ∧ context.isDisabledSubscribeTopic topic = false
  malformed : (∀ elements, ¬ WellFormed outcome elements) → topics = []

/-! ### The set of topics -/

theorem mem_insertTopic_iff {topic t : Topic} {topics : List Topic} :
    t ∈ insertTopic topic topics ↔ t = topic ∨ t ∈ topics := by
  refine ⟨mem_insertTopic, ?_⟩
  induction topics with
  | nil => simp [insertTopic]
  | cons first rest ih =>
    intro member
    unfold insertTopic
    split
    · rename_i same
      subst same
      exact member.elim (fun same => same ▸ List.mem_cons_self) id
    · split
      · exact List.mem_cons.mpr member
      · rcases member with new | old
        · exact List.mem_cons_of_mem first (ih (.inl new))
        · rcases List.mem_cons.mp old with rfl | later
          · exact List.mem_cons_self
          · exact List.mem_cons_of_mem first (ih (.inr later))

theorem insertTopic_sorted {topic : Topic} {topics : List Topic} (sorted : topics.Pairwise (· < ·)) :
    (insertTopic topic topics).Pairwise (· < ·) := by
  induction topics with
  | nil => exact List.pairwise_singleton _ _
  | cons first rest ih =>
    obtain ⟨below, rest_sorted⟩ := List.pairwise_cons.mp sorted
    unfold insertTopic
    split
    · exact sorted
    · rename_i other
      split
      · rename_i before
        refine List.pairwise_cons.mpr ⟨fun t member => ?_, sorted⟩
        rcases List.mem_cons.mp member with rfl | later
        · exact before
        · exact List.lt_trans before (below t later)
      · rename_i behind
        have after : first < topic := by
          by_contra neither
          exact other (List.le_antisymm (List.not_lt.mp neither) (List.not_lt.mp behind))
        refine List.pairwise_cons.mpr ⟨fun t member => ?_, ih rest_sorted⟩
        rcases mem_insertTopic member with rfl | old
        · exact after
        · exact below t old

theorem collectTopics_sorted {context : GlobalContext} {elements : List JsonValue} {topics : List Topic}
    (sorted : topics.Pairwise (· < ·)) :
    (collectTopics context elements topics).Pairwise (· < ·) := by
  induction elements generalizing topics with
  | nil => exact sorted
  | cons element rest ih =>
    simp only [collectTopics]
    split
    · exact sorted
    · split
      · exact ih (insertTopic_sorted sorted)
      · exact ih sorted

/-- The elements up to the first one that cannot be converted are collected. -/
theorem mem_collectTopics_iff {context : GlobalContext} {elements : List JsonValue} {topics : List Topic}
    {topic : Topic} :
    topic ∈ collectTopics context elements topics ↔
      topic ∈ topics ∨ (subscribable context topic = true ∧
        ∃ element ∈ elements.takeWhile JsonValue.convertible, element.asString = some topic) := by
  induction elements generalizing topics with
  | nil => simp [collectTopics]
  | cons element rest ih =>
    simp only [collectTopics, List.takeWhile_cons]
    cases text : element.asString with
    | none => simp [JsonValue.convertible, text]
    | some named =>
      have converts : element.convertible = true := by
        rw [JsonValue.convertible, text]
        rfl
      simp only [converts, if_true, ih, List.mem_cons, or_and_right, exists_or, exists_eq_left, text,
        Option.some.injEq]
      by_cases passes : subscribable context named = true
      · rw [if_pos passes, mem_insertTopic_iff]
        constructor
        · rintro ((rfl | old) | later)
          · exact .inr ⟨passes, .inl rfl⟩
          · exact .inl old
          · exact .inr ⟨later.1, .inr later.2⟩
        · rintro (old | ⟨fits, rfl | later⟩)
          · exact .inl (.inr old)
          · exact .inl (.inl rfl)
          · exact .inr ⟨fits, later⟩
      · rw [if_neg passes]
        constructor
        · exact fun cases_ => cases_.imp_right fun later => ⟨later.1, .inr later.2⟩
        · rintro (old | ⟨fits, rfl | later⟩)
          · exact .inl old
          · exact absurd fits passes
          · exact .inr ⟨fits, later⟩

/-! ### Acceptance -/

/-- No element that is collected passes the filters. -/
def NothingCollected (context : GlobalContext) (elements : List JsonValue) : Prop :=
  ∀ element ∈ elements.takeWhile JsonValue.convertible, ∀ topic, element.asString = some topic →
    subscribable context topic = false

theorem subscribable_eq_true {context : GlobalContext} {topic : Topic} :
    subscribable context topic = true ↔ context.isAllownTopic topic = true ∧
      context.isEnabledSubscribeTopic topic = true ∧ context.isDisabledSubscribeTopic topic = false := by
  simp only [subscribable, Bool.and_eq_true, Bool.not_eq_true', and_assoc]

theorem WellFormed.topics_eq {outcome : ParseOutcome} {elements : List JsonValue}
    (wellFormed : WellFormed outcome elements) : outcome.root.topics = elements := by
  obtain ⟨members, rfl, held⟩ := wellFormed.parsed
  simp only [ParseOutcome.root, JsonValue.topics, held]

theorem collected_empty_iff {context : GlobalContext} {elements : List JsonValue} :
    collectTopics context elements [] = [] ↔ NothingCollected context elements := by
  rw [List.eq_nil_iff_forall_not_mem]
  simp only [mem_collectTopics_iff, List.not_mem_nil, false_or]
  constructor
  · intro none_ element member topic text
    by_contra passes
    exact none_ topic ⟨Bool.eq_true_of_not_eq_false passes, element, member, text⟩
  · rintro none_ topic ⟨passes, element, member, text⟩
    rw [none_ element member topic text] at passes
    cases passes

/-- A well-formed request gets just its topics that pass the filters. -/
theorem wellFormed_accepts {context : GlobalContext} {outcome : ParseOutcome} {elements : List JsonValue}
    (wellFormed : WellFormed outcome elements) :
    Accepts context outcome (collectTopics context outcome.root.topics []) := by
  refine ⟨fun elements' wellFormed' => ⟨?_, fun topic => ?_⟩, fun none_ => absurd wellFormed (none_ elements)⟩
  · refine (collectTopics_sorted .nil).imp fun {first second} before => ?_
    rintro rfl
    exact List.lt_irrefl first before
  · have all : elements'.takeWhile JsonValue.convertible = elements' :=
      List.takeWhile_eq_self_iff.mpr wellFormed'.strings
    rw [wellFormed'.topics_eq, mem_collectTopics_iff, all, subscribable_eq_true]
    simp only [List.not_mem_nil, false_or]
    exact and_comm

/-- A request is accepted as it should be exactly when it is well formed, or the part of it that is read
names no topic that passes the filters. -/
theorem parseSubscribeTopics_accepts_iff (context : GlobalContext) (parse : Bytes → ParseOutcome)
    (messageBody : Bytes) :
    Accepts context (parse messageBody)
        (parseSubscribeTopics context (fun text => (parse text).root) messageBody) ↔
      (∃ elements, WellFormed (parse messageBody) elements) ∨
        NothingCollected context (parse messageBody).root.topics := by
  unfold parseSubscribeTopics
  by_cases shape : ∃ elements, WellFormed (parse messageBody) elements
  · obtain ⟨elements, wellFormed⟩ := shape
    exact iff_of_true (wellFormed_accepts wellFormed) (.inl ⟨elements, wellFormed⟩)
  · rw [or_iff_right shape, ← collected_empty_iff]
    constructor
    · exact fun accepts => accepts.malformed (not_exists.mp shape)
    · exact fun empty => ⟨fun elements wellFormed => absurd ⟨elements, wellFormed⟩ shape, fun _ => empty⟩

/-- A request that is cut off behind its first topic: the parser reports failure, and the topic is
subscribed. -/
theorem cut_request_accepted :
    ∃ parse : Bytes → ParseOutcome,
      parse (ascii "\x7b\"topics\":[\"T\"") =
        .returned false (.object [(ascii "topics", .array [.scalar (ascii "T")])]) ∧
      ¬ Accepts { allownAllTopics := true } (parse (ascii "\x7b\"topics\":[\"T\""))
        (parseSubscribeTopics { allownAllTopics := true } (fun text => (parse text).root)
          (ascii "\x7b\"topics\":[\"T\"")) := by
  refine ⟨fun _ => .returned false (.object [(ascii "topics", .array [.scalar (ascii "T")])]), rfl, ?_⟩
  intro accepts
  have nothing := accepts.malformed fun elements wellFormed => by
    obtain ⟨members, same, _⟩ := wellFormed.parsed
    cases same
  revert nothing
  decide

end MessageRepeater.Subscriber
