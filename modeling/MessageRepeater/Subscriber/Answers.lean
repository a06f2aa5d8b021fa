import MessageRepeater.Subscriber.OrderedDelivery

/-!
# Answered requests

What the `ok` answer to a subscribe request guarantees: each of its topics has a first cursor in the
request's record, no later than the topic's next sequence at that moment. The writer can only cache
the record of an answered request or of a later one.
-/

namespace MessageRepeater.Subscriber
open Foundation Combiner Config Connection

def State.Started (s : State) (record : Nat) (topic : Topic) : Prop :=
  ∃ start, (record, topic, start) ∈ s.link.history.starts

/-- The reading thread's record is the last one, has the request's topics for its entries, and each
topic's cursor is set unless the topic is still to be visited. -/
structure Ready (s : State) (record : Nat) (topics todo : List Topic) : Prop where
  last : record + 1 = s.link.records.length
  present : ∀ t, (s.link.getMeta record t).isSome = true ↔ t ∈ topics
  visited : ∀ t ∈ topics, t ∈ todo ∨ s.Started record t

def ReaderReady (s : State) : ReaderPc → Prop
  | .getRecord topics => ∃ record, Ready s record topics topics
  | .getCircle record topics todo => Ready s record topics todo
  | .circleMeta record topics topic todo => Ready s record topics (topic :: todo)
  | .initializeTopic record topics topic sequence todo =>
    Ready s record topics (topic :: todo) ∧ sequence ≤ (s.logs topic).length
  | .enqueue _ _ (.answered record topics) => Ready s record topics []
  | .enqueueNotify (.answered _ _) | .putSubscribed _ => s.link.history.answers ≠ []
  | _ => True

/-- What an answer has promised, as long as its record lives. -/
structure Kept (link : Link) (answer : Answer) : Prop where
  record : answer.record < link.records.length
  topics : ∀ t, (link.getMeta answer.record t).isSome = true ↔ t ∈ answer.topics
  starts : ∀ t ∈ answer.topics, ∃ start, (answer.record, t, start) ∈ link.history.starts ∧
    start ≤ answer.nextSequence t

structure Answered (d : Deployment) (s : State) : Prop where
  composite : ∀ r, s.composite.getRecord d.key = some r → r + 1 = s.link.records.length
  answers : ∀ answer ∈ s.link.history.answers, Kept s.link answer
  subscribed : s.subscribed = true → s.link.history.answers ≠ []
  caching : s.writer.call = .cache → s.link.history.answers ≠ []
  record : ∀ r, s.record = some r → r < s.link.records.length ∧
    ∃ answer ∈ s.link.history.answers, answer.record ≤ r
  bounded : ∀ r t start, (r, t, start) ∈ s.link.history.starts → start ≤ (s.logs t).length
  call : ∀ t sequence, s.writer.call = .deliver t (.initializeTopic sequence) →
    sequence ≤ (s.logs t).length
  reader : ReaderReady s s.reader

/-- What a step of the writer or of a thread without a part in the output leaves to the others. -/
structure LinkGrows (s s' : State) : Prop where
  length : s'.link.records.length = s.link.records.length
  answers : s'.link.history.answers = s.link.history.answers
  starts : s.link.history.starts ⊆ s'.link.history.starts
  present : ∀ r t, (s'.link.getMeta r t).isSome = (s.link.getMeta r t).isSome
  logs : ∀ t, s.logs t <+: s'.logs t

theorem LinkGrows.ready {s s' : State} (grows : LinkGrows s s') {record : Nat}
    {topics todo : List Topic} (ready : Ready s record topics todo) : Ready s' record topics todo where
  last := ready.last.trans grows.length.symm
  present t := by
    rw [grows.present]
    exact ready.present t
  visited t member :=
    (ready.visited t member).imp_right fun ⟨start, started⟩ => ⟨start, grows.starts started⟩

theorem LinkGrows.readerReady {s s' : State} (grows : LinkGrows s s') {pc : ReaderPc}
    (ready : ReaderReady s pc) : ReaderReady s' pc := by
  unfold ReaderReady at *
  split
  · obtain ⟨record, held⟩ := ready
    exact ⟨record, grows.ready held⟩
  · exact grows.ready ready
  · exact grows.ready ready
  · exact ⟨grows.ready ready.1, ready.2.trans (grows.logs _).length_le⟩
  · exact grows.ready ready
  · rw [grows.answers]
    exact ready
  · rw [grows.answers]
    exact ready
  · trivial

/-! ### The writer -/

theorem initializeTopic_starts (link : Link) (record : Nat) (topic : Topic) (sequence : Nat) :
    (link.initializeTopic record topic sequence).history.starts =
      if (link.getMeta record topic).map ConsumeMeta.initialized = some false then
        link.history.starts ++ [(record, topic, sequence)]
      else link.history.starts := by
  rw [Link.initializeTopic_history]

theorem initializeTopic_subset (link : Link) (record : Nat) (topic : Topic) (sequence : Nat) :
    link.history.starts ⊆ (link.initializeTopic record topic sequence).history.starts := by
  rw [initializeTopic_starts]
  split
  · exact List.subset_append_left _ _
  · exact List.Subset.refl _

theorem mem_initializeTopic_starts {link : Link} {record : Nat} {topic : Topic} {sequence : Nat}
    {item : Nat × Topic × Nat}
    (member : item ∈ (link.initializeTopic record topic sequence).history.starts) :
    item ∈ link.history.starts ∨ item = (record, topic, sequence) := by
  rw [initializeTopic_starts] at member
  split at member
  · exact (List.mem_append.mp member).imp_right List.mem_singleton.mp
  · exact .inl member

theorem initializeTopic_present (link : Link) (record : Nat) (topic : Topic) (sequence r : Nat)
    (t : Topic) : ((link.initializeTopic record topic sequence).getMeta r t).isSome =
      (link.getMeta r t).isSome := by
  rw [Link.initializeTopic_getMeta]
  split
  · rename_i fresh
    obtain ⟨rfl, rfl, unset⟩ := fresh
    obtain ⟨entry, found, _⟩ := Option.map_eq_some_iff.mp unset
    rw [found]
    rfl
  · rfl

theorem initializeTopic_sets {link : Link} {record : Nat} {topic : Topic} {sequence : Nat}
    (present : (link.getMeta record topic).isSome = true) :
    ∃ entry, (link.initializeTopic record topic sequence).getMeta record topic = some entry ∧
      entry.initialized = true := by
  rw [Link.initializeTopic_getMeta]
  obtain ⟨entry, found⟩ := Option.isSome_iff_exists.mp present
  cases initialized : entry.initialized with
  | false => exact ⟨_, by rw [if_pos ⟨rfl, rfl, by rw [found, Option.map_some, initialized]⟩], rfl⟩
  | true =>
    refine ⟨entry, ?_, initialized⟩
    rw [if_neg, found]
    rintro ⟨_, _, fresh⟩
    rw [found, Option.map_some, initialized] at fresh
    cases fresh

theorem updateSequence_present (link : Link) (record : Nat) (topic : Topic) (next r : Nat)
    (t : Topic) : ((link.updateSequence record topic next).getMeta r t).isSome =
      (link.getMeta r t).isSome := by
  rw [Link.updateSequence_getMeta]
  split
  · exact Option.isSome_map
  · rfl

/-- A link that a writer's call leaves has the same records and answers, and every start it adds is
one that the call was about to set. -/
structure CallGrows (link link' : Link) (call : Call) : Prop where
  length : link'.records.length = link.records.length
  answers : link'.history.answers = link.history.answers
  starts : link.history.starts ⊆ link'.history.starts
  present : ∀ r t, (link'.getMeta r t).isSome = (link.getMeta r t).isSome
  added : ∀ r t start, (r, t, start) ∈ link'.history.starts → (r, t, start) ∈ link.history.starts ∨
    call = .deliver t (.initializeTopic start)

theorem CallGrows.refl (link : Link) (call : Call) : CallGrows link link call :=
  ⟨rfl, rfl, List.Subset.refl _, fun _ _ => rfl, fun _ _ _ => .inl⟩

theorem CallGrows.kept {link link' : Link} {call : Call} {answer : Answer}
    (grows : CallGrows link link' call) (kept : Kept link answer) : Kept link' answer where
  record := by
    rw [grows.length]
    exact kept.record
  topics t := by
    rw [grows.present]
    exact kept.topics t
  starts t asked := by
    obtain ⟨start, started, le⟩ := kept.starts t asked
    exact ⟨start, grows.starts started, le⟩

theorem FlushMove.grows {link link' : Link} {record : Option Nat} {pc : FlushPc}
    {control : Control FlushPc (PendingWriteStatus × Topic)}
    (moved : FlushMove link record pc link' control) (call : Call) : CallGrows link link' call := by
  cases moved with
  | business =>
    exact ⟨by simp [Link.reset, Link.updateSequence], rfl, List.Subset.refl _,
      fun r t => updateSequence_present _ _ _ _ r t, fun _ _ _ => .inl⟩
  | resume | idle | sent | again | blocked | orphan => exact .refl link call
  | next | accept | failed | control =>
    exact ⟨rfl, rfl, List.Subset.refl _, fun _ _ => rfl, fun _ _ _ => .inl⟩

theorem DeliverMove.grows {config : RepeaterConfig} {store : MessageCircleComposite}
    {link link' : Link} {record : Nat} {topic : Topic} {pc : DeliverPc}
    {control : Control DeliverPc TopicDeliveryStatus}
    (moved : DeliverMove config store link record topic pc link' control) :
    CallGrows link link' (.deliver topic pc) := by
  cases moved with
  | busy | absent | entry | fresh | circleMeta => exact .refl link _
  | disconnect | nothing | empty | park =>
    exact ⟨rfl, rfl, List.Subset.refl _, fun _ _ => rfl, fun _ _ _ => .inl⟩
  | updateEmpty =>
    exact ⟨by simp [Link.updateSequence], rfl, List.Subset.refl _,
      fun r t => updateSequence_present _ _ _ _ r t, fun _ _ _ => .inl⟩
  | initializeTopic sequence =>
    refine ⟨by simp [Link.initializeTopic], ?_, initializeTopic_subset _ _ _ _,
      fun r t => initializeTopic_present _ _ _ _ r t, ?_⟩
    · rw [Link.initializeTopic_history]
    · intro r t start member
      rcases mem_initializeTopic_starts member with old | new
      · exact .inl old
      · cases new
        exact .inr rfl
  | flush moved => exact moved.grows _

theorem Call.Fresh.not_local {call : Call} (fresh : call.Fresh) :
    call ≠ .cache ∧ ∀ t sequence, call ≠ .deliver t (.initializeTopic sequence) := by
  cases fresh <;> exact ⟨nofun, nofun⟩

theorem WriterMove.records {d : Deployment} {s s' : State} (moved : WriterMove d s s') :
    s'.link.records.length = s.link.records.length := by
  cases moved with
  | flush _ move link_eq =>
    rw [link_eq]
    exact (move.grows .outside).length
  | deliver _ _ move link_eq =>
    rw [link_eq]
    exact move.grows.length
  | test _ link_eq | cache _ link_eq | other _ link_eq | close _ link_eq => rw [link_eq]

theorem WriterMove.present {d : Deployment} {s s' : State} (moved : WriterMove d s s') (r : Nat)
    (t : Topic) : (s'.link.getMeta r t).isSome = (s.link.getMeta r t).isSome := by
  cases moved with
  | flush _ move link_eq =>
    rw [link_eq]
    exact (move.grows .outside).present r t
  | deliver _ _ move link_eq =>
    rw [link_eq]
    exact move.grows.present r t
  | test _ link_eq | cache _ link_eq | other _ link_eq | close _ link_eq => rw [link_eq]

/-- The writer comes to set a cursor from the meta of the topic's ring. -/
theorem WriterMove.setting {d : Deployment} {s s' : State} (moved : WriterMove d s s') {t : Topic}
    {sequence : Nat} (at_ : s'.writer.call = .deliver t (.initializeTopic sequence)) :
    ∃ ring, s.store.getCircle t = some ring ∧ sequence = ring.getMeta.nextSequence := by
  cases moved with
  | @flush _ _ control _ _ _ _ next =>
    rcases control with pc' | result
    · simp only [Call.AfterFlush] at next
      rw [next] at at_
      cases at_
    · exact absurd at_ (next.1.not_local.2 _ _)
  | deliver _ _ move _ _ next =>
    cases move with
    | circleMeta made =>
      simp only [Call.AfterDeliver] at next
      rw [next] at at_
      cases at_
      exact ⟨_, made, rfl⟩
    | busy | absent | initializeTopic | disconnect | nothing | updateEmpty =>
      exact absurd at_ (next.1.not_local.2 _ _)
    | entry | fresh | empty | park =>
      simp only [Call.AfterDeliver] at next
      rw [next] at at_
      cases at_
    | @flush _ _ flushed =>
      rcases flushed with pc' | ⟨status, completed⟩
      · simp only [DeliverPc.afterFlush, Call.AfterDeliver] at next
        rw [next] at at_
        cases at_
      · cases status <;> exact absurd at_ (next.1.not_local.2 _ _)
  | test _ _ _ _ _ next | close _ _ _ next =>
    rw [next] at at_
    cases at_
  | cache _ _ _ next | other _ _ _ next => exact absurd at_ (next.not_local.2 _ _)

/-- The writer comes to cache a record only for a connection that is subscribed. -/
theorem WriterMove.caching {d : Deployment} {s s' : State} (moved : WriterMove d s s')
    (at_ : s'.writer.call = .cache) : s.subscribed = true := by
  cases moved with
  | test _ _ _ subscribed => exact subscribed
  | @flush _ _ control _ _ _ _ next =>
    rcases control with pc' | result
    · simp only [Call.AfterFlush] at next
      rw [next] at at_
      cases at_
    · exact absurd at_ next.1.not_local.1
  | @deliver _ _ _ _ control _ _ _ _ _ next =>
    rcases control with pc' | status
    · simp only [Call.AfterDeliver] at next
      rw [next] at at_
      cases at_
    · exact absurd at_ next.1.not_local.1
  | cache _ _ _ next | other _ _ _ next => exact absurd at_ next.not_local.1
  | close _ _ _ next =>
    rw [next] at at_
    cases at_

theorem WriterMove.answered {d : Deployment} {s s' : State} (moved : WriterMove d s s')
    (frame : WriterFrame s s') (rings : Rings s) (answered : Answered d s) : Answered d s' := by
  have grow : ∀ {link call}, s'.link = link → s.writer.call = call → CallGrows s.link link call →
      (∀ r, s'.record = some r → r < s.link.records.length ∧
        ∃ answer ∈ s.link.history.answers, answer.record ≤ r) → Answered d s' := by
    intro link call link_eq at_ grows record
    subst link_eq
    have whole : LinkGrows s s' :=
      ⟨grows.length, grows.answers, grows.starts, grows.present, fun t => by rw [frame.logs]⟩
    refine ⟨?_, ?_, ?_, ?_, ?_, ?_, ?_, ?_⟩
    · rw [frame.composite, grows.length]
      exact answered.composite
    · rw [grows.answers]
      exact fun answer member => grows.kept (answered.answers answer member)
    · rw [grows.answers]
      exact fun subscribed => answered.subscribed (frame.subscribed subscribed)
    · rw [grows.answers]
      exact fun caching => answered.subscribed (moved.caching caching)
    · rw [grows.length, grows.answers]
      exact record
    · intro r t start member
      rw [frame.logs]
      rcases grows.added r t start member with old | setting
      · exact answered.bounded r t start old
      · exact answered.call t start (at_.trans setting)
    · intro t sequence at_local
      obtain ⟨ring, made, rfl⟩ := moved.setting at_local
      rw [frame.logs]
      exact Nat.le_of_eq (rings.holds made).next
    · rw [frame.reader]
      exact whole.readerReady answered.reader
  cases moved with
  | flush at_ move link_eq record_eq =>
    exact grow link_eq at_ (move.grows _) (by rw [record_eq]; exact answered.record)
  | deliver at_ _ move link_eq record_eq =>
    exact grow link_eq at_ move.grows (by rw [record_eq]; exact answered.record)
  | cache at_ link_eq record_eq =>
    refine grow link_eq at_ (.refl _ _) fun r cached => ?_
    rw [record_eq] at cached
    have last := answered.composite r cached
    obtain ⟨answer, member⟩ := List.exists_mem_of_ne_nil _ (answered.caching at_)
    have lt := (answered.answers answer member).record
    exact ⟨by omega, answer, member, by omega⟩
  | test at_ link_eq _ _ record_eq | other at_ link_eq record_eq | close at_ link_eq record_eq =>
    exact grow link_eq at_ (.refl _ _) (by rw [record_eq]; exact answered.record)

/-! ### The reading thread -/

/-- A step of the reading thread that sets none of the shared data the answers depend on. -/
theorem Answered.read {d : Deployment} {s s' : State} (answered : Answered d s)
    (link : s'.link = s.link) (composite : s'.composite = s.composite) (record : s'.record = s.record)
    (logs : s'.logs = s.logs) (writer : s'.writer = s.writer)
    (subscribed : s'.subscribed = true → s.link.history.answers ≠ [])
    (reader : ReaderReady s s'.reader) : Answered d s' := by
  refine ⟨?_, ?_, ?_, ?_, ?_, ?_, ?_, ?_⟩
  · rw [composite, link]
    exact answered.composite
  · rw [link]
    exact answered.answers
  · rw [link]
    exact subscribed
  · rw [writer, link]
    exact answered.caching
  · rw [record, link]
    exact answered.record
  · rw [link, logs]
    exact answered.bounded
  · rw [writer, logs]
    exact answered.call
  · refine LinkGrows.readerReady ⟨by rw [link], by rw [link], ?_, ?_, fun t => by rw [logs]⟩ reader
    · rw [link]
      exact List.Subset.refl _
    · rw [link]
      exact fun _ _ => rfl

theorem enqueueControlFrame_link {link link' : Link} {topic message : Bytes}
    (pushed : link.enqueueControlFrame topic message = some link') :
    link'.records = link.records ∧ link'.history.starts = link.history.starts ∧
      link'.history.answers = link.history.answers := by
  cases Link.enqueueControlFrame_some pushed
  exact ⟨rfl, rfl, rfl⟩

theorem getMeta_congr {link link' : Link} (records : link'.records = link.records) (r : Nat)
    (t : Topic) : link'.getMeta r t = link.getMeta r t := by
  unfold Link.getMeta
  rw [records]

/-- The answer goes on the queue: every topic of the request has a start by now. -/
theorem Answered.enqueue {d : Deployment} {s : State} {link : Link} {topic message : Bytes}
    {after : AfterEnqueue} {reader : ReaderPc} (answered : Answered d s) (rings : Rings s)
    (at_ : s.reader = .enqueue topic message after)
    (pushed : s.link.enqueueControlFrame topic message = some link)
    (next : reader = .enqueueNotify after ∨ reader = .afterEnqueue after) :
    Answered d { s with link := link.noteAnswers (s.answer after), reader } := by
  obtain ⟨records, starts, answers⟩ := enqueueControlFrame_link pushed
  have ready := answered.reader
  rw [at_] at ready
  have more : s.link.history.answers ⊆ link.history.answers ++ s.answer after := by
    rw [answers]
    exact List.subset_append_left _ _
  have some_more : s.link.history.answers ≠ [] → link.history.answers ++ s.answer after ≠ [] := by
    rw [answers]
    exact fun held => List.append_ne_nil_of_left_ne_nil held _
  refine ⟨?_, ?_, ?_, ?_, ?_, ?_, answered.call, ?_⟩
  · simp only [Link.noteAnswers, records]
    exact answered.composite
  · intro answer member
    have cursors : ∀ r t, (link.noteAnswers (s.answer after)).getMeta r t = s.link.getMeta r t :=
      fun r t => getMeta_congr records r t
    have records' : (link.noteAnswers (s.answer after)).records = s.link.records := records
    have starts' : (link.noteAnswers (s.answer after)).history.starts = s.link.history.starts := starts
    simp only [Link.noteAnswers, answers] at member
    rcases List.mem_append.mp member with old | new
    · obtain ⟨lt, entries, started⟩ := answered.answers answer old
      refine ⟨by rwa [records'], fun t => ?_, by rwa [starts']⟩
      rw [cursors]
      exact entries t
    · cases after with
      | refresh | again => cases new
      | answered record topics =>
        obtain rfl := List.mem_singleton.mp new
        refine ⟨?_, fun t => ?_, fun t asked => ?_⟩
        · rw [records', ← ready.last]
          exact Nat.lt_succ_self record
        · rw [cursors]
          exact ready.present t
        · obtain ⟨start, started⟩ := (ready.visited t asked).resolve_left (by simp)
          refine ⟨start, by rwa [starts'], ?_⟩
          show start ≤ s.nextSequence t
          rw [rings.nextSequence]
          exact answered.bounded _ _ _ started
  · exact fun subscribed => some_more (answered.subscribed subscribed)
  · exact fun caching => some_more (answered.caching caching)
  · simp only [Link.noteAnswers, records]
    intro r cached
    obtain ⟨lt, answer, member, le⟩ := answered.record r cached
    exact ⟨lt, answer, more member, le⟩
  · simp only [Link.noteAnswers, starts]
    exact answered.bounded
  · cases after with
    | refresh | again => rcases next with rfl | rfl <;> trivial
    | answered record topics =>
      have noted : link.history.answers ++ s.answer (.answered record topics) ≠ [] := by
        simp [State.answer]
      rcases next with rfl | rfl <;> exact noted

theorem Answered.createRecord {d : Deployment} {s : State} {topics order : List Topic}
    {composite : ConsumeRecordComposite} (answered : Answered d s)
    (created : s.composite.createNewRecord d.key topics s.link.records.length = (true, composite)) :
    Answered d { s with
      composite
      link := s.link.createRecord topics order
      reader := .getRecord topics } := by
  have length : (s.link.createRecord topics order).records.length = s.link.records.length + 1 := by
    simp [Link.createRecord]
  refine ⟨?_, ?_, answered.subscribed, answered.caching, ?_, answered.bounded, answered.call, ?_⟩
  · intro r held
    unfold ConsumeRecordComposite.createNewRecord at created
    split at created
    · cases created
    · split at created <;> cases created
      simp only [ConsumeRecordComposite.getRecord, AList.lookup_insert, Option.some.injEq] at held
      rw [length, held]
  · intro answer member
    obtain ⟨lt, entries, starts⟩ := answered.answers answer member
    refine ⟨by rw [length]; omega, fun t => ?_, starts⟩
    rw [Link.createRecord_getMeta, if_neg (by omega)]
    exact entries t
  · intro r cached
    obtain ⟨lt, answer, member, le⟩ := answered.record r cached
    exact ⟨by rw [length]; omega, answer, member, le⟩
  · refine ⟨s.link.records.length, by rw [length], fun t => ?_, fun t asked => .inl asked⟩
    rw [Link.createRecord_getMeta, if_pos rfl]
    split
    · rename_i asked
      exact ⟨fun _ => asked, fun _ => rfl⟩
    · rename_i absent
      exact ⟨nofun, fun asked => absurd asked absent⟩

theorem Answered.initializeTopic {d : Deployment} {s : State} {record : Nat}
    {topics : List Topic} {topic : Topic} {sequence : Nat} {todo : List Topic}
    (answered : Answered d s) (at_ : s.reader = .initializeTopic record topics topic sequence todo)
    (delivering : Delivering d.config { s with
      link := s.link.initializeTopic record topic sequence
      reader := .getCircle record topics todo }) :
    Answered d { s with
      link := s.link.initializeTopic record topic sequence
      reader := .getCircle record topics todo } := by
  have ready := answered.reader
  rw [at_] at ready
  obtain ⟨ready, le⟩ := ready
  have length : (s.link.initializeTopic record topic sequence).records.length =
      s.link.records.length := by simp [Link.initializeTopic]
  have answers : (s.link.initializeTopic record topic sequence).history.answers =
      s.link.history.answers := by rw [Link.initializeTopic_history]
  have subset := initializeTopic_subset s.link record topic sequence
  refine ⟨?_, ?_, ?_, ?_, ?_, ?_, answered.call, ?_⟩
  · simp only [length]
    exact answered.composite
  · simp only [answers]
    intro answer member
    obtain ⟨lt, entries, starts⟩ := answered.answers answer member
    refine ⟨by rw [length]; exact lt, fun t => ?_, fun t asked => ?_⟩
    · rw [initializeTopic_present]
      exact entries t
    · obtain ⟨start, started, bound⟩ := starts t asked
      exact ⟨start, subset started, bound⟩
  · simp only [answers]
    exact answered.subscribed
  · simp only [answers]
    exact answered.caching
  · simp only [length, answers]
    exact answered.record
  · intro r t start member
    rcases mem_initializeTopic_starts member with old | new
    · exact answered.bounded r t start old
    · cases new
      exact le
  · refine ⟨ready.last.trans length.symm, fun t => ?_, fun t asked => ?_⟩
    · rw [initializeTopic_present]
      exact ready.present t
    rcases ready.visited t asked with waiting | ⟨start, started⟩
    · rcases List.mem_cons.mp waiting with rfl | later
      · exact .inr ((delivering.started record t).mpr (initializeTopic_sets ((ready.present t).mpr asked)))
      · exact .inl later
    · exact .inr ⟨start, subset started⟩

theorem readerStep_answered {d : Deployment} {s s' : State} {input : ReaderInput}
    (answered : Answered d s) (rings : Rings s) (delivering : Delivering d.config s')
    (taken : readerStep d s input = some s') : Answered d s' := by
  have ready := answered.reader
  have subscribed := answered.subscribed
  unfold readerStep at taken
  split at taken
  case h_6 topics at_ =>
    cases taken
    refine answered.read rfl rfl rfl rfl rfl subscribed ?_
    dsimp only
    split <;> trivial
  case h_7 topic message after at_ =>
    split at taken <;> cases taken
    · exact answered.read rfl rfl rfl rfl rfl subscribed trivial
    · rename_i link pushed
      refine answered.enqueue rings at_ pushed ?_
      split
      · exact .inl rfl
      · exact .inr rfl
  case h_8 after at_ =>
    cases taken
    rw [at_] at ready
    refine answered.read rfl rfl rfl rfl rfl subscribed ?_
    cases after with
    | refresh | again => trivial
    | answered record topics => exact ready
  case h_10 topics order at_ =>
    split at taken
    · split at taken <;> cases taken
      · exact answered.read rfl rfl rfl rfl rfl subscribed trivial
      · rename_i composite created
        exact answered.createRecord created
    · cases taken
  case h_11 topics at_ =>
    rw [at_] at ready
    obtain ⟨last, ready⟩ := ready
    split at taken <;> cases taken
    · exact answered.read rfl rfl rfl rfl rfl subscribed trivial
    · rename_i record held
      refine answered.read rfl rfl rfl rfl rfl subscribed ?_
      have newest := answered.composite record held
      obtain rfl : last = record := by have := ready.last; omega
      exact ready
  case h_12 record topics at_ =>
    cases taken
    rw [at_] at ready
    exact answered.read rfl rfl rfl rfl rfl subscribed ready
  case h_13 record topics topic todo at_ =>
    rw [at_] at ready
    split at taken <;> cases taken
    · exact answered.read rfl rfl rfl rfl rfl subscribed ⟨ready, Nat.zero_le _⟩
    · exact answered.read rfl rfl rfl rfl rfl subscribed ready
  case h_14 record topics topic todo at_ =>
    cases taken
    rw [at_] at ready
    exact answered.read rfl rfl rfl rfl rfl subscribed ⟨ready, Nat.le_of_eq (rings.nextSequence topic)⟩
  case h_15 record topics topic sequence todo at_ =>
    cases taken
    exact answered.initializeTopic at_ delivering
  case h_16 topics at_ =>
    cases taken
    rw [at_] at ready
    refine answered.read rfl rfl rfl rfl rfl (fun _ => ready) ?_
    dsimp only
    split <;> trivial
  case h_9 | h_25 =>
    split at taken <;> cases taken
    exact answered.read rfl rfl rfl rfl rfl subscribed trivial
  case h_26 => cases taken
  all_goals
    cases taken
    refine answered.read rfl rfl rfl rfl rfl subscribed ?_
    first
      | trivial
      | dsimp only; split <;> trivial

/-! ### Every step -/

theorem OutputFrame.answered {d : Deployment} {s s' : State} (frame : OutputFrame s s')
    (logs : ∀ t, s.logs t <+: s'.logs t)
    (composite : ∀ r, s'.composite.getRecord d.key = some r → s.composite.getRecord d.key = some r)
    (answered : Answered d s) : Answered d s' := by
  refine ⟨?_, ?_, ?_, ?_, ?_, ?_, ?_, ?_⟩
  · rw [frame.link]
    exact fun r held => answered.composite r (composite r held)
  · rw [frame.link]
    exact answered.answers
  · rw [frame.link]
    exact fun subscribed => answered.subscribed (frame.subscribed subscribed)
  · rw [frame.call, frame.link]
    exact answered.caching
  · rw [frame.record, frame.link]
    exact answered.record
  · rw [frame.link]
    exact fun r t start member => (answered.bounded r t start member).trans (logs t).length_le
  · rw [frame.call]
    exact fun t sequence at_ => (answered.call t sequence at_).trans (logs t).length_le
  · rw [frame.reader]
    refine LinkGrows.readerReady ⟨by rw [frame.link], by rw [frame.link], ?_, ?_, logs⟩ answered.reader
    · rw [frame.link]
      exact List.Subset.refl _
    · rw [frame.link]
      exact fun _ _ => rfl

theorem step_getRecord {d : Deployment} {s s' : State} {action : Action}
    (reader : ∀ input, action ≠ .reader input) (reclaimer : action ≠ .reclaimer)
    (taken : step d s action = some s') :
    s'.composite.getRecord d.key = s.composite.getRecord d.key := by
  cases action with
  | reader input => exact absurd rfl (reader input)
  | reclaimer => exact absurd rfl reclaimer
  | writer outcome => rw [(writerStep_frame taken).composite]
  | publisher id input => rw [publisherStep_same taken]
  | dispatcher => rw [dispatcherStep_same taken]
  | writable =>
    obtain ⟨_, _, rfl⟩ := writableStep_same taken
    rfl
  | detector => rw [detectorStep_same taken]
  | other key record =>
    simp only [step] at taken
    split at taken
    · cases taken
    · rename_i apart
      have other : d.key ≠ key := fun eq => apart eq.symm
      split at taken <;> cases taken
      · exact AList.lookup_insert_ne other
      · exact AList.lookup_erase_ne other

theorem step_composite {d : Deployment} {s s' : State} {action : Action}
    (reader : ∀ input, action ≠ .reader input) (taken : step d s action = some s') {r : Nat}
    (held : s'.composite.getRecord d.key = some r) : s.composite.getRecord d.key = some r := by
  by_cases reclaimer : action = .reclaimer
  · subst reclaimer
    simp only [step, reclaimerStep] at taken
    split at taken
    case h_3 =>
      cases taken
      cases (AList.lookup_erase _ _).symm.trans held
    all_goals cases taken <;> exact held
  · rwa [step_getRecord reader reclaimer taken] at held

theorem step_answered {d : Deployment} {s s' : State} {action : Action} (sound : Sound s)
    (delivering : Delivering d.config s) (answered : Answered d s)
    (taken : step d s action = some s') : Answered d s' := by
  have later := step_delivering sound delivering taken
  obtain ⟨_, logs⟩ := step_rings delivering.rings taken
  have composite := fun reader r => step_composite (r := r) reader taken
  cases action with
  | writer outcome =>
    exact (writerStep_move taken).answered (writerStep_frame taken) delivering.rings answered
  | reader input => exact readerStep_answered answered delivering.rings later taken
  | _ =>
    have frame := step_frame (by simp) (by simp) taken
    exact frame.answered logs (composite (by simp)) answered

theorem initial_answered (d : Deployment) : Answered d (initial d) := by
  refine ⟨?_, nofun, nofun, ?_, nofun, nofun, ?_, trivial⟩
  · intro r held
    cases held
  all_goals
    unfold initial
    dsimp only
    split <;> nofun

theorem reachable_answered {d : Deployment} {s : State} (run : Run (step d) Free (initial d) s) :
    Answered d s :=
  run.keeps_under (fun _ run => And.intro (reachable_sound run) (reachable_delivering run))
    (initial_answered d)
    fun _ _ _ known answered _ taken => step_answered known.1 known.2 answered taken

end MessageRepeater.Subscriber
