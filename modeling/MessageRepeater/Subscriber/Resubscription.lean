import MessageRepeater.Subscriber.DeliveryLaw
import MessageRepeater.Subscriber.Scheduling

/-!
# A further subscribe request

Each accepted request puts a new record into the map, and the writer keeps the first one that it has
taken. A further request takes effect as long as the two have the same topics.
-/

namespace MessageRepeater.Subscriber
open Foundation Combiner Config Connection

/-- The reading thread has not yet given every entry of its latest record a cursor, or has given up. -/
def ReaderPc.building : ReaderPc → Bool
  | .getRecord _ | .getCircle _ _ _ | .circleMeta _ _ _ _ | .initializeTopic _ _ _ _ _
  | .enqueue _ _ (.answered _ _) => true
  | .exitAlive | .exitShutdown | .exitClose | .exitKill | .done => true
  | _ => false

/-- Every record but the one in the making has all its cursors, and an answer comes after all the
cursors that there are by then. -/
structure Complete (s : State) : Prop where
  earlier : ∀ k t, k + 1 < s.link.records.length → (s.link.getMeta k t).isSome = true → s.Started k t
  last : s.reader.building = false → ∀ k t, (s.link.getMeta k t).isSome = true → s.Started k t
  through : ∀ answer ∈ s.link.history.answers, ∀ k ≤ answer.record, ∀ t,
    (s.link.getMeta k t).isSome = true →
    ∃ start, (k, t, start) ∈ s.link.history.starts ∧ start ≤ answer.nextSequence t

/-- The records from the writer's on have the same topics. -/
def Agree (s : State) : Prop :=
  ∀ r, s.record = some r → ∀ k, r ≤ k → k < s.link.records.length → ∀ t,
    (s.link.getMeta k t).isSome = (s.link.getMeta r t).isSome

/-- The connection is left alone, and a request is accepted only while the writer has no record yet,
or has one for just the topics of the request. -/
def Agreeing (d : Deployment) (s : State) (action : Action) : Prop :=
  Inside s action ∧ ∀ topics ∈ s.accepts d action, ∀ r, s.record = some r → ∀ t,
    t ∈ topics ↔ (s.link.getMeta r t).isSome = true

theorem getMeta_lt {link : Link} {r : Nat} {t : Topic} (some_ : (link.getMeta r t).isSome = true) :
    r < link.records.length := by
  by_contra beyond
  unfold Link.getMeta at some_
  rw [List.getElem?_eq_none (Nat.not_lt.mp beyond)] at some_
  cases some_

/-! ### The records are completed one after another -/

/-- A step that only adds starts keeps what is complete. -/
theorem Complete.grow {s s' : State} (complete : Complete s)
    (length : s'.link.records.length = s.link.records.length)
    (answers : s'.link.history.answers = s.link.history.answers)
    (starts : s.link.history.starts ⊆ s'.link.history.starts)
    (present : ∀ r t, (s'.link.getMeta r t).isSome = (s.link.getMeta r t).isSome)
    (building : s'.reader.building = false → s.reader.building = false) : Complete s' := by
  have grown : ∀ {k t}, s.Started k t → s'.Started k t := fun ⟨start, started⟩ => ⟨start, starts started⟩
  refine ⟨?_, ?_, ?_⟩
  · intro k t lt
    rw [length] at lt
    rw [present]
    exact fun some_ => grown (complete.earlier k t lt some_)
  · intro idle k t
    rw [present]
    exact fun some_ => grown (complete.last (building idle) k t some_)
  · rw [answers]
    intro answer member k le t
    rw [present]
    intro some_
    obtain ⟨start, started, bound⟩ := complete.through answer member k le t some_
    exact ⟨start, starts started, bound⟩

theorem WriterMove.complete {d : Deployment} {s s' : State} (moved : WriterMove d s s')
    (reader : s'.reader = s.reader) (complete : Complete s) : Complete s' := by
  have still : s'.link = s.link → Complete s' := fun link_eq => by
    refine complete.grow (by rw [link_eq]) (by rw [link_eq]) (by rw [link_eq]; exact List.Subset.refl _)
      (fun r t => by rw [link_eq]) (by rw [reader]; exact id)
  cases moved with
  | flush _ move link_eq =>
    subst link_eq
    have grows := move.grows .outside
    exact complete.grow grows.length grows.answers grows.starts grows.present (by rw [reader]; exact id)
  | deliver _ _ move link_eq =>
    subst link_eq
    have grows := move.grows
    exact complete.grow grows.length grows.answers grows.starts grows.present (by rw [reader]; exact id)
  | test _ link_eq | cache _ link_eq | other _ link_eq | close _ link_eq => exact still link_eq

theorem Complete.create {s s' : State} {topics order : List Topic} (complete : Complete s)
    (answered : ∀ answer ∈ s.link.history.answers, Kept s.link answer)
    (idle : s.reader.building = false) (link_eq : s'.link = s.link.createRecord topics order)
    (building : s'.reader.building = true) : Complete s' := by
  have older : ∀ {k t}, k < s.link.records.length → s'.link.getMeta k t = s.link.getMeta k t :=
    fun lt => by rw [link_eq, Link.createRecord_getMeta, if_neg (Nat.ne_of_lt lt)]
  have history : s'.link.history = s.link.history := by rw [link_eq]; rfl
  refine ⟨?_, fun finished => absurd (building.symm.trans finished) nofun, ?_⟩
  · intro k t lt
    have earlier : k < s.link.records.length := by
      rw [link_eq] at lt
      simp only [Link.createRecord, List.length_append, List.length_singleton] at lt
      omega
    rw [older earlier]
    unfold State.Started
    rw [history]
    exact complete.last idle k t
  · rw [history]
    intro answer member k le t
    rw [older (Nat.lt_of_le_of_lt le (answered answer member).record)]
    exact complete.through answer member k le t

/-- With its answer on the queue, all records are complete. -/
theorem Complete.answer {d : Deployment} {s s' : State} {link : Link} {topic message : Bytes}
    {after : AfterEnqueue} (complete : Complete s) (answered : Answered d s) (rings : Rings s)
    (at_ : s.reader = .enqueue topic message after)
    (pushed : s.link.enqueueControlFrame topic message = some link)
    (link_eq : s'.link = link.noteAnswers (s.answer after)) : Complete s' := by
  obtain ⟨records, starts, answers⟩ := enqueueControlFrame_link pushed
  have ready := answered.reader
  rw [at_] at ready
  have cursors : ∀ k t, s'.link.getMeta k t = s.link.getMeta k t := fun k t => by
    rw [link_eq]
    exact getMeta_congr records k t
  have starts' : s'.link.history.starts = s.link.history.starts := by rw [link_eq]; exact starts
  have length : s'.link.records.length = s.link.records.length := by rw [link_eq]; exact congrArg _ records
  -- Every record is complete, whether or not the frame was an answer.
  have all : ∀ k t, (s.link.getMeta k t).isSome = true → s.Started k t := by
    cases after with
    | refresh | again => exact complete.last (by rw [at_]; rfl)
    | answered record topics =>
      intro k t some_
      have lt := getMeta_lt some_
      have last := ready.last
      by_cases latest : k = record
      · subst latest
        exact (ready.visited t ((ready.present t).mp some_)).resolve_left (by simp)
      · exact complete.earlier k t (by omega) some_
  refine ⟨?_, ?_, ?_⟩
  · intro k t _
    rw [cursors]
    unfold State.Started
    rw [starts']
    exact all k t
  · intro _ k t
    rw [cursors]
    unfold State.Started
    rw [starts']
    exact all k t
  · intro answer member k le t some_
    rw [cursors] at some_
    rw [starts']
    rw [link_eq] at member
    simp only [Link.noteAnswers, answers] at member
    rcases List.mem_append.mp member with old | new
    · exact complete.through answer old k le t some_
    · obtain ⟨start, started⟩ := all k t some_
      refine ⟨start, started, ?_⟩
      cases after with
      | refresh | again => cases new
      | answered record topics =>
        obtain rfl := List.mem_singleton.mp new
        show start ≤ s.nextSequence t
        rw [rings.nextSequence]
        exact answered.bounded _ _ _ started

theorem readerStep_complete {d : Deployment} {s s' : State} {input : ReaderInput}
    (held : Held d s) (answered : Answered d s) (rings : Rings s) (complete : Complete s)
    (taken : readerStep d s input = some s') : Complete s' := by
  have ready := answered.reader
  have kept : ∀ {t : State}, t.link = s.link →
      (t.reader.building = false → s.reader.building = false) → Complete t := fun link building =>
    complete.grow (by rw [link]) (by rw [link]) (by rw [link]; exact List.Subset.refl _)
      (fun _ _ => by rw [link]) building
  unfold readerStep at taken
  split at taken
  case h_7 topic message after at_ =>
    split at taken <;> cases taken
    · exact kept rfl (by simp [ReaderPc.building])
    · rename_i link pushed
      exact complete.answer answered rings at_ pushed rfl
  case h_10 topics order at_ =>
    split at taken
    · split at taken <;> cases taken
      · exact kept rfl fun _ => by rw [at_]; rfl
      · exact complete.create answered.answers (by rw [at_]; rfl) rfl rfl
    · cases taken
  case h_11 topics at_ =>
    rw [at_] at ready
    obtain ⟨record, ready⟩ := ready
    split at taken <;> cases taken
    · exact absurd ‹_› (ready.found held)
    · exact kept rfl (by simp [ReaderPc.building])
  case h_13 =>
    split at taken <;> cases taken <;> exact kept rfl (by simp [ReaderPc.building])
  case h_15 record topics topic sequence todo at_ =>
    cases taken
    refine complete.grow ?_ ?_ (initializeTopic_subset _ _ _ _)
      (fun r t => initializeTopic_present _ _ _ _ r t) (by simp [ReaderPc.building])
    · simp [Link.initializeTopic]
    · rw [Link.initializeTopic_history]
  case h_9 at_ =>
    split at taken <;> cases taken
    exact kept rfl fun _ => by rw [at_]; rfl
  case h_25 =>
    split at taken <;> cases taken
    exact kept rfl (by simp [ReaderPc.building])
  case h_26 => cases taken
  all_goals
    rename_i at_
    cases taken
    exact kept rfl fun finished => by first | (rw [at_]; rfl) | (cases finished)

theorem step_complete {d : Deployment} {s s' : State} {action : Action} (held : Held d s)
    (answered : Answered d s) (rings : Rings s) (complete : Complete s)
    (taken : step d s action = some s') : Complete s' := by
  have framed : OutputFrame s s' → Complete s' := fun frame =>
    complete.grow (by rw [frame.link]) (by rw [frame.link]) (by rw [frame.link]; exact List.Subset.refl _)
      (fun _ _ => by rw [frame.link]) (by rw [frame.reader]; exact id)
  cases action with
  | writer outcome => exact (writerStep_move taken).complete (writerStep_frame taken).reader complete
  | reader input => exact readerStep_complete held answered rings complete taken
  | _ => exact framed (step_frame (by simp) (by simp) taken)

/-! ### The writer's record agrees with the later ones -/

theorem Agree.same {s s' : State} (agree : Agree s) (record : s'.record = s.record)
    (length : s'.link.records.length = s.link.records.length)
    (present : ∀ r t, (s'.link.getMeta r t).isSome = (s.link.getMeta r t).isSome) : Agree s' := by
  intro r cached k le lt t
  rw [record] at cached
  rw [length] at lt
  rw [present, present]
  exact agree r cached k le lt t

theorem WriterMove.agree {d : Deployment} {s s' : State} (moved : WriterMove d s s')
    (answered : Answered d s) (agree : Agree s) : Agree s' := by
  cases moved with
  | flush _ move link_eq record_eq =>
    subst link_eq
    have grows := move.grows .outside
    exact agree.same record_eq grows.length grows.present
  | deliver _ _ move link_eq record_eq =>
    subst link_eq
    exact agree.same record_eq move.grows.length move.grows.present
  | cache _ link_eq record_eq =>
    -- The record that is taken is the latest one.
    intro r cached k le lt t
    rw [record_eq] at cached
    rw [link_eq] at lt
    have newest := answered.composite r cached
    obtain rfl : k = r := by omega
    rfl
  | test _ link_eq _ _ record_eq | other _ link_eq record_eq | close _ link_eq record_eq =>
    exact agree.same record_eq (by rw [link_eq]) fun _ _ => by rw [link_eq]

theorem readerStep_agree {d : Deployment} {s s' : State} {input : ReaderInput}
    (agreeing : Agreeing d s (.reader input)) (agree : Agree s)
    (answered : Answered d s) (taken : readerStep d s input = some s') : Agree s' := by
  obtain ⟨moved, record_eq, -⟩ := readerStep_move taken
  cases moved with
  | same link_eq => exact agree.same record_eq (by rw [link_eq]) fun _ _ => by rw [link_eq]
  | enqueue _ pushed link_eq =>
    have records := (enqueueControlFrame_link pushed).1
    refine agree.same record_eq (by rw [link_eq]; exact congrArg _ records) fun r t => ?_
    rw [link_eq]
    exact congrArg Option.isSome (getMeta_congr records r t)
  | initializeTopic _ link_eq =>
    refine agree.same record_eq (by rw [link_eq]; simp [Link.initializeTopic]) fun r t => ?_
    rw [link_eq, initializeTopic_present]
  | @create topics order at_ link_eq =>
    cases input with
    | run | request | broken =>
      simp only [readerStep, at_] at taken
      cases taken
    | order order' =>
      simp only [readerStep, at_] at taken
      split at taken
      · split at taken <;> cases taken
        · exact agree
        · rename_i created
          have same := agreeing.2 topics (accepts_created at_ created)
          intro r cached k le lt t
          have older := (answered.record r cached).1
          rw [Link.createRecord_getMeta, Link.createRecord_getMeta, if_neg (Nat.ne_of_lt older)]
          split
          · rw [Bool.eq_iff_iff, ← same r cached t]
            split <;> simp_all
          · refine agree r cached k le ?_ t
            simp only [Link.createRecord, List.length_append, List.length_singleton] at lt
            omega
      · cases taken

theorem step_agree {d : Deployment} {s s' : State} {action : Action} (agreeing : Agreeing d s action)
    (answered : Answered d s) (agree : Agree s) (taken : step d s action = some s') : Agree s' := by
  have framed : OutputFrame s s' → Agree s' := fun frame =>
    agree.same frame.record (by rw [frame.link]) fun _ _ => by rw [frame.link]
  cases action with
  | writer outcome => exact (writerStep_move taken).agree answered agree
  | reader input => exact readerStep_agree agreeing agree answered taken
  | _ => exact framed (step_frame (by simp) (by simp) taken)

/-! ### The latest answer takes effect -/

/-- The record that the writer has taken, or the one that it would take. -/
def State.uses (d : Deployment) (s : State) : Option Nat :=
  match s.record with
  | some r => some r
  | none => s.composite.getRecord d.key

/-- What a client may expect after the `ok` answer to its latest request: the writer's cursor of each
requested topic has started no later than the answer, and everything from there to the cursor is sent
or excused; nothing is sent twice; and of another topic nothing is sent that was appended after the
answer. -/
structure TakesEffect (d : Deployment) (s : State) (answer : Answer) : Prop where
  cursors : ∀ t ∈ answer.topics, ∃ r start entry, s.uses d = some r ∧
    s.link.getMeta r t = some entry ∧ entry.initialized = true ∧ start ≤ answer.nextSequence t ∧
    InOrder d.config s t start entry.nextSequence
  once : ∀ t, ((s.link.written t).map Prod.fst).Pairwise (· < ·)
  dropped : ∀ t, t ∉ answer.topics → ∀ item ∈ s.link.written t, item.1 < answer.nextSequence t

/-- Whatever the requests, all frames of a topic are of one record and in order. -/
theorem Delivering.ordered {d : Deployment} {s : State} (delivering : Delivering d.config s)
    (t : Topic) : ((s.link.written t).map Prod.fst).Pairwise (· < ·) := by
  by_cases entry : ∃ r entry, s.record = some r ∧ s.link.getMeta r t = some entry ∧
      entry.initialized = true
  · obtain ⟨r, entry, cached, found, initialized⟩ := entry
    obtain ⟨start, started⟩ := (delivering.started r t).mpr ⟨entry, found, initialized⟩
    have only : ∀ r', s.record = some r' → r' = r := fun r' cached' =>
      Option.some.inj (cached'.symm.trans cached)
    obtain ⟨_, _, consumed⟩ := consumed_written delivering only started found
    exact consumed.ordered
  · have unsent : s.link.sent t = [] := by
      by_contra some_
      exact entry (delivering.idle t some_)
    rcases delivering.written t with none_ | ⟨_, _, _, due⟩
    · rw [none_, unsent]
      exact .nil
    · obtain ⟨r, held, cached, found, initialized, _⟩ := due.entry
      exact absurd ⟨r, held, cached, found, initialized⟩ entry

/-- What holds of every run whose requests agree. -/
structure Agreed (d : Deployment) (s : State) : Prop where
  held : Held d s
  complete : Complete s
  agree : Agree s

theorem initial_agreed (d : Deployment) : Agreed d (initial d) :=
  ⟨initial_held d, ⟨fun _ _ _ => nofun, fun _ _ _ => nofun, nofun⟩, nofun⟩

theorem reachable_agreed {d : Deployment} {s : State} (run : Run (step d) (Agreeing d) (initial d) s) :
    Agreed d s := by
  induction run with
  | refl => exact initial_agreed d
  | tail before action agreeing taken agreed =>
    obtain ⟨held, complete, agree⟩ := agreed
    have free : Run (step d) Free (initial d) _ := before.weaken fun _ _ _ => trivial
    have answered := reachable_answered free
    have reclaimer : action ≠ .reclaimer := by
      rintro rfl
      cases agreeing.1
    exact ⟨step_held reclaimer held taken,
      step_complete held answered (reachable_delivering free).rings complete taken,
      step_agree agreeing answered agree taken⟩

/-- In every run in which each request is accepted before the writer has a record, or asks for the
topics that the writer's record has, the latest answer takes effect. -/
theorem resubscription_takes_effect (d : Deployment) {s : State}
    (run : Run (step d) (Agreeing d) (initial d) s) {answer : Answer}
    (accepted : answer ∈ s.link.history.answers)
    (last : answer.record + 1 = s.link.records.length) : TakesEffect d s answer := by
  have free : Run (step d) Free (initial d) s := run.weaken fun _ _ _ => trivial
  have delivering := reachable_delivering free
  have answered := reachable_answered free
  obtain ⟨held, complete, agree⟩ := reachable_agreed run
  have kept := answered.answers answer accepted
  refine ⟨?_, delivering.ordered, ?_⟩
  · intro t asked
    have present := (kept.topics t).mpr asked
    -- The record in use is the answered one, or an earlier one with the same topics.
    obtain ⟨r, uses, le, some_, only⟩ : ∃ r, s.uses d = some r ∧ r ≤ answer.record ∧
        (s.link.getMeta r t).isSome = true ∧ ∀ r', s.record = some r' → r' = r := by
      cases cached : s.record with
      | some r =>
        have lt := (answered.record r cached).1
        refine ⟨r, by simp [State.uses, cached], by omega, ?_, by rintro _ ⟨⟩; rfl⟩
        rw [← agree r cached answer.record (by omega) kept.record t]
        exact present
      | none =>
        have some_record := held (List.ne_nil_of_length_pos (by omega))
        obtain ⟨r, found⟩ := Option.ne_none_iff_exists'.mp some_record
        have newest := answered.composite r found
        obtain rfl : answer.record = r := by omega
        exact ⟨_, by simp [State.uses, cached, found], Nat.le_refl _, present, nofun⟩
    obtain ⟨start, started, bound⟩ := complete.through answer accepted r le t some_
    obtain ⟨entry, found, initialized⟩ := (delivering.started r t).mp ⟨start, started⟩
    obtain ⟨reach, reached, consumed⟩ := consumed_written delivering only started found
    exact ⟨r, start, entry, uses, found, initialized, bound, Consumed.inOrder consumed reached⟩
  · intro t other item member
    have absent : ∀ r, s.record = some r → s.link.getMeta r t = none := by
      intro r cached
      have lt := (answered.record r cached).1
      have same := agree r cached answer.record (by omega) kept.record t
      by_contra some_
      exact other ((kept.topics t).mp (same.trans (Option.isSome_iff_ne_none.mpr some_)))
    rw [delivering.unwritten absent] at member
    cases member

/-- The reading thread accepts and answers a request for one topic. -/
def request (topic : Topic) : List Action :=
  [Action.reader .run, .reader (.request (.subscribe [topic])), .reader (.order [topic])] ++
    List.replicate 6 (Action.reader .run)

/-- Requests only before the writer has a record. -/
def Early (d : Deployment) (s : State) (action : Action) : Prop :=
  Inside s action ∧ ∀ topics ∈ s.accepts d action, s.record = none

instance (d : Deployment) (s : State) (action : Action) : Decidable (Early d s action) :=
  inferInstanceAs (Decidable (_ ∧ _))

theorem second_answer {s : State} {topics topics' : List Topic}
    (records : s.link.history.answers.map Answer.record = [0, 1])
    (asked : s.link.history.answers.map Answer.topics = [topics, topics']) :
    ∃ answer ∈ s.link.history.answers, answer.record = 1 ∧ answer.topics = topics' := by
  match answers : s.link.history.answers with
  | [first, second] =>
    rw [answers] at records asked
    simp only [List.map_cons, List.map_nil, List.cons.injEq, and_true] at records asked
    exact ⟨second, by simp, records.2, asked.2⟩
  | [] | [_] | _ :: _ :: _ :: _ => simp [answers] at records

/-- Two requests before the writer's first turn, and a message of the second one's topic. -/
theorem resubscription_takes_effect_early : ∃ s answer,
    Run (step (sample false)) (Agreeing (sample false)) (initial (sample false)) s ∧
    answer ∈ s.link.history.answers ∧ answer.topics = [ascii "U"] ∧
    s.link.written (ascii "U") = [(0, ascii "m")] ∧ TakesEffect (sample false) s answer := by
  obtain ⟨s, run, passed⟩ := Run.exists_of_replay (step (sample false)) (Early (sample false))
    (initial (sample false))
    (request (ascii "T") ++ request (ascii "U") ++
      [Action.publisher 0 (.create (ascii "U") (ascii "m")), .publisher 0 .run] ++
      List.replicate 5 (Action.writer .interrupted) ++ [Action.writer (.accepted 19)] ++
      List.replicate 6 (Action.writer .interrupted) ++ [Action.writer (.accepted 19)] ++
      List.replicate 12 (Action.writer .interrupted) ++ [Action.writer (.accepted 10)])
    (fun s => decide (s.link.history.answers.map Answer.record = [0, 1] ∧
      s.link.history.answers.map Answer.topics = [[ascii "T"], [ascii "U"]] ∧
      s.link.records.length = 2 ∧ s.link.written (ascii "U") = [(0, ascii "m")]))
    (by decide +kernel)
  obtain ⟨records, asked, length, written⟩ := of_decide_eq_true passed
  obtain ⟨answer, accepted, record, topics⟩ := second_answer records asked
  have agreeing : Run (step (sample false)) (Agreeing (sample false)) (initial (sample false)) s :=
    run.weaken fun s action early => ⟨early.1, fun topics accepts r cached =>
      absurd ((early.2 topics accepts).symm.trans cached) nofun⟩
  exact ⟨s, answer, agreeing, accepted, topics, written,
    resubscription_takes_effect (sample false) agreeing accepted (by rw [record, length])⟩

/-- A client that is being served for `T` asks for `U` instead: the writer keeps the first record,
which knows nothing of `U`. -/
theorem resubscription_ignored : ¬ ∀ (d : Deployment) (s : State) (answer : Answer),
    Run (step d) Inside (initial d) s → answer ∈ s.link.history.answers →
    answer.record + 1 = s.link.records.length → TakesEffect d s answer := by
  intro always
  obtain ⟨s, run, passed⟩ := Run.exists_of_replay (step (sample false)) Inside (initial (sample false))
    (request (ascii "T") ++ List.replicate 5 (Action.writer .interrupted) ++ request (ascii "U"))
    (fun s => decide (s.link.history.answers.map Answer.record = [0, 1] ∧
      s.link.history.answers.map Answer.topics = [[ascii "T"], [ascii "U"]] ∧
      s.link.records.length = 2 ∧ s.record = some 0 ∧ s.link.getMeta 0 (ascii "U") = none))
    (by decide +kernel)
  obtain ⟨records, asked, length, cached, absent⟩ := of_decide_eq_true passed
  obtain ⟨answer, accepted, record, topics⟩ := second_answer records asked
  obtain ⟨r, _, _, uses, found, _⟩ :=
    (always (sample false) s answer run accepted (by rw [record, length])).cursors (ascii "U")
      (by rw [topics]; exact List.mem_singleton_self _)
  simp only [State.uses, cached, Option.some.injEq] at uses
  subst uses
  cases absent.symm.trans found

end MessageRepeater.Subscriber
