import MessageRepeater.Subscriber.Stages

/-!
# No lost wakeup

A topic whose cursor is behind is in flight, and whoever holds it is not asleep. So where everybody is
asleep, no cursor is behind.
-/

namespace MessageRepeater.Subscriber
open Foundation Combiner Config Connection

/-! ### Entries of the record are connected to the dispatch loop -/

theorem Connected.kept {s s' : State} (connected : Connected s)
    (present : ∀ t, (s'.link.getMeta 0 t).isSome = true → (s.link.getMeta 0 t).isSome = true)
    (connections : s'.topicConnections = s.topicConnections)
    (reader : s.reader.toConnect ⊆ s'.reader.toConnect) : Connected s' := by
  intro t some_
  rw [connections]
  exact (connected t (present t some_)).imp_right fun member => reader member

theorem readerStep_connected {d : Deployment} {s s' : State} {input : ReaderInput}
    (loopMode : d.config.subscriberEnableEventLoop = true) (held : Held d s)
    (answered : Answered d s) (live : Live s') (connected : Connected s)
    (taken : readerStep d s input = some s') : Connected s' := by
  have ready := answered.reader
  have kept : ∀ {reader : ReaderPc}, s.reader.toConnect ⊆ reader.toConnect →
      Connected { s with reader } :=
    fun more => connected.kept (fun _ => id) rfl more
  unfold readerStep at taken
  split at taken
  case h_7 topic message after at_ =>
    split at taken <;> cases taken
    · exact absurd rfl live.reading
    · rename_i link pushed
      have records := (enqueueControlFrame_link pushed).1
      refine connected.kept (fun t => ?_) rfl ?_
      · show ((link.noteAnswers _).getMeta 0 t).isSome = true → _
        rw [getMeta_congr (show (link.noteAnswers _).records = _ from records)]
        exact id
      · rw [at_, if_pos loopMode]
        cases after <;> exact fun _ => id
  case h_8 after at_ =>
    cases taken
    refine connected.kept (fun _ => id) rfl ?_
    rw [at_]
    cases after <;> exact fun _ => id
  case h_10 topics order at_ =>
    split at taken
    · split at taken <;> cases taken
      · exact kept (by rw [at_]; exact List.nil_subset _)
      · intro t some_
        refine .inr ?_
        have none_yet : s.link.records.length = 0 := by
          have sole := live.sole
          simp only [Link.createRecord, List.length_append, List.length_singleton] at sole
          omega
        rw [Link.createRecord_getMeta, if_pos none_yet.symm] at some_
        split at some_
        · assumption
        · cases some_
    · cases taken
  case h_11 topics at_ =>
    rw [at_] at ready
    obtain ⟨record, ready⟩ := ready
    split at taken <;> cases taken
    · exact absurd ‹_› (ready.found held)
    · exact kept (by rw [at_]; exact fun _ => id)
  case h_13 at_ =>
    split at taken <;> cases taken <;> exact kept (by rw [at_]; exact fun _ => id)
  case h_9 at_ | h_25 at_ =>
    split at taken <;> cases taken
    exact kept (by rw [at_]; exact fun _ => id)
  case h_15 record topics topic sequence todo at_ =>
    cases taken
    refine connected.kept (fun t => ?_) rfl (by rw [at_]; exact fun _ => id)
    show ((s.link.initializeTopic record topic sequence).getMeta 0 t).isSome = true → _
    rw [initializeTopic_present]
    exact id
  case h_16 topics at_ =>
    cases taken
    refine connected.kept (fun _ => id) rfl ?_
    rw [at_, if_pos loopMode]
    exact fun _ => id
  case h_18 topic todo at_ =>
    cases taken
    intro t some_
    have held := connected t some_
    rw [at_] at held
    by_cases same : t = topic
    · exact .inl (by simp [same])
    · refine held.imp ?_ fun member => (List.mem_cons.mp member).resolve_left same
      simp only [if_neg same]
      exact id
  case h_26 => cases taken
  all_goals
    rename_i at_
    cases taken
    refine connected.kept (fun _ => id) rfl ?_
    rw [at_]
    try dsimp only
    try split
    all_goals exact fun _ => id

theorem step_connected {d : Deployment} {s s' : State} {action : Action}
    (loopMode : d.config.subscriberEnableEventLoop = true) (running : Running s) (held : Held d s)
    (answered : Answered d s) (live : Live s') (inside : Inside s action) (connected : Connected s)
    (taken : step d s action = some s') : Connected s' := by
  have framed : OutputFrame s s' → s'.topicConnections = s.topicConnections → Connected s' :=
    fun frame connections =>
      connected.kept (fun t => by rw [frame.link]; exact id) connections
        (by rw [frame.reader]; exact fun _ => id)
  cases action with
  | reader input => exact readerStep_connected loopMode held answered live connected taken
  | writer outcome =>
    obtain ⟨pc, at_, _⟩ := running.loop
    have move := writerStep_move taken
    have frame := writerStep_frame taken
    simp only [step, writerStep, at_] at taken
    refine connected.kept (fun t => ?_) (loopStep_frame taken).topicConnections ?_
    · rw [move.present]
      exact id
    · rw [frame.reader]
      exact fun _ => id
  | publisher id input => exact framed (publisherStep_frame taken) (publisherStep_worker taken).2.2.2.1
  | dispatcher => exact framed (dispatcherStep_frame taken) (dispatcherStep_writer taken).2.1
  | writable =>
    refine framed (writableStep_frame taken) ?_
    simp only [step, writableStep] at taken
    split at taken <;> cases taken
    rfl
  | detector | reclaimer => cases inside
  | other key record =>
    refine framed (otherStep_frame taken) ?_
    simp only [step] at taken
    split at taken
    · cases taken
    · split at taken <;> cases taken <;> rfl

/-! ### A topic that is behind is in flight -/

/-- The connection's side of a topic's way, as far as another thread leaves it alone. -/
structure LoopKept (s s' : State) : Prop where
  queue : s.worker.workQueue ⊆ s'.worker.workQueue
  pending : s'.link.output.pendingFrame = s.link.output.pendingFrame
  writer : s'.writer = s.writer

theorem LoopKept.atLoop {s s' : State} (kept : LoopKept s s') {t : Topic} (held : AtLoop s t) :
    AtLoop s' t := by
  rcases held with queued | parked | ⟨pc, at_, holds⟩
  · exact .inl (kept.queue queued)
  · exact .inr (.inl (by rwa [kept.pending]))
  · exact .inr (.inr ⟨pc, kept.writer.trans at_, holds⟩)

theorem submitWork_subset {worker : EventLoopWorker} (coherent : EventLoopWorker.Coherent worker)
    (topic : Topic) : worker.workQueue ⊆ (worker.submitWork topic).2.workQueue :=
  fun t queued => (coherent.mem_submitWork topic t).mpr (.inr queued)

theorem publisherStep_tracked {d : Deployment} {s s' : State} {id : Nat} {input : PublisherInput}
    (loopMode : d.config.subscriberEnableEventLoop = true) (running : Running s)
    (tracked : Tracked s) (taken : publisherStep d s id input = some s') : Tracked s' := by
  have frame := publisherStep_frame taken
  obtain ⟨worker, writer, dispatcher, _⟩ := publisherStep_worker taken
  have loop : LoopKept s s' :=
    ⟨by rw [worker]; exact fun _ queued => queued, by rw [frame.link], writer⟩
  intro t named behind
  -- The topic was in flight before, and `publishers` says where it is if a publisher had it.
  have kept : s'.logs t = s.logs t → s.dispatch.workQueue ⊆ s'.dispatch.workQueue →
      (∀ other, s.publishers other = .submit t → (∃ i, s'.publishers i = .submit t) ∨
        t ∈ s'.dispatch.workQueue) → InFlight s' t := by
    intro logs queue publishers
    have before : Behind s t := by
      unfold Behind at *
      rwa [frame.link, logs] at behind
    rcases tracked t named before with ⟨other, at_⟩ | queued | carried | reading | held
    · exact (publishers other at_).imp_right .inl
    · exact .inr (.inl (queue queued))
    · exact .inr (.inr (.inl (by rwa [dispatcher])))
    · exact .inr (.inr (.inr (.inl (by rwa [frame.reader]))))
    · exact .inr (.inr (.inr (.inr (loop.atLoop held))))
  have others : ∀ {u : State} {pc : PublisherPc}, u.publishers = s.publishers →
      s.publishers id ≠ .submit t → ∀ other, s.publishers other = .submit t →
      ∃ i, (u.setPublisher id pc).publishers i = .submit t := by
    intro u pc same free other at_
    have apart : other ≠ id := by
      rintro rfl
      exact free at_
    exact ⟨other, by simp only [State.setPublisher, if_neg apart, same, at_]⟩
  unfold publisherStep at taken
  split at taken
  case h_1 at_ =>
    split at taken <;> cases taken
    · exact kept rfl (fun _ queued => queued) fun other at_ => .inl ⟨other, at_⟩
    · exact kept rfl (fun _ queued => queued) fun other held =>
        .inl (others rfl (by rw [at_]; simp) other held)
  case h_2 at_ =>
    split at taken <;> cases taken
    exact kept rfl (fun _ queued => queued) fun other at_ => .inl ⟨other, at_⟩
  case h_3 at_ =>
    cases taken
    exact kept rfl (fun _ queued => queued) fun other held =>
      .inl (others rfl (by rw [at_]; simp) other held)
  case h_4 topic message at_ =>
    split at taken <;> cases taken
    · exact kept rfl (fun _ queued => queued) fun other held =>
        .inl (others rfl (by rw [at_]; simp) other held)
    · by_cases same : t = topic
      · subst same
        exact .inl ⟨id, by simp [State.setPublisher, loopMode]⟩
      · exact kept (if_neg same) (fun _ queued => queued) fun other held =>
          .inl (others rfl (by rw [at_]; simp) other held)
  case h_5 topic at_ =>
    cases taken
    refine kept rfl (submitWork_subset running.dispatch topic) fun other held => ?_
    by_cases same : other = id
    · subst same
      cases at_.symm.trans held
      exact .inr ((running.dispatch.mem_submitWork t t).mpr (.inl rfl))
    · exact .inl ⟨other, by simp only [State.setPublisher, if_neg same, held]⟩
  case h_6 at_ =>
    cases taken
    refine kept rfl ?_ fun other held => .inl (others rfl (by rw [at_]; simp) other held)
    show s.dispatch.workQueue ⊆ (s.dispatch.notifyStartWork d.pipeCapacity).workQueue
    rw [EventLoopWorker.notifyStartWork_queue]
    exact fun _ queued => queued
  case h_7 => cases taken

theorem dispatcherStep_tracked {d : Deployment} {s s' : State} (running : Running s)
    (connected : Connected s) (tracked : Tracked s) (taken : dispatcherStep d s = some s') :
    Tracked s' := by
  have frame := dispatcherStep_frame taken
  obtain ⟨writer, _, _, publishers⟩ := dispatcherStep_writer taken
  intro t named behind
  have kept : s'.logs = s.logs → s.worker.workQueue ⊆ s'.worker.workQueue →
      (t ∈ s.dispatch.workQueue → t ∈ s'.dispatch.workQueue ∨ s'.dispatcher.carries t) →
      (s.dispatcher.carries t → InFlight s' t) → InFlight s' t := by
    intro logs queue popped carried
    rcases tracked t named (behind.congr frame.link logs) with at_ | queued | held | reading | held
    · exact .inl (by rwa [publishers])
    · rcases popped queued with still | taken
      · exact .inr (.inl still)
      · exact .inr (.inr (.inl taken))
    · exact carried held
    · exact .inr (.inr (.inr (.inl (by rwa [frame.reader]))))
    · exact .inr (.inr (.inr (.inr (LoopKept.atLoop ⟨queue, by rw [frame.link], writer⟩ held))))
  unfold dispatcherStep at taken
  split at taken
  case h_1 at_ =>
    split at taken <;> cases taken
    exact kept rfl (fun _ queued => queued) .inl (by rw [at_]; nofun)
  case h_2 at_ =>
    split at taken <;> cases taken <;>
      exact kept rfl (fun _ queued => queued) .inl (by rw [at_]; nofun)
  case h_3 at_ =>
    cases taken
    exact kept rfl (fun _ queued => queued) .inr (by rw [at_]; nofun)
  case h_4 at_ =>
    cases taken
    exact kept rfl (fun _ queued => queued) .inl (by rw [at_]; nofun)
  case h_5 topic todo at_ =>
    cases taken
    refine kept rfl (fun _ queued => queued) .inl ?_
    rw [at_]
    intro member
    rcases List.mem_cons.mp member with rfl | later
    · -- A topic whose list misses the connection is one that the reading thread has not come to.
      obtain ⟨entry, found, _⟩ := behind
      rcases connected t (by rw [show s.link.getMeta 0 t = some entry from found]; rfl) with
        visited | waiting
      · exact .inr (.inr (.inl (.inl ⟨rfl, visited⟩)))
      · exact .inr (.inr (.inr (.inl (toConnect_subset _ waiting))))
    · exact .inr (.inr (.inl (.inr later)))
  case h_6 topic todo at_ =>
    cases taken
    refine kept rfl (fun _ queued => queued) .inl ?_
    rw [at_]
    rintro (⟨_, none_⟩ | later)
    · exact absurd none_ (Nat.lt_irrefl 0)
    · exact .inr (.inr (.inl later))
  case h_7 topic count todo at_ =>
    rw [if_pos running.registered] at taken
    cases taken
    refine kept rfl (submitWork_subset running.worker topic) .inl ?_
    rw [at_]
    rintro (⟨rfl, _⟩ | later)
    · exact .inr (.inr (.inr (.inr (.inl ((running.worker.mem_submitWork topic topic).mpr (.inl rfl))))))
    · refine .inr (.inr (.inl ?_))
      dsimp only
      split
      · exact later
      · exact .inr later
  case h_8 topic count todo at_ =>
    cases taken
    refine kept rfl ?_ .inl ?_
    · show s.worker.workQueue ⊆ (s.worker.notifyStartWork d.pipeCapacity).workQueue
      rw [EventLoopWorker.notifyStartWork_queue]
      exact fun _ queued => queued
    · rw [at_]
      exact fun later => .inr (.inr (.inl (.inr later)))

/-- A step of the reading thread leaves a cursor behind only if it was, or if it has set it. -/
theorem ReaderMove.behind {s s' : State} (moved : ReaderMove s s') (logs : s'.logs = s.logs)
    {t : Topic} (behind : Behind s' t) : Behind s t ∨
    ∃ record topics sequence todo, s.reader = .initializeTopic record topics t sequence todo ∧
      (s.link.getMeta record t).isSome = true := by
  have before := behind
  obtain ⟨entry, found, initialized, lt⟩ := behind
  rw [logs] at lt
  cases moved with
  | same link_eq => exact .inl (before.congr link_eq logs)
  | enqueue _ pushed link_eq =>
    rw [link_eq] at found
    exact .inl ⟨entry, (getMeta_congr (enqueueControlFrame_link pushed).1 0 t).symm.trans found,
      initialized, lt⟩
  | create _ link_eq =>
    rw [link_eq, Link.createRecord_getMeta] at found
    split at found
    · split at found <;> cases found
      cases initialized
    · exact .inl ⟨entry, found, initialized, lt⟩
  | @initializeTopic record topics topic sequence todo at_ link_eq =>
    rw [link_eq, Link.initializeTopic_getMeta] at found
    split at found
    · rename_i set
      obtain ⟨_, rfl, fresh⟩ := set
      obtain ⟨old, held, _⟩ := Option.map_eq_some_iff.mp fresh
      exact .inr ⟨record, topics, sequence, todo, at_, by rw [held]; rfl⟩
    · exact .inl ⟨entry, found, initialized, lt⟩

theorem readerStep_tracked {d : Deployment} {s s' : State} {input : ReaderInput}
    (loopMode : d.config.subscriberEnableEventLoop = true) (running : Running s)
    (held : Held d s) (answered : Answered d s) (live : Live s') (tracked : Tracked s)
    (taken : readerStep d s input = some s') : Tracked s' := by
  have ready := answered.reader
  obtain ⟨move, -, writer, -, logs⟩ := readerStep_move taken
  obtain ⟨dispatch, dispatcher, publishers⟩ := readerStep_dispatch taken
  intro t named behind
  have kept : (s.worker.workQueue ⊆ s'.worker.workQueue) →
      s'.link.output.pendingFrame = s.link.output.pendingFrame →
      (t ∈ s.reader.toSubmit → t ∈ s'.reader.toSubmit ∨ t ∈ s'.worker.workQueue) →
      Behind s t → InFlight s' t := by
    intro queue pending submits was
    rcases tracked t named was with at_ | queued | carried | reading | held
    · exact .inl (by rwa [publishers])
    · exact .inr (.inl (by rwa [dispatch]))
    · exact .inr (.inr (.inl (by rwa [dispatcher])))
    · rcases submits reading with still | queued
      · exact .inr (.inr (.inr (.inl still)))
      · exact .inr (.inr (.inr (.inr (.inl queued))))
    · exact .inr (.inr (.inr (.inr (LoopKept.atLoop ⟨queue, pending, writer⟩ held))))
  have was : (∀ record topics sequence todo,
      s.reader ≠ .initializeTopic record topics t sequence todo) → Behind s t := by
    intro steady
    refine (move.behind logs behind).resolve_right ?_
    rintro ⟨record, topics, sequence, todo, at_, _⟩
    exact steady _ _ _ _ at_
  unfold readerStep at taken
  split at taken
  case h_7 topic message after at_ =>
    split at taken <;> cases taken
    · exact absurd rfl live.reading
    · rename_i link pushed
      cases Link.enqueueControlFrame_some pushed
      refine kept (fun _ queued => queued) rfl ?_ (was (by rw [at_]; nofun))
      rw [at_, if_pos loopMode]
      cases after <;> exact .inl
  case h_8 after at_ =>
    cases taken
    refine kept ?_ rfl ?_ (was (by rw [at_]; nofun))
    · show s.worker.workQueue ⊆ (s.worker.notifyStartWork d.pipeCapacity).workQueue
      rw [EventLoopWorker.notifyStartWork_queue]
      exact fun _ queued => queued
    · rw [at_]
      cases after <;> exact .inl
  case h_10 topics order at_ =>
    split at taken
    · split at taken <;> cases taken <;>
        exact kept (fun _ queued => queued) rfl (by rw [at_]; nofun) (was (by rw [at_]; nofun))
    · cases taken
  case h_11 topics at_ =>
    rw [at_] at ready
    obtain ⟨record, ready⟩ := ready
    split at taken <;> cases taken
    · exact absurd ‹_› (ready.found held)
    · exact kept (fun _ queued => queued) rfl (by rw [at_]; exact .inl) (was (by rw [at_]; nofun))
  case h_13 at_ =>
    split at taken <;> cases taken <;>
      exact kept (fun _ queued => queued) rfl (by rw [at_]; exact .inl) (was (by rw [at_]; nofun))
  case h_9 at_ | h_25 at_ =>
    split at taken <;> cases taken
    exact kept (fun _ queued => queued) rfl (by rw [at_]; exact .inl) (was (by rw [at_]; nofun))
  case h_15 record topics topic sequence todo at_ =>
    cases taken
    rw [at_] at ready
    rcases move.behind logs behind with was | ⟨record', topics', sequence', todo', at', present⟩
    · exact kept (fun _ queued => queued) rfl (by rw [at_]; exact .inl) was
    · -- The cursor has just been set; the topic of the request is still to be submitted.
      cases at_.symm.trans at'
      exact .inr (.inr (.inr (.inl ((ready.1.present t).mp present))))
  case h_16 topics at_ =>
    cases taken
    refine kept (fun _ queued => queued) rfl ?_ (was (by rw [at_]; nofun))
    rw [at_, if_pos loopMode]
    exact .inl
  case h_19 topic todo at_ =>
    rw [if_pos running.registered] at taken
    cases taken
    exact kept (fun _ queued => queued) rfl (by rw [at_]; exact .inl) (was (by rw [at_]; nofun))
  case h_20 topic todo at_ =>
    cases taken
    refine kept (submitWork_subset running.worker topic) rfl ?_ (was (by rw [at_]; nofun))
    rw [at_]
    intro member
    rcases List.mem_cons.mp member with rfl | later
    · exact .inr ((running.worker.mem_submitWork t t).mpr (.inl rfl))
    · refine .inl ?_
      dsimp only
      split <;> exact later
  case h_21 todo at_ =>
    cases taken
    refine kept ?_ rfl (by rw [at_]; exact .inl) (was (by rw [at_]; nofun))
    show s.worker.workQueue ⊆ (s.worker.notifyStartWork d.pipeCapacity).workQueue
    rw [EventLoopWorker.notifyStartWork_queue]
    exact fun _ queued => queued
  case h_26 => cases taken
  all_goals
    rename_i at_
    cases taken
    refine kept (fun _ queued => queued) rfl ?_ (was (by rw [at_]; nofun))
    rw [at_]
    try dsimp only
    try split
    all_goals exact .inl

theorem step_tracked {d : Deployment} {s s' : State} {action : Action}
    (loopMode : d.config.subscriberEnableEventLoop = true) (running : Running s)
    (held : Held d s) (delivering : Delivering d.config s) (answered : Answered d s) (live : Live s)
    (live' : Live s')
    (inside : Inside s action) (facts : Facts s) (connected : Connected s) (tracked : Tracked s)
    (taken : step d s action = some s') : Tracked s' := by
  cases action with
  | publisher id input => exact publisherStep_tracked loopMode running tracked taken
  | dispatcher => exact dispatcherStep_tracked running connected tracked taken
  | reader input => exact readerStep_tracked loopMode running held answered live' tracked taken
  | writer outcome =>
    obtain ⟨pc, at_, _⟩ := running.loop
    have frame := writerStep_frame taken
    simp only [step, writerStep, at_] at taken
    have rest := loopStep_frame taken
    have first : ∀ r, s.record = some r → r = 0 := by
      intro r cached
      have lt := (answered.record r cached).1
      have sole := live.sole
      omega
    intro t named behind
    by_cases upstream : (∃ id, s.publishers id = .submit t) ∨ t ∈ s.dispatch.workQueue ∨
        s.dispatcher.carries t ∨ t ∈ s.reader.toSubmit
    · unfold InFlight
      rw [rest.publishers, rest.dispatch, rest.dispatcher, frame.reader]
      rcases upstream with at_ | queued | carried | reading
      · exact .inl at_
      · exact .inr (.inl queued)
      · exact .inr (.inr (.inl carried))
      · exact .inr (.inr (.inr (.inl reading)))
    · have was : Behind s t → AtLoop s t := fun before => by
        rcases tracked t named before with held | held | held | held | held
        · exact absurd (.inl held) upstream
        · exact absurd (.inr (.inl held)) upstream
        · exact absurd (.inr (.inr (.inl held))) upstream
        · exact absurd (.inr (.inr (.inr held))) upstream
        · exact held
      exact .inr (.inr (.inr (.inr (loopStep_atLoop running delivering
        (live.settled delivering answered) first (facts pc at_) live' at_ named taken behind was))))
  | writable =>
    simp only [step, writableStep] at taken
    split at taken
    · rename_i armed
      cases taken
      intro t named behind
      rcases tracked t named (behind.congr rfl rfl) with held | held | held | held | held
      · exact .inl held
      · exact .inr (.inl held)
      · exact .inr (.inr (.inl held))
      · exact .inr (.inr (.inr (.inl held)))
      · exact .inr (.inr (.inr (.inr (held.kept armed.1 id rfl rfl))))
    · cases taken
  | detector | reclaimer => cases inside
  | other key record =>
    rw [otherStep_same taken]
    exact tracked

end MessageRepeater.Subscriber
