import MessageRepeater.Subscriber.WriterMoves

/-!
# What the threads leave to each other

The reading thread's effect on the output, and the parts of the state that each other thread leaves
as they are.
-/

namespace MessageRepeater.Subscriber
open Foundation Combiner Config Connection

/-- The effect of a step of the reading thread on the output and the records. -/
inductive ReaderMove (s s' : State) : Prop where
  | same (link_eq : s'.link = s.link)
  | enqueue {topic message after link} (at_ : s.reader = .enqueue topic message after)
      (pushed : s.link.enqueueControlFrame topic message = some link)
      (link_eq : s'.link = link.noteAnswers (s.answer after))
  | create {topics order} (at_ : s.reader = .createRecord topics)
      (link_eq : s'.link = s.link.createRecord topics order)
  | initializeTopic {record topics topic sequence todo}
      (at_ : s.reader = .initializeTopic record topics topic sequence todo)
      (link_eq : s'.link = s.link.initializeTopic record topic sequence)

theorem readerStep_move {d : Deployment} {s s' : State} {input : ReaderInput}
    (taken : readerStep d s input = some s') :
    ReaderMove s s' ∧ s'.record = s.record ∧ s'.writer = s.writer ∧ s'.store = s.store ∧
      s'.logs = s.logs := by
  unfold readerStep at taken
  split at taken
  case h_7 topic message after at_ =>
    split at taken <;> cases taken
    · exact ⟨.same rfl, rfl, rfl, rfl, rfl⟩
    · exact ⟨.enqueue at_ ‹_› rfl, rfl, rfl, rfl, rfl⟩
  case h_10 topics order at_ =>
    split at taken
    · split at taken <;> cases taken
      · exact ⟨.same rfl, rfl, rfl, rfl, rfl⟩
      · exact ⟨.create at_ rfl, rfl, rfl, rfl, rfl⟩
    · cases taken
  case h_15 record topics topic sequence todo at_ =>
    cases taken
    exact ⟨.initializeTopic at_ rfl, rfl, rfl, rfl, rfl⟩
  all_goals
    first
      | (cases taken <;> exact ⟨.same rfl, rfl, rfl, rfl, rfl⟩)
      | (split at taken <;> cases taken <;> exact ⟨.same rfl, rfl, rfl, rfl, rfl⟩)

/-! ### Where the reading thread goes -/

/-- The program counters that hold neither a request nor a reply nor a cursor. -/
def ReaderPc.quiet : ReaderPc → Bool
  | .enqueue _ _ _ | .createRecord _ | .getRecord _ | .getCircle _ _ _ | .circleMeta _ _ _ _
  | .initializeTopic _ _ _ _ _ => false
  | _ => true

/-- The next program counter, and where what it holds comes from. -/
inductive ReaderGoes (d : Deployment) (s : State) (input : ReaderInput) : ReaderPc → Prop where
  | quiet {pc} (quiet : pc.quiet = true) : ReaderGoes d s input pc
  | pong (asked : input = .request .ping) :
      ReaderGoes d s input (.enqueue messageOpPong (ascii "ok") .refresh)
  | refuse {text} (known : text = "fail subscribe" ∨ text = "topic is empty or not support") :
      ReaderGoes d s input (.respond text .again)
  | create {topics} (asked : input = .request (.subscribe topics)) :
      ReaderGoes d s input (.createRecord topics)
  | getRecord {topics} (at_ : s.reader = .createRecord topics) : ReaderGoes d s input (.getRecord topics)
  | getCircle {record topics} (at_ : s.reader = .getRecord topics)
      (held : s.composite.getRecord d.key = some record) :
      ReaderGoes d s input (.getCircle record topics topics)
  | answer {record topics} (at_ : s.reader = .getCircle record topics []) :
      ReaderGoes d s input (.respond "ok" (.answered record topics))
  | unmade {record topics topic todo} (at_ : s.reader = .getCircle record topics (topic :: todo))
      (unmade : s.store.getCircle topic = none) :
      ReaderGoes d s input (.initializeTopic record topics topic 0 todo)
  | circleMeta {record topics topic todo} (at_ : s.reader = .getCircle record topics (topic :: todo)) :
      ReaderGoes d s input (.circleMeta record topics topic todo)
  | setting {record topics topic todo} (at_ : s.reader = .circleMeta record topics topic todo) :
      ReaderGoes d s input (.initializeTopic record topics topic (s.nextSequence topic) todo)
  | next {record topics topic sequence todo}
      (at_ : s.reader = .initializeTopic record topics topic sequence todo) :
      ReaderGoes d s input (.getCircle record topics todo)

theorem afterEnqueue_quiet (after : AfterEnqueue) : (ReaderPc.afterEnqueue after).quiet = true := by
  cases after <;> rfl

theorem readerStep_goes {d : Deployment} {s s' : State} {input : ReaderInput}
    (taken : readerStep d s input = some s') : ReaderGoes d s input s'.reader := by
  unfold readerStep at taken
  split at taken
  case h_26 => cases taken
  case h_3 =>
    cases taken
    exact .pong rfl
  case h_6 =>
    cases taken
    dsimp only
    split
    · exact .refuse (.inr rfl)
    · exact .create rfl
  case h_7 after _ =>
    split at taken <;> cases taken
    · exact .quiet rfl
    · refine .quiet ?_
      dsimp only
      split
      · rfl
      · exact afterEnqueue_quiet after
  case h_8 after _ =>
    cases taken
    exact .quiet (afterEnqueue_quiet after)
  case h_10 at_ =>
    split at taken
    · split at taken <;> cases taken
      · exact .refuse (.inl rfl)
      · exact .getRecord at_
    · cases taken
  case h_11 at_ =>
    split at taken <;> cases taken
    · exact .refuse (.inl rfl)
    · exact .getCircle at_ ‹_›
  case h_12 at_ =>
    cases taken
    exact .answer at_
  case h_13 at_ =>
    split at taken <;> cases taken
    · exact .unmade at_ ‹_›
    · exact .circleMeta at_
  case h_14 at_ =>
    cases taken
    exact .setting at_
  case h_15 at_ =>
    cases taken
    exact .next at_
  case h_1 | h_16 | h_19 | h_20 =>
    cases taken
    refine .quiet ?_
    dsimp only
    split <;> rfl
  case h_9 | h_25 =>
    split at taken <;> cases taken
    exact .quiet rfl
  all_goals
    cases taken
    exact .quiet rfl

/-! ### The fields that each thread changes -/

theorem publisherStep_same {d : Deployment} {s s' : State} {id : Nat} {input : PublisherInput}
    (taken : publisherStep d s id input = some s') : s' = { s with
      store := s'.store
      logs := s'.logs
      publishers := s'.publishers
      dispatch := s'.dispatch } := by
  unfold publisherStep at taken
  split at taken
  case h_3 | h_5 | h_6 =>
    cases taken
    rfl
  case h_7 => cases taken
  all_goals split at taken <;> cases taken <;> rfl

theorem dispatcherStep_same {d : Deployment} {s s' : State} (taken : dispatcherStep d s = some s') :
    s' = { s with
      dispatch := s'.dispatch
      dispatcher := s'.dispatcher
      worker := s'.worker } := by
  unfold dispatcherStep at taken
  split at taken
  case h_1 | h_2 | h_7 => split at taken <;> cases taken <;> rfl
  all_goals
    cases taken
    rfl

theorem readerStep_same {d : Deployment} {s s' : State} {input : ReaderInput}
    (taken : readerStep d s input = some s') : s' = { s with
      link := s'.link
      composite := s'.composite
      subscribed := s'.subscribed
      alived := s'.alived
      worker := s'.worker
      topicConnections := s'.topicConnections
      reader := s'.reader } := by
  unfold readerStep at taken
  split at taken
  case h_26 => cases taken
  case h_7 | h_9 | h_11 | h_13 | h_25 => split at taken <;> cases taken <;> rfl
  case h_10 =>
    split at taken
    · split at taken <;> cases taken <;> rfl
    · cases taken
  all_goals
    cases taken
    rfl

theorem writableStep_same {s s' : State} (taken : writableStep s = some s') :
    s.writer = .loop .waiting ∧ s.worker.writeEventEnabled = true ∧ s' = s.goLoop .entry := by
  unfold writableStep at taken
  split at taken
  · rename_i armed
    cases taken
    exact ⟨armed.1, armed.2, rfl⟩
  · cases taken

theorem detectorStep_same {d : Deployment} {s s' : State} (taken : detectorStep d s = some s') :
    s' = { s with
      worker := s'.worker
      alived := s'.alived
      detector := s'.detector } := by
  unfold detectorStep at taken
  split at taken
  case h_1 | h_2 | h_5 =>
    split at taken <;> cases taken
    rfl
  all_goals cases taken <;> rfl

theorem reclaimerStep_same {d : Deployment} {s s' : State} (taken : reclaimerStep d s = some s') :
    s' = { s with
      composite := s'.composite
      subscribed := s'.subscribed
      exists_ := s'.exists_
      alived := s'.alived
      worker := s'.worker
      loopRegistered := s'.loopRegistered
      topicConnections := s'.topicConnections
      reclaimer := s'.reclaimer } := by
  unfold reclaimerStep at taken
  split at taken
  all_goals cases taken <;> rfl

theorem otherStep_same {d : Deployment} {s s' : State} {key : Key} {record : Option Nat}
    (taken : step d s (.other key record) = some s') :
    s' = { s with composite := s'.composite } := by
  simp only [step] at taken
  split at taken
  · cases taken
  · split at taken <;> cases taken <;> rfl

/-- A step that is neither the reading thread's nor the writer's leaves the output alone. -/
structure OutputFrame (s s' : State) : Prop where
  link : s'.link = s.link
  record : s'.record = s.record
  reader : s'.reader = s.reader
  call : s'.writer.call = s.writer.call
  subscribed : s'.subscribed = true → s.subscribed = true

theorem publisherStep_frame {d : Deployment} {s s' : State} {id : Nat} {input : PublisherInput}
    (taken : publisherStep d s id input = some s') : OutputFrame s s' := by
  rw [publisherStep_same taken]
  exact ⟨rfl, rfl, rfl, rfl, fun held => held⟩

theorem dispatcherStep_frame {d : Deployment} {s s' : State}
    (taken : dispatcherStep d s = some s') : OutputFrame s s' := by
  rw [dispatcherStep_same taken]
  exact ⟨rfl, rfl, rfl, rfl, id⟩

theorem writableStep_frame {s s' : State} (taken : writableStep s = some s') :
    OutputFrame s s' := by
  obtain ⟨waiting, _, rfl⟩ := writableStep_same taken
  exact ⟨rfl, rfl, rfl, by rw [waiting]; rfl, id⟩

theorem detectorStep_frame {d : Deployment} {s s' : State} (taken : detectorStep d s = some s') :
    OutputFrame s s' := by
  rw [detectorStep_same taken]
  exact ⟨rfl, rfl, rfl, rfl, id⟩

theorem reclaimerStep_frame {d : Deployment} {s s' : State} (taken : reclaimerStep d s = some s') :
    OutputFrame s s' := by
  have same := reclaimerStep_same taken
  refine ⟨by rw [same], by rw [same], by rw [same], by rw [same], ?_⟩
  unfold reclaimerStep at taken
  split at taken
  case h_4 =>
    cases taken
    nofun
  all_goals cases taken <;> exact id

theorem otherStep_frame {d : Deployment} {s s' : State} {key : Key} {record : Option Nat}
    (taken : step d s (.other key record) = some s') : OutputFrame s s' := by
  rw [otherStep_same taken]
  exact ⟨rfl, rfl, rfl, rfl, id⟩

theorem step_frame {d : Deployment} {s s' : State} {action : Action}
    (writer : ∀ outcome, action ≠ .writer outcome) (reader : ∀ input, action ≠ .reader input)
    (taken : step d s action = some s') : OutputFrame s s' := by
  cases action with
  | writer outcome => exact absurd rfl (writer outcome)
  | reader input => exact absurd rfl (reader input)
  | publisher id input => exact publisherStep_frame taken
  | dispatcher => exact dispatcherStep_frame taken
  | writable => exact writableStep_frame taken
  | detector => exact detectorStep_frame taken
  | reclaimer => exact reclaimerStep_frame taken
  | other key record => exact otherStep_frame taken

theorem step_reader {d : Deployment} {s s' : State} {action : Action}
    (other : ∀ input, action ≠ .reader input) (taken : step d s action = some s') :
    s'.reader = s.reader := by
  cases action with
  | reader input => exact absurd rfl (other input)
  | writer outcome => exact (writerStep_frame taken).reader
  | _ => exact (step_frame (by simp) (by simp) taken).reader

/-- The writer's program counter and its record are the writer's own, the wakeup apart. -/
theorem step_writer {d : Deployment} {s s' : State} {action : Action}
    (writer : ∀ outcome, action ≠ .writer outcome) (writable : action ≠ .writable)
    (taken : step d s action = some s') : s'.writer = s.writer ∧ s'.record = s.record := by
  cases action with
  | writer outcome => exact absurd rfl (writer outcome)
  | writable => exact absurd rfl writable
  | reader input =>
    obtain ⟨_, record, writer, _⟩ := readerStep_move taken
    exact ⟨writer, record⟩
  | publisher id input =>
    rw [publisherStep_same taken]
    exact ⟨rfl, rfl⟩
  | dispatcher =>
    rw [dispatcherStep_same taken]
    exact ⟨rfl, rfl⟩
  | detector =>
    rw [detectorStep_same taken]
    exact ⟨rfl, rfl⟩
  | reclaimer =>
    rw [reclaimerStep_same taken]
    exact ⟨rfl, rfl⟩
  | other key record =>
    rw [otherStep_same taken]
    exact ⟨rfl, rfl⟩

/-- Whether the connection is in the map changes where the entry is erased. -/
theorem step_exists {d : Deployment} {s s' : State} {action : Action} (other : action ≠ .reclaimer)
    (taken : step d s action = some s') : s'.exists_ = s.exists_ := by
  cases action with
  | reclaimer => exact absurd rfl other
  | writer outcome => exact (writerStep_frame taken).present
  | publisher id input => rw [publisherStep_same taken]
  | dispatcher => rw [dispatcherStep_same taken]
  | reader input => rw [readerStep_same taken]
  | writable =>
    obtain ⟨_, _, rfl⟩ := writableStep_same taken
    rfl
  | detector => rw [detectorStep_same taken]
  | other key record => rw [otherStep_same taken]

theorem step_watchers {d : Deployment} {s s' : State} {action : Action}
    (taken : step d s action = some s') : (action ≠ .detector → s'.detector = s.detector) ∧
      (action ≠ .reclaimer → s'.reclaimer = s.reclaimer) := by
  cases action with
  | detector =>
    rw [detectorStep_same taken]
    exact ⟨fun other => absurd rfl other, fun _ => rfl⟩
  | reclaimer =>
    rw [reclaimerStep_same taken]
    exact ⟨fun _ => rfl, fun other => absurd rfl other⟩
  | writer outcome =>
    have frame := writerStep_frame taken
    exact ⟨fun _ => frame.detector, fun _ => frame.reclaimer⟩
  | publisher id input =>
    rw [publisherStep_same taken]
    exact ⟨fun _ => rfl, fun _ => rfl⟩
  | dispatcher =>
    rw [dispatcherStep_same taken]
    exact ⟨fun _ => rfl, fun _ => rfl⟩
  | reader input =>
    rw [readerStep_same taken]
    exact ⟨fun _ => rfl, fun _ => rfl⟩
  | writable =>
    obtain ⟨_, _, rfl⟩ := writableStep_same taken
    exact ⟨fun _ => rfl, fun _ => rfl⟩
  | other key record =>
    rw [otherStep_same taken]
    exact ⟨fun _ => rfl, fun _ => rfl⟩

theorem step_stores {d : Deployment} {s s' : State} {action : Action}
    (other : ∀ id input, action ≠ .publisher id input) (taken : step d s action = some s') :
    s'.store = s.store ∧ s'.logs = s.logs ∧ s'.publishers = s.publishers := by
  cases action with
  | publisher id input => exact absurd rfl (other id input)
  | writer outcome =>
    have frame := writerStep_frame taken
    exact ⟨frame.store, frame.logs, frame.publishers⟩
  | reader input =>
    rw [readerStep_same taken]
    exact ⟨rfl, rfl, rfl⟩
  | dispatcher =>
    rw [dispatcherStep_same taken]
    exact ⟨rfl, rfl, rfl⟩
  | writable =>
    obtain ⟨_, _, rfl⟩ := writableStep_same taken
    exact ⟨rfl, rfl, rfl⟩
  | detector =>
    rw [detectorStep_same taken]
    exact ⟨rfl, rfl, rfl⟩
  | reclaimer =>
    rw [reclaimerStep_same taken]
    exact ⟨rfl, rfl, rfl⟩
  | other key record =>
    rw [otherStep_same taken]
    exact ⟨rfl, rfl, rfl⟩

/-- A step of the system is a move of the writer or of the reading thread, or leaves the output alone. -/
theorem step_output {d : Deployment} {s s' : State} {action : Action}
    (taken : step d s action = some s') :
    WriterMove d s s' ∨ (ReaderMove s s' ∧ s'.record = s.record ∧ s'.writer = s.writer) ∨
      OutputFrame s s' := by
  cases action with
  | reader input =>
    obtain ⟨move, record_eq, writer_eq, _⟩ := readerStep_move taken
    exact .inr (.inl ⟨move, record_eq, writer_eq⟩)
  | writer outcome => exact .inl (writerStep_move taken)
  | _ => exact .inr (.inr (step_frame (by simp) (by simp) taken))

/-! ### The alive flag -/

theorem readerStep_alived {d : Deployment} {s s' : State} {input : ReaderInput}
    (taken : readerStep d s input = some s') (alived : s'.alived = true) : s.alived = true := by
  unfold readerStep at taken
  split at taken
  case h_22 =>
    cases taken
    cases alived
  case h_26 => cases taken
  case h_7 | h_9 | h_11 | h_13 | h_25 => split at taken <;> cases taken <;> exact alived
  case h_10 =>
    split at taken
    · split at taken <;> cases taken <;> exact alived
    · cases taken
  all_goals
    cases taken
    exact alived

theorem detectorStep_alived {d : Deployment} {s s' : State} (taken : detectorStep d s = some s')
    (alived : s'.alived = true) : s.alived = true := by
  unfold detectorStep at taken
  split at taken
  case h_1 | h_2 | h_5 =>
    split at taken <;> cases taken
    exact alived
  case h_7 =>
    cases taken
    cases alived
  all_goals
    cases taken <;> exact alived

theorem reclaimerStep_alived {d : Deployment} {s s' : State} (taken : reclaimerStep d s = some s')
    (alived : s'.alived = true) : s.alived = true := by
  unfold reclaimerStep at taken
  split at taken
  case h_5 =>
    cases taken
    cases alived
  all_goals
    cases taken <;> exact alived

theorem step_alived {d : Deployment} {s s' : State} {action : Action}
    (taken : step d s action = some s') (alived : s'.alived = true) : s.alived = true := by
  cases action with
  | writer outcome => exact (writerStep_frame taken).alived alived
  | publisher id input =>
    rw [publisherStep_same taken] at alived
    exact alived
  | dispatcher =>
    rw [dispatcherStep_same taken] at alived
    exact alived
  | reader input => exact readerStep_alived taken alived
  | writable =>
    obtain ⟨_, _, rfl⟩ := writableStep_same taken
    exact alived
  | detector => exact detectorStep_alived taken alived
  | reclaimer => exact reclaimerStep_alived taken alived
  | other key record =>
    rw [otherStep_same taken] at alived
    exact alived

end MessageRepeater.Subscriber
