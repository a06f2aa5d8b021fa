import MessageRepeater.Lifecycle.Known

/-!
# Reclaiming what is kept by key

`clearConnectionResource` runs once for an erased entry, while the reading thread of the connection may be
anywhere in its handler. What the thread puts into a map is taken out again if the entry is still there, or
if alive detection has yet to come to that map.
-/

namespace MessageRepeater.Lifecycle
open Foundation Combiner Config Connection

/-- The place of a stage in `clearConnectionResource`. -/
def ClearStage.index : ClearStage → Nat
  | .record => 0
  | .subscribed => 1
  | .alive => 2
  | .maps => 3

/-- One of the maps that the stage clears has the key. The stage `alive` clears none. -/
def State.Contains (s : State) (stage : ClearStage) (key : Key) : Prop :=
  match stage with
  | .record => s.composite.getRecord key ≠ none
  | .subscribed => s.subscribed.lookup key ≠ none
  | .alive => False
  | .maps =>
    s.eventLoops.lookup key ≠ none ∨ s.detectingArgs.lookup key ≠ none ∨
      ∃ topic, key ∈ s.topicConnections topic

/-- Alive detection, which keeps the server's lock meanwhile, has erased the key's entry and has still to
go through the stage. -/
def State.StillClears (s : State) (stage : ClearStage) (key : Key) : Prop :=
  match s.passes .subscriber with
  | .clear current cleared _ _ => cleared = key ∧ current.index ≤ stage.index
  | _ => False

/-- Alive detection will clear the stage for the key, now or when the entry expires. -/
def State.Reclaimable (s : State) (stage : ClearStage) (key : Key) : Prop :=
  (s.owned .subscriber key).isSome ∨ s.StillClears stage key

def Reclaimed (s : State) : Prop := ∀ stage key, s.Contains stage key → s.Reclaimable stage key

instance (pc : PassPc) (stage : ClearStage) (key : Key) :
    Decidable (match pc with
      | .clear current cleared _ _ => cleared = key ∧ current.index ≤ stage.index
      | _ => False) :=
  match pc with
  | .clear _ _ _ _ => inferInstanceAs (Decidable (_ ∧ _))
  | .idle | .closing _ _ | .erase _ => .isFalse id

instance (s : State) (stage : ClearStage) (key : Key) : Decidable (s.StillClears stage key) :=
  inferInstanceAs (Decidable (match s.passes .subscriber with
    | .clear current cleared _ _ => cleared = key ∧ current.index ≤ stage.index
    | _ => False))

instance (s : State) (stage : ClearStage) (key : Key) : Decidable (s.Reclaimable stage key) :=
  inferInstanceAs (Decidable (_ ∨ s.StillClears stage key))

/-! ### Insertions -/

/-- The stage whose maps the reading thread's step inserts the key into. -/
def State.inserts (config : RepeaterConfig) (s : State) : ReaderPc → Option ClearStage
  | .start => if config.subscriberEnableEventLoop then some .maps else none
  | .putDetectingArgs => some .maps
  | .createRecord topics =>
    if topics.length = 0 ∨
        s.composite.consumeRecords.keys.length ≥ toUnsigned64 s.composite.maxRecordsSize then none
    else some .record
  | .putSubscribed _ => some .subscribed
  | .putTopic (_ :: _) => some .maps
  | _ => none

/-- A reading thread inserts its key only where alive detection will clear it again. -/
def Timely (config : RepeaterConfig) (s : State) : Action → Prop
  | .handler c _ =>
    match (s.threads c).handler with
    | .subscriber pc => ∀ stage ∈ s.inserts config pc, s.Reclaimable stage (s.sockets c).key
    | _ => True
  | _ => True

instance (config : RepeaterConfig) (s : State) (c : ConnId) (handler : HandlerPc) :
    Decidable (match handler with
      | .subscriber pc => ∀ stage ∈ s.inserts config pc, s.Reclaimable stage (s.sockets c).key
      | _ => True) :=
  match handler with
  | .subscriber pc =>
    inferInstanceAs
      (Decidable (∀ stage ∈ s.inserts config pc, s.Reclaimable stage (s.sockets c).key))
  | .absent | .accepting | .publisher _ => .isTrue trivial

instance (config : RepeaterConfig) (s : State) (action : Action) :
    Decidable (Timely config s action) :=
  match action with
  | .handler c _ =>
    inferInstanceAs (Decidable (match (s.threads c).handler with
      | .subscriber pc => ∀ stage ∈ s.inserts config pc, s.Reclaimable stage (s.sockets c).key
      | _ => True))
  | .tick _ | .accept _ _ _ | .refuse _ | .enroll _ | .writer _ _ | .detectorCopy _ | .detector
  | .pass _ _ => .isTrue trivial

def Operation.inserts : Operation → Option ClearStage
  | .putEventLoop => some .maps
  | .putDetectingArgs => some .maps
  | .createNewRecord _ => some .record
  | .putSubscribed => some .subscribed
  | .putTopicConnection _ => some .maps
  | _ => none

theorem createNewRecord_succeeds {composite : ConsumeRecordComposite} {key : Key} {topics : List Topic}
    {fresh : Nat} {after : ConsumeRecordComposite}
    (created : composite.createNewRecord key topics fresh = (true, after)) :
    ¬ (topics.length = 0 ∨ composite.consumeRecords.keys.length ≥ toUnsigned64 composite.maxRecordsSize) := by
  unfold ConsumeRecordComposite.createNewRecord at created
  rintro (empty | full)
  · rw [if_pos empty] at created
    cases created
  · rw [if_pos full] at created
    split at created <;> cases created

theorem readerStep_inserts {config : RepeaterConfig} {s : State} {c : ConnId} {t t' : Threads}
    {pc : ReaderPc} {input : Input} {operation : Operation} {stage : ClearStage}
    (moved : readerStep config s c t pc input = some (operation, t'))
    (inserted : operation.inserts = some stage) : s.inserts config pc = some stage := by
  unfold readerStep at moved
  split at moved
  all_goals try split at moved
  all_goals cases moved
  all_goals try cases inserted
  case h_2.isTrue.refl.refl both => exact if_pos both.1
  case h_2.refl.refl created => exact if_neg (createNewRecord_succeeds created)
  all_goals rfl

theorem publisherStep_inserts {s : State} {t t' : Threads} {pc : PublisherPc} {input : Input}
    {operation : Operation} (moved : publisherStep s t pc input = some (operation, t')) :
    operation.inserts = none := by
  unfold publisherStep at moved
  split at moved
  all_goals try split at moved
  all_goals cases moved
  all_goals rfl

theorem normalStep_inserts {s : State} {c : ConnId} {t t' : Threads} {input : Input}
    {operation : Operation} (moved : normalStep s c t input = some (operation, t')) :
    operation.inserts = none := by
  unfold normalStep at moved
  split at moved
  all_goals try split at moved
  all_goals cases moved
  all_goals rfl

theorem loopStep_inserts {s : State} {c : ConnId} {t t' : Threads} {input : Input}
    {operation : Operation} (moved : loopStep s c t input = some (operation, t')) :
    operation.inserts = none := by
  unfold loopStep at moved
  split at moved
  all_goals try split at moved
  all_goals cases moved
  all_goals rfl

theorem handlerStep_inserts {config : RepeaterConfig} {s : State} {c : ConnId} {input : Input}
    {operation : Operation} {t : Threads} {stage : ClearStage}
    (timely : Timely config s (.handler c input))
    (moved : handlerStep config s c input = some (operation, t))
    (inserted : operation.inserts = some stage) : s.Reclaimable stage (s.sockets c).key := by
  unfold Timely at timely
  unfold handlerStep at moved
  cases here : (s.threads c).handler with
  | subscriber pc =>
    simp only [here] at moved timely
    exact timely stage (readerStep_inserts moved inserted)
  | publisher pc =>
    simp only [here] at moved
    rw [publisherStep_inserts moved] at inserted
    cases inserted
  | _ =>
    simp only [here] at moved
    cases moved

theorem writerStep_inserts {config : RepeaterConfig} {s : State} {c : ConnId} {input : Input}
    {operation : Operation} {t : Threads} (moved : writerStep config s c input = some (operation, t)) :
    operation.inserts = none := by
  unfold writerStep at moved
  split at moved
  · exact loopStep_inserts moved
  · exact normalStep_inserts moved

theorem detectorStep_inserts {s : State} {pc : DetectorPc} {c : ConnId} {operation : Operation}
    {t : Threads} (moved : detectorStep s = some (pc, c, operation, t)) : operation.inserts = none := by
  cases detectorStep_cases moved <;> rfl

/-! ### What is kept after a step -/

theorem lookup_insert_present {map : AList (fun _ : Key => ConnId)} {key k : Key} {c : ConnId}
    (present : (map.insert k c).lookup key ≠ none) : key = k ∨ map.lookup key ≠ none := by
  by_cases same : key = k
  · exact .inl same
  · rw [AList.lookup_insert_ne same] at present
    exact .inr present

theorem lookup_erase_present {map : AList (fun _ : Key => ConnId)} {key k : Key}
    (present : (map.erase k).lookup key ≠ none) : key ≠ k ∧ map.lookup key ≠ none := by
  obtain ⟨c, found⟩ := Option.ne_none_iff_exists'.mp present
  obtain ⟨other, before⟩ := lookup_erase_cases found
  exact ⟨other, by simp [before]⟩

theorem createNewRecord_present {composite : ConsumeRecordComposite} {key k : Key} {topics : List Topic}
    {fresh : Nat} (present : (composite.createNewRecord k topics fresh).2.getRecord key ≠ none) :
    key = k ∨ composite.getRecord key ≠ none := by
  unfold ConsumeRecordComposite.createNewRecord at present
  split at present
  · exact .inr present
  · split at present
    · exact .inr present
    · exact lookup_insert_present present

/-- A thread's operation adds only the connection's key, and only to the maps of its stage. -/
theorem move_contains {s : State} {c : ConnId} {operation : Operation} {t : Threads} {pc : DetectorPc}
    {stage : ClearStage} {key : Key}
    (present : ((s.move c operation t).goDetector pc).Contains stage key) :
    s.Contains stage key ∨ (operation.inserts = some stage ∧ key = (s.sockets c).key) := by
  have maps := perform_maps s c operation
  cases stage with
  | record =>
    simp only [State.Contains, State.goDetector, State.move, maps.composite] at present
    split at present
    · exact (createNewRecord_present present).symm.imp_right fun same => ⟨rfl, same⟩
    · exact .inl present
  | subscribed =>
    simp only [State.Contains, State.goDetector, State.move, maps.subscribed] at present
    split at present
    · exact (lookup_insert_present present).symm.imp_right fun same => ⟨rfl, same⟩
    · exact .inl (lookup_erase_present present).2
    · exact .inl present
  | alive => cases present
  | maps =>
    simp only [State.Contains, State.goDetector, State.move, maps.eventLoops, maps.detectingArgs,
      maps.topicConnections] at present
    rcases present with loop | arguments | ⟨topic, listed⟩
    · split at loop
      · exact (lookup_insert_present loop).symm.imp .inl fun same => ⟨rfl, same⟩
      · exact .inl (.inl loop)
    · split at arguments
      · exact (lookup_insert_present arguments).symm.imp (.inr ∘ .inl) fun same => ⟨rfl, same⟩
      · exact .inl (.inr (.inl arguments))
    · split at listed
      · rw [Function.update_apply] at listed
        split at listed
        · rcases List.mem_append.mp listed with before | fresh
          · exact .inl (.inr (.inr ⟨_, before⟩))
          · exact .inr ⟨rfl, List.mem_singleton.mp fresh⟩
        · exact .inl (.inr (.inr ⟨topic, listed⟩))
      · exact .inl (.inr (.inr ⟨topic, listed⟩))

theorem move_reclaimed {s : State} (reclaimed : Reclaimed s) {c : ConnId} {operation : Operation}
    {t : Threads} {pc : DetectorPc}
    (timely : ∀ stage, operation.inserts = some stage → s.Reclaimable stage (s.sockets c).key) :
    Reclaimed ((s.move c operation t).goDetector pc) := by
  intro stage key present
  have before : s.Reclaimable stage key := by
    rcases move_contains present with kept | ⟨inserted, rfl⟩
    · exact reclaimed stage key kept
    · exact timely stage inserted
  have passes : ((s.move c operation t).goDetector pc).passes = s.passes := by
    simp [State.goDetector, State.move]
  unfold State.Reclaimable State.StillClears at before ⊢
  rw [passes]
  exact before.imp_left fun owned => (perform_owned s c operation .subscriber key).symm ▸ owned

/-- Nothing that alive detection does for a key adds one. -/
theorem passMove_contains {config : RepeaterConfig} {s s' : State} {role : Role}
    (moved : PassMove config s role s') {stage : ClearStage} {key : Key}
    (present : s'.Contains stage key) : s.Contains stage key := by
  cases moved with
  | @record k owner expired here =>
    cases stage with
    | record => exact (lookup_erase_present present).2
    | _ => exact present
  | @subscribed k owner expired here =>
    rw [noteKeyed_spec] at present
    cases stage with
    | subscribed => exact (lookup_erase_present present).2
    | _ => exact present
  | @alive k owner expired here =>
    rw [releaseAlive_eq] at present
    exact present
  | @maps k owner expired here =>
    rw [releaseMaps_eq] at present
    cases stage with
    | maps =>
      rcases present with loop | arguments | ⟨topic, listed⟩
      · exact .inl (lookup_erase_present loop).2
      · exact .inr (.inl (lookup_erase_present arguments).2)
      · exact .inr (.inr ⟨topic, (List.mem_filter.mp listed).1⟩)
    | _ => exact present
  | _ => exact present

theorem passMove_publisher {config : RepeaterConfig} {s s' : State}
    (moved : PassMove config s .publisher s') :
    s'.passes .subscriber = s.passes .subscriber ∧
      ∀ key, s'.owned .subscriber key = s.owned .subscriber key := by
  cases moved with
  | subscribed => rw [noteKeyed_spec]; exact ⟨rfl, fun _ => rfl⟩
  | alive => rw [releaseAlive_eq]; exact ⟨rfl, fun _ => rfl⟩
  | maps => rw [releaseMaps_eq]; exact ⟨rfl, fun _ => rfl⟩
  | _ => exact ⟨rfl, fun _ => rfl⟩

/-- Where a pass of the subscriber server leaves a key that one of the maps still has. -/
theorem passMove_reclaimable {config : RepeaterConfig} {s s' : State}
    (moved : PassMove config s .subscriber s') {stage : ClearStage} {key : Key}
    (present : s'.Contains stage key) (before : s.Reclaimable stage key) : s'.Reclaimable stage key := by
  unfold State.Reclaimable State.StillClears at before
  cases moved with
  | start here =>
    rw [here] at before
    exact .inl (before.resolve_right id)
  | expire here found idle new =>
    rw [here] at before
    exact .inl (before.resolve_right id)
  | scanned here all =>
    rw [here] at before
    exact .inl (before.resolve_right id)
  | finish here =>
    rw [here] at before
    exact .inl (before.resolve_right id)
  | @erase k owner expired here =>
    by_cases same : k = key
    · exact .inr ⟨same, Nat.zero_le _⟩
    · have owned : (s.owned .subscriber key).isSome := by simpa [here] using before
      refine .inl ?_
      unfold State.owned at owned ⊢
      simpa [State.goPass, AList.lookup_erase_ne (Ne.symm same)] using owned
  | @record k owner expired here =>
    refine before.imp id fun clears => ?_
    simp only [here] at clears
    cases stage with
    | record => exact absurd clears.1.symm (lookup_erase_present present).1
    | _ => exact ⟨clears.1, by simp [ClearStage.index]⟩
  | @subscribed k owner expired here =>
    rw [noteKeyed_spec] at present ⊢
    refine before.imp id fun clears => ?_
    simp only [here] at clears
    cases stage with
    | record => exact absurd clears.2 (by decide)
    | subscribed => exact absurd clears.1.symm (lookup_erase_present present).1
    | _ => exact ⟨clears.1, by simp [ClearStage.index]⟩
  | @alive k owner expired here =>
    rw [releaseAlive_eq] at present ⊢
    refine before.imp id fun clears => ?_
    simp only [here] at clears
    cases stage with
    | maps => exact ⟨clears.1, Nat.le_refl _⟩
    | alive => cases present
    | _ => exact absurd clears.2 (by decide)
  | @maps k owner expired here =>
    rw [releaseMaps_eq] at present ⊢
    refine before.imp id fun clears => ?_
    simp only [here] at clears
    cases stage with
    | maps =>
      rcases present with loop | arguments | ⟨topic, listed⟩
      · exact absurd clears.1.symm (lookup_erase_present loop).1
      · exact absurd clears.1.symm (lookup_erase_present arguments).1
      · exact absurd clears.1.symm (by simpa using (List.mem_filter.mp listed).2)
    | _ => exact absurd clears.2 (by decide)

theorem pass_reclaimed {config : RepeaterConfig} {s s' : State} {role : Role} (reclaimed : Reclaimed s)
    (moved : PassMove config s role s') : Reclaimed s' := by
  intro stage key present
  have before := reclaimed stage key (passMove_contains moved present)
  cases role with
  | publisher =>
    obtain ⟨passes, owned⟩ := passMove_publisher moved
    unfold State.Reclaimable State.StillClears at before ⊢
    rw [passes, owned]
    exact before
  | subscriber => exact passMove_reclaimable moved present before

/-! ### Runs -/

theorem reclaimed_initial (config : RepeaterConfig) (now : Nat) : Reclaimed (initial config now) := by
  intro stage key present
  cases stage with
  | record => exact absurd rfl present
  | subscribed => exact absurd rfl present
  | alive => cases present
  | maps =>
    rcases present with loop | arguments | ⟨topic, listed⟩
    · exact absurd rfl loop
    · exact absurd rfl arguments
    · cases listed

theorem step_reclaimed {config : RepeaterConfig} {s s' : State} {action : Action}
    (reclaimed : Reclaimed s) (timely : Timely config s action)
    (taken : step config s action = some s') : Reclaimed s' := by
  cases step_cases taken with
  | tick seconds => exact reclaimed
  | accept vacant closed => exact reclaimed
  | refuse inHand free => exact reclaimed
  | @enroll role c inHand free =>
    refine fun stage key present => (reclaimed stage key present).imp_left fun owned => ?_
    refine (congrArg Option.isSome (owned_insert (s := s.handOver role c (.first role)))).trans ?_
    split
    · rfl
    · exact owned
  | handler moved =>
    rw [← move_goDetector]
    exact move_reclaimed reclaimed fun stage inserted => handlerStep_inserts timely moved inserted
  | writer moved =>
    rw [← move_goDetector]
    refine move_reclaimed reclaimed fun stage inserted => ?_
    rw [writerStep_inserts moved] at inserted
    cases inserted
  | copy idle free all => exact reclaimed
  | detector moved =>
    refine move_reclaimed reclaimed fun stage inserted => ?_
    rw [detectorStep_inserts moved] at inserted
    cases inserted
  | pass moved => exact pass_reclaimed reclaimed moved

/-- While reading threads insert their keys in time, no map has a key without an entry, but for those that
alive detection is still about to clear after it has erased the entry. -/
theorem connection_reclaimed {config : RepeaterConfig} {now : Nat} {s : State}
    (run : Run (step config) (Timely config) (initial config now) s) (key : Key)
    (erased : (s.clientConnections .subscriber).lookup key = none) :
    ∀ stage, s.Contains stage key → s.StillClears stage key := by
  have reclaimed : Reclaimed s :=
    run.keeps (reclaimed_initial config now) fun _ _ _ before timely taken =>
      step_reclaimed before timely taken
  intro stage present
  refine (reclaimed stage key present).resolve_left fun owned => ?_
  simp [State.owned, erased] at owned

/-- The threads of the connection have ended, its entry is gone and alive detection sleeps. -/
def State.Ended (s : State) (c : ConnId) : Prop :=
  (s.threads c).handler = .subscriber .done ∧ (s.threads c).writer = .done ∧
    (s.clientConnections .subscriber).lookup (s.sockets c).key = none ∧ s.passes .subscriber = .idle

instance (s : State) (c : ConnId) : Decidable (s.Ended c) := by
  unfold State.Ended
  infer_instance

/-- From `accept` to the read of the subscribe frame, and on to the enqueued answer. -/
def subscribing (key : Key) : List Action :=
  [.accept .subscriber key 5, .enroll .subscriber, .handler 0 .run, .handler 0 .run,
    .handler 0 (.frame (.subscribe [ascii "T"])), .handler 0 .run, .handler 0 .run,
    .handler 0 (.enqueued true)]

/-- Alive detection expires the only connection. -/
def expiring (key : Key) : List Action :=
  [.tick 31, .pass .subscriber .run, .pass .subscriber (.expire key), .pass .subscriber .run,
    .pass .subscriber .run, .pass .subscriber .run, .pass .subscriber .run, .pass .subscriber .run,
    .pass .subscriber .run, .pass .subscriber .run]

/-- The client hangs up, and the threads find out one after the other. -/
def ending : List Action :=
  [.handler 0 .broken, .handler 0 .run, .handler 0 .run, .handler 0 .run, .handler 0 .run,
    .writer 0 .run, .writer 0 .run, .writer 0 .run, .writer 0 .run]

/-- A subscription that was served is taken out of every map. -/
theorem connection_reclaimed_subscribed :
    ∃ s, Run (step {}) (Timely {}) (initial {} 100000) s ∧ s.Ended 0 ∧ (s.threads 0).answered = true ∧
      ∀ stage, ¬ s.Contains stage (s.sockets 0).key := by
  let key := ascii "127.0.0.1:9000"
  obtain ⟨s, run, ended⟩ := Run.exists_of_replay (step {}) (Timely {}) (initial {} 100000)
    (subscribing key ++ [Action.handler 0 .run, .handler 0 .run] ++ expiring key ++ ending)
    (fun s => decide (s.Ended 0) && (s.threads 0).answered) (by decide +kernel)
  simp only [Bool.and_eq_true, decide_eq_true_eq] at ended
  refine ⟨s, run, ended.1, ended.2, fun stage present => ?_⟩
  have clears := connection_reclaimed run (s.sockets 0).key ended.1.2.2.1 stage present
  unfold State.StillClears at clears
  rw [ended.1.2.2.2] at clears
  exact clears

/-- The reading thread has answered `ok` and alive detection expires the connection before `putSubscribed`:
the flag stays behind. -/
theorem subscription_left_behind :
    ∃ s, Run (step {}) Free (initial {} 100000) s ∧ s.count = 1 ∧ s.Ended 0 ∧
      s.subscribed.lookup (s.sockets 0).key = some 0 := by
  let key := ascii "127.0.0.1:9000"
  obtain ⟨s, run, left⟩ := Run.exists_of_replay (step {}) Free (initial {} 100000)
    (subscribing key ++ expiring key ++ [Action.handler 0 .run, .handler 0 .run] ++ ending)
    (fun s => s.count == 1 && decide (s.Ended 0) && s.subscribed.lookup (s.sockets 0).key == some 0)
    (by decide +kernel)
  simp only [Bool.and_eq_true, decide_eq_true_eq, beq_iff_eq] at left
  exact ⟨s, run, left.1.1, left.1.2, left.2⟩

end MessageRepeater.Lifecycle
