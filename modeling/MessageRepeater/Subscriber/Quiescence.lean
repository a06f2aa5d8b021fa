import MessageRepeater.Subscriber.NoLostWakeup

/-!
# Where everybody is asleep

The runs of one event-loop connection whose accepted request names no empty topic: when no thread has
a step left to take by itself, every cursor of a live subscribed connection is at the end of its log.
With the empty topic it need not be, since the loop takes an empty topic for a control frame and does
not requeue it.
-/

namespace MessageRepeater.Subscriber
open Foundation Combiner Config Connection

/-- No thread is in the middle of its steps, both notify pipes are empty, and the write event is not
armed. -/
structure Quiescent (s : State) : Prop where
  publishers : ∀ id, s.publishers id = .idle
  dispatcher : s.dispatcher = .waiting
  reader : s.reader = .receive ∨ s.reader = .done
  writer : s.writer = .loop .waiting ∨ s.writer = .loop .done
  dispatchPipe : s.dispatch.notifyPipe = []
  pipe : s.worker.notifyPipe = []
  unarmed : s.worker.writeEventEnabled = false

/-- The connection is left alone, and no request for the empty topic is accepted. -/
def Named (d : Deployment) (s : State) (action : Action) : Prop :=
  Inside s action ∧ ∀ topics ∈ s.accepts d action, [] ∉ topics

instance (d : Deployment) (s : State) (action : Action) : Decidable (Named d s action) :=
  inferInstanceAs (Decidable (_ ∧ _))

/-! ### The invariants of a live connection -/

structure Watched (s : State) : Prop where
  facts : Facts s
  subscribed : Subscribed s
  awake : Awake s
  connected : Connected s
  tracked : Tracked s

/-- What holds of every run of a connection that is left alone. -/
structure Known (d : Deployment) (s : State) : Prop where
  sound : Sound s
  delivering : Delivering d.config s
  answered : Answered d s
  running : Running s
  held : Held d s
  dispatchAwake : DispatchAwake s

theorem reachable_known {d : Deployment} {s : State}
    (loopMode : d.config.subscriberEnableEventLoop = true) (run : Run (step d) Inside (initial d) s) :
    Known d s := by
  have free : Run (step d) Free (initial d) s := run.weaken fun _ _ _ => trivial
  have running : ∀ {u}, Run (step d) Inside (initial d) u → Running u := fun run =>
    run.keeps (initial_running loopMode) fun _ _ _ running inside taken =>
      step_running inside running taken
  exact ⟨reachable_sound free, reachable_delivering free, reachable_answered free, running run,
    run.keeps (initial_held d) fun _ _ _ held inside taken =>
      step_held (by rintro rfl; cases inside) held taken,
    run.keeps_under (fun _ => running) (fun filled => absurd rfl filled)
      fun _ _ _ running awake inside taken => step_dispatchAwake running inside awake taken⟩

theorem initial_watched {d : Deployment} (loopMode : d.config.subscriberEnableEventLoop = true) :
    Watched (initial d) := by
  refine ⟨?_, ?_, fun filled => absurd rfl filled, ?_, ?_⟩
  · intro pc at_
    simp only [initial, loopMode, if_true, WriterPc.loop.injEq] at at_
    subst at_
    exact fun pending => absurd rfl pending
  · refine ⟨fun cached => absurd rfl cached, ?_, by rintro ⟨⟩, by rintro _ ⟨⟩, by rintro ⟨⟩,
      fun filled => absurd rfl filled⟩
    simp only [initial, loopMode, if_true]
    rintro ⟨⟩
  · rintro t ⟨⟩
  · rintro t _ ⟨entry, found, _⟩
    cases found

theorem step_watched {d : Deployment} {s s' : State} {action : Action}
    (loopMode : d.config.subscriberEnableEventLoop = true) (known : Known d s)
    (inside : Inside s action) (taken : step d s action = some s') (live' : Live s')
    (was : Live s → Watched s) : Watched s' := by
  obtain ⟨sound, delivering, answered, running, held, _⟩ := known
  have live := live'.before sound inside taken
  obtain ⟨facts, subscribed, awake, connected, tracked⟩ := was live
  exact ⟨step_facts running sound live (live.settled delivering answered) inside facts taken,
    step_subscribed running live inside facts subscribed taken,
    step_awake running held answered live' inside facts subscribed awake taken,
    step_connected loopMode running held answered live' inside connected taken,
    step_tracked loopMode running held delivering answered live live' inside facts connected tracked taken⟩

theorem reachable_watched {d : Deployment} {s : State}
    (loopMode : d.config.subscriberEnableEventLoop = true) (run : Run (step d) Inside (initial d) s)
    (live : Live s) : Watched s := by
  have watched : Live s → Watched s :=
    run.keeps_under (fun _ => reachable_known loopMode) (fun _ => initial_watched loopMode)
      fun _ _ _ known was inside taken live' => step_watched loopMode known inside taken live' was
  exact watched live

/-! ### No record has an entry for the empty topic -/

theorem step_unnamed {d : Deployment} {s s' : State} {action : Action} (named : Named d s action)
    (unnamed : ∀ r, s.link.getMeta r [] = none) (taken : step d s action = some s') (r : Nat) :
    s'.link.getMeta r [] = none := by
  have framed : OutputFrame s s' → s'.link.getMeta r [] = none := fun frame => by
    rw [frame.link, unnamed]
  cases action with
  | writer outcome => simpa [unnamed] using (writerStep_move taken).present r []
  | reader input =>
    cases (readerStep_move taken).1 with
    | same link_eq => rw [link_eq, unnamed]
    | enqueue _ pushed link_eq =>
      rw [link_eq, ← unnamed r]
      exact getMeta_congr (enqueueControlFrame_link pushed).1 r []
    | @initializeTopic record _ topic sequence _ _ link_eq =>
      rw [link_eq]
      simpa [unnamed] using initializeTopic_present s.link record topic sequence r []
    | create at_ link_eq =>
      clear link_eq framed
      cases input with
      | run | request | broken =>
        simp only [step, readerStep, at_] at taken
        cases taken
      | order order =>
        simp only [step, readerStep, at_] at taken
        split at taken
        · split at taken <;> cases taken
          · exact unnamed r
          · rename_i created
            have avoids := named.2 _ (accepts_created at_ created)
            rw [Link.createRecord_getMeta, if_neg avoids, unnamed, ite_self]
        · cases taken
  | _ => exact framed (step_frame (by simp) (by simp) taken)

theorem reachable_unnamed {d : Deployment} {s : State} (run : Run (step d) (Named d) (initial d) s) :
    ∀ r, s.link.getMeta r [] = none :=
  run.keeps (fun _ => rfl) fun _ _ _ unnamed named taken => step_unnamed named unnamed taken

/-! ### Nobody sleeps on an undelivered message -/

theorem Quiescent.live {s : State} (quiet : Quiescent s) (running : Running s)
    (alived : s.alived = true) (sole : s.link.records.length ≤ 1) :
    Live s ∧ s.writer = .loop .waiting ∧ s.reader = .receive := by
  have waiting : s.writer = .loop .waiting := by
    refine quiet.writer.resolve_right fun done => ?_
    obtain ⟨pc, at_, _, dead⟩ := running.loop
    cases at_.symm.trans done
    exact absurd (alived.symm.trans (dead rfl)) nofun
  have receive : s.reader = .receive := by
    refine quiet.reader.resolve_right fun done => ?_
    exact absurd (alived.symm.trans (running.exited (by rw [done]; rfl))) nofun
  exact ⟨⟨alived, by rw [waiting]; nofun, by rw [receive]; nofun, sole⟩, waiting, receive⟩

theorem Quiescent.not_inFlight {s : State} (quiet : Quiescent s) (watched : Watched s)
    (dispatchAwake : DispatchAwake s) (waiting : s.writer = .loop .waiting)
    (receive : s.reader = .receive) (t : Topic) : ¬ InFlight s t := by
  obtain ⟨publishers, dispatcher, _, _, dispatchPipe, pipe, unarmed⟩ := quiet
  rintro (⟨id, at_⟩ | queued | carried | reading | queued | ⟨frame, pending, _⟩ | ⟨pc, at_, holds⟩)
  · cases (publishers id).symm.trans at_
  · rcases dispatchAwake (List.ne_nil_of_mem queued) with bytes | ⟨id, at_⟩ | at_ | at_
    · exact bytes dispatchPipe
    · cases (publishers id).symm.trans at_
    · cases dispatcher.symm.trans at_
    · cases dispatcher.symm.trans at_
  · rw [dispatcher] at carried
    exact carried
  · rw [receive] at reading
    cases reading
  · rcases watched.awake (List.ne_nil_of_mem queued) with
      (bytes | ⟨todo, at_⟩ | ⟨topic, count, todo, at_⟩) | ⟨pc, at_, serves⟩
    · exact bytes pipe
    · cases receive.symm.trans at_
    · cases dispatcher.symm.trans at_
    · cases waiting.symm.trans at_
      rcases serves with ⟨_, armed⟩ | early | ⟨busy, _⟩
      · exact absurd (armed.symm.trans unarmed) nofun
      · cases early
      · exact busy rfl
  · have armed := watched.facts .waiting waiting (by rw [pending]; nofun)
    exact absurd (armed.symm.trans unarmed) nofun
  · cases waiting.symm.trans at_
    exact holds

/-- Where everybody is asleep, the cursors of a live subscribed connection with one accepted request
have all reached the end, if no request for the empty topic was accepted. -/
theorem no_lost_wakeup (d : Deployment) (loopMode : d.config.subscriberEnableEventLoop = true)
    {s : State} (run : Run (step d) (Named d) (initial d) s) (quiet : Quiescent s)
    (alived : s.alived = true) (subscribed : s.subscribed = true) (sole : s.link.records.length ≤ 1)
    {r : Nat} (held : s.composite.getRecord d.key = some r) {t : Topic} {entry : ConsumeMeta}
    (found : s.link.getMeta r t = some entry) : s.nextSequence t ≤ entry.nextSequence := by
  have inside : Run (step d) Inside (initial d) s := run.weaken fun _ _ named => named.1
  have known := reachable_known loopMode inside
  obtain ⟨live, waiting, receive⟩ := quiet.live known.running alived sole
  have watched := reachable_watched loopMode inside live
  obtain rfl : r = 0 := by have := known.answered.composite r held; omega
  by_contra beyond
  have initialized :=
    live.initialized known.delivering known.answered (known.answered.subscribed subscribed) found
  have behind : Behind s t := ⟨entry, found, initialized, by
    rw [← known.delivering.rings.nextSequence]; omega⟩
  have named : t ≠ [] := by
    rintro rfl
    rw [reachable_unnamed run] at found
    cases found
  exact quiet.not_inFlight watched known.dispatchAwake waiting receive t
    (watched.tracked t named behind)

/-! ### Two runs -/

/-- The actions of `Named` runs in which only the first two publishers take part. -/
def Few (ok : State → Action → Prop) (s : State) (action : Action) : Prop :=
  ok s action ∧ match action with
    | .publisher id _ => id < 2
    | _ => True

instance (ok : State → Action → Prop) [∀ s a, Decidable (ok s a)] (s : State) (action : Action) :
    Decidable (Few ok s action) :=
  match action with
  | .publisher id _ => inferInstanceAs (Decidable (ok s _ ∧ id < 2))
  | .dispatcher | .reader _ | .writer _ | .writable | .detector | .reclaimer | .other _ _ =>
    inferInstanceAs (Decidable (ok s _ ∧ True))

theorem publisherStep_others {d : Deployment} {s s' : State} {id other : Nat} {input : PublisherInput}
    (apart : other ≠ id) (taken : publisherStep d s id input = some s') :
    s'.publishers other = s.publishers other := by
  unfold publisherStep at taken
  split at taken
  case h_3 | h_5 | h_6 =>
    cases taken
    exact if_neg apart
  case h_7 => cases taken
  all_goals
    split at taken <;> cases taken
    all_goals first | rfl | exact if_neg apart

theorem few_idle {d : Deployment} {s : State} (loopMode : d.config.subscriberEnableEventLoop = true)
    (run : Run (step d) (Few Inside) (initial d) s) (id : Nat) (beyond : 2 ≤ id) :
    s.publishers id = .idle := by
  induction run with
  | refl => rfl
  | @tail s s' before action few taken idle =>
    have running := (reachable_known loopMode (before.weaken fun _ _ few => few.1)).running
    cases action with
    | publisher other input =>
      have lt : other < 2 := few.2
      rw [publisherStep_others (by omega) taken, idle]
    | dispatcher => rw [(dispatcherStep_writer taken).2.2.2, idle]
    | reader input => rw [(readerStep_dispatch taken).2.2, idle]
    | writer outcome =>
      obtain ⟨pc, at_, _⟩ := running.loop
      simp only [step, writerStep, at_] at taken
      rw [(loopStep_frame taken).publishers, idle]
    | writable =>
      obtain ⟨_, _, rfl⟩ := writableStep_same taken
      exact idle
    | detector | reclaimer => cases few.1
    | other key record => rw [otherStep_same taken, idle]

/-- A client subscribes to `topic`, the loop sends the answer and finds the topic empty, two publishers
store a message each, and the loop takes up the one work item that they have left, up to the `send` of
the first message. -/
def twoMessages (topic : Topic) : List Action :=
  [Action.reader .run, .reader (.request (.subscribe [topic])), .reader (.order [topic])] ++
    List.replicate 13 (Action.reader .run) ++
    List.replicate 9 (Action.writer .interrupted) ++ [Action.writer (.accepted 19)] ++
    List.replicate 9 (Action.writer .interrupted) ++
    [Action.publisher 0 (.create topic (ascii "a")), .publisher 0 .run, .publisher 0 .run, .publisher 0 .run,
      .publisher 1 (.create topic (ascii "b")), .publisher 1 .run, .publisher 1 .run] ++
    List.replicate 9 Action.dispatcher ++
    List.replicate 13 (Action.writer .interrupted)

/-- Everybody is asleep, with the only record's cursor of `topic` at `cursor` and its log of length
two. -/
def Asleep (d : Deployment) (topic : Topic) (cursor : Nat) (s : State) : Prop :=
  ((s.publishers 0 = .idle ∧ s.publishers 1 = .idle) ∧ s.dispatcher = .waiting ∧
    s.reader = .receive ∧ s.writer = .loop .waiting ∧ s.dispatch.notifyPipe = [] ∧
    s.worker.notifyPipe = [] ∧ s.worker.writeEventEnabled = false) ∧
  (s.alived = true ∧ s.subscribed = true ∧ s.link.records.length ≤ 1 ∧
    s.composite.getRecord d.key = some 0) ∧
  s.link.getMeta 0 topic = some { nextSequence := cursor, initialized := true } ∧
  s.nextSequence topic = 2

instance (d : Deployment) (topic : Topic) (cursor : Nat) (s : State) :
    Decidable (Asleep d topic cursor s) :=
  inferInstanceAs (Decidable (_ ∧ _ ∧ _))

theorem Asleep.quiescent {d : Deployment} {s : State} {topic : Topic} {cursor : Nat}
    (loopMode : d.config.subscriberEnableEventLoop = true)
    (run : Run (step d) (Few Inside) (initial d) s) (asleep : Asleep d topic cursor s) :
    Quiescent s := by
  obtain ⟨⟨⟨first, second⟩, dispatcher, reader, writer, dispatchPipe, pipe, unarmed⟩, _⟩ := asleep
  refine ⟨fun id => ?_, dispatcher, .inl reader, .inl writer, dispatchPipe, pipe, unarmed⟩
  match id with
  | 0 => exact first
  | 1 => exact second
  | id + 2 => exact few_idle loopMode run (id + 2) (by omega)

/-- With the topic "T" the loop requeues it after the first message and delivers the second one. -/
theorem no_lost_wakeup_two_messages : ∃ s, Run (step (sample true)) (Named (sample true))
    (initial (sample true)) s ∧ Quiescent s ∧ s.nextSequence (ascii "T") = 2 ∧
    ∃ entry, s.link.getMeta 0 (ascii "T") = some entry ∧
      s.nextSequence (ascii "T") ≤ entry.nextSequence := by
  obtain ⟨s, run, asleep⟩ := Run.exists_of_replay (step (sample true)) (Few (Named (sample true)))
    (initial (sample true))
    (twoMessages (ascii "T") ++ [Action.writer (.accepted 10)] ++
      List.replicate 13 (Action.writer .interrupted) ++ [Action.writer (.accepted 10)] ++
      List.replicate 8 (Action.writer .interrupted))
    (fun s => decide (Asleep (sample true) (ascii "T") 2 s)) (by decide +kernel)
  have asleep := of_decide_eq_true asleep
  have quiet := asleep.quiescent rfl (run.weaken fun _ _ few => ⟨few.1.1, few.2⟩)
  obtain ⟨_, ⟨alived, subscribed, sole, held⟩, found, length⟩ := asleep
  have named : Run (step (sample true)) (Named (sample true)) (initial (sample true)) s :=
    run.weaken fun _ _ few => few.1
  exact ⟨s, named, quiet, length, _, found,
    no_lost_wakeup (sample true) rfl named quiet alived subscribed sole held found⟩

/-- With the empty topic the second message stays behind: the loop does not requeue the topic after
the first one, and nobody else will. -/
theorem lost_wakeup_empty_topic : ¬ ∀ (d : Deployment) (s : State),
    d.config.subscriberEnableEventLoop = true → Run (step d) Inside (initial d) s → Quiescent s →
    s.alived = true → s.subscribed = true → s.link.records.length ≤ 1 →
    ∀ r, s.composite.getRecord d.key = some r → ∀ t entry, s.link.getMeta r t = some entry →
      s.nextSequence t ≤ entry.nextSequence := by
  intro always
  obtain ⟨s, run, asleep⟩ := Run.exists_of_replay (step (sample true)) (Few Inside)
    (initial (sample true))
    (twoMessages [] ++ [Action.writer (.accepted 9)] ++ List.replicate 5 (Action.writer .interrupted))
    (fun s => decide (Asleep (sample true) [] 1 s)) (by decide +kernel)
  have asleep := of_decide_eq_true asleep
  have quiet := asleep.quiescent rfl run
  obtain ⟨_, ⟨alived, subscribed, sole, held⟩, found, length⟩ := asleep
  have inside : Run (step (sample true)) Inside (initial (sample true)) s :=
    run.weaken fun _ _ few => few.1
  have reached := always (sample true) s rfl inside quiet alived subscribed sole 0 held [] _ found
  rw [length] at reached
  exact absurd reached (by decide)

end MessageRepeater.Subscriber
